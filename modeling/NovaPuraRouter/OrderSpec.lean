import NovaPuraRouter.DeductSpec
import NovaPuraRouter.TopupOrder

/-! What the order transactions do: which tables they leave alone, how an order row
changes, and that a credit opens one lot for each positive part. -/
namespace NovaPuraRouter.OrderSpec
open CreditLot LotBook LotSpec DeductSpec TopupOrder List Table

def promoFrame (db db' : Database) : Prop :=
  db' = { db with campaigns := db'.campaigns, promoRedemptions := db'.promoRedemptions }

def orderFrame (db db' : Database) : Prop :=
  db' = { db with orders := db'.orders, campaigns := db'.campaigns, promoRedemptions := db'.promoRedemptions }

variable {cfg : Config} {db db' : Database} {orderId customerId paymentIntentId sessionId : String} {order : StripeTopupOrder} {now : Int}

theorem moveFrame {done start refuse charge mark}
    (h : movePromotion db orderId done start refuse charge mark = .ok db') : promoFrame db db' := by
  unfold movePromotion at h
  split at h
  · cases pureOk.mp h
    rfl
  split at h
  · cases pureOk.mp h
    rfl
  split at h
  · contradiction
  · cases pureOk.mp h
    rfl

theorem reserveFrame {seen userId tierId micro}
    (h : reserveTopupPromotionWithTx seen db orderId userId tierId micro now = .ok db') : promoFrame db db' := by
  simp only [reserveTopupPromotionWithTx,bindOk] at h
  obtain ⟨_,_,h⟩ := h
  split at h
  · split at h
    · cases pureOk.mp h
      rfl
    · contradiction
  · simp only [bindOk,pureOk] at h
    obtain ⟨_,_,_,_,_,_,_,_,_,_,_,_,_,_,rfl⟩ := h
    rfl

structure Places (db : Database) (userId : Nat) (quote : QuoteResult) (orderId : String) (db' : Database) : Prop where
  frame : orderFrame db db'
  fresh : db.orders.get? orderId = none
  orders : ∃ customer, ∀ k, db'.orders.get? k =
    if k = orderId then some (reservedOrder userId customer quote) else db.orders.get? k

theorem insertOrders {orders orders' : Table String StripeTopupOrder} {k o} (h : orders.insert? k o = some orders') :
    orders.get? k = none ∧ ∀ j, orders'.get? j = if j = k then some o else orders.get? j := by
  obtain ⟨fresh,rfl⟩ := insertExact h
  refine ⟨?_,fun j => getInsert _ _ _ _ _⟩
  cases found : orders.get? k with
  | none => rfl
  | some a => exact absurd (getKeys.mpr ⟨a,found⟩) fresh

theorem reservedSpec {userId customer quote}
    (h : createReservedOrder db userId customer quote orderId now = .ok db') : Places db userId quote orderId db' := by
  simp only [createReservedOrder,bindOk,rowOk] at h
  obtain ⟨_,_,_,_,orders,inserted,h⟩ := h
  obtain ⟨fresh,gets⟩ := insertOrders inserted
  split at h
  · cases pureOk.mp h
    exact ⟨rfl,fresh,customer,gets⟩
  have kept := reserveFrame h
  have same : db'.orders = orders := by rw [kept]
  refine ⟨?_,fresh,customer,by rw [same]; exact gets⟩
  unfold orderFrame
  rw [kept]

structure Marks (db : Database) (orderId : String) (target : StripeOrderStatus) (order : StripeTopupOrder)
    (db' : Database) : Prop where
  found : db.orders.get? orderId = some order
  open_ : order.status ≠ .credited ∧ order.status ≠ .refunded
  frame : orderFrame db db'
  orders : ∃ reason, db'.orders = db.orders.modify orderId (fun o => { o with status := target, failureReason := reason })

theorem markSpec {source target reason} (h : markStripeTopupOrderStatus db orderId source target reason now = .ok db') :
    (db' = db ∧ ∃ order, db.orders.get? orderId = some order ∧ order.status = target) ∨ ∃ order, Marks db orderId target order db' := by
  simp only [markStripeTopupOrderStatus,bindOk,rowOk] at h
  obtain ⟨order,found,h⟩ := h
  split at h
  · rename_i same
    exact .inl ⟨(pureOk.mp h).symm,order,found,same.2⟩
  simp only [bindOk,requireOk,pureOk] at h
  obtain ⟨_,_,_,closed,released,hr,rfl⟩ := h
  have kept : promoFrame db released := by
    unfold releaseFor at hr
    split at hr
    · exact moveFrame hr
    · cases pureOk.mp hr
      rfl
  have same : released.orders = db.orders := by rw [kept]
  refine .inr ⟨order,found,closed,?_,_,by simp only [setOrder,same]; rfl⟩
  unfold orderFrame setOrder
  rw [kept]

theorem marksOrders {target} (h : Marks db orderId target order db') :
    ∃ reason, ∀ k, db'.orders.get? k = if k = orderId then some { order with status := target, failureReason := reason }
      else db.orders.get? k := by
  obtain ⟨reason,same⟩ := h.orders
  refine ⟨reason,?_⟩
  intro k
  rw [same,Table.getModify,h.found]
  rfl

theorem paidSpec (db orderId customerId sessionId paymentIntentId now) :
    markOrderPaid db orderId customerId sessionId paymentIntentId now = db ∨
      ∃ order, db.orders.get? orderId = some order ∧ payable order.status ∧
        markOrderPaid db orderId customerId sessionId paymentIntentId now = setOrder db orderId (fun o => { o with
          status := .paid, stripeCustomerId := customerId, stripeCheckoutSessionId := sessionId
          stripePaymentIntentId := paymentIntentId, paidAt := now }) := by
  unfold markOrderPaid
  split
  · exact .inl rfl
  rename_i order found
  split
  · rename_i can
    exact .inr ⟨order,found,can.1,rfl⟩
  · exact .inl rfl

def openedRows (orderId : String) (o : StripeTopupOrder) (lotId : Nat) (now : Int) (type : BalanceType) : List BalanceLedger :=
  if (topupLot orderId o type).originalQuota ≤ 0 then [] else [topupRow orderId o lotId now type]

theorem openedMem {o lotId type e} (mem : e ∈ openedRows orderId o lotId now type) : e = topupRow orderId o lotId now type := by
  unfold openedRows at mem
  split at mem
  · exact absurd mem not_mem_nil
  · exact mem_singleton.mp mem

structure Opens (db : Database) (orderId : String) (o : StripeTopupOrder) (now : Int) (type : BalanceType) (db' : Database) :
    Prop where
  frame : db' = { db with lots := db'.lots, ledger := db'.ledger }
  ledger : db'.ledger = db.ledger ++ openedRows orderId o db.lots.nextId now type
  booked : Booked db.lots (openedRows orderId o db.lots.nextId now type) db'.lots
  exists_ : 0 < (topupLot orderId o type).originalQuota → ∃ id lot, db'.lots.get? id = some lot ∧ lot.orderId = orderId

theorem openSpec {o type} (h : openTopupLot db orderId o now type = .ok db') : Opens db orderId o now type db' := by
  unfold openTopupLot at h
  split at h
  · rename_i nothing
    cases pureOk.mp h
    have empty : openedRows orderId o db.lots.nextId now type = [] := by simp [openedRows,nothing]
    exact ⟨rfl,by simp [empty],by rw [empty]; exact .nil,fun pos => by omega⟩
  · rename_i something
    simp only [bindOk,pureOk,createTopupCreditLotWithTx,requireOk] at h
    obtain ⟨⟨_,_⟩,⟨_,_,_,_,created⟩,rfl⟩ := h
    obtain ⟨rfl,rfl⟩ := Prod.mk.inj created
    have one : openedRows orderId o db.lots.nextId now type = [topupRow orderId o db.lots.nextId now type] := by
      simp [openedRows,something]
    refine ⟨rfl,by rw [one],?_,?_⟩
    · rw [one]
      cases type with
      | paid => exact .opened rfl rfl (by simpa [setLot] using something) rfl rfl rfl rfl ⟨.inl rfl,rfl⟩ .nil
      | promotional => exact .opened rfl rfl (by simpa [setLot] using something) rfl rfl rfl rfl ⟨.inr rfl,rfl⟩ .nil
    · intro _
      refine ⟨db.lots.nextId,_,by rw [getAppend,if_pos rfl],?_⟩
      cases type <;> rfl

theorem topupRowNames (orderId o lotId now type) : (topupRow orderId o lotId now type).lotId = lotId ∧
    (topupRow orderId o lotId now type).userId = o.userId ∧ (topupRow orderId o lotId now type).balanceType = type ∧
    (topupRow orderId o lotId now type).amountQuota = (topupLot orderId o type).originalQuota := by
  cases type <;> exact ⟨rfl,rfl,rfl,rfl⟩

theorem openedTracked (orderId o) {lotId} (real : lotId ≠ 0) (now type u b) : trackedSum u b (openedRows orderId o lotId now type) =
      if o.userId = u ∧ type = b then max (topupLot orderId o type).originalQuota 0 else 0 := by
  obtain ⟨rowLot,rowUser,rowType,rowAmount⟩ := topupRowNames orderId o lotId now type
  unfold openedRows
  by_cases nothing : (topupLot orderId o type).originalQuota ≤ 0
  · rw [if_pos nothing]
    simp only [trackedSum,rowSumNil]
    split <;> omega
  · rw [if_neg nothing,trackedSumCons,rowLot,rowUser,rowType,rowAmount]
    simp only [real,ne_eq,not_false_eq_true,true_and,trackedSum,rowSumNil]
    split <;> omega

theorem openedTopup (orderId o lotId now type k) : topupSum k (openedRows orderId o lotId now type) =
      if orderId = k then max (topupLot orderId o type).originalQuota 0 else 0 := by
  have made : topupEntry (topupRow orderId o lotId now type) ∧ (topupRow orderId o lotId now type).orderId = orderId := by
    cases type <;> simp [topupEntry,topupRow]
  have amount := (topupRowNames orderId o lotId now type).2.2.2
  unfold openedRows
  by_cases nothing : (topupLot orderId o type).originalQuota ≤ 0
  · rw [if_pos nothing]
    simp only [topupSum,map_nil,sum_nil]
    split <;> omega
  · rw [if_neg nothing,topupSumCons,amount,made.2]
    simp only [made.1,true_and,topupSum,map_nil,sum_nil]
    omega

theorem promoPartNonneg (o) : 0 ≤ promoPart o := by unfold promoPart; omega

structure Tops (cfg : Config) (db : Database) (orderId : String) (order : StripeTopupOrder)
    (customerId paymentIntentId sessionId : String) (now : Int) (db' : Database) : Prop where
  status : creditable order.status
  orders : db'.orders = db.orders.modify orderId (creditedOrder cfg customerId paymentIntentId sessionId now)
  credits : ∃ first second, db.lots.get? first = none ∧ db.lots.get? second = none ∧
    Credits db order.userId (promoPart order) (paidPart cfg order)
    (openedRows orderId (creditedOrder cfg customerId paymentIntentId sessionId now order) first now .paid ++
      openedRows orderId (creditedOrder cfg customerId paymentIntentId sessionId now order) second now .promotional) db'
  positive : 0 < paidPart cfg order + promoPart order
  opened : ∃ id lot, db'.lots.get? id = some lot ∧ lot.orderId = orderId

theorem creditUserUsers {userId user} (found : db.users.get? userId = some user) {paidQ promoQ}
    (nonneg : 0 ≤ promoQ) (customerId) : ∃ customer, rewritten db.users userId { user with
      quota := user.quota + (promoQ + paidQ), promoQuota := user.promoQuota + promoQ, stripeCustomer := customer }
      (creditUser db userId user paidQ promoQ customerId).users := by
  refine ⟨if customerId = "" then user.stripeCustomer else customerId,?_⟩
  intro j
  simp only [creditUser,Table.getModify,found,Option.map_some]
  split
  · congr 2
    · omega
    · split <;> omega
  · rfl

theorem issueFrame {promoQ} (h : issueFor db orderId promoQ now = .ok db') : promoFrame db db' := by
  unfold issueFor at h
  split at h
  · exact moveFrame h
  · cases pureOk.mp h
    rfl

theorem applyOrders
    (h : applyCredit cfg db orderId order customerId paymentIntentId sessionId now = .ok db') :
    db'.orders = db.orders.modify orderId (creditedOrder cfg customerId paymentIntentId sessionId now) := by
  simp only [applyCredit,bindOk] at h
  obtain ⟨_,_,_,_,_,_,_,_,_,_,_,_,issued,hi,_,hp,ht⟩ := h
  have orders : issued.orders = db.orders.modify orderId
      (creditedOrder cfg customerId paymentIntentId sessionId now) := by rw [issueFrame hi]; rfl
  rw [(openSpec ht).frame,(openSpec hp).frame]
  simpa only [creditUser] using orders

theorem applySpec (nonneg : 0 ≤ paidPart cfg order)
    (h : applyCredit cfg db orderId order customerId paymentIntentId sessionId now = .ok db') :
    Tops cfg db orderId order customerId paymentIntentId sessionId now db' := by
  have orders := applyOrders h
  simp only [applyCredit,bindOk,rowOk,requireOk] at h
  obtain ⟨_,status,user,found,_,_,_,positive,_,_,_,_,issued,hi,paid,hp,ht⟩ := h
  have kept := issueFrame hi
  have first := openSpec hp
  have second := openSpec ht
  have promoNonneg := promoPartNonneg order
  have lots : issued.lots = db.lots := by rw [kept]; rfl
  have ledger : issued.ledger = db.ledger := by rw [kept]; rfl
  have users : issued.users = db.users := by rw [kept]; rfl
  have owner : (creditedOrder cfg customerId paymentIntentId sessionId now order).userId = order.userId := rfl
  have booked := first.booked
  simp only [creditUser,lots] at booked
  have more := second.booked
  have booksFirst : paid.ledger = db.ledger ++ openedRows orderId
      (creditedOrder cfg customerId paymentIntentId sessionId now order) db.lots.nextId now .paid := by
    have := first.ledger
    simpa only [creditUser,lots,ledger] using this
  have paidUsers : db'.users = (creditUser issued order.userId user (paidPart cfg order) (promoPart order) customerId).users := by
    rw [second.frame,first.frame]
  have later : db.lots.get? paid.lots.nextId = none := by
    cases old : db.lots.get? paid.lots.nextId with
    | none => rfl
    | some =>
      obtain ⟨lot',there,_⟩ := bookedKeeps booked old
      cases there.symm.trans (getNextId paid.lots)
  refine ⟨status,orders,⟨db.lots.nextId,paid.lots.nextId,getNextId _,later,?_⟩,positive,?_⟩
  · obtain ⟨customer,written⟩ := creditUserUsers (users ▸ found) promoNonneg customerId
    refine ⟨⟨user,found,by omega,customer,by rw [paidUsers,← users]; exact written⟩,promoNonneg,nonneg,?_,bookedTrans booked more,?_⟩
    · rw [second.ledger,booksFirst,append_assoc]
    · intro u b
      have real : db.lots.nextId ≠ 0 := Nat.succ_ne_zero _
      have real' : paid.lots.nextId ≠ 0 := Nat.succ_ne_zero _
      rw [trackedSumAppend,openedTracked _ _ real,openedTracked _ _ real',owner]
      cases b with
      | paid | promotional =>
        simp only [creditShare,topupLot,creditedOrder,and_true,reduceCtorEq,and_false,if_false]
        split <;> omega
  · by_cases pos : 0 < promoPart order
    · exact second.exists_ pos
    have cash : 0 < paidPart cfg order := by omega
    obtain ⟨id,_,here,mine⟩ := first.exists_ cash
    obtain ⟨lot',last,same⟩ := bookedKeeps more here
    exact ⟨id,lot',last,same.order.trans mine⟩

theorem creditFound (customerId paymentIntentId sessionId now) (named : orderId ≠ "")
    (found : db.orders.get? orderId = some order) : creditStripeTopupOrder cfg db orderId customerId paymentIntentId sessionId now =
      if order.status = .credited then .ok (true,db)
      else (applyCredit cfg db orderId order customerId paymentIntentId sessionId now).map (fun db' => (false,db')) := by
  simp only [creditStripeTopupOrder,require,named,ne_eq,not_false_eq_true,if_true,found,row,bind,Except.bind,pure,Except.pure]
  cases applyCredit cfg db orderId order customerId paymentIntentId sessionId now <;> rfl

theorem creditSpec {already}
    (h : creditStripeTopupOrder cfg db orderId customerId paymentIntentId sessionId now = .ok (already,db')) :
    ∃ order, db.orders.get? orderId = some order ∧ ((already = true ∧ db' = db ∧ order.status = .credited) ∨
      (already = false ∧ applyCredit cfg db orderId order customerId paymentIntentId sessionId now = .ok db')) := by
  simp only [creditStripeTopupOrder,bindOk,rowOk] at h
  obtain ⟨_,_,order,found,h⟩ := h
  refine ⟨order,found,?_⟩
  split at h
  · rename_i done
    obtain ⟨rfl,rfl⟩ := Prod.mk.inj (pureOk.mp h)
    exact .inl ⟨rfl,rfl,done⟩
  simp only [bindOk,pureOk] at h
  obtain ⟨_,applied,last⟩ := h
  obtain ⟨rfl,rfl⟩ := Prod.mk.inj last
  exact .inr ⟨rfl,applied⟩

end NovaPuraRouter.OrderSpec
