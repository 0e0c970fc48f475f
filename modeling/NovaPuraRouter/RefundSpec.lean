import NovaPuraRouter.OrderSpec
import NovaPuraRouter.Refund

/-! The five ways a refund can end, and what the lot path takes from each column.
The lot path assumes only that the lots of an order belong to its user. -/
namespace NovaPuraRouter.RefundSpec
open CreditLot LotBook LotSpec TopupOrder OrderSpec Refund List

def refundRows (lots : Lots) (orderId : String) : List LotRow := (orderLots lots orderId).filter refundLot

def typeSum (type : BalanceType) (rows : List LotRow) : Int :=
  (rows.map (fun r => if r.2.balanceType = type then r.2.remainingQuota else 0)).sum

@[simp] theorem typeSumCons (type r rows) : typeSum type (r :: rows) =
    (if r.2.balanceType = type then r.2.remainingQuota else 0) + typeSum type rows := rfl

theorem typeSumTotal (rows) : typeSum .paid rows + typeSum .promotional rows = rowsSum rows := by
  induction rows with
  | nil => rfl
  | cons r _ ih =>
    rw [typeSumCons,typeSumCons,rowsSumCons,← ih]
    cases r.2.balanceType <;> simp <;> omega

theorem removePromoSum (rows) : removePromo rows = typeSum .promotional rows := by
  induction rows with
  | nil => rfl
  | cons r _ ih =>
    unfold removePromo at ih ⊢
    rw [typeSumCons,← ih,filter_cons]
    cases kind : r.2.balanceType <;> simp

theorem removeTotalSum {rows start total} (h : rows.foldlM addRemoved start = .ok total) : total = start + rowsSum rows := by
  induction rows generalizing start with
  | nil =>
    cases pureOk.mp h
    simp [rowsSum]
  | cons _ _ ih =>
    rw [foldlM_cons,bindOk] at h
    obtain ⟨_,step,h⟩ := h
    simp only [addRemoved,bindOk,requireOk,pureOk] at step
    rw [ih h,rowsSumCons]
    omega

variable {lots : Lots}

theorem orderLotsMem {orderId r} : r ∈ orderLots lots orderId ↔ lots.get? r.1 = some r.2 ∧ r.2.orderId = orderId := by
  unfold orderLots
  rw [(perm_insertionSort _ _).mem_iff,Table.memSelect]
  simp

theorem refundMem {orderId r} : r ∈ refundRows lots orderId ↔
    lots.get? r.1 = some r.2 ∧ r.2.orderId = orderId ∧ 0 < r.2.remainingQuota ∧ r.2.status ≠ .reversed := by
  unfold refundRows
  rw [mem_filter,orderLotsMem]
  simp only [refundLot,decide_eq_true_eq,and_assoc]

theorem refundHeld (lots orderId) : Held lots (refundRows lots orderId) := by
  have held : Held lots (orderLots lots orderId) := heldPerm (heldSelect lots _) (perm_insertionSort _ _)
  refine ⟨held.distinct.sublist (filter_sublist.map Prod.fst),?_⟩
  intro r mem
  exact held.found r (mem_filter.mp mem).1

theorem closeGet {status rows} (held : Held lots rows) (id) : (closeLots status lots rows).get? id =
    if id ∈ rows.map Prod.fst then (lots.get? id).map (setLot 0 status) else lots.get? id := by
  induction rows generalizing lots with
  | nil => simp [closeLots]
  | cons r _ ih =>
    have tail := ih (heldTail held (setLot 0 status))
    have distinct := held.distinct
    rw [map_cons,nodup_cons] at distinct
    unfold closeLots at tail ⊢
    rw [foldl_cons,tail,Table.getModify]
    by_cases here : id = r.1
    · subst id
      simp only [distinct.1,if_false,if_true,map_cons,mem_cons,true_or]
    · simp only [here,if_false,map_cons,mem_cons,false_or]

def paidLeft (lots : Lots) (orderId : String) : Int := typeSum .paid (refundRows lots orderId)
def promoLeft (lots : Lots) (orderId : String) : Int := typeSum .promotional (refundRows lots orderId)

def leftShare (lots : Lots) (orderId : String) (userId u : Nat) : BalanceType → Int
  | .promotional => if userId = u then promoLeft lots orderId else 0
  | .paid => if userId = u then paidLeft lots orderId else 0

theorem refundTracked {rows userId orderId currency now} (real : ∀ r ∈ rows, r.1 ≠ 0) (u b) :
    trackedSum u b (rows.map (refundRow userId orderId currency now)) = if userId = u then -typeSum b rows else 0 := by
  induction rows with
  | nil => simp [trackedSum,typeSum]
  | cons r _ ih =>
    have here := real r mem_cons_self
    rw [map_cons,trackedSumCons,ih (fun x mem => real x (mem_cons_of_mem r mem)),typeSumCons]
    simp only [refundRow,here,ne_eq,not_false_eq_true,true_and]
    by_cases mine : userId = u
    · simp only [mine,true_and,if_true]
      split <;> omega
    · simp only [mine,false_and,if_false,add_zero]

structure Reverses (db : Database) (orderId : String) (order : StripeTopupOrder) (user : User) (now : Int)
    (db' : Database) : Prop where
  enough : paidLeft db.lots orderId + promoLeft db.lots orderId ≤ user.quota ∧ promoLeft db.lots orderId ≤ user.promoQuota
  orders : db'.orders = db.orders.modify orderId (refundedOrder now)
  users : rewritten db.users order.userId { user with
    quota := user.quota - (paidLeft db.lots orderId + promoLeft db.lots orderId)
    promoQuota := user.promoQuota - promoLeft db.lots orderId } db'.users
  ledger : db'.ledger = db.ledger ++
    (refundRows db.lots orderId).map (refundRow order.userId orderId order.presentmentCurrency now)
  lots : db'.lots = closeLots .reversed db.lots (refundRows db.lots orderId)

section
variable (db : Database) (orderId : String) (order : StripeTopupOrder) (now : Int)

inductive Refunds : Database → Prop
  | done (settled : order.status = .refunded) : Refunds db
  | early (open_ : order.status ≠ .refunded) (closed : ¬ refundable order.status) :
      Refunds (reviewOrder db orderId "refund on non-credited order")
  | legacy {user} (can : refundable order.status) (lotless : orderLots db.lots orderId = [])
      (found : db.users.get? order.userId = some user) :
      Refunds (reconcileLegacyRefundWithTx db orderId order user now)
  | short {user} (can : refundable order.status) (lotted : orderLots db.lots orderId ≠ [])
      (found : db.users.get? order.userId = some user)
      (low : user.quota < paidLeft db.lots orderId + promoLeft db.lots orderId ∨ user.promoQuota < promoLeft db.lots orderId) :
      Refunds (reviewOrder db orderId "credit lot balance invariant failed during refund")
  | reversed {user db'} (can : refundable order.status) (lotted : orderLots db.lots orderId ≠ [])
      (found : db.users.get? order.userId = some user) (reverses : Reverses db orderId order user now db') :
      Refunds db'

end

theorem refundSpec {db orderId now db'} (h : reconcileRefund db orderId now = .ok db') :
    ∃ order, db.orders.get? orderId = some order ∧ Refunds db orderId order now db' := by
  simp only [reconcileRefund,bindOk,rowOk] at h
  obtain ⟨_,_,order,found,h⟩ := h
  refine ⟨order,found,?_⟩
  split at h
  · rename_i settled
    cases pureOk.mp h
    exact .done settled
  rename_i open_
  split at h
  · rename_i closed
    cases pureOk.mp h
    exact .early open_ closed
  rename_i can
  have can := Decidable.not_not.mp can
  simp only [bindOk,rowOk] at h
  obtain ⟨user,owner,h⟩ := h
  split at h
  · rename_i lotless
    cases pureOk.mp h
    exact .legacy can lotless owner
  rename_i lotted
  simp only [reconcileLotRefund,bindOk] at h
  obtain ⟨total,summed,h⟩ := h
  have sum : total = paidLeft db.lots orderId + promoLeft db.lots orderId := by
    rw [removeTotalSum summed,← typeSumTotal]
    exact zero_add _
  have promo := removePromoSum (refundRows db.lots orderId)
  simp only [refundRows] at promo
  rw [promo,sum] at h
  split at h
  · rename_i low
    cases pureOk.mp h
    exact .short can lotted owner low
  rename_i high
  simp only [bindOk,pureOk] at h
  obtain ⟨_,moved,rfl⟩ := h
  have kept := moveFrame moved
  rw [not_or] at high
  have enough : paidLeft db.lots orderId + promoLeft db.lots orderId ≤ user.quota ∧
      promoLeft db.lots orderId ≤ user.promoQuota := ⟨by omega,not_lt.mp high.2⟩
  refine .reversed can lotted owner ⟨enough,?_,?_,?_,?_⟩
  · unfold setOrder
    rw [kept]
    rfl
  · unfold setOrder
    rw [kept]
    exact @setBalanceUsers (reverseLots db orderId order _ now) order.userId user owner _ _
  · unfold setOrder
    rw [kept]
    rfl
  · unfold setOrder
    rw [kept]
    rfl

theorem legacyRuns {db orderId order user} (now) (named : orderId ≠ "") (found : db.orders.get? orderId = some order)
    (can : refundable order.status) (lotless : orderLots db.lots orderId = []) (owner : db.users.get? order.userId = some user) :
    reconcileRefund db orderId now = .ok (reconcileLegacyRefundWithTx db orderId order user now) := by
  have open_ : order.status ≠ .refunded := by
    intro settled
    rw [settled] at can
    simp [refundable] at can
  simp only [reconcileRefund,bindOk,requireOk,rowOk]
  refine ⟨(),named,order,found,?_⟩
  rw [if_neg open_,if_neg (not_not_intro can)]
  simp only [bindOk,rowOk]
  exact ⟨user,owner,by rw [if_pos lotless]; rfl⟩

def Linked (db : Database) : Prop := ∀ id lot, db.lots.get? id = some lot →
  ∃ order, db.orders.get? lot.orderId = some order ∧ order.userId = lot.userId

variable {db orderId order}

theorem refundBooked (linked : Linked db) (found : db.orders.get? orderId = some order) (now) :
    Booked db.lots ((refundRows db.lots orderId).map (refundRow order.userId orderId order.presentmentCurrency now))
      (closeLots .reversed db.lots (refundRows db.lots orderId)) := by
  have unused : ∀ r, (refundRow order.userId orderId order.presentmentCurrency now r).entryType ≠ .apiUsage := by
    intro r
    cases kind : r.2.balanceType <;> simp [refundRow,kind]
  refine closeBooked (refundHeld _ _) (.inr rfl) (fun r mem => (refundMem.mp mem).2.2.1) ?_ unused
  intro r mem
  have ⟨here,mine,_⟩ := refundMem.mp mem
  obtain ⟨_,same,owner⟩ := linked r.1 r.2 here
  rw [mine,found] at same
  cases Option.some.inj same
  exact ⟨rfl,rfl,owner,rfl⟩

theorem reversedTracked (linked : Linked db) (ok : LotsOk db.lots) (found : db.orders.get? orderId = some order) (u b) :
    tracked (closeLots .reversed db.lots (refundRows db.lots orderId)) u b =
      tracked db.lots u b - leftShare db.lots orderId order.userId u b := by
  have real : ∀ r ∈ refundRows db.lots orderId, r.1 ≠ 0 := fun r mem => (ok _ _ (refundMem.mp mem).1).1
  rw [bookedTracked (refundBooked linked found 0) ok,refundTracked real]
  cases b with
  | promotional =>
    simp only [leftShare,promoLeft]
    split <;> omega
  | paid =>
    simp only [leftShare,paidLeft]
    split <;> omega

theorem leftTracked (linked : Linked db) (ok : LotsOk db.lots) (found : db.orders.get? orderId = some order) :
    paidLeft db.lots orderId ≤ tracked db.lots order.userId .paid ∧
      promoLeft db.lots orderId ≤ tracked db.lots order.userId .promotional := by
  have closed := bookedOk (refundBooked linked found 0) ok
  have paid := reversedTracked linked ok found order.userId .paid
  have promo := reversedTracked linked ok found order.userId .promotional
  have paidFloor := trackedNonneg closed order.userId .paid
  have promoFloor := trackedNonneg closed order.userId .promotional
  simp only [leftShare,if_true] at paid promo
  omega

end NovaPuraRouter.RefundSpec
