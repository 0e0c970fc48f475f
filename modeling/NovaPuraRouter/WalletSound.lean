import NovaPuraRouter.WalletEffect

/-! What every step keeps, whatever its condition: lots are well formed, the ledger adds up
to them, each belongs to an order of its user, and no order has a negative part. -/
namespace NovaPuraRouter.WalletSound
open CreditLot LotBook LotSpec DeductSpec TopupOrder OrderSpec Refund RefundSpec WalletOps WalletEffect List

structure Sound (cfg : Config) (db : Database) : Prop where
  lots : LotsOk db.lots
  books : Reconciled db.lots db.ledger
  linked : Linked db
  orders : ∀ k o, db.orders.get? k = some o → 0 ≤ o.paidQuota ∧ 0 ≤ o.promoQuota ∧ 0 ≤ paidPart cfg o
  owners : ∀ id lot, db.lots.get? id = some lot → (balances db lot.userId).isSome = true

def Lineage (db db' : Database) : Prop := ∀ id lot', db'.lots.get? id = some lot' →
  (∃ lot, db.lots.get? id = some lot ∧ SameLot lot lot') ∨
    ((∃ order, db.orders.get? lot'.orderId = some order ∧ order.userId = lot'.userId) ∧
      (balances db lot'.userId).isSome = true)

def Stay (db db' : Database) : Prop := ∀ j, (balances db j).isSome = true → (balances db' j).isSome = true

structure Facts (cfg : Config) (db db' : Database) : Prop where
  books : booksOf db db'
  evolves : Evolves cfg db db'
  lineage : Lineage db db'
  users : Stay db db'

theorem stayGranted {db db'} (h : granted db db') : Stay db db' := by
  obtain ⟨_,_,_,gets⟩ := h
  intro j here
  rw [gets j,Option.isSome_map]
  exact here

variable {cfg : Config} {db db' : Database}

theorem stayUsers (users : db'.users = db.users) : Stay db db' := by
  intro j here
  unfold balances at here ⊢
  rw [users]
  exact here

theorem stayRewritten {id user} (h : rewritten db.users id user db'.users) : Stay db db' := by
  intro j here
  rw [balancesRewritten h]
  split
  · rfl
  · exact here

theorem partsKept {o o'} (change : OrderChange cfg o o') (paid : 0 ≤ o.paidQuota) (promo : 0 ≤ o.promoQuota)
    (part : 0 ≤ paidPart cfg o) : 0 ≤ o'.paidQuota ∧ 0 ≤ o'.promoQuota ∧ 0 ≤ paidPart cfg o' := by
  obtain ⟨samePaid,_⟩ | ⟨newPaid,_⟩ := change.parts
  · refine ⟨by omega,by omega,?_⟩
    unfold paidPart at part ⊢
    rw [samePaid,change.micro]
    exact part
  · have floor := promoPartNonneg o
    refine ⟨by omega,by omega,?_⟩
    unfold paidPart at part newPaid ⊢
    rw [change.micro,newPaid]
    by_cases missing : o.paidQuota ≤ 0 ∧ 0 < o.paidCreditMicroUSD
    · simp only [missing,and_self,if_true,ite_self] at part ⊢
      exact part
    · simp only [missing,if_false] at part ⊢
      exact part

theorem freshPart {o} (pos : 0 < o.paidQuota) : 0 ≤ paidPart cfg o := by
  unfold paidPart
  omega

theorem soundStep (sound : Sound cfg db) (facts : Facts cfg db db') : Sound cfg db' := by
  obtain ⟨_,ledger,booked⟩ := facts.books
  refine ⟨bookedOk booked sound.lots,?_,?_,?_,?_⟩
  · rw [ledger]
    exact bookedReconciled booked sound.books
  · intro id lot' found
    have source : ∃ order, db.orders.get? lot'.orderId = some order ∧ order.userId = lot'.userId := by
      obtain ⟨lot,old,same⟩ | made := facts.lineage id lot' found
      · obtain ⟨order,here,owner⟩ := sound.linked id lot old
        exact ⟨order,same.order ▸ here,owner.trans same.user.symm⟩
      · exact made.1
    obtain ⟨order,here,owner⟩ := source
    obtain ⟨order',later,change⟩ := facts.evolves.kept _ order here
    exact ⟨order',later,change.user.trans owner⟩
  · intro k o' found
    obtain ⟨o,old,change⟩ | ⟨_,paid,promo⟩ := facts.evolves.made k o' found
    · obtain ⟨paid,promo,part⟩ := sound.orders k o old
      exact partsKept change paid promo part
    · exact ⟨by omega,promo,freshPart paid⟩
  · intro id lot' found
    obtain ⟨lot,old,same⟩ | made := facts.lineage id lot' found
    · rw [same.user]
      exact facts.users _ (sound.owners id lot old)
    · exact facts.users _ made.2

theorem lineagePlain {rows} (booked : Booked db.lots rows db'.lots) (plain : ∀ e ∈ rows, ¬ topupEntry e) : Lineage db db' := by
  intro _ _ found
  obtain old | ⟨entry,mem,made,_⟩ := bookedSource booked found
  · exact .inl old
  · exact absurd made (plain entry mem)

theorem lineageSame (lots : db'.lots = db.lots) : Lineage db db' :=
  fun _ lot' found => .inl ⟨lot',lots ▸ found,sameRefl lot'⟩

theorem factsQuiet (lots : db'.lots = db.lots) (ledger : db'.ledger = db.ledger)
    (orders : db'.orders = db.orders) (users : Stay db db') : Facts cfg db db' :=
  ⟨⟨[],by simp [ledger],by rw [lots]; exact .nil⟩,evolvesSame orders,lineageSame lots,users⟩

theorem factsNone (cfg db) : Facts cfg db db := factsQuiet rfl rfl rfl (stayUsers rfl)

theorem factsOrders (frame : orderFrame db db') (evolves : Evolves cfg db db') : Facts cfg db db' := by
  have lots : db'.lots = db.lots := by rw [frame]
  have ledger : db'.ledger = db.ledger := by rw [frame]
  exact ⟨⟨[],by simp [ledger],by rw [lots]; exact .nil⟩,evolves,lineageSame lots,stayUsers (by rw [frame])⟩

def Plain (db db' : Database) : Prop :=
  ∃ rows, db'.ledger = db.ledger ++ rows ∧ Booked db.lots rows db'.lots ∧ ∀ e ∈ rows, ¬ topupEntry e

def Spends (db db' : Database) : Prop :=
  ∃ rows, db'.ledger = db.ledger ++ rows ∧ Booked db.lots rows db'.lots ∧ ∀ e ∈ rows, e.amountQuota ≤ 0

theorem spendsQuiet (lots : db'.lots = db.lots) (ledger : db'.ledger = db.ledger) : Spends db db' :=
  ⟨[],by simp [ledger],by rw [lots]; exact .nil,fun _ mem => absurd mem not_mem_nil⟩

theorem expiresRows {id user now e} (h : Expires db id user now e) : Plain db e.db ∧ Spends db e.db := by
  obtain ⟨rows,ledger,booked,each⟩ := h.booked
  exact ⟨⟨rows,ledger,booked,fun x mem => (each x mem).1⟩,⟨rows,ledger,booked,fun x mem => (each x mem).2⟩⟩

theorem deductsRows {id amount now user e split} (h : Deducts db id amount now user e split db') : Plain db db' ∧ Spends db db' := by
  obtain ⟨rows,ledger,booked,each⟩ := h.expires.booked
  have all : ∀ x ∈ rows ++ split.allocations.map (usageRow id now), ¬ topupEntry x ∧ x.amountQuota ≤ 0 := by
    intro x mem
    rcases mem_append.mp mem with mem | mem
    · exact each x mem
    · obtain ⟨a,here,rfl⟩ := mem_map.mp mem
      have pos := (h.each a here).1
      exact ⟨by simp [topupEntry,usageRow],by simp only [usageRow]; omega⟩
  have books : db'.ledger = db.ledger ++ (rows ++ split.allocations.map (usageRow id now)) := by
    rw [h.ledger,ledger,append_assoc]
  exact ⟨⟨_,books,bookedTrans booked h.spent,fun x mem => (all x mem).1⟩,
    ⟨_,books,bookedTrans booked h.spent,fun x mem => (all x mem).2⟩⟩

theorem factsPlain (books : Plain db db') (orders : db'.orders = db.orders) (users : Stay db db') : Facts cfg db db' := by
  obtain ⟨rows,ledger,booked,plain⟩ := books
  exact ⟨⟨rows,ledger,booked⟩,evolvesSame orders,lineagePlain booked plain,users⟩

theorem factsTops {orderId order customerId paymentIntentId sessionId now}
    (h : Tops cfg db orderId order customerId paymentIntentId sessionId now db')
    (found : db.orders.get? orderId = some order) : Facts cfg db db' := by
  obtain ⟨_,_,_,_,credits⟩ := h.credits
  obtain ⟨_,owner,_,_,users⟩ := credits.user
  refine ⟨creditsBooks credits,evolvesModify h.orders (fun o => ⟨rfl,rfl,.inr ⟨rfl,rfl⟩⟩),?_,stayRewritten users⟩
  intro _ _ here
  obtain old | ⟨entry,mem,_,sameOrder,sameUser⟩ := bookedSource credits.booked here
  · exact .inl old
  have names : entry.orderId = orderId ∧ entry.userId = order.userId := by
    rcases mem_append.mp mem with mem | mem
    · cases openedMem mem
      exact ⟨rfl,rfl⟩
    · cases openedMem mem
      exact ⟨rfl,rfl⟩
  refine .inr ⟨⟨order,by rw [← sameOrder,names.1]; exact found,names.2.symm.trans sameUser⟩,?_⟩
  rw [← sameUser,names.2,balances,owner]
  rfl

theorem legacyRowSpends (orderId order type amount now) :
    ∀ e ∈ legacyRow orderId order type amount now, e.lotId = 0 ∧ e.amountQuota ≤ 0 := by
  intro e mem
  unfold legacyRow at mem
  split at mem
  · exact absurd mem not_mem_nil
  cases type with
  | promotional | paid =>
    cases mem_singleton.mp mem
    exact ⟨rfl,by simp only; omega⟩

theorem bookedNotes {lots rows} (free : ∀ e ∈ rows, e.lotId = 0) : Booked lots rows lots := by
  induction rows with
  | nil => exact .nil
  | cons e _ ih => exact .note (free e mem_cons_self) (ih (fun x mem => free x (mem_cons_of_mem e mem)))

theorem refundsRows {orderId order now} (sound : Sound cfg db) (found : db.orders.get? orderId = some order)
    (h : Refunds db orderId order now db') : Facts cfg db db' ∧ Spends db db' := by
  cases h with
  | done => exact ⟨factsNone cfg db,spendsQuiet rfl rfl⟩
  | early | short => exact ⟨factsOrders rfl (evolvesModify rfl (changeStatus cfg _ _)),spendsQuiet rfl rfl⟩
  | @legacy user _ _ owner =>
    have each : ∀ e ∈ legacyRow orderId order .promotional (reversePromo order user) now ++
        legacyRow orderId order .paid (reversePaid order user) now, e.lotId = 0 ∧ e.amountQuota ≤ 0 := by
      intro e mem
      rcases mem_append.mp mem with mem | mem
      · exact legacyRowSpends orderId order _ _ now e mem
      · exact legacyRowSpends orderId order _ _ now e mem
    have booked := @bookedNotes db.lots _ (fun e mem => (each e mem).1)
    exact ⟨⟨⟨_,rfl,booked⟩,evolvesModify rfl (changeSettled cfg order user now),lineageSame rfl,
      stayRewritten (setBalanceUsers owner _ _)⟩,_,rfl,booked,fun e mem => (each e mem).2⟩
  | reversed _ _ _ reverses =>
    have booked := refundBooked sound.linked found now
    rw [← reverses.lots] at booked
    refine ⟨⟨⟨_,reverses.ledger,booked⟩,evolvesModify reverses.orders (fun o => ⟨rfl,rfl,.inl ⟨rfl,rfl⟩⟩),
      lineagePlain booked ?_,stayRewritten reverses.users⟩,_,reverses.ledger,booked,?_⟩
    · intro _ mem
      obtain ⟨r,_,rfl⟩ := mem_map.mp mem
      cases kind : r.2.balanceType <;> simp [topupEntry,refundRow,kind]
    · intro e mem
      obtain ⟨r,here,rfl⟩ := mem_map.mp mem
      have pos := (refundMem.mp here).2.2.1
      simp only [refundRow]
      omega

def LotOp.calm : LotOp → Prop
  | .creditStripeTopupOrder _ _ _ _ _ | .reconcileRefund _ _ => False
  | _ => True

def LotOp.spends : LotOp → Prop
  | .creditStripeTopupOrder _ _ _ _ _ | .restoreUserQuotaSplit _ _ _ => False
  | _ => True

def LotOp.plain : LotOp → Prop
  | .insertUser _ | .reconcileRefund _ _ => False
  | _ => True

structure Steps (cfg : Config) (db : Database) (op : LotOp) (db' : Database) : Prop where
  facts : Facts cfg db db'
  effect : LotOp.plain op → Effect db db'
  calm : LotOp.calm op → Calm db db'
  spends : LotOp.spends op → Spends db db'

theorem stepsBestows {op} (h : Bestows db db') : Steps cfg db op db' :=
  ⟨factsQuiet h.lots h.ledger h.orders (stayGranted h.grant),fun _ => .granted h.grant h.lots,
    fun _ => calmQuiet h.lots h.ledger (calmKept h.orders),fun _ => spendsQuiet h.lots h.ledger⟩

theorem stepsNone (cfg db op) : Steps cfg db op db := stepsBestows (bestowsNone db)

theorem stepsOrders {op} (frame : orderFrame db db') (evolves : Evolves cfg db db') (calm : CalmOrders db db') :
    Steps cfg db op db' :=
  ⟨factsOrders frame evolves,fun _ => effectOrderFrame frame,fun _ => calmQuiet (by rw [frame]) (by rw [frame]) calm,
    fun _ => spendsQuiet (by rw [frame]) (by rw [frame])⟩

theorem stepsPlain {op} (frame : walletFrame db db') (books : Plain db db')
    (spends : LotOp.spends op → Spends db db') (users : Stay db db') (effect : Effect db db') : Steps cfg db op db' :=
  ⟨factsPlain books (by rw [frame]) users,fun _ => effect,fun _ => ⟨books,calmKept (by rw [frame])⟩,spends⟩

theorem stepsCommit {op} {result : Except Failure Database}
    (ok : ∀ db', result = .ok db' → Steps cfg db op db') : Steps cfg db op (commit db result) := by
  obtain ⟨db',done,same⟩ | same := commitCases db result
  · rw [same]
    exact ok db' done
  · rw [same]
    exact stepsNone cfg db op

theorem stepsCommitPair {α : Type} {cfg db op} {result : Except Failure (α × Database)}
    (ok : ∀ a db', result = .ok (a,db') → Steps cfg db op db') : Steps cfg db op (commit db (result.map Prod.snd)) := by
  obtain ⟨a,db',done,same⟩ | same := commitPairCases db result
  · rw [same]
    exact ok a db' done
  · rw [same]
    exact stepsNone cfg db op

theorem targetDropped (target : MarkTarget) : dropped target.status := by
  cases target with
  | failed => exact .inl rfl
  | expired => exact .inr (.inl rfl)
  | manualReview => exact .inr (.inr rfl)

theorem stepsMark {op orderId source now reason} {target : MarkTarget}
    (h : TopupOrder.markStripeTopupOrderStatus db orderId source target.status reason now = .ok db') : Steps cfg db op db' := by
  obtain ⟨rfl,_⟩ | ⟨_,marks⟩ := markSpec h
  · exact stepsNone cfg _ op
  obtain ⟨reason,orders⟩ := marks.orders
  refine stepsOrders marks.frame (evolvesModify orders (changeStatus cfg target.status reason)) (calmModify orders ?_)
  intro o here
  cases Option.some.inj (marks.found.symm.trans here)
  exact ⟨rfl,rfl,rfl,.inr (.inr ⟨marks.open_.1,marks.open_.2,targetDropped target⟩)⟩

theorem stepsCredit {orderId customerId paymentIntentId sessionId now already} (sound : Sound cfg db)
    (h : TopupOrder.creditStripeTopupOrder cfg db orderId customerId paymentIntentId sessionId now = .ok (already,db')) :
    Steps cfg db (.creditStripeTopupOrder orderId customerId paymentIntentId sessionId now) db' := by
  obtain ⟨order,found,⟨_,rfl,_⟩ | ⟨_,applied⟩⟩ := creditSpec h
  · exact stepsNone cfg _ _
  · have tops := applySpec (sound.orders orderId order found).2.2 applied
    obtain ⟨_,_,_,_,credits⟩ := tops.credits
    exact ⟨factsTops tops found,fun _ => .credited credits,fun calm => absurd calm id,fun spends => absurd spends id⟩

theorem stepsDecrease {op userId amount now split} (sound : Sound cfg db)
    (h : CreditLot.decreaseUserQuotaWithSplit db userId amount now = .ok (split,db')) : Steps cfg db op db' := by
  obtain ⟨_,_,rfl⟩ | ⟨pos,_,found,deducts⟩ := deductCases sound.lots h
  · exact stepsNone cfg _ op
  · exact stepsPlain deducts.frame (deductsRows deducts).1 (fun _ => (deductsRows deducts).2) (stayRewritten deducts.users)
      (.deducted found (Int.le_of_lt pos) deducts)

theorem stepsRestore {userId split now} (h : CreditLot.restoreUserQuotaSplit db userId split now = .ok db') :
    Steps cfg db (.restoreUserQuotaSplit userId split now) db' := by
  obtain rfl | ⟨promo,cash,rows,frame,credits,source⟩ := restoreSpec h
  · exact stepsNone cfg _ _
  obtain ⟨_,_,_,_,users⟩ := credits.user
  refine stepsPlain frame ⟨rows,credits.ledger,credits.booked,?_⟩ (fun spends => absurd spends id) (stayRewritten users)
    (.credited credits)
  intro entry mem
  obtain ⟨a,_,_,rfl⟩ := source entry mem
  simp [topupEntry,restoreRow]

theorem stepsExpire {op userId now removed} (sound : Sound cfg db)
    (h : CreditLot.expireUserPromotionLots db userId now = .ok (removed,db')) : Steps cfg db op db' := by
  simp only [CreditLot.expireUserPromotionLots,bindOk,rowOk,pureOk] at h
  obtain ⟨_,_,_,found,last⟩ := h
  obtain ⟨_,rfl⟩ := Prod.mk.inj last
  have expires := expireSpec now sound.lots found
  exact stepsPlain expires.frame (expiresRows expires).1 (fun _ => (expiresRows expires).2) (stayRewritten expires.users)
    (.expired found expires)

theorem paidSteps (cfg db op orderId customerId sessionId paymentIntentId now) :
    Steps cfg db op (TopupOrder.markOrderPaid db orderId customerId sessionId paymentIntentId now) := by
  obtain same | ⟨order,found,can,same⟩ := paidSpec db orderId customerId sessionId paymentIntentId now
  · rw [same]
    exact stepsNone cfg db op
  rw [same]
  refine stepsOrders rfl (evolvesModify rfl (fun o => ⟨rfl,rfl,.inl ⟨rfl,rfl⟩⟩)) (calmModify rfl ?_)
  intro o here
  cases Option.some.inj (found.symm.trans here)
  exact ⟨rfl,rfl,rfl,.inr (.inl ⟨can,rfl⟩)⟩

theorem stepsUsers {op} (same : ∀ j, balances db' j = balances db j) (lots : db'.lots = db.lots)
    (ledger : db'.ledger = db.ledger) (orders : db'.orders = db.orders) : Steps cfg db op db' :=
  stepsBestows ⟨grantedSame same,lots,ledger,orders⟩

theorem bindSteps (cfg db op userId inviterId) : Steps cfg db op (Grants.bindInviter db userId inviterId) := by
  unfold Grants.bindInviter
  split
  · exact stepsNone cfg db op
  · exact stepsUsers (balancesModify rfl (fun _ => rfl) (fun _ => rfl)) rfl rfl rfl

theorem insertSteps {email} (h : Grants.insertUser cfg db email = .ok db') : Steps cfg db (.insertUser email) db' := by
  simp only [Grants.insertUser,bindOk,pureOk] at h
  obtain ⟨_,_,rfl⟩ := h
  refine ⟨factsQuiet rfl rfl rfl ?_,fun plain => absurd plain id,fun _ => calmQuiet rfl rfl (calmKept rfl),
    fun _ => spendsQuiet rfl rfl⟩
  intro j here
  simp only [balances,Table.getAppend] at here ⊢
  split
  · rfl
  · exact here

theorem lotSteps (sound : Sound cfg db) (op) : Steps cfg db op (lotStep cfg db op) := by
  cases op with
  | insertUser => exact stepsCommit fun db' h => insertSteps h
  | bindInviter userId inviterId => exact bindSteps cfg db _ userId inviterId
  | increaseUserCashQuota => exact stepsCommit fun db' h => stepsBestows (cashBestows h)
  | increaseUserPromoQuota => exact stepsCommit fun db' h => stepsBestows (promoBestows h)
  | batchUpdate => exact stepsBestows (batchBestows db)
  | recordUsage => exact stepsUsers (balancesModify rfl (fun _ => rfl) (fun _ => rfl)) rfl rfl rfl
  | insertToken => exact stepsUsers (fun _ => rfl) rfl rfl rfl
  | insertRedemption =>
    refine stepsCommit fun db' h => ?_
    simp only [Grants.insertRedemption,bindOk,pureOk] at h
    obtain ⟨_,_,rfl⟩ := h
    exact stepsUsers (fun _ => rfl) rfl rfl rfl
  | redeem => exact stepsCommitPair fun quota db' h => stepsBestows (redeemBestows h)
  | tryGrantRegisterPromo => exact stepsCommit fun db' h => stepsBestows (registerBestows h)
  | trySettleDelayedInviteReward => exact stepsCommit fun db' h => stepsBestows (inviteBestows h)
  | tryGrantShareReward userId amount => exact stepsBestows (shareBestows db userId amount)
  | createCheckout _ quote orderId =>
    refine stepsCommit fun db' h => ?_
    obtain ⟨frame,fresh,others,made⟩ := checkoutSpec h
    refine stepsOrders frame (evolvesPlaced fresh others ?_) ?_
    · intro o' found
      obtain ⟨_,paid,promo,_⟩ := made o' found
      exact ⟨paid ▸ quote.paidPositive,promo ▸ quote.promoNonneg⟩
    · intro k o' found
      by_cases same : k = orderId
      · subst k
        exact .inr ⟨fresh,(made o' found).2.2.2⟩
      · exact .inl ⟨o',(others k same).symm.trans found,⟨rfl,rfl,rfl,.inl rfl⟩⟩
  | markOrderPaid orderId customerId sessionId paymentIntentId now =>
    exact paidSteps cfg db _ orderId customerId sessionId paymentIntentId now
  | creditStripeTopupOrder =>
    exact stepsCommitPair fun already db' h => stepsCredit sound h
  | markStripeTopupOrderStatus => exact stepsCommit fun db' h => stepsMark h
  | reconcileRefund =>
    refine stepsCommit fun db' h => ?_
    obtain ⟨_,found,refunds⟩ := refundSpec h
    obtain ⟨facts,spends⟩ := refundsRows sound found refunds
    exact ⟨facts,fun plain => absurd plain id,fun calm => absurd calm id,fun _ => spends⟩
  | decreaseUserQuota => exact stepsCommitPair fun split db' h => stepsDecrease sound h
  | restoreUserQuotaSplit => exact stepsCommit fun db' h => stepsRestore h
  | expireUserPromotionLots => exact stepsCommitPair fun removed db' h => stepsExpire sound h

theorem soundLot (db op) (sound : Sound cfg db) : Sound cfg (lotStep cfg db op) :=
  soundStep sound (lotSteps sound op).facts

end NovaPuraRouter.WalletSound
