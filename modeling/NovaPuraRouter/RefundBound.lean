import NovaPuraRouter.WalletAggregate

/-! A refund gives back at most what its order brought. The tally beside the database
counts, for each order, what its credits added to the quota of its user, what its refunds
took, and what a refund event took after one was handled. -/
namespace NovaPuraRouter.RefundBound
open CreditLot LotBook LotSpec TopupOrder OrderSpec Refund RefundSpec WalletOps WalletEffect WalletSound LotLedger Option Table

structure Tally where
  db : Database
  given : String → Int
  taken : String → Int
  handled : List String
  again : String → Int

def quotaOf (db : Database) (orderId : String) : Int := match db.orders.get? orderId with
  | none => 0
  | some order => ((db.users.get? order.userId).map (·.quota)).getD 0

def bump (count : String → Int) (orderId : String) (n : Int) (k : String) : Int :=
  if k = orderId then count k + n else count k

variable (t : Tally)

def afterCredit (db' : Database) (orderId : String) : Tally :=
  { t with db := db', given := bump t.given orderId (quotaOf db' orderId - quotaOf t.db orderId) }

def afterRefund (db' : Database) (orderId : String) : Tally :=
  let took := quotaOf t.db orderId - quotaOf db' orderId
  { t with
    db := db', taken := bump t.taken orderId took, handled := orderId :: t.handled
    again := if orderId ∈ t.handled then bump t.again orderId took else t.again }

def tallyStep (cfg : Config) (t : Tally) (op : WalletOp) : Tally :=
  let db' := walletStep cfg t.db op
  match op with
  | .lot (.creditStripeTopupOrder orderId _ _ _ _) => afterCredit t db' orderId
  | .lot (.reconcileRefund orderId now) => match reconcileRefund t.db orderId now with
    | .error _ => { t with db := db' }
    | .ok _ => afterRefund t db' orderId
  | _ => { t with db := db' }

def RefundBounded : Prop := ∀ k, t.taken k ≤ t.given k ∧ t.again k = 0

def OnlyCredited : WalletOp → Prop
  | .lot (.reconcileRefund orderId _) => ∀ order user, orderId ≠ "" → t.db.orders.get? orderId = some order →
      order.status = .paid → orderLots t.db.lots orderId = [] → t.db.users.get? order.userId = some user →
      reversePromo order user + reversePaid order user ≤ 0
  | _ => True

def closed (status : StripeOrderStatus) : Prop := dropped status ∨ status = .refunded

theorem closedFinal {status} (shut : closed status) : ¬ refundable status ∧ ¬ creditable status := by
  cases status <;> simp [closed,dropped,refundable,creditable] at shut ⊢

structure Tallied (t : Tally) (k : String) : Prop where
  bounded : t.taken k ≤ t.given k
  once : t.again k = 0
  lots : orderOriginal t.db.lots k ≤ t.given k
  absent : t.db.orders.get? k = none → t.given k = 0 ∧ t.taken k = 0 ∧ k ∉ t.handled
  untouched : ∀ o, t.db.orders.get? k = some o → ¬ closed o.status → t.taken k = 0 ∧ k ∉ t.handled
  unpaid : ∀ o, t.db.orders.get? k = some o → creditable o.status → t.given k = 0
  whole : ∀ o, t.db.orders.get? k = some o → o.status = .credited ∨ o.status = .refundPending →
    o.paidQuota + o.promoQuota ≤ t.given k

theorem talliedCalm {cfg t db'} (facts : Facts cfg t.db db') (calm : Calm t.db db') {k} (h : Tallied t k) : Tallied { t with db := db' } k := by
  obtain ⟨_,_,booked,plain⟩ := calm.booked
  have lots := bookedOriginal booked k
  rw [topupSumPlain plain] at lots
  refine ⟨h.bounded,h.once,?_,?_,?_,?_,?_⟩
  · have before := h.lots
    simp only
    omega
  · intro gone
    refine h.absent ?_
    cases found : t.db.orders.get? k with
    | none => rfl
    | some o =>
      obtain ⟨o',there,_⟩ := facts.evolves.kept k o found
      cases gone.symm.trans there
  · intro o' found open_
    obtain ⟨o,here,change⟩ | ⟨here,_⟩ := calm.orders k o' found
    · refine h.untouched o here (fun shut => open_ ?_)
      rcases change.turn with same | ⟨can,_⟩ | ⟨_,_,drop⟩
      · rw [same]
        exact shut
      · exact absurd (can.elim (fun h => .inr (.inl h)) .inl) (closedFinal shut).2
      · exact .inl drop
    · exact (h.absent here).2
  · intro o' found can
    obtain ⟨o,here,change⟩ | ⟨here,_⟩ := calm.orders k o' found
    · refine h.unpaid o here ?_
      rcases change.turn with same | ⟨able,_⟩ | ⟨_,_,drop⟩
      · rw [← same]
        exact can
      · rcases able with able | able <;> simp [creditable,able]
      · rcases drop with drop | drop | drop <;> simp [creditable,drop] at can
    · exact (h.absent here).1
  · intro o' found done
    obtain ⟨o,here,change⟩ | ⟨here,fresh⟩ := calm.orders k o' found
    · rcases change.turn with same | ⟨_,paid⟩ | ⟨_,_,drop⟩
      · rw [change.paid,change.promo]
        exact h.whole o here (same ▸ done)
      · simp [paid] at done
      · rcases drop with drop | drop | drop <;> simp [drop] at done
    · rcases fresh with fresh | fresh | fresh <;> simp [fresh] at done

theorem quotaOfUser {db orderId order user} (found : db.orders.get? orderId = some order)
    (owner : db.users.get? order.userId = some user) : quotaOf db orderId = user.quota := by
  simp [quotaOf,found,owner]

theorem creditTally {cfg t orderId order customerId paymentIntentId sessionId now db'} (all : ∀ k, Tallied t k)
    (found : t.db.orders.get? orderId = some order) (paid : 0 ≤ paidPart cfg order)
    (tops : Tops cfg t.db orderId order customerId paymentIntentId sessionId now db') (k) : Tallied (afterCredit t db' orderId) k := by
  have h := all k
  have promo := promoPartNonneg order
  obtain ⟨_,_,_,_,credits⟩ := tops.credits
  obtain ⟨_,owner,_,_,users⟩ := credits.user
  have lots := bookedOriginal credits.booked k
  rw [topupSumAppend,openedTopup,openedTopup] at lots
  simp only [topupLot,creditedOrder] at lots
  have row : db'.orders.get? orderId = some (creditedOrder cfg customerId paymentIntentId sessionId now order) := by
    rw [tops.orders,getModifySelf,found]
    rfl
  have gain : quotaOf db' orderId - quotaOf t.db orderId = paidPart cfg order + promoPart order := by
    rw [quotaOfUser found owner,quotaOfUser row ((users _).trans (if_pos rfl))]
    simp only
    omega
  by_cases mine : k = orderId
  · subst k
    have before := h.unpaid order found tops.status
    have open_ : ¬ closed order.status := fun shut => (closedFinal shut).2 tops.status
    obtain ⟨nothing,fresh⟩ := h.untouched order found open_
    have now_ : (afterCredit t db' orderId).given orderId = paidPart cfg order + promoPart order := by
      simp only [afterCredit,bump,if_true,gain,before]
      omega
    have lotsBefore := h.lots
    refine ⟨?_,h.once,?_,?_,?_,?_,?_⟩
    · rw [now_]
      simp only [afterCredit,nothing]
      omega
    · rw [now_]
      simp only [afterCredit,if_true] at lots ⊢
      omega
    · intro gone
      cases gone.symm.trans row
    · intro o' there _
      exact ⟨nothing,fresh⟩
    · intro o' there can
      cases some.inj (row.symm.trans there)
      simp [creditable,creditedOrder] at can
    · intro o' there _
      cases some.inj (row.symm.trans there)
      rw [now_]
      exact le_refl _
  · have same : db'.orders.get? k = t.db.orders.get? k := by rw [tops.orders,getModifyOther _ mine]
    have given : (afterCredit t db' orderId).given k = t.given k := by simp [afterCredit,bump,mine]
    simp only [if_neg (Ne.symm mine)] at lots
    have lotsBefore := h.lots
    refine ⟨by rw [given]; exact h.bounded,h.once,?_,?_,?_,?_,?_⟩
    · rw [given]
      simp only [afterCredit]
      omega
    · intro gone
      rw [given]
      exact h.absent (same.symm.trans gone)
    · intro o' there
      exact h.untouched o' (same.symm.trans there)
    · intro o' there
      rw [given]
      exact h.unpaid o' (same.symm.trans there)
    · intro o' there
      rw [given]
      exact h.whole o' (same.symm.trans there)

section
variable (db : Database) (orderId : String) (order : StripeTopupOrder)

inductive Takes : Int → Prop
  | nothing (why : ¬ refundable order.status ∨ orderLots db.lots orderId ≠ []) : Takes 0
  | lots (can : refundable order.status) (lotted : orderLots db.lots orderId ≠ []) :
      Takes (paidLeft db.lots orderId + promoLeft db.lots orderId)
  | legacy {user} (can : refundable order.status) (lotless : orderLots db.lots orderId = [])
      (owner : db.users.get? order.userId = some user) :
      Takes (reversePromo order user + reversePaid order user)

structure Settles (db' : Database) : Prop where
  takes : Takes db orderId order (quotaOf db orderId - quotaOf db' orderId)
  shut : ∃ o, db'.orders.get? orderId = some o ∧ closed o.status
  others : ∀ k, k ≠ orderId → db'.orders.get? k = db.orders.get? k
  lots : ∀ k, orderOriginal db'.lots k ≤ orderOriginal db.lots k

end

theorem quotaOfReviewed (db orderId reason) : quotaOf (reviewOrder db orderId reason) orderId = quotaOf db orderId := by
  simp only [quotaOf,reviewOrder,setOrder,getModifySelf]
  cases db.orders.get? orderId <;> rfl

theorem reviewSettles {db orderId order} (found : db.orders.get? orderId = some order) (reason)
    (why : ¬ refundable order.status ∨ orderLots db.lots orderId ≠ []) : Settles db orderId order (reviewOrder db orderId reason) := by
  refine ⟨?_,?_,fun k other => getModifyOther _ other _,fun k => le_refl _⟩
  · rw [quotaOfReviewed,sub_self]
    exact .nothing why
  · exact ⟨_,by rw [reviewOrder,setOrder,getModifySelf,found]; rfl,.inl (.inr (.inr rfl))⟩

theorem refundSettles {cfg db orderId order now db'} (sound : Sound cfg db) (found : db.orders.get? orderId = some order)
    (h : Refunds db orderId order now db') : Settles db orderId order db' := by
  cases h with
  | done settled =>
    refine ⟨?_,⟨order,found,.inr settled⟩,fun k other => rfl,fun k => le_refl _⟩
    rw [sub_self]
    exact .nothing (.inl (by simp [refundable,settled]))
  | early _ shut => exact reviewSettles found _ (.inl shut)
  | short _ lotted => exact reviewSettles found _ (.inr lotted)
  | @legacy user can lotless owner =>
    have row : (reconcileLegacyRefundWithTx db orderId order user now).orders.get? orderId =
        some (settledLegacy order user now order) := by
      simp only [reconcileLegacyRefundWithTx,setOrder,setBalance,getModifySelf,found,map_some]
    have same : (settledLegacy order user now order).userId = order.userId := by
      unfold settledLegacy
      split <;> rfl
    refine ⟨?_,⟨_,row,?_⟩,fun k other => getModifyOther _ other _,fun k => le_refl _⟩
    · have after : quotaOf (reconcileLegacyRefundWithTx db orderId order user now) orderId =
          user.quota - reversePromo order user - reversePaid order user := by
        have users := setBalanceUsers owner (user.quota - reversePromo order user - reversePaid order user)
          (user.promoQuota - reversePromo order user)
        exact quotaOfUser row (by rw [same]; exact (users order.userId).trans (if_pos rfl))
      have took : quotaOf db orderId - quotaOf (reconcileLegacyRefundWithTx db orderId order user now) orderId =
          reversePromo order user + reversePaid order user := by
        rw [after,quotaOfUser found owner]
        omega
      rw [took]
      exact .legacy can lotless owner
    · unfold settledLegacy
      split
      · exact .inl (.inr (.inr rfl))
      · exact .inr rfl
  | @reversed _ _ can lotted owner reverses =>
    have row : db'.orders.get? orderId = some (refundedOrder now order) := by
      rw [reverses.orders,getModifySelf,found]
      rfl
    refine ⟨?_,⟨_,row,.inr rfl⟩,fun k other => by rw [reverses.orders,getModifyOther _ other],?_⟩
    · have took : quotaOf db orderId - quotaOf db' orderId = paidLeft db.lots orderId + promoLeft db.lots orderId := by
        rw [quotaOfUser found owner,quotaOfUser row ((reverses.users _).trans (if_pos rfl))]
        simp only
        omega
      rw [took]
      exact .lots can lotted
    · intro k
      have lots := bookedOriginal (refundBooked sound.linked found now) k
      rw [← reverses.lots] at lots
      have plain : topupSum k ((refundRows db.lots orderId).map
          (refundRow order.userId orderId order.presentmentCurrency now)) = 0 := by
        refine topupSumPlain ?_ k
        intro e mem
        obtain ⟨r,_,rfl⟩ := List.mem_map.mp mem
        cases kind : r.2.balanceType <;> simp [topupEntry,refundRow,kind]
      omega

theorem leftWithin {lots} (ok : LotsOk lots) (orderId) : paidLeft lots orderId + promoLeft lots orderId ≤ orderOriginal lots orderId := by
  have sum : paidLeft lots orderId + promoLeft lots orderId = rowsSum (refundRows lots orderId) := typeSumTotal _
  have perm : (refundRows lots orderId).Perm
      ((lots.select (fun _ l => decide (l.orderId = orderId))).filter refundLot) :=
    (List.perm_insertionSort _ _).filter _
  have same : (lots.select (fun _ l => decide (l.orderId = orderId))).filter refundLot =
      lots.select (fun k l => refundLot (k,l) && decide (l.orderId = orderId)) := List.filter_filter ..
  rw [sum,rowsSumPerm perm,same]
  refine (sumSelect lots _ (fun _ l => l.remainingQuota)).trans_le (sumMono ?_)
  intro id lot found
  have lotOk := (ok id lot found).2
  have nonneg := lotOk.nonneg
  have within := lotOk.within
  simp only [Bool.and_eq_true,decide_eq_true_eq]
  by_cases mine : lot.orderId = orderId
  · simp only [mine,and_true,if_true]
    split <;> omega
  · simp only [mine,and_false,if_false,le_refl]

theorem takesExact {cfg t orderId order took} (sound : Sound cfg t.db) (h : Tallied t orderId)
    (found : t.db.orders.get? orderId = some order) (takes : Takes t.db orderId order took) :
    t.taken orderId + took ≤ t.given orderId ↔ ∀ user, order.status = .paid → orderLots t.db.lots orderId = [] →
      t.db.users.get? order.userId = some user → reversePromo order user + reversePaid order user ≤ 0 := by
  have bounded := h.bounded
  have untouched : refundable order.status → t.taken orderId = 0 := by
    intro can
    exact (h.untouched order found (fun shut => (closedFinal shut).1 can)).1
  cases takes with
  | nothing why =>
    refine ⟨fun _ user paid lotless _ => ?_,fun _ => by omega⟩
    obtain why | why := why
    · exact absurd (.inr (.inr paid)) why
    · exact absurd lotless why
  | lots can lotted =>
    have within := leftWithin sound.lots orderId
    have lots := h.lots
    have zero := untouched can
    exact ⟨fun _ user _ lotless _ => absurd lotless lotted,fun _ => by omega⟩
  | @legacy user can lotless owner =>
    have zero := untouched can
    have promo : reversePromo order user ≤ order.promoQuota := Int.min_le_left ..
    have paid : reversePaid order user ≤ order.paidQuota := Int.min_le_left ..
    rcases can with status | status | status
    · have whole := h.whole order found (.inl status)
      exact ⟨fun _ _ other => by simp [status] at other,fun _ => by omega⟩
    · have whole := h.whole order found (.inr status)
      exact ⟨fun _ _ other => by simp [status] at other,fun _ => by omega⟩
    have nothing := h.unpaid order found (.inr (.inr status))
    refine ⟨fun le other _ _ there => ?_,fun all => ?_⟩
    · cases some.inj (owner.symm.trans there)
      omega
    · have := all user status lotless owner
      omega

theorem refundTally {t orderId order db'} (all : ∀ k, Tallied t k) (found : t.db.orders.get? orderId = some order)
    (settles : Settles t.db orderId order db') (bounded : t.taken orderId + (quotaOf t.db orderId - quotaOf db' orderId) ≤ t.given orderId) (k) :
    Tallied (afterRefund t db' orderId) k := by
  have h := all k
  have lots := settles.lots k
  have lotsBefore := h.lots
  have again : (afterRefund t db' orderId).again k = 0 := by
    simp only [afterRefund]
    split
    · rename_i before
      unfold bump
      split
      · rename_i mine
        subst k
        have shut : closed order.status := Classical.byContradiction fun open_ => (h.untouched order found open_).2 before
        have took : quotaOf t.db orderId - quotaOf db' orderId = 0 := by
          have takes := settles.takes
          generalize quotaOf t.db orderId - quotaOf db' orderId = took at takes
          cases takes with
          | nothing => rfl
          | lots can | legacy can => exact absurd can (closedFinal shut).1
        have once := h.once
        omega
      · exact h.once
    · exact h.once
  by_cases mine : k = orderId
  · subst k
    obtain ⟨o,row,shut⟩ := settles.shut
    refine ⟨?_,again,?_,?_,?_,?_,?_⟩
    · simpa only [afterRefund,bump,if_true] using bounded
    · simp only [afterRefund]
      omega
    · intro gone
      cases gone.symm.trans row
    · intro o' there open_
      cases some.inj (row.symm.trans there)
      exact absurd shut open_
    · intro o' there can
      cases some.inj (row.symm.trans there)
      exact absurd can (closedFinal shut).2
    · intro o' there done
      cases some.inj (row.symm.trans there)
      exact absurd (done.imp_right .inl) (closedFinal shut).1
  · have same := settles.others k mine
    have taken : (afterRefund t db' orderId).taken k = t.taken k := by simp [afterRefund,bump,mine]
    have handled : k ∉ t.handled → k ∉ (afterRefund t db' orderId).handled := by simp [afterRefund,mine]
    refine ⟨by rw [taken]; exact h.bounded,again,?_,?_,?_,?_,?_⟩
    · simp only [afterRefund]
      omega
    · intro gone
      obtain ⟨given,nothing,fresh⟩ := h.absent (same.symm.trans gone)
      exact ⟨given,by rw [taken]; exact nothing,handled fresh⟩
    · intro o' there open_
      obtain ⟨nothing,fresh⟩ := h.untouched o' (same.symm.trans there) open_
      exact ⟨by rw [taken]; exact nothing,handled fresh⟩
    · intro o' there
      exact h.unpaid o' (same.symm.trans there)
    · intro o' there
      exact h.whole o' (same.symm.trans there)

theorem talliedBounded {t} (all : ∀ k, Tallied t k) : RefundBounded t := fun k => ⟨(all k).bounded,(all k).once⟩

structure TallyStep (cfg : Config) (t : Tally) (op : WalletOp) : Prop where
  exactly : RefundBounded (tallyStep cfg t op) ↔ OnlyCredited t op
  next : RefundBounded (tallyStep cfg t op) → ∀ k, Tallied (tallyStep cfg t op) k

theorem stepKept {cfg t op} (all : ∀ k, Tallied (tallyStep cfg t op) k) (free : OnlyCredited t op) : TallyStep cfg t op :=
  ⟨⟨fun _ => free,fun _ => talliedBounded all⟩,fun _ => all⟩

section
variable {cfg t} (sound : Sound cfg t.db) (all : ∀ k, Tallied t k)
include sound all

theorem creditStep (orderId customerId paymentIntentId sessionId now) :
    TallyStep cfg t (.lot (.creditStripeTopupOrder orderId customerId paymentIntentId sessionId now)) := by
  refine stepKept ?_ trivial
  simp only [tallyStep,walletStep,lotStep]
  have nothing : ∀ k, Tallied (afterCredit t t.db orderId) k := by
    have same : afterCredit t t.db orderId = t := by
      unfold afterCredit bump
      simp
    rw [same]
    exact all
  obtain ⟨_,_,done,same⟩ | same := commitPairCases t.db
    (creditStripeTopupOrder cfg t.db orderId customerId paymentIntentId sessionId now)
  · rw [same]
    obtain ⟨order,found,⟨_,rfl,_⟩ | ⟨_,applied⟩⟩ := creditSpec done
    · exact nothing
    · have paid := (sound.orders orderId order found).2.2
      exact creditTally all found paid (applySpec paid applied)
  · rw [same]
    exact nothing

theorem refundStep (orderId now) : TallyStep cfg t (.lot (.reconcileRefund orderId now)) := by
  cases done : reconcileRefund t.db orderId now with
  | error =>
    have same : tallyStep cfg t (.lot (.reconcileRefund orderId now)) = t := by
      simp only [tallyStep,walletStep,lotStep,done,commit]
    refine stepKept (by rw [same]; exact all) ?_
    intro order user named found paid lotless owner
    rw [legacyRuns now named found (.inr (.inr paid)) lotless owner] at done
    contradiction
  | ok db' =>
    have same : tallyStep cfg t (.lot (.reconcileRefund orderId now)) = afterRefund t db' orderId := by
      simp only [tallyStep,walletStep,lotStep,done,commit]
    have named : orderId ≠ "" := by
      simp only [reconcileRefund,bindOk,requireOk] at done
      exact done.choose_spec.1
    obtain ⟨order,found,refunds⟩ := refundSpec done
    have settles := refundSettles sound found refunds
    have takes := takesExact sound (all orderId) found settles.takes
    have next : RefundBounded (afterRefund t db' orderId) →
        t.taken orderId + (quotaOf t.db orderId - quotaOf db' orderId) ≤ t.given orderId := by
      intro bounded
      simpa only [afterRefund,bump,if_true] using (bounded orderId).1
    refine ⟨?_,?_⟩
    · rw [same]
      constructor
      · intro bounded _ user _ there paid lotless owner
        cases some.inj (found.symm.trans there)
        exact takes.mp (next bounded) user paid lotless owner
      · intro only
        refine talliedBounded (refundTally all found settles (takes.mpr ?_))
        intro user paid lotless owner
        exact only order user named found paid lotless owner
    · rw [same]
      intro bounded
      exact refundTally all found settles (next bounded)

theorem tallyExact (op) : TallyStep cfg t op := by
  cases op with
  | purchaseSubscriptionWithBalance userId planId =>
    obtain ⟨facts,calm,_⟩ := @purchaseCalm cfg t.db userId planId
    exact stepKept (fun k => talliedCalm facts calm (all k)) trivial
  | lot op =>
    have steps := lotSteps sound op
    have kept : LotOp.calm op → ∀ k, Tallied { t with db := lotStep cfg t.db op } k :=
      fun calm k => talliedCalm steps.facts (steps.calm calm) (all k)
    cases op with
    | creditStripeTopupOrder orderId customerId paymentIntentId sessionId now =>
      exact creditStep sound all orderId customerId paymentIntentId sessionId now
    | reconcileRefund orderId now => exact refundStep sound all orderId now
    | _ => exact stepKept (kept trivial) trivial

end

structure Opening (cfg : Config) (t : Tally) : Prop where
  before : BeforeLots cfg t.db
  given : ∀ k, 0 ≤ t.given k
  nothing : ∀ k, t.taken k = 0 ∧ t.again k = 0
  unhandled : t.handled = []
  absent : ∀ k, t.db.orders.get? k = none → t.given k = 0
  unpaid : ∀ k o, t.db.orders.get? k = some o → creditable o.status → t.given k = 0
  whole : ∀ k o, t.db.orders.get? k = some o → o.status = .credited ∨ o.status = .refundPending →
    o.paidQuota + o.promoQuota ≤ t.given k

theorem openingTallied {cfg t} (start : Opening cfg t) (k) : Tallied t k := by
  obtain ⟨taken,again⟩ := start.nothing k
  have given := start.given k
  have lots : orderOriginal t.db.lots k = 0 := by
    refine sumZero ?_
    intro id _ found
    rw [start.before.lotless id] at found
    contradiction
  have fresh : k ∉ t.handled := by simp [start.unhandled]
  exact ⟨by omega,again,by omega,fun gone => ⟨start.absent k gone,taken,fresh⟩,fun _ _ _ => ⟨taken,fresh⟩,
    start.unpaid k,start.whole k⟩

theorem tallyDb (cfg t op) : (tallyStep cfg t op).db = walletStep cfg t.db op := by
  unfold tallyStep
  split
  · rfl
  · split <;> rfl
  · rfl

/- Refunds stay within what their orders brought, and a repeated refund event takes
nothing, exactly when no refund finds an order paid but not credited with something to take. -/
theorem refundBoundedIffOnlyCredited (cfg : Config) (t : Tally) (ops : List WalletOp) (start : Opening cfg t) :
    Always (tallyStep cfg) RefundBounded t ops ↔ Along (tallyStep cfg) OnlyCredited t ops := by
  refine @alwaysIffAlong Tally WalletOp (tallyStep cfg) (fun t => Sound cfg t.db) (fun t => ∀ k, Tallied t k) RefundBounded
    OnlyCredited ?_ ?_ ?_ ?_ t ops (soundBefore start.before) (openingTallied start)
  · intro t op sound
    rw [tallyDb]
    exact soundWallet t.db op sound
  · intro t _ all
    exact talliedBounded all
  · intro t op sound all
    exact (tallyExact sound all op).next
  · intro t op sound all
    exact (tallyExact sound all op).exactly

def emptyTally : Tally := ⟨Database.empty,fun _ => 0,fun _ => 0,[],fun _ => 0⟩

theorem emptyOpening (cfg) : Opening cfg emptyTally :=
  ⟨emptyBefore cfg,fun _ => le_refl 0,fun _ => ⟨rfl,rfl⟩,rfl,fun _ _ => rfl,fun _ _ _ _ => rfl,
    fun k o found => by simp [emptyTally,Database.empty] at found⟩

def fundedOrder : List WalletOp :=
  [.lot (.insertUser "a@example.com"),.lot (.increaseUserCashQuota 1 70 true),
   .lot (.createCheckout 1 (.ofPayment "usd" 500 5000000 100 LotLedger.hundred) "np_1" (.created "cs_1" "" "" 0) 10)]

def refundTwice : List WalletOp := fundedOrder ++
  [.lot (.creditStripeTopupOrder "np_1" "" "" "cs_1" 20),.lot (.reconcileRefund "np_1" 30),.lot (.reconcileRefund "np_1" 40)]

theorem refundTwiceBounded : (run (tallyStep .shipped) emptyTally refundTwice).taken "np_1" = 100 ∧
    Always (tallyStep .shipped) RefundBounded emptyTally refundTwice := by
  refine ⟨by decide,(refundBoundedIffOnlyCredited .shipped emptyTally refundTwice (emptyOpening .shipped)).mpr
    ⟨trivial,trivial,trivial,trivial,?_,?_,trivial⟩⟩
  · intro order user _ found paid
    cases some.inj found
    contradiction
  · intro _ _ _ found _
    cases some.inj found
    contradiction

def refundUncredited : List WalletOp := fundedOrder ++
  [.lot (.markOrderPaid "np_1" "" "cs_1" "" 20),.lot (.reconcileRefund "np_1" 30)]

theorem refundUncreditedUnbounded : ¬ Always (tallyStep .shipped) RefundBounded emptyTally refundUncredited := by
  intro bounded
  have last := alwaysLast bounded
  have taken : (run (tallyStep .shipped) emptyTally refundUncredited).taken "np_1" = 70 := by decide
  have given : (run (tallyStep .shipped) emptyTally refundUncredited).given "np_1" = 0 := by decide
  have within := (last "np_1").1
  omega

end NovaPuraRouter.RefundBound
