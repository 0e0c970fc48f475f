import NovaPuraRouter.FounderClaim

/-! The founder price is kept. An operation on a reservation that still holds its slot meets
neither refusal. A reservation keeps its tier and an active one has the price of it, so a
checkout that passed its check can only repeat the price its reservation was activated at. -/
namespace NovaPuraRouter.FounderClaim
open StripeSeat SeatCapacity List Table
open SubscriptionUsage (trimmed)

section Refusal
variable {runtime : Option StripeSubscriptionConfig} {db : SeatStore} {α β : Type}

variable {e : SeatFailure}

@[simp] theorem honouredOk (a) : Honoured (.ok a : Except SeatFailure α) := by simp [Honoured]

@[simp] theorem honouredPure (a) : Honoured (pure a : Except SeatFailure α) := honouredOk a

@[simp] theorem honouredError : Honoured (.error e : Except SeatFailure α) ↔ e ≠ .founderSoldOut ∧ e ≠ .founderClaimUsed := by simp [Honoured]

@[simp] theorem honouredBind {x} {f : α → Except SeatFailure β} : Honoured (x >>= f) ↔ Honoured x ∧ ∀ a, x = .ok a → Honoured (f a) := by
  cases x with
  | ok | error => simp [Honoured,bind,Except.bind]

@[simp] theorem honouredMap {x} {f : α → β} : Honoured (f <$> x : Except SeatFailure β) ↔ Honoured x := by
  cases x with
  | ok | error => simp [Honoured,Functor.map,Except.map]

@[simp] theorem honouredRequire {p} [Decidable p] : Honoured (require p e) ↔ p ∨ e ≠ .founderSoldOut ∧ e ≠ .founderClaimUsed := by
  by_cases p <;> simp [require, *]

@[simp] theorem honouredRow {found : Option α} : Honoured (row found e) ↔ found.isSome ∨ e ≠ .founderSoldOut ∧ e ≠ .founderClaimUsed := by
  cases found with
  | none | some => simp [row]

@[simp] theorem honouredLifecycle (planId) : Honoured (recurringLifecyclePlanTx runtime db planId) := by
  simp [recurringLifecyclePlanTx,validateStripeSubscriptionPlan]

@[simp] theorem honouredEntitle (userId planId plan) : Honoured (createUserSubscriptionFromPlanAtTx runtime db userId planId plan) := by
  simp [createUserSubscriptionFromPlanAtTx,validateStripeSubscriptionPlan]

@[simp] theorem honouredRestore (id) : Honoured (restoreStripeSubscriptionEntitlementTx db id) := by
  unfold restoreStripeSubscriptionEntitlementTx
  split <;> simp

@[simp] theorem honouredEnsure (id entitlementId r plan) :
    Honoured (ensureStripeSubscriptionEntitlementTx runtime db id entitlementId r plan) := by
  unfold ensureStripeSubscriptionEntitlementTx
  split <;> simp

@[simp] theorem honouredAttach (existing input r plan) : Honoured (attachEntitlement runtime db existing input r plan) := by
  cases existing with
  | some | none => simp [attachEntitlement,createSubscription]

@[simp] theorem honouredLock (stripeSubscriptionId reservationId) :
    Honoured (lockStripeSubscriptionRowsTx db stripeSubscriptionId reservationId) := by
  unfold lockStripeSubscriptionRowsTx
  dsimp only
  split
  · split <;> simp
  · simp
  · simp

theorem honouredInvoice (input) : Honoured (recordStripeSubscriptionInvoiceTx db input) := by
  simp only [recordStripeSubscriptionInvoiceTx,honouredBind,honouredRequire]
  refine ⟨by simp,fun _ _ => ?_⟩
  split
  · unfold settleInvoice
    split <;> simp
  · simp

section Live
variable {planId : Nat} {plan : RecurringPlan} {now id : Nat} {r : Reservation} (sold : db.plans.get? planId = some plan)
  (slots : Slots planId plan now db.reservations db.claims) (found : db.reservations.get? id = some r) (here : r.planId = planId)
  (founder : r.tier = .founder) (alive : waiting now r = true)
include slots found here founder alive

theorem honouredClaim (priceId) : Honoured (takeClaim db plan id r priceId) := by
  unfold takeClaim
  split
  · rename_i claimId claim held
    have mem := mem_of_head? held
    obtain ⟨got,same⟩ := memSelect.mp mem
    simp only [Bool.and_eq_true,decide_eq_true_eq] at same
    exact absurd same.2 (slots.unclaimed id r found here founder (waitingStatus alive) claimId claim got (same.1.trans here))
  · split
    · split
      · exact honouredOk _
      rename_i _ _ full
      have held := countPos found (p := fun _ r => r.planId = planId && r.tier = .founder && waiting now r)
        (by simp [here,founder,alive])
      have within := slots.slots
      simp only [claimCount,here] at full
      omega
    · exact honouredOk _

include sold

theorem honouredActivation (sessionId customerId subscriptionId priceId) :
    Honoured (activateStripeSubscriptionReservationTx runtime db id sessionId customerId subscriptionId priceId now) := by
  have claims := honouredClaim slots found here founder alive priceId
  refine honouredBind.mpr ⟨by simp,fun _ _ => honouredBind.mpr ⟨by simp,fun old got => ?_⟩⟩
  cases found.symm.trans (rowOk.mp got)
  split
  · simp
  refine honouredBind.mpr ⟨by simp,fun _ _ => honouredBind.mpr ⟨by simp,fun _ _ => honouredBind.mpr ⟨by simp,fun _ offered => ?_⟩⟩⟩
  cases sold.symm.trans (here ▸ (offeredPlan offered).1)
  refine honouredBind.mpr ⟨?_,by simp [claims]⟩
  unfold checkPrice
  split <;> simp [founder]

theorem honouredPerform {op : SeatOp} (aimed : target db op = some id) : Honoured (perform runtime db now op) := by
  have activates := @honouredActivation runtime db planId plan now id r sold slots found here founder alive
  cases op with
  | activate =>
    cases aimed
    simp [perform,activateStripeSubscriptionWithEntitlement,activates]
  | paid input =>
    refine honouredBind.mpr ⟨by simp,fun held row => honouredBind.mpr ⟨by simp,fun _ _ => honouredBind.mpr ⟨by simp,fun _ _ => ?_⟩⟩⟩
    have finished : ∀ (db1 : SeatStore) (input : InvoiceInput), Honoured (do
        let recorded ← recordStripeSubscriptionInvoiceTx db1 input
        if recorded.1 then renewed recorded.2 held.1 else pure recorded.2) := by
      intro db1 input
      refine honouredBind.mpr ⟨honouredInvoice input,fun result _ => ?_⟩
      split <;> simp [renewed]
    simp only [target,rowOk.mp row] at aimed
    split at aimed
    · rename_i unentitled
      cases aimed
      rw [if_pos unentitled]
      refine honouredBind.mpr ⟨honouredBind.mpr ⟨by simp,fun _ _ => honouredBind.mpr ⟨by simp,fun old _ => ?_⟩⟩,fun db1 _ => finished db1 _⟩
      split <;> simp [activates]
    · cases aimed
  | reconcile reservationId sessionId =>
    show Honoured ((fun p => p.2) <$> markStripeSubscriptionCheckoutReconciliation db reservationId sessionId now)
    refine honouredMap.mpr <| honouredBind.mpr ⟨by simp,fun _ _ => honouredBind.mpr ⟨by simp,fun old _ => ?_⟩⟩
    split
    · simp
    · split <;> simp
  | reserve | releasePending | expire | finish | bind => cases aimed

end Live

end Refusal

section Log
variable {runtime : Option StripeSubscriptionConfig} {db db' : SeatStore} {now : Nat} {t : Table Nat Reservation}

def Named (t : Table Nat Reservation) : Prop := ∀ id r, t.get? id = some r → r.status = .active → r.stripeSubscriptionId ≠ ""

def Settled (a : PricedActivation) (r : Reservation) : Prop := r.planId = a.planId ∧ r.userId = a.userId ∧
  r.stripeSubscriptionId = a.stripeSubscriptionId ∧ r.status ≠ .pending ∧ r.status ≠ .reconciliation

def Entered (t : Table Nat Reservation) (a : PricedActivation) : Prop := ∃ r, t.get? a.reservationId = some r ∧ Settled a r

variable {id : Nat} {r : Reservation} {a : PricedActivation} {t' : Table Nat Reservation}

theorem namedRow (named : Named t) (here : r.status = .active → r.stripeSubscriptionId ≠ "") : Named (t.modify id (fun _ => r)) := by
  intro k a got
  obtain ⟨_,_,_,rfl⟩ | ⟨_,old⟩ := modifyCases got
  · exact here
  · exact named k a old

theorem enteredRow (entered : Entered t a) {r'} (found : t.get? id = some r)
    (settled : Settled a r → Settled a r') : Entered (t.modify id (fun _ => r')) a := by
  obtain ⟨old,row,here⟩ := entered
  by_cases same : a.reservationId = id
  · rw [same] at row
    cases found.symm.trans row
    refine ⟨r',?_,settled here⟩
    rw [Table.getModify,if_pos same,found]
    rfl
  · exact ⟨old,(getModifyOther t same _).trans row,here⟩

theorem settledWithdraw {status} (closed : status = .released ∨ status = .expired) (settled : Settled a r) : Settled a (withdraw status r) := by
  obtain ⟨plan,user,subscription,_⟩ := settled
  refine ⟨plan,user,subscription,?_⟩
  rcases closed with rfl | rfl <;> simp [withdraw]

theorem unsettled (waits : r.status = .pending ∨ r.status = .reconciliation) : ¬ Settled a r := by
  intro ⟨_,_,_,pending,reconciliation⟩
  rcases waits with status | status
  · exact pending status
  · exact reconciliation status

theorem namedCleared (named : Named t) (cleared : Cleared t t') : Named t' := by
  cases cleared with
  | none => exact named
  | @seat _ _ _ _ closed =>
    refine namedRow named (fun active => ?_)
    rcases closed with rfl | rfl <;> cases active

theorem enteredCleared (entered : Entered t a) (cleared : Cleared t t') : Entered t' a := by
  cases cleared with
  | none => exact entered
  | seat found closed => exact enteredRow entered found (settledWithdraw closed)

variable {aim : Option Nat} {claims : Table Nat FounderClaim}

theorem namedEffect (named : Named db.reservations) (effect : SeatEffect runtime now aim db t claims) : Named t := by
  cases effect with
  | same => exact named
  | withdrawn cleared => exact namedCleared named cleared
  | lapsed =>
    intro k a got active
    obtain ⟨old,row,rfl | rfl⟩ := updateCases got
    · cases active
    · exact named k a row active
  | bound _ _ _ _ _ given => exact namedRow named (fun _ => given)
  | reconciled => exact namedRow named (fun active => by simp [StripeSeat.reconciled] at active)
  | activated _ activation => exact namedRow named (fun _ => activation.named)
  | reserved cleared =>
    intro k a got active
    rcases appendCases got with ⟨_,rfl⟩ | old
    · cases active
    · exact namedCleared named cleared k a old active

theorem enteredEffect (named : Named db.reservations) (entered : Entered db.reservations a)
    (effect : SeatEffect runtime now aim db t claims) : Entered t a := by
  cases effect with
  | same => exact entered
  | withdrawn cleared => exact enteredCleared entered cleared
  | lapsed =>
    obtain ⟨r,row,settled⟩ := entered
    refine ⟨_,(getUpdate _ _ _ _).trans (congrArg _ row),?_⟩
    dsimp only
    split
    · exact settledWithdraw (.inr rfl) settled
    · exact settled
  | @bound _ r _ found waits _ _ same =>
    refine enteredRow entered found (fun settled => ?_)
    have active : r.status = .active := by
      rcases waits with pending | reconciliation | active
      · exact absurd settled (unsettled (.inl pending))
      · exact absurd settled (unsettled (.inr reconciliation))
      · exact active
    have kept := same.resolve_left (named _ r found active)
    simp only [Settled,bound,← kept]
    exact settled
  | reconciled _ found waits => exact enteredRow entered found (fun settled => absurd settled (unsettled waits))
  | activated _ activation =>
    exact enteredRow entered activation.found (fun settled => absurd settled (unsettled activation.waits))
  | reserved cleared =>
    obtain ⟨r,row,settled⟩ := enteredCleared entered cleared
    exact ⟨r,getAppendOld row _,settled⟩

theorem claimedEffect {planId userId reservationId} (claimed : Claimed db.claims planId userId reservationId)
    (effect : SeatEffect runtime now aim db t claims) : Claimed claims planId userId reservationId := by
  cases effect with
  | activated _ activation =>
    obtain ⟨i,here⟩ := claimed
    have taken := activation.claim
    unfold takeClaim at taken
    split at taken
    · split at taken
      · cases taken
      · cases taken
        exact ⟨i,here⟩
    · split at taken
      · split at taken
        · cases taken
          exact ⟨i,getAppendOld here _⟩
        · cases taken
      · cases taken
        exact ⟨i,here⟩
  | _ => exact claimed

section Offer
variable {planId : Nat} {plan : RecurringPlan} (sold : db.plans.get? planId = some plan) (limited : 0 < plan.founderPurchaseLimit)

def SameOffer (planId : Nat) (r r' : Reservation) : Prop := r'.planId = r.planId ∧ (r.planId = planId → r'.tier = r.tier)

def OfferKept (planId : Nat) (t t' : Table Nat Reservation) : Prop :=
  ∀ id r, t.get? id = some r → ∃ r', t'.get? id = some r' ∧ SameOffer planId r r'

def Priced (planId : Nat) (plan : RecurringPlan) (t : Table Nat Reservation) : Prop :=
  ∀ id r, t.get? id = some r → r.planId = planId → r.status = .active → r.stripePriceId = expectedPrice plan r.tier

theorem offerRefl (t) : OfferKept planId t t := fun _ r found => ⟨r,found,rfl,fun _ => rfl⟩

theorem offerRow {r'} (found : t.get? id = some r) (same : SameOffer planId r r') : OfferKept planId t (t.modify id (fun _ => r')) := by
  intro k old row
  by_cases here : k = id
  · subst here
    cases found.symm.trans row
    exact ⟨r',by rw [getModifySelf,found]; rfl,same⟩
  · exact ⟨old,(getModifyOther t here _).trans row,rfl,fun _ => rfl⟩

theorem offerCleared (cleared : Cleared t t') : OfferKept planId t t' := by
  cases cleared with
  | none => exact offerRefl t
  | seat found => exact offerRow found ⟨rfl,fun _ => rfl⟩

theorem pricedRow (priced : Priced planId plan t)
    (here : r.planId = planId → r.status = .active → r.stripePriceId = expectedPrice plan r.tier) :
    Priced planId plan (t.modify id (fun _ => r)) := by
  intro k a got
  obtain ⟨_,_,_,rfl⟩ | ⟨_,old⟩ := modifyCases got
  · exact here
  · exact priced k a old

theorem pricedCleared (priced : Priced planId plan t) (cleared : Cleared t t') : Priced planId plan t' := by
  cases cleared with
  | none => exact priced
  | @seat _ _ _ _ closed =>
    refine pricedRow priced (fun _ active => ?_)
    rcases closed with rfl | rfl <;> cases active

theorem expectedTrimmed {offer planId} (offered : recurringLifecyclePlanTx runtime db planId = .ok offer) (tier) :
    trimmed (expectedPrice offer tier) = expectedPrice offer tier := by
  obtain ⟨_,_,founder,standard⟩ := offeredPlan offered
  cases tier with
  | founder => exact founder
  | standard => exact standard

include sold limited

theorem activatedTier {sessionId customerId subscriptionId priceId offer claimId}
    (activation : Activation runtime now db id r subscriptionId priceId offer claimId claims) (own : r.planId = planId) :
    offer = plan ∧ (activated offer r sessionId customerId subscriptionId priceId claimId).tier = r.tier := by
  obtain ⟨row,distinct,_⟩ := offeredPlan activation.offered
  cases sold.symm.trans (own ▸ row)
  refine ⟨rfl,?_⟩
  have price := activation.price
  cases tier : r.tier with
  | standard =>
    rw [tier] at price
    simp [activated,price,expectedPrice,Ne.symm distinct]
  | founder =>
    rw [tier] at price
    have claim := activation.claim
    simp only [takeClaim,price,expectedPrice,if_true,limited,and_self] at claim
    split at claim
    · cases claim
    split at claim
    · cases claim
      simp [activated,price,expectedPrice,nextId]
    · cases claim

theorem offerEffect (effect : SeatEffect runtime now aim db t claims) : OfferKept planId db.reservations t := by
  cases effect with
  | same => exact offerRefl _
  | withdrawn cleared => exact offerCleared cleared
  | lapsed =>
    intro k r row
    refine ⟨_,(getUpdate _ _ _ _).trans (congrArg _ row),?_⟩
    dsimp only
    split
    · exact ⟨rfl,fun _ => rfl⟩
    · exact ⟨rfl,fun _ => rfl⟩
  | bound found => exact offerRow found ⟨rfl,fun _ => rfl⟩
  | reconciled _ found => exact offerRow found ⟨rfl,fun _ => rfl⟩
  | activated _ activation => exact offerRow activation.found ⟨rfl,fun own => (activatedTier sold limited activation own).2⟩
  | reserved cleared =>
    intro k r row
    obtain ⟨r',row',same⟩ := @offerCleared _ _ planId cleared k r row
    exact ⟨r',getAppendOld row' _,same⟩

theorem pricedEffect (priced : Priced planId plan db.reservations) (effect : SeatEffect runtime now aim db t claims) : Priced planId plan t := by
  cases effect with
  | same => exact priced
  | withdrawn cleared => exact pricedCleared priced cleared
  | lapsed =>
    intro k a got here active
    obtain ⟨old,row,rfl | rfl⟩ := updateCases got
    · cases active
    · exact priced k a row here active
  | bound _ _ offered price =>
    refine pricedRow priced (fun here _ => ?_)
    cases sold.symm.trans (here ▸ (offeredPlan offered).1)
    exact price
  | reconciled => exact pricedRow priced (fun _ active => by simp [StripeSeat.reconciled] at active)
  | activated _ activation =>
    refine pricedRow priced (fun here _ => ?_)
    obtain ⟨rfl,tier⟩ := activatedTier sold limited activation here
    rw [tier]
    show trimmed _ = _
    rw [activation.price]
    exact expectedTrimmed activation.offered _
  | reserved cleared =>
    intro k a got here active
    rcases appendCases got with ⟨_,rfl⟩ | old
    · cases active
    · exact pricedCleared priced cleared k a old here active

end Offer

def Checked (planId : Nat) (plan : RecurringPlan) (t : Table Nat Reservation) (input : ActivationInput) : Prop :=
  trimmed input.stripeSubscriptionId = input.stripeSubscriptionId ∧ ∃ r, t.get? input.reservationId = some r ∧
    (r.planId = planId → trimmed input.stripePriceId = expectedPrice plan r.tier)

theorem checkedKept {planId plan input} (kept : OfferKept planId t t') (checked : Checked planId plan t input) :
    Checked planId plan t' input := by
  obtain ⟨plain,r,row,price⟩ := checked
  obtain ⟨r',row',same,tier⟩ := kept _ r row
  exact ⟨plain,r',row',fun here => by rw [tier (same ▸ here)]; exact price (same ▸ here)⟩

theorem checkedAccepted {planId plan c input} (sold : db.plans.get? planId = some plan) (accepted : checkedInput runtime db c = some input) :
    Checked planId plan db.reservations input := by
  unfold checkedInput at accepted
  split at accepted
  · cases accepted
  rename_i id r found
  split at accepted
  · cases accepted
  rename_i offer offered
  split at accepted
  · rename_i matched
    cases accepted
    have row : db.reservations.get? id = some r := by
      unfold reservationByReference at found
      split at found
      · cases found
      · exact (headFound found).1
    refine ⟨c.stripeSubscriptionId.plain,r,row,fun here => ?_⟩
    cases sold.symm.trans (here ▸ (offeredPlan offered).1)
    exact c.priceId.plain.trans matched.2.2
  · cases accepted

def Answered (db db' : SeatStore) (asked : Request) : Prop := ∃ r, db'.reservations.get? asked.reservationId = some r ∧ r.status = .active ∧
  (db.reservations.get? asked.reservationId = some r ∧ r.stripeSubscriptionId = asked.stripeSubscriptionId ∨
    r.stripeSubscriptionId = trimmed asked.stripeSubscriptionId ∧ r.stripePriceId = trimmed asked.stripePriceId)

theorem answeredAside {db1 asked} (answered : Answered db db1 asked) (beside : Aside db1 db') : Answered db db' asked := by
  unfold Answered
  rw [beside.reservations]
  exact answered

theorem answeredActivation {sessionId customerId subscriptionId priceId}
    (ok : activateStripeSubscriptionReservationTx runtime db id sessionId customerId subscriptionId priceId now = .ok (r,db')) :
    Answered db db' ⟨id,subscriptionId,priceId⟩ := by
  obtain ⟨rfl,found,active,same⟩ | ⟨old,plan,claimId,_,activation,rfl,rfl⟩ := activateCases ok
  · exact ⟨r,found,active,.inl ⟨found,same⟩⟩
  · refine ⟨activated plan old sessionId customerId subscriptionId priceId claimId,?_,rfl,.inr ⟨rfl,rfl⟩⟩
    rw [Table.getModify,if_pos rfl,activation.found]
    rfl

theorem answeredInvoice {s} (ok : activateFromInvoice runtime db id s now = .ok db')
    (inactive : ((db.reservations.get? s.reservationId).map (·.status)) ≠ some .active) :
    Answered db db' ⟨s.reservationId,s.stripeSubscriptionId,s.stripePriceId⟩ := by
  simp only [activateFromInvoice,bindOk,requireOk,rowOk] at ok
  obtain ⟨_,_,r,found,ok⟩ := ok
  split at ok
  · rename_i active
    exact absurd (by rw [found,Option.map_some,active]) inactive
  · simp only [bindOk] at ok
    obtain ⟨⟨_,_⟩,done,_,_,ok⟩ := ok
    exact answeredAside (answeredActivation done) (ensureAside ok)

theorem answeredPerform {op asked} (ok : perform runtime db now op = .ok db') (asks : request db op = some asked) : Answered db db' asked := by
  cases op with
  | activate =>
    cases asks
    simp only [perform,activateStripeSubscriptionWithEntitlement,bindOk,requireOk] at ok
    obtain ⟨_,_,_,_,⟨r,db1⟩,done,_,_,ok⟩ := ok
    exact answeredAside (answeredActivation done) (attachEntitlementAside ok)
  | paid =>
    obtain ⟨_,s,_,found,done,beside⟩ := paidCases ok
    simp only [request,found] at asks
    split at asks
    · rename_i first
      cases asks
      rcases done with ⟨_,done⟩ | ⟨entitled,_⟩
      · exact answeredAside (answeredInvoice done first.2) beside
      · exact absurd first.1 entitled
    · cases asks
  | reserve | releasePending | expire | reconcile | finish | bind => cases asks

end Log

section Run
variable {runtime : Option StripeSubscriptionConfig} {planId : Nat} {plan : RecurringPlan}

structure Ledger (planId : Nat) (plan : RecurringPlan) (sys : FounderSystem) : Prop where
  sold : sys.store.plans.get? planId = some plan
  slots : Slots planId plan sys.clock sys.store.reservations sys.store.claims
  named : Named sys.store.reservations
  priced : Priced planId plan sys.store.reservations
  checked : ∀ input ∈ sys.checked, Checked planId plan sys.store.reservations input
  entered : ∀ a ∈ sys.activations, Entered sys.store.reservations a
  belongs : ∀ a ∈ sys.activations, a.founder planId plan → Claimed sys.store.claims planId a.userId a.reservationId

theorem requestRepeats {sys op asked r} (ledger : Ledger planId plan sys) (allowed : called sys.checked op = true)
    (asks : request sys.store op = some asked) (row : sys.store.reservations.get? asked.reservationId = some r) (active : r.status = .active) :
    trimmed asked.stripeSubscriptionId = asked.stripeSubscriptionId ∧ (r.planId = planId → trimmed asked.stripePriceId = r.stripePriceId) := by
  cases op with
  | activate input =>
    cases asks
    obtain ⟨plain,r₀,row₀,price⟩ := ledger.checked input (of_decide_eq_true allowed)
    cases row₀.symm.trans row
    exact ⟨plain,fun here => (price here).trans (ledger.priced _ r row here active).symm⟩
  | paid =>
    simp only [request] at asks
    split at asks
    · split at asks
      · rename_i first
        cases asks
        exact absurd (by rw [row,Option.map_some,active]) first.2
      · cases asks
    · cases asks
  | _ => cases asks

theorem recordedEntry {sys op db'} (ledger : Ledger planId plan sys) (allowed : called sys.checked op = true)
    (ok : perform runtime sys.store sys.clock op = .ok db') {a} (mem : a ∈ recorded sys.store db' op) :
    ∃ r, db'.reservations.get? a.reservationId = some r ∧ r.status = .active ∧ r.planId = a.planId ∧ r.userId = a.userId ∧
      r.stripeSubscriptionId = a.stripeSubscriptionId ∧ (r.planId = planId → r.stripePriceId = a.stripePriceId) := by
  unfold recorded at mem
  split at mem
  · cases mem
  rename_i asked asks
  obtain ⟨r,row,active,matched⟩ := answeredPerform ok asks
  rw [row] at mem
  cases mem_singleton.mp mem
  refine ⟨r,row,active,rfl,rfl,?_⟩
  rcases matched with ⟨before,subscription⟩ | ⟨subscription,price⟩
  · obtain ⟨plain,price⟩ := requestRepeats ledger allowed asks before active
    exact ⟨subscription.trans plain.symm,fun here => (price here).symm⟩
  · exact ⟨subscription,fun _ => price⟩

theorem ledgerStep (limited : 0 < plan.founderPurchaseLimit) (sys event)
    (ledger : Ledger planId plan sys) : Ledger planId plan (founderStep runtime sys event) := by
  cases event with
  | elapse => exact { ledger with slots := slotsLater ledger.slots (Nat.le_add_right _ _) }
  | checkout =>
    refine { ledger with checked := fun input mem => ?_ }
    rcases mem_append.mp mem with new | old
    · exact checkedAccepted ledger.sold (Option.mem_toList.mp new)
    · exact ledger.checked input old
  | call op =>
    simp only [founderStep]
    split
    · exact ledger
    rename_i allowed
    have allowed : called sys.checked op = true := Bool.of_not_eq_false allowed
    split
    · exact ledger
    rename_i db' ok
    obtain ⟨plans,effect⟩ := performEffect ok
    have slots := slotsEffect ledger.sold limited ledger.slots effect
    refine ⟨plans ▸ ledger.sold,slots,namedEffect ledger.named effect,pricedEffect ledger.sold limited ledger.priced effect,
      fun input mem => checkedKept (offerEffect ledger.sold limited effect) (ledger.checked input mem),?_,?_⟩
    · intro a mem
      rcases mem_append.mp mem with new | old
      · obtain ⟨r,row,active,plan',user,subscription,_⟩ := recordedEntry ledger allowed ok new
        exact ⟨r,row,plan',user,subscription,by simp [active],by simp [active]⟩
      · exact enteredEffect ledger.named (ledger.entered a old) effect
    · intro a mem founder
      rcases mem_append.mp mem with new | old
      · obtain ⟨r,row,active,plan',user,_,price⟩ := recordedEntry ledger allowed ok new
        have here : r.planId = planId := plan'.trans founder.1
        exact user ▸ slots.backed _ r row here active (.inr ((price here).trans founder.2))
      · exact claimedEffect (ledger.belongs a old founder) effect

theorem allocatedOf {sys} (ledger : Ledger planId plan sys) : Allocated runtime planId plan sys := by
  refine ⟨ledger.slots.slots,ledger.slots.oneClaim,ledger.belongs,?_,?_⟩
  · intro a memA b memB founderA founderB same
    obtain ⟨i,claimA⟩ := ledger.belongs a memA founderA
    obtain ⟨j,claimB⟩ := ledger.belongs b memB founderB
    have index := ledger.slots.oneClaim i j _ _ claimA claimB rfl rfl same
    rw [index] at claimA
    have reservation : a.reservationId = b.reservationId := congrArg (·.firstReservationId) (Option.some.inj (claimA.symm.trans claimB))
    obtain ⟨r,rowA,_,_,subscriptionA,_⟩ := ledger.entered a memA
    obtain ⟨_,rowB,_,_,subscriptionB,_⟩ := ledger.entered b memB
    rw [reservation] at rowA
    cases rowA.symm.trans rowB
    exact subscriptionA.symm.trans subscriptionB
  · intro _ r found here founder alive _ aimed
    exact honouredPerform ledger.sold ledger.slots found here founder alive aimed

variable {start : FounderSystem} (events : List FounderEvent) (sold : start.store.plans.get? planId = some plan)
  (limited : 0 < plan.founderPurchaseLimit) (unreserved : start.store.reservations = .empty)
  (unclaimed : start.store.claims = .empty) (unchecked : start.checked = []) (unlogged : start.activations = [])
include sold limited unreserved unclaimed unchecked unlogged

theorem ledgerFresh : Ledger planId plan start := by
  have empty : ∀ {P : Nat → Reservation → Prop}, ∀ id r, start.store.reservations.get? id = some r → P id r := by
    rw [unreserved]
    intro _ _ r found
    cases found
  refine ⟨sold,⟨unreserved ▸ keyedEmpty,?_,?_,empty,empty⟩,empty,empty,?_,?_,?_⟩
  · rw [unreserved,unclaimed]
    exact Int.le_of_lt limited
  · rw [unclaimed]
    intro i j c d found
    cases found
  · simp [unchecked]
  · simp [unlogged]
  · simp [unlogged]

theorem founderAllocation : Always (founderStep runtime) (Allocated runtime planId plan) start events :=
  alwaysOfKeeps (@ledgerStep runtime planId plan limited) (fun _ ledger => allocatedOf ledger) events
    (ledgerFresh sold limited unreserved unclaimed unchecked unlogged)

end Run

section Instances

def sandboxPlan : RecurringPlan := ⟨true,true,20,1,20,0,sandboxConfig.founderPriceId,sandboxConfig.standardPriceId,true⟩

def opening : FounderSystem := ⟨1000,⟨⟨[(1,sandboxPlan)],by decide⟩,[1],.empty,.empty,.empty,.empty,.empty⟩,[],[]⟩

def firstCheckout : PaidCheckout :=
  ⟨⟨"a",by decide +kernel⟩,⟨"cs_1",by decide +kernel⟩,⟨"cus_1",by decide +kernel⟩,⟨"sub_1",by decide +kernel⟩,
    ⟨sandboxPlan.founderStripePriceId,sandboxConfig.founderTrimmed⟩⟩

def secondCheckout : PaidCheckout :=
  ⟨⟨"b",by decide +kernel⟩,⟨"cs_2",by decide +kernel⟩,⟨"cus_1",by decide +kernel⟩,⟨"sub_2",by decide +kernel⟩,
    ⟨sandboxPlan.standardStripePriceId,sandboxConfig.standardTrimmed⟩⟩

def firstActivation : SeatOp := .activate ⟨1,"cs_1","cus_1","sub_1",sandboxPlan.founderStripePriceId⟩

def secondActivation : SeatOp := .activate ⟨2,"cs_2","cus_1","sub_2",sandboxPlan.standardStripePriceId⟩

def secondSeat : List FounderEvent :=
  [.call (.reserve 1 1 "a"),.checkout firstCheckout,.call firstActivation,.call (.finish "sub_1"),.elapse 60,
    .call (.reserve 1 1 "b"),.checkout secondCheckout,.call secondActivation,.checkout secondCheckout,.call secondActivation]

theorem standardRepeated : (run (founderStep (some sandboxConfig)) opening secondSeat).activations.map (·.stripeSubscriptionId) =
      ["sub_2","sub_2","sub_1"] ∧
    Always (founderStep (some sandboxConfig)) (Allocated (some sandboxConfig) 1 sandboxPlan) opening secondSeat :=
  ⟨by decide +kernel,founderAllocation secondSeat (by decide +kernel) (by decide) rfl rfl rfl rfl⟩

end Instances

end NovaPuraRouter.FounderClaim
