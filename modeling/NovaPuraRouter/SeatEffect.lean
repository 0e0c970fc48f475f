import NovaPuraRouter.StripeSeat

/-! What a committed operation can do to the reservations and the founder claims: one case
for each kind of change, with what was checked before it. -/
namespace NovaPuraRouter.StripeSeat
open Table
open SubscriptionUsage (trimmed)

structure Aside (db db' : SeatStore) : Prop where
  plans : db'.plans = db.plans
  reservations : db'.reservations = db.reservations
  claims : db'.claims = db.claims

theorem Aside.refl (db) : Aside db db := ⟨rfl,rfl,rfl⟩

section Beside
variable {runtime : Option StripeSubscriptionConfig} {db db' : SeatStore}

theorem createSubscriptionAside {s} (ok : createSubscription db s = .ok db') : Aside db db' := by
  simp only [createSubscription,bindOk,requireOk] at ok
  obtain ⟨_,_,ok⟩ := ok
  cases pureOk.mp ok
  exact ⟨rfl,rfl,rfl⟩

variable {id : Nat} {plan : RecurringPlan} {r : Reservation} {existing : Option (Nat × StripeSubscription)}

theorem createdEntitlement {userId planId} (ok : createUserSubscriptionFromPlanAtTx runtime db userId planId plan = .ok (id,db')) :
    id = db.entitlements.nextId ∧ db' = { db with entitlements := db.entitlements.append ⟨userId,planId,true⟩ } := by
  simp only [createUserSubscriptionFromPlanAtTx,bindOk,requireOk,rowOk] at ok
  obtain ⟨_,_,_,_,_,_,_,_,ok⟩ := ok
  cases pureOk.mp ok
  exact ⟨rfl,rfl⟩

theorem restoreCases (ok : restoreStripeSubscriptionEntitlementTx db id = .ok db') :
    (id = 0 ∧ db' = db) ∨ ∃ e, db.entitlements.get? id = some e ∧
      db' = { db with entitlements := db.entitlements.modify id (fun e => { e with active := true }) } := by
  unfold restoreStripeSubscriptionEntitlementTx at ok
  split at ok
  · rename_i nothing
    cases ok
    exact .inl ⟨nothing,rfl⟩
  simp only [bindOk,rowOk] at ok
  obtain ⟨e,found,ok⟩ := ok
  cases pureOk.mp ok
  exact .inr ⟨e,found,rfl⟩

theorem restoreAside (ok : restoreStripeSubscriptionEntitlementTx db id = .ok db') : Aside db db' := by
  obtain ⟨_,rfl⟩ | ⟨_,_,rfl⟩ := restoreCases ok
  · exact .refl _
  · exact ⟨rfl,rfl,rfl⟩

theorem ensureAside {entitlementId} (ok : ensureStripeSubscriptionEntitlementTx runtime db id entitlementId r plan = .ok db') :
    Aside db db' := by
  unfold ensureStripeSubscriptionEntitlementTx at ok
  split at ok
  · simp only [bindOk] at ok
    obtain ⟨⟨_,_⟩,created,ok⟩ := ok
    obtain ⟨_,rfl⟩ := createdEntitlement created
    have restored := restoreAside ok
    exact { restored with }
  · exact restoreAside ok

theorem attachEntitlementAside {input} (ok : attachEntitlement runtime db existing input r plan = .ok db') : Aside db db' := by
  cases existing with
  | some =>
    simp only [attachEntitlement,bindOk,requireOk] at ok
    obtain ⟨_,_,ok⟩ := ok
    have ensured := ensureAside ok
    exact { ensured with }
  | none =>
    simp only [attachEntitlement,bindOk] at ok
    obtain ⟨⟨_,_⟩,created,ok⟩ := ok
    obtain ⟨_,rfl⟩ := createdEntitlement created
    have beside := createSubscriptionAside ok
    exact { beside with }

theorem recordedInvoice {input inserted} (ok : recordStripeSubscriptionInvoiceTx db input = .ok (inserted,db')) :
    ∃ invoices, db' = { db with invoices := invoices } := by
  simp only [recordStripeSubscriptionInvoiceTx,bindOk,requireOk] at ok
  obtain ⟨_,_,ok⟩ := ok
  split at ok
  · unfold settleInvoice at ok
    split at ok
    · simp only [bindOk,requireOk] at ok
      obtain ⟨_,_,ok⟩ := ok
      cases pureOk.mp ok
      exact ⟨_,rfl⟩
    · cases ok
      exact ⟨_,rfl⟩
  · have result := pureOk.mp ok
    unfold insertInvoice at result
    split at result
    · cases result
      exact ⟨_,rfl⟩
    split at result
    · cases result
      exact ⟨_,rfl⟩
    · cases result
      exact ⟨_,rfl⟩

theorem renewedAside (ok : renewed db id = .ok db') : Aside db db' := by
  simp only [renewed,bindOk,rowOk] at ok
  obtain ⟨_,_,ok⟩ := ok
  have restored := restoreAside ok
  exact { restored with }

theorem expireEntitlementAside (ok : expireEntitlement db id = .ok db') : Aside db db' := by
  unfold expireEntitlement at ok
  split at ok
  · cases ok
    exact .refl db
  simp only [bindOk,rowOk] at ok
  obtain ⟨_,_,ok⟩ := ok
  cases pureOk.mp ok
  exact ⟨rfl,rfl,rfl⟩

theorem attachSubscriptionAside {input} (ok : attachSubscription db existing input r = .ok db') : Aside db db' := by
  cases existing with
  | some =>
    simp only [attachSubscription,bindOk,requireOk] at ok
    obtain ⟨_,_,ok⟩ := ok
    cases pureOk.mp ok
    exact ⟨rfl,rfl,rfl⟩
  | none => exact createSubscriptionAside ok

end Beside

def target (db : SeatStore) : SeatOp → Option Nat
  | .activate input => some input.reservationId
  | .paid input => match findByStripeId db input.stripeSubscriptionId with
    | some (_,s) => if s.userSubscriptionId = 0 then some s.reservationId else none
    | none => none
  | .reconcile id _ => some id
  | _ => none

inductive Cleared (t : Table Nat Reservation) : Table Nat Reservation → Prop
  | none : Cleared t t
  | seat {id : Nat} {r : Reservation} {status : ReservationStatus} (found : t.get? id = some r)
      (closed : status = .released ∨ status = .expired) : Cleared t (t.modify id (fun _ => withdraw status r))

structure Activation (runtime : Option StripeSubscriptionConfig) (now : Nat) (db : SeatStore) (id : Nat)
    (r : Reservation) (subscriptionId priceId : String) (plan : RecurringPlan) (claimId : Nat) (claims : Table Nat FounderClaim) :
    Prop where
  found : db.reservations.get? id = some r
  waits : r.status = .pending ∨ r.status = .reconciliation
  here : lapsed now r = false
  offered : recurringLifecyclePlanTx runtime db r.planId = .ok plan
  price : priceId = expectedPrice plan r.tier
  claim : takeClaim db plan id r priceId = .ok (claimId,claims)
  named : trimmed subscriptionId ≠ ""

section
variable (runtime : Option StripeSubscriptionConfig) (now : Nat) (aim : Option Nat) (db : SeatStore)

inductive SeatEffect : Table Nat Reservation → Table Nat FounderClaim → Prop
  | same : SeatEffect db.reservations db.claims
  | withdrawn {t : Table Nat Reservation} (cleared : Cleared db.reservations t) : SeatEffect t db.claims
  | lapsed : SeatEffect (db.reservations.update (fun _ r => lapsed now r) (withdraw .expired)) db.claims
  | bound {input : BindingInput} {r : Reservation} {plan : RecurringPlan}
      (found : db.reservations.get? input.reservationId = some r)
      (unsettled : r.status = .pending ∨ r.status = .reconciliation ∨ r.status = .active)
      (offered : recurringLifecyclePlanTx runtime db r.planId = .ok plan)
      (price : trimmed input.stripePriceId = expectedPrice plan r.tier)
      (same : r.stripeSubscriptionId = "" ∨ r.stripeSubscriptionId = trimmed input.stripeSubscriptionId)
      (named : trimmed input.stripeSubscriptionId ≠ "") :
      SeatEffect (db.reservations.modify input.reservationId (fun _ => bound input r)) db.claims
  | reconciled {id : Nat} {r : Reservation} {sessionId : String} (aimed : aim = some id)
      (found : db.reservations.get? id = some r) (waits : r.status = .pending ∨ r.status = .reconciliation)
      (here : lapsed now r = false) :
      SeatEffect (db.reservations.modify id (fun _ => reconciled sessionId r)) db.claims
  | activated {id : Nat} {r : Reservation} {sessionId customerId subscriptionId priceId : String} {plan : RecurringPlan}
      {claimId : Nat} {claims : Table Nat FounderClaim} (aimed : aim = some id)
      (activation : Activation runtime now db id r subscriptionId priceId plan claimId claims) :
      SeatEffect (db.reservations.modify id (fun _ => activated plan r sessionId customerId subscriptionId priceId claimId)) claims
  | reserved {t : Table Nat Reservation} {planId userId : Nat} {referenceId : String} {plan : RecurringPlan}
      (cleared : Cleared db.reservations t) (found : db.plans.get? planId = some plan)
      (room : activeCount { db with reservations := t } planId + pendingCount { db with reservations := t } planId now <
        plan.maxActiveSubscriptions)
      (unused : t.count (fun _ other => other.activeUserId = some userId || other.referenceId = trimmed referenceId) = 0) :
      SeatEffect (t.append (newReservation planId userId referenceId
        (tierFor { db with reservations := t } plan planId userId now) now)) db.claims

def Effected (db' : SeatStore) : Prop := db'.plans = db.plans ∧ SeatEffect runtime now aim db db'.reservations db'.claims

end

section Perform
variable {runtime : Option StripeSubscriptionConfig} {db db' : SeatStore} {now : Nat} {aim : Option Nat}
  {userId id : Nat} {sessionId customerId subscriptionId priceId : String} {r : Reservation}

theorem Effected.aside {db1} (effect : Effected runtime now aim db db1) (beside : Aside db1 db') : Effected runtime now aim db db' := by
  refine ⟨beside.plans.trans effect.1,?_⟩
  rw [beside.reservations,beside.claims]
  exact effect.2

theorem Aside.effected (beside : Aside db db') : Effected runtime now aim db db' :=
  Effected.aside ⟨rfl,.same⟩ beside

theorem reclaimCases (ok : reclaimSeat db userId now = .ok db') : db' = db ∨ ∃ id r status, db.reservations.get? id = some r ∧
    r.status ≠ .active ∧ (status = .released ∨ status = .expired) ∧ db' = setReservation db id (withdraw status r) := by
  unfold reclaimSeat at ok
  split at ok
  · cases ok
    exact .inl rfl
  rename_i id held seat
  have found := (memSelect.mp (List.mem_of_getLast? seat)).1
  simp only [modifyHere found] at ok
  split at ok
  · rename_i status
    split at ok
    · cases ok
    · cases ok
      exact .inr ⟨id,held,_,found,by simp [status],.inr rfl,rfl⟩
  · cases ok
  · cases ok
  · rename_i status
    cases ok
    exact .inr ⟨id,held,_,found,by simp [status],.inl rfl,rfl⟩
  · rename_i status
    cases ok
    exact .inr ⟨id,held,_,found,by simp [status],.inr rfl,rfl⟩

theorem reclaimCleared (ok : reclaimSeat db userId now = .ok db') : ∃ t, Cleared db.reservations t ∧ db' = { db with reservations := t } := by
  obtain rfl | ⟨_,_,_,found,_,closed,rfl⟩ := reclaimCases ok
  · exact ⟨_,.none,rfl⟩
  · exact ⟨_,.seat found closed,rfl⟩

theorem reserveEffect {planId referenceId}
    (ok : reserveStripeSubscriptionSeatTx db planId userId referenceId now = .ok db') : Effected runtime now aim db db' := by
  simp only [reserveStripeSubscriptionSeatTx,bindOk,requireOk] at ok
  obtain ⟨_,_,_,_,_,reclaimed,_,_,_,sold,_,room,ok⟩ := ok
  obtain ⟨t,cleared,rfl⟩ := reclaimCleared reclaimed
  simp only [recurringPlanTx,bindOk,requireOk,rowOk] at sold
  obtain ⟨_,_,_,found,_,_,_,_,sold⟩ := sold
  cases pureOk.mp sold
  simp only [createReservation,bindOk,requireOk] at ok
  obtain ⟨_,unused,ok⟩ := ok
  cases pureOk.mp ok
  exact ⟨rfl,.reserved cleared found room unused⟩

theorem activateCases
    (ok : activateStripeSubscriptionReservationTx runtime db id sessionId customerId subscriptionId priceId now = .ok (r,db')) :
    (db' = db ∧ db.reservations.get? id = some r ∧ r.status = .active ∧ r.stripeSubscriptionId = subscriptionId) ∨
    ∃ old plan claimId claims, Activation runtime now db id old subscriptionId priceId plan claimId claims ∧
      r = activated plan old sessionId customerId subscriptionId priceId claimId ∧
      db' = { db with reservations := db.reservations.modify id (fun _ => r), claims := claims } := by
  simp only [activateStripeSubscriptionReservationTx,bindOk,requireOk,rowOk] at ok
  obtain ⟨_,given,old,found,ok⟩ := ok
  split at ok
  · rename_i active
    simp only [bindOk,requireOk] at ok
    obtain ⟨_,same,ok⟩ := ok
    cases pureOk.mp ok
    exact .inl ⟨rfl,found,active,same⟩
  · simp only [bindOk,requireOk] at ok
    obtain ⟨_,waits,_,here,plan,offered,_,priced,⟨claimId,claims⟩,claim,_,_,ok⟩ := ok
    cases pureOk.mp ok
    refine .inr ⟨old,plan,claimId,claims,⟨found,waits,here,offered,?_,claim,given.2.1⟩,rfl,rfl⟩
    unfold checkPrice at priced
    split at priced
    · assumption
    · split at priced
      · cases priced
      · cases priced

theorem activateTxEffect
    (ok : activateStripeSubscriptionReservationTx runtime db id sessionId customerId subscriptionId priceId now = .ok (r,db')) :
    Effected runtime now (some id) db db' := by
  obtain ⟨rfl,_⟩ | ⟨_,_,_,_,activation,rfl,rfl⟩ := activateCases ok
  · exact ⟨rfl,.same⟩
  · exact ⟨rfl,.activated rfl activation⟩

theorem activateEffect {input} (ok : activateStripeSubscriptionWithEntitlement runtime db input now = .ok db') :
    Effected runtime now (some input.reservationId) db db' := by
  simp only [activateStripeSubscriptionWithEntitlement,bindOk,requireOk] at ok
  obtain ⟨_,_,_,_,⟨r,_⟩,done,_,_,ok⟩ := ok
  exact (activateTxEffect done).aside (attachEntitlementAside ok)

theorem activateFromInvoiceEffect {s} (ok : activateFromInvoice runtime db id s now = .ok db') :
    Effected runtime now (some s.reservationId) db db' := by
  simp only [activateFromInvoice,bindOk,requireOk,rowOk] at ok
  obtain ⟨_,_,r,_,ok⟩ := ok
  split at ok
  · simp only [bindOk] at ok
    obtain ⟨⟨r1,db1⟩,done,plan,_,ok⟩ := ok
    cases pureOk.mp done
    exact (ensureAside ok).effected
  · simp only [bindOk] at ok
    obtain ⟨⟨_,_⟩,done,_,_,ok⟩ := ok
    exact (activateTxEffect done).aside (ensureAside ok)

theorem paidCases {input} (ok : applyStripeSubscriptionPaid runtime db input now = .ok db') :
    ∃ id s db1, findByStripeId db input.stripeSubscriptionId = some (id,s) ∧
      (s.userSubscriptionId = 0 ∧ activateFromInvoice runtime db id s now = .ok db1 ∨ s.userSubscriptionId ≠ 0 ∧ db1 = db) ∧ Aside db1 db' := by
  simp only [applyStripeSubscriptionPaid,bindOk,requireOk,rowOk] at ok
  obtain ⟨⟨id,s⟩,found,_,_,_,_,ok⟩ := ok
  have finished : ∀ {db1 : SeatStore}, (∃ a, recordStripeSubscriptionInvoiceTx db1 { input with
      planId := if input.planId = 0 then s.planId else input.planId
      userId := if input.userId = 0 then s.userId else input.userId } = .ok a ∧
      (if a.1 = true then renewed a.2 id else pure a.2) = .ok db') → Aside db1 db' := by
    rintro db1 ⟨⟨inserted,db2⟩,recorded,ok⟩
    obtain ⟨_,rfl⟩ := recordedInvoice recorded
    split at ok
    · have renewed := renewedAside ok
      exact { renewed with }
    · cases pureOk.mp ok
      exact ⟨rfl,rfl,rfl⟩
  split at ok
  · rename_i unentitled
    simp only [bindOk] at ok
    obtain ⟨db1,done,ok⟩ := ok
    exact ⟨id,s,db1,found,.inl ⟨unentitled,done⟩,finished ok⟩
  · rename_i entitled
    simp only [bindOk] at ok
    obtain ⟨_,done,ok⟩ := ok
    cases pureOk.mp done
    exact ⟨id,s,db,found,.inr ⟨entitled,rfl⟩,finished ok⟩

theorem paidEffect {input} (ok : applyStripeSubscriptionPaid runtime db input now = .ok db') :
    Effected runtime now (target db (.paid input)) db db' := by
  obtain ⟨_,s,_,found,done,beside⟩ := paidCases ok
  simp only [target,found]
  rcases done with ⟨unentitled,done⟩ | ⟨_,rfl⟩
  · rw [if_pos unentitled]
    exact (activateFromInvoiceEffect done).aside beside
  · exact beside.effected

theorem withdrawEffect {status} (found : db.reservations.get? id = some r) (closed : status = .released ∨ status = .expired) :
    Effected runtime now aim db (setReservation db id (withdraw status r)) := ⟨rfl,.withdrawn (.seat found closed)⟩

theorem releasePendingEffect (ok : releasePendingStripeSubscriptionReservation db id = .ok db') : Effected runtime now aim db db' := by
  simp only [releasePendingStripeSubscriptionReservation,bindOk,requireOk,rowOk] at ok
  obtain ⟨_,_,r,found,ok⟩ := ok
  cases pureOk.mp ok
  split
  · exact withdrawEffect found (.inl rfl)
  · exact (Aside.refl db).effected

theorem reconcileEffect {outcome} (ok : markStripeSubscriptionCheckoutReconciliation db id sessionId now = .ok (outcome,db')) :
    Effected runtime now (some id) db db' := by
  simp only [markStripeSubscriptionCheckoutReconciliation,bindOk,requireOk,rowOk] at ok
  obtain ⟨_,_,r,found,ok⟩ := ok
  split at ok
  · cases pureOk.mp ok
    exact withdrawEffect found (.inr rfl)
  rename_i here
  split at ok
  · cases pureOk.mp ok
    exact (Aside.refl db).effected
  rename_i unsettled
  simp only [bindOk,requireOk] at ok
  obtain ⟨_,_,ok⟩ := ok
  cases pureOk.mp ok
  have waits : r.status = .pending ∨ r.status = .reconciliation := by
    cases status : r.status <;> simp [status] at unsettled ⊢
  exact ⟨rfl,.reconciled rfl found waits (Bool.eq_false_iff.mpr here)⟩

theorem releaseBeside {subscriptions} (ok : releaseStripeSubscriptionReservationTx { db with subscriptions := subscriptions } id = .ok db') :
    Effected runtime now aim db db' := by
  simp only [releaseStripeSubscriptionReservationTx,bindOk,requireOk,rowOk] at ok
  obtain ⟨_,_,r,found,ok⟩ := ok
  cases pureOk.mp ok
  split
  · exact ⟨rfl,.same⟩
  · exact ⟨rfl,.withdrawn (.seat found (.inl rfl))⟩

theorem finishEffect {stripeSubscriptionId} (ok : endStripeSubscription db stripeSubscriptionId now = .ok db') :
    Effected runtime now aim db db' := by
  simp only [endStripeSubscription,bindOk,requireOk] at ok
  obtain ⟨_,_,ok⟩ := ok
  split at ok
  · cases pureOk.mp ok
    exact (Aside.refl db).effected
  simp only [endStripeSubscriptionTx,bindOk] at ok
  obtain ⟨_,released,ok⟩ := ok
  refine Effected.aside ?_ (expireEntitlementAside ok)
  unfold releaseHeld at released
  split at released
  · cases released
    exact ⟨rfl,.same⟩
  split at released
  · cases released
    exact ⟨rfl,.same⟩
  · exact releaseBeside released

theorem bindEffect {input} (ok : bindStripeSubscriptionCheckout runtime db input = .ok db') : Effected runtime now aim db db' := by
  simp only [bindStripeSubscriptionCheckout,bindOk,requireOk,rowOk] at ok
  obtain ⟨_,given,_,_,r,found,_,unsettled,_,offered,_,price,_,same,_,_,ok⟩ := ok
  have written : Effected runtime now aim db (setReservation db input.reservationId (bound input r)) :=
    ⟨rfl,.bound found unsettled offered price same given.2.1⟩
  exact written.aside (attachSubscriptionAside ok)

theorem performEffect {op} (ok : perform runtime db now op = .ok db') : Effected runtime now (target db op) db db' := by
  cases op with
  | reserve => exact reserveEffect ok
  | activate => exact activateEffect ok
  | paid => exact paidEffect ok
  | releasePending => exact releasePendingEffect ok
  | expire =>
    cases ok
    exact ⟨rfl,.lapsed⟩
  | reconcile =>
    obtain ⟨⟨_,_⟩,marked,rfl⟩ := mapOk.mp ok
    exact reconcileEffect marked
  | finish => exact finishEffect ok
  | bind => exact bindEffect ok

end Perform

end NovaPuraRouter.StripeSeat
