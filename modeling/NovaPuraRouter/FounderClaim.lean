import NovaPuraRouter.SeatCapacity

/-! The founder price. A reservation holds a founder slot until its activation, when a
permanent claim takes its place. A paid checkout is checked against its reservation before
the transaction that activates it. The state keeps the checkouts that passed and a log of
the activations reported as done, each with the price it was asked for. -/
namespace NovaPuraRouter.FounderClaim
open StripeSeat SeatCapacity Table
open SubscriptionUsage (trimmed)

structure PricedActivation where
  stripeSubscriptionId : String
  planId : Nat
  userId : Nat
  reservationId : Nat
  stripePriceId : String
  deriving DecidableEq, Repr

structure FounderSystem where
  clock : Nat
  store : SeatStore
  checked : List ActivationInput
  activations : List PricedActivation

structure PaidCheckout where
  referenceId : Word
  sessionId : Word
  customerId : Word
  stripeSubscriptionId : Word
  priceId : Word

inductive FounderEvent
  | elapse (seconds : Nat)
  | checkout (c : PaidCheckout)
  | call (op : SeatOp)

/- What a paid checkout is compared with before anything is locked. -/
def checkedInput (runtime : Option StripeSubscriptionConfig) (db : SeatStore) (c : PaidCheckout) : Option ActivationInput :=
  match reservationByReference db c.referenceId.text with
  | none => none
  | some (id,r) => match recurringLifecyclePlanTx runtime db r.planId with
    | .error _ => none
    | .ok plan =>
      if sessionMatches r c.sessionId ∧ (r.stripeCustomerId = "" ∨ r.stripeCustomerId = c.customerId.text) ∧
        c.priceId.text = expectedPrice plan r.tier then
        some ⟨id,c.sessionId.text,c.customerId.text,c.stripeSubscriptionId.text,c.priceId.text⟩
      else none

def called (checked : List ActivationInput) : SeatOp → Bool
  | .activate input => decide (input ∈ checked)
  | _ => true

structure Request where
  reservationId : Nat
  stripeSubscriptionId : String
  stripePriceId : String

/- An invoice activates a reservation that is not active yet. -/
def request (db : SeatStore) : SeatOp → Option Request
  | .activate input => some ⟨input.reservationId,input.stripeSubscriptionId,input.stripePriceId⟩
  | .paid input => match findByStripeId db input.stripeSubscriptionId with
    | some (_,s) =>
      if s.userSubscriptionId = 0 ∧ ((db.reservations.get? s.reservationId).map (·.status)) ≠ some .active then
        some ⟨s.reservationId,s.stripeSubscriptionId,s.stripePriceId⟩
      else none
    | none => none
  | _ => none

def recorded (db db' : SeatStore) (op : SeatOp) : List PricedActivation := match request db op with
  | none => []
  | some asked => match db'.reservations.get? asked.reservationId with
    | none => []
    | some r => [⟨trimmed asked.stripeSubscriptionId,r.planId,r.userId,asked.reservationId,trimmed asked.stripePriceId⟩]

-- The operations follow one another and none of them waits.
def founderStep (runtime : Option StripeSubscriptionConfig) (sys : FounderSystem) : FounderEvent → FounderSystem
  | .elapse seconds => { sys with clock := sys.clock + seconds }
  | .checkout c => { sys with checked := (checkedInput runtime sys.store c).toList ++ sys.checked }
  | .call op => if called sys.checked op = false then sys else match perform runtime sys.store sys.clock op with
    | .error _ => sys
    | .ok db' => { sys with store := db', activations := recorded sys.store db' op ++ sys.activations }

def Claimed (claims : Table Nat FounderClaim) (planId userId reservationId : Nat) : Prop :=
  ∃ i, claims.get? i = some ⟨planId,userId,reservationId⟩

def OneClaimEach (claims : Table Nat FounderClaim) (planId : Nat) : Prop :=
  ∀ i j c d, claims.get? i = some c → claims.get? j = some d → c.planId = planId → d.planId = planId → c.userId = d.userId → i = j

def Honoured {α : Type} (x : Except SeatFailure α) : Prop := x ≠ .error .founderSoldOut ∧ x ≠ .error .founderClaimUsed

section Property
variable (runtime : Option StripeSubscriptionConfig) (planId : Nat) (plan : RecurringPlan)

def PricedActivation.founder (a : PricedActivation) : Prop := a.planId = planId ∧ a.stripePriceId = plan.founderStripePriceId

structure Allocated (sys : FounderSystem) : Prop where
  slots : claimCount sys.store planId + founderTierReservations sys.store planId sys.clock ≤ plan.founderPurchaseLimit
  oneClaim : OneClaimEach sys.store.claims planId
  belongs : ∀ a ∈ sys.activations, a.founder planId plan → Claimed sys.store.claims planId a.userId a.reservationId
  distinct : ∀ a ∈ sys.activations, ∀ b ∈ sys.activations, a.founder planId plan → b.founder planId plan →
    a.userId = b.userId → a.stripeSubscriptionId = b.stripeSubscriptionId
  honoured : ∀ id r, sys.store.reservations.get? id = some r → r.planId = planId → r.tier = .founder →
    waiting sys.clock r = true → ∀ op, target sys.store op = some id → Honoured (perform runtime sys.store sys.clock op)

structure Slots (now : Nat) (t : Table Nat Reservation) (claims : Table Nat FounderClaim) : Prop where
  keyed : Keyed t
  slots : claims.count (fun _ c => c.planId = planId) + t.count (fun _ r => r.planId = planId && r.tier = .founder && waiting now r) ≤
    plan.founderPurchaseLimit
  oneClaim : OneClaimEach claims planId
  unclaimed : ∀ id r, t.get? id = some r → r.planId = planId → r.tier = .founder → r.status = .pending ∨ r.status = .reconciliation →
    ∀ i c, claims.get? i = some c → c.planId = planId → c.userId ≠ r.userId
  backed : ∀ id r, t.get? id = some r → r.planId = planId → r.status = .active →
    r.tier = .founder ∨ r.stripePriceId = plan.founderStripePriceId → Claimed claims planId r.userId id

end Property

section Rows
variable {planId : Nat} {plan : RecurringPlan} {now : Nat} {t : Table Nat Reservation} {claims : Table Nat FounderClaim}

theorem offeredPlan {runtime db id plan} (offered : recurringLifecyclePlanTx runtime db id = .ok plan) :
    db.plans.get? id = some plan ∧ plan.founderStripePriceId ≠ plan.standardStripePriceId ∧
      trimmed plan.founderStripePriceId = plan.founderStripePriceId ∧ trimmed plan.standardStripePriceId = plan.standardStripePriceId := by
  simp only [recurringLifecyclePlanTx,validateStripeSubscriptionPlan,bindOk,requireOk,rowOk] at offered
  obtain ⟨_,_,_,here,config,_,_,⟨_,_,_,_,founder,standard⟩,ok⟩ := offered
  cases pureOk.mp ok
  rw [founder,standard]
  exact ⟨here,config.distinct,config.founderTrimmed,config.standardTrimmed⟩

variable {r r' : Reservation}

theorem waitingStatus (waits : waiting now r = true) : r.status = .pending ∨ r.status = .reconciliation := by
  simp only [waiting,decide_eq_true_eq] at waits
  rcases waits with ⟨pending,_⟩ | reconciliation
  · exact .inl pending
  · exact .inr reconciliation

theorem waitingHere (waits : r.status = .pending ∨ r.status = .reconciliation) (here : lapsed now r = false) : waiting now r = true := by
  rcases waits with pending | reconciliation
  · simp only [lapsed,pending,true_and,decide_eq_false_iff_not] at here
    simp only [waiting,unexpired,pending,decide_eq_true_eq,true_and]
    omega
  · simp [waiting,reconciliation]

section
variable (slots : Slots planId plan now t claims)
include slots

theorem slotsRow {id} (found : t.get? id = some r)
    (keyed : Keyed (t.modify id (fun _ => r'))) (samePlan : r'.planId = r.planId) (sameUser : r'.userId = r.userId)
    (fewer : r'.planId = planId → r'.tier = .founder → waiting now r' = true → r.tier = .founder ∧ waiting now r = true)
    (waits : r'.planId = planId → r'.tier = .founder → r'.status = .pending ∨ r'.status = .reconciliation →
      r.tier = .founder ∧ (r.status = .pending ∨ r.status = .reconciliation))
    (backed : r'.planId = planId → r'.status = .active → r'.tier = .founder ∨ r'.stripePriceId = plan.founderStripePriceId →
      Claimed claims planId r'.userId id) : Slots planId plan now (t.modify id (fun _ => r')) claims := by
  refine ⟨keyed,?_,slots.oneClaim,?_,?_⟩
  · have before := slots.slots
    have change := countModify found (fun _ => r') (fun _ r => r.planId = planId && r.tier = .founder && waiting now r)
    rw [change]
    by_cases counts : (decide (r'.planId = planId) && decide (r'.tier = .founder) && waiting now r') = true
    · simp only [Bool.and_eq_true,decide_eq_true_eq] at counts
      obtain ⟨⟨here,founder⟩,alive⟩ := counts
      obtain ⟨tier,held⟩ := fewer here founder alive
      simp only [here,founder,alive,samePlan.symm.trans here,tier,held,decide_true,Bool.and_self,if_true]
      omega
    · simp only [counts,if_false,Bool.false_eq_true]
      split <;> omega
  · intro k a got here founder status i c claim plan'
    obtain ⟨_,_,rfl,rfl⟩ | ⟨_,old⟩ := modifyCases got
    · obtain ⟨tier,waited⟩ := waits here founder status
      rw [sameUser]
      exact slots.unclaimed _ r found (samePlan.symm.trans here) tier waited i c claim plan'
    · exact slots.unclaimed k a old here founder status i c claim plan'
  · intro k a got here active priced
    obtain ⟨_,_,rfl,rfl⟩ | ⟨_,old⟩ := modifyCases got
    · exact backed here active priced
    · exact slots.backed k a old here active priced

theorem slotsCleared {t'} (cleared : Cleared t t') : Slots planId plan now t' claims := by
  cases cleared with
  | none => exact slots
  | @seat _ r status found closed =>
    have gone : waiting now (withdraw status r) = false := by
      rcases closed with rfl | rfl <;> simp [waiting,withdraw]
    refine slotsRow slots found (keyedWithdraw slots.keyed found closed) rfl rfl ?_ ?_ ?_
    · intro _ _ alive
      rw [gone] at alive
      cases alive
    · intro _ _ waits
      rcases closed with rfl | rfl <;> simp [withdraw] at waits
    · intro _ active
      rcases closed with rfl | rfl <;> simp [withdraw] at active

theorem slotsLapsed : Slots planId plan now (t.update (fun _ r => lapsed now r) (withdraw .expired)) claims := by
  refine ⟨keyedLapsed slots.keyed now,?_,slots.oneClaim,?_,?_⟩
  · refine le_trans (Int.add_le_add_left ?_ _) slots.slots
    simp only [countSum,sumUpdate]
    refine sumMono (fun _ r _ => ?_)
    by_cases past : lapsed now r = true
    · have gone : waiting now (withdraw .expired r) = false := by simp [waiting,withdraw]
      simp only [past,if_true,gone,Bool.and_false,Bool.false_eq_true,if_false]
      split <;> decide
    · simp [past]
  · intro k a got here founder waits
    obtain ⟨old,row,rfl | rfl⟩ := updateCases got
    · rcases waits with status | status <;> simp [withdraw] at status
    · exact slots.unclaimed k a row here founder waits
  · intro k a got here active priced
    obtain ⟨_,row,rfl | rfl⟩ := updateCases got
    · cases active
    · exact slots.backed k a row here active priced

theorem slotsLater {clock} (later : now ≤ clock) : Slots planId plan clock t claims := by
  refine { slots with slots := le_trans (Int.add_le_add_left ?_ _) slots.slots }
  refine countMono (fun _ r _ here => ?_)
  simp only [Bool.and_eq_true,waiting,unexpired,decide_eq_true_eq] at here ⊢
  refine ⟨here.1,?_⟩
  rcases here.2 with ⟨pending,_⟩ | reconciliation
  · exact .inl ⟨pending,by omega⟩
  · exact .inr reconciliation

theorem slotsElsewhere {c} (other : c.planId ≠ planId) : Slots planId plan now t (claims.append c) := by
  have back : ∀ {i d}, (claims.append c).get? i = some d → d.planId = planId → claims.get? i = some d := by
    intro i d got here
    rcases appendCases got with ⟨_,rfl⟩ | old
    · exact absurd here other
    · exact old
  refine ⟨slots.keyed,?_,?_,?_,?_⟩
  · rw [countAppend]
    simpa [other] using slots.slots
  · intro i j d e gotD gotE planD planE
    exact slots.oneClaim i j d e (back gotD planD) (back gotE planE) planD planE
  · intro id r found here founder waits i d got plan'
    exact slots.unclaimed id r found here founder waits i d (back got plan') plan'
  · intro id r found here active priced
    obtain ⟨i,got⟩ := slots.backed id r found here active priced
    exact ⟨i,getAppendOld got c⟩

theorem slotsClaimed {id} (found : t.get? id = some r)
    (here : r.planId = planId) (founder : r.tier = .founder) (alive : waiting now r = true)
    (samePlan : r'.planId = r.planId) (sameUser : r'.userId = r.userId) (active : r'.status = .active)
    (keyed : Keyed (t.modify id (fun _ => r'))) :
    Slots planId plan now (t.modify id (fun _ => r')) (claims.append ⟨planId,r.userId,id⟩) := by
  have waits := waitingStatus alive
  have nothing := slots.unclaimed id r found here founder waits
  refine ⟨keyed,?_,?_,?_,?_⟩
  · have before := slots.slots
    have gone : waiting now r' = false := by simp [waiting,active]
    have change := countModify found (fun _ => r') (fun _ r => r.planId = planId && r.tier = .founder && waiting now r)
    simp only [here,founder,alive,gone,Bool.and_false,decide_true,Bool.and_self,if_true,Bool.false_eq_true,if_false] at change
    rw [change,countAppend]
    omega
  · intro i j d e gotD gotE planD planE same
    rcases appendCases gotD with ⟨lastD,rfl⟩ | oldD
    · rcases appendCases gotE with ⟨lastE,rfl⟩ | oldE
      · rw [lastD,lastE]
      · exact absurd same.symm (nothing j e oldE planE)
    · rcases appendCases gotE with ⟨_,rfl⟩ | oldE
      · exact absurd same (nothing i d oldD planD)
      · exact slots.oneClaim i j d e oldD oldE planD planE same
  · intro k a got planA tierA waitsA i d claim planD
    obtain ⟨_,_,rfl,rfl⟩ | ⟨other,old⟩ := modifyCases got
    · rcases waitsA with status | status <;> simp [active] at status
    rcases appendCases claim with ⟨_,rfl⟩ | oldClaim
    · -- A user has one reservation that waits.
      intro (same : r.userId = a.userId)
      refine other (slots.keyed.single k id a r old found ?_ ?_)
      · rw [waitingHolder slots.keyed old waitsA,waitingHolder slots.keyed found waits,same]
      · rw [waitingHolder slots.keyed old waitsA]
        exact Option.some_ne_none _
    · exact slots.unclaimed k a old planA tierA waitsA i d oldClaim planD
  · intro k a got planA activeA priced
    obtain ⟨_,_,rfl,rfl⟩ | ⟨_,old⟩ := modifyCases got
    · refine ⟨claims.nextId,?_⟩
      rw [getAppend,if_pos rfl,sameUser]
    · obtain ⟨i,claim⟩ := slots.backed k a old planA activeA priced
      exact ⟨i,getAppendOld claim _⟩

theorem slotsReserved (keyed : Keyed (t.append r)) (status : r.status = .pending) (founder : r.planId = planId → r.tier = .founder →
      claims.count (fun _ c => c.planId = planId) + t.count (fun _ r => r.planId = planId && r.tier = .founder && waiting now r) <
        plan.founderPurchaseLimit ∧ ∀ i c, claims.get? i = some c → c.planId = planId → c.userId ≠ r.userId) :
    Slots planId plan now (t.append r) claims := by
  refine ⟨keyed,?_,slots.oneClaim,?_,?_⟩
  · have before := slots.slots
    rw [countAppend]
    split
    · rename_i counts
      simp only [Bool.and_eq_true,decide_eq_true_eq] at counts
      have room := (founder counts.1.1 counts.1.2).1
      omega
    · omega
  · intro k a got here tier waits
    rcases appendCases got with ⟨_,rfl⟩ | old
    · exact (founder here tier).2
    · exact slots.unclaimed k a old here tier waits
  · intro k a got here active priced
    rcases appendCases got with ⟨_,rfl⟩ | old
    · rw [status] at active
      cases active
    · exact slots.backed k a old here active priced

end

end Rows

section Effect
variable {runtime : Option StripeSubscriptionConfig} {planId : Nat} {plan : RecurringPlan} {now : Nat} {db : SeatStore}

theorem claimOfNone {planId userId} (nothing : claimOf db planId userId = none) {i c}
    (found : db.claims.get? i = some c) (here : c.planId = planId) : c.userId ≠ userId := by
  intro same
  have mem : (i,c) ∈ db.claims.select (fun _ c => c.planId = planId && c.userId = userId) :=
    memSelect.mpr ⟨found,by simp [here,same]⟩
  rw [List.head?_eq_none_iff.mp nothing] at mem
  cases mem

variable {claims : Table Nat FounderClaim}

theorem slotsActivated (sold : db.plans.get? planId = some plan) (limited : 0 < plan.founderPurchaseLimit)
    (slots : Slots planId plan now db.reservations db.claims) {id r} {sessionId customerId subscriptionId priceId offer claimId}
    (activation : Activation runtime now db id r subscriptionId priceId offer claimId claims) : Slots planId plan now (db.reservations.modify id
      (fun _ => activated offer r sessionId customerId subscriptionId priceId claimId)) claims := by
  obtain ⟨found,waits,here,offered,price,claim,_⟩ := activation
  obtain ⟨row,distinct,_,trimmedStandard⟩ := offeredPlan offered
  have keyed : Keyed (db.reservations.modify id (fun _ => activated offer r sessionId customerId subscriptionId priceId claimId)) :=
    keyedSet slots.keyed found (by simp [activated]) (.inr (waitingHolder slots.keyed found waits).symm)
  by_cases own : r.planId = planId
  · cases sold.symm.trans (own ▸ row)
    cases tier : r.tier with
    | founder =>
      rw [tier] at price
      cases price
      unfold takeClaim at claim
      split at claim
      · simp [expectedPrice] at claim
      simp only [expectedPrice,limited,and_self,if_true] at claim
      split at claim
      · cases claim
        rw [own]
        exact slotsClaimed slots found own tier (waitingHere waits here) rfl rfl rfl keyed
      · cases claim
    | standard =>
      rw [tier] at price
      cases price
      have same : claims = db.claims := by
        unfold takeClaim at claim
        split at claim
        · split at claim
          · cases claim
          · cases claim
            rfl
        · simp only [expectedPrice,Ne.symm distinct,false_and,if_false] at claim
          cases claim
          rfl
      subst same
      refine slotsRow slots found keyed rfl rfl ?_ ?_ ?_
      · intro _ _ alive
        cases alive
      · intro _ _ status
        simp [activated] at status
      · intro _ _ priced
        simp only [activated,expectedPrice,Ne.symm distinct,and_false,if_false,trimmedStandard,or_false] at priced
        cases priced
  · have moved : Slots planId plan now (db.reservations.modify id
        (fun _ => activated offer r sessionId customerId subscriptionId priceId claimId)) db.claims :=
      slotsRow slots found keyed rfl rfl (fun here => absurd here own) (fun here => absurd here own) (fun here => absurd here own)
    unfold takeClaim at claim
    split at claim
    · split at claim
      · cases claim
      · cases claim
        exact moved
    · split at claim
      · split at claim
        · cases claim
          exact slotsElsewhere moved own
        · cases claim
      · cases claim
        exact moved

theorem boundFrame (input r) : (bound input r).planId = r.planId ∧ (bound input r).userId = r.userId ∧
    (bound input r).tier = r.tier ∧ (bound input r).status = r.status ∧ (bound input r).expiresAt = r.expiresAt := by
  simp only [bound,and_self]

theorem slotsEffect {aim t} (sold : db.plans.get? planId = some plan) (limited : 0 < plan.founderPurchaseLimit)
    (slots : Slots planId plan now db.reservations db.claims) (effect : SeatEffect runtime now aim db t claims) :
    Slots planId plan now t claims := by
  have keyed := keyedEffect slots.keyed effect
  cases effect with
  | same => exact slots
  | withdrawn cleared => exact slotsCleared slots cleared
  | lapsed => exact slotsLapsed slots
  | @bound input r _ found _ offered price =>
    obtain ⟨row,distinct,_⟩ := offeredPlan offered
    obtain ⟨samePlan,sameUser,sameTier,sameStatus,sameExpiry⟩ := boundFrame input r
    have waits : waiting now (bound input r) = waiting now r := by
      unfold waiting unexpired
      rw [sameStatus,sameExpiry]
    refine slotsRow slots found keyed samePlan sameUser ?_ ?_ ?_
    · intro _ tier alive
      exact ⟨sameTier ▸ tier,waits ▸ alive⟩
    · intro _ tier status
      exact ⟨sameTier ▸ tier,sameStatus ▸ status⟩
    · intro here active priced
      refine slots.backed input.reservationId r found here active (.inl ?_)
      cases sold.symm.trans (here ▸ row)
      cases tier : r.tier with
      | founder => rfl
      | standard =>
        simp only [bound,price,tier,expectedPrice] at priced
        rcases priced with founder | founder
        · cases founder
        · exact absurd founder (Ne.symm distinct)
  | @reconciled _ _ _ _ found waits here =>
    exact slotsRow slots found keyed rfl rfl (fun _ tier _ => ⟨tier,waitingHere waits here⟩) (fun _ tier _ => ⟨tier,waits⟩)
      (fun _ active => by simp [StripeSeat.reconciled] at active)
  | activated _ activation => exact slotsActivated sold limited slots activation
  | @reserved _ _ _ _ _ cleared found =>
    refine slotsReserved (slotsCleared slots cleared) keyed rfl ?_
    intro here tier
    subst here
    cases sold.symm.trans found
    unfold tierFor at tier
    split at tier
    · rename_i free
      exact ⟨free.2.2,fun i c got planC => claimOfNone free.1 got planC⟩
    · cases tier

end Effect

end NovaPuraRouter.FounderClaim
