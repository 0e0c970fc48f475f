import NovaPuraRouter.SeatEffect

/-! How many seats of a plan are held. A reservation is counted against the clock the new
one has read; an operation that has waited goes by its own, older clock and can take a seat
for a reservation that no longer counts. -/
namespace NovaPuraRouter.SeatCapacity
open StripeSeat Table

structure SeatSystem where
  clock : Nat
  store : SeatStore

inductive SeatEvent
  | elapse (seconds : Nat)
  | call (waited : Nat) (op : SeatOp)

-- A clock value that is not positive is read again.
def sampled (clock waited : Nat) : Nat := if clock - waited = 0 then clock else clock - waited

def seatStep (runtime : Option StripeSubscriptionConfig) (sys : SeatSystem) : SeatEvent → SeatSystem
  | .elapse seconds => { sys with clock := sys.clock + seconds }
  | .call waited op => { sys with store := commit sys.store (perform runtime sys.store (sampled sys.clock waited) op) }

def seats (t : Table Nat Reservation) (planId now : Nat) : Int := t.count (fun _ r => r.planId = planId && live now r)

structure Keyed (t : Table Nat Reservation) : Prop where
  derived : ∀ id r, t.get? id = some r → r.activeUserId = if r.status = .released ∨ r.status = .expired then none else some r.userId
  single : ∀ i j r r', t.get? i = some r → t.get? j = some r' → r.activeUserId = r'.activeUserId → r.activeUserId ≠ none → i = j

def WithinCapacity (sys : SeatSystem) : Prop :=
  ∀ planId plan, sys.store.plans.get? planId = some plan → seats sys.store.reservations planId sys.clock ≤ plan.maxActiveSubscriptions

structure Seated (sys : SeatSystem) : Prop where
  capacity : WithinCapacity sys
  oneEach : ∀ i j r r', sys.store.reservations.get? i = some r → sys.store.reservations.get? j = some r' →
    live sys.clock r = true → live sys.clock r' = true → r.userId = r'.userId → i = j
  derived : ∀ id r, sys.store.reservations.get? id = some r →
    r.activeUserId = if r.status = .released ∨ r.status = .expired then none else some r.userId

/- No operation takes a seat for a reservation that has lapsed while it waited, unless a
seat is free. -/
def InTime (sys : SeatSystem) : SeatEvent → Prop
  | .elapse _ => True
  | .call waited op => ∀ id ∈ target sys.store op, ∀ r ∈ sys.store.reservations.get? id, r.status = .pending →
    lapsed (sampled sys.clock waited) r = true ∨ unexpired sys.clock r = true ∨
    ∀ plan ∈ sys.store.plans.get? r.planId, seats sys.store.reservations r.planId sys.clock < plan.maxActiveSubscriptions

instance (sys event) : Decidable (InTime sys event) := by cases event <;> (unfold InTime; infer_instance)

theorem keyedEmpty : Keyed .empty := by
  constructor
  · intro _ r found
    cases found
  · intro i j r _ found
    cases found

section Keys
variable {t : Table Nat Reservation} (keyed : Keyed t)
include keyed

variable {r : Reservation}

theorem keyedSet {id r'} (found : t.get? id = some r)
    (derived : r'.activeUserId = if r'.status = .released ∨ r'.status = .expired then none else some r'.userId)
    (holder : r'.activeUserId = none ∨ r'.activeUserId = r.activeUserId) : Keyed (t.modify id (fun _ => r')) := by
  constructor
  · intro k a got
    obtain ⟨_,_,_,rfl⟩ | ⟨_,old⟩ := modifyCases got
    · exact derived
    · exact keyed.derived k a old
  · intro i j a b gotA gotB same held
    obtain ⟨_,_,rfl,rfl⟩ | ⟨_,oldA⟩ := modifyCases gotA
    · obtain ⟨_,_,rfl,rfl⟩ | ⟨_,oldB⟩ := modifyCases gotB
      · rfl
      · rcases holder with gone | kept
        · exact absurd gone held
        · exact keyed.single _ j r b found oldB (kept.symm.trans same) (kept ▸ held)
    · obtain ⟨_,_,rfl,rfl⟩ | ⟨_,oldB⟩ := modifyCases gotB
      · rcases holder with gone | kept
        · exact absurd (same.trans gone) held
        · exact keyed.single i _ a r oldA found (same.trans kept) held
      · exact keyed.single i j a b oldA oldB same held

theorem keyedWithdraw {id status} (found : t.get? id = some r)
    (closed : status = .released ∨ status = .expired) : Keyed (t.modify id (fun _ => withdraw status r)) :=
  keyedSet keyed found (by simp [withdraw,closed]) (.inl rfl)

theorem keyedCleared {t'} (cleared : Cleared t t') : Keyed t' := by
  cases cleared with
  | none => exact keyed
  | seat found closed => exact keyedWithdraw keyed found closed

theorem keyedLapsed (now) : Keyed (t.update (fun _ r => lapsed now r) (withdraw .expired)) := by
  constructor
  · intro k a got
    obtain ⟨_,here,rfl | rfl⟩ := updateCases got
    · simp [withdraw]
    · exact keyed.derived k a here
  · intro i j a b gotA gotB same held
    obtain ⟨_,hereA,rfl | rfl⟩ := updateCases gotA
    · exact absurd rfl held
    · obtain ⟨_,hereB,rfl | rfl⟩ := updateCases gotB
      · exact absurd same held
      · exact keyed.single i j a b hereA hereB same held

theorem waitingHolder {id} (found : t.get? id = some r)
    (waits : r.status = .pending ∨ r.status = .reconciliation) : r.activeUserId = some r.userId := by
  rw [keyed.derived id r found]
  rcases waits with status | status <;> simp [status]

theorem keyedAppend (holder : r.activeUserId = some r.userId) (status : r.status = .pending)
    (unused : ∀ id old, t.get? id = some old → old.activeUserId ≠ some r.userId) : Keyed (t.append r) := by
  constructor
  · intro k a got
    rcases appendCases got with ⟨_,rfl⟩ | old
    · simp [holder,status]
    · exact keyed.derived k a old
  · intro i j a b gotA gotB same held
    rcases appendCases gotA with ⟨lastA,rfl⟩ | oldA
    · rcases appendCases gotB with ⟨lastB,rfl⟩ | oldB
      · rw [lastA,lastB]
      · exact absurd (same.symm.trans holder) (unused j b oldB)
    · rcases appendCases gotB with ⟨_,rfl⟩ | oldB
      · exact absurd (same.trans holder) (unused i a oldA)
      · exact keyed.single i j a b oldA oldB same held

end Keys

theorem keyedEffect {runtime now aim db} {t claims} (keyed : Keyed db.reservations) (effect : SeatEffect runtime now aim db t claims) :
    Keyed t := by
  cases effect with
  | same => exact keyed
  | withdrawn cleared => exact keyedCleared keyed cleared
  | lapsed => exact keyedLapsed keyed now
  | @bound _ r _ found =>
    have derived := keyed.derived _ r found
    exact keyedSet keyed found derived (.inr rfl)
  | reconciled _ found waits =>
    exact keyedSet keyed found (by simp [reconciled]) (.inr (waitingHolder keyed found waits).symm)
  | activated _ activation =>
    exact keyedSet keyed activation.found (by simp [activated]) (.inr (waitingHolder keyed activation.found activation.waits).symm)
  | reserved cleared _ _ unused =>
    refine keyedAppend (keyedCleared keyed cleared) rfl rfl (fun id old got holds => ?_)
    have nothing := countNone unused got
    simp only [Bool.or_eq_false_iff,decide_eq_false_iff_not] at nothing
    exact nothing.1 holds

section Count
variable {t : Table Nat Reservation} {planId now : Nat}

theorem sampledLe (clock waited) : sampled clock waited ≤ clock := by
  unfold sampled
  split <;> omega

theorem liveLater {clock} (later : now ≤ clock) {r} (alive : live clock r = true) : live now r = true := by
  simp only [live,waiting,unexpired,decide_eq_true_eq] at alive ⊢
  rcases alive with active | ⟨pending,endless | ahead⟩ | reconciliation
  · exact .inl active
  · exact .inr (.inl ⟨pending,.inl endless⟩)
  · exact .inr (.inl ⟨pending,.inr (lt_of_le_of_lt later ahead)⟩)
  · exact .inr (.inr reconciliation)

theorem seatsLater {clock} (later : now ≤ clock) : seats t planId clock ≤ seats t planId now := by
  refine countMono (fun _ r _ here => ?_)
  simp only [Bool.and_eq_true] at here ⊢
  exact ⟨here.1,liveLater later here.2⟩

theorem seatsCounted (db) : activeCount db planId + pendingCount db planId now = seats db.reservations planId now := by
  simp only [activeCount,pendingCount,seats,countSum]
  rw [← sumAdd]
  refine sumCongr (fun _ r _ => ?_)
  cases status : r.status <;> by_cases here : r.planId = planId <;> simp [live,waiting,status,here]

theorem seatsSet {id r r'} (found : t.get? id = some r) (kept : r'.planId = r.planId) (still : live now r' = true → live now r = true) :
    seats (t.modify id (fun _ => r')) planId now ≤ seats t planId now := by
  have change := countModify found (fun _ => r') (fun _ r => r.planId = planId && live now r)
  simp only [seats] at change ⊢
  rw [change,kept]
  by_cases alive : live now r' = true
  · simp [alive,still alive]
  · by_cases before : (decide (r.planId = planId) && live now r) = true <;> simp [alive,before]

theorem seatsTaken {id r r'} (found : t.get? id = some r) (kept : r'.planId = r.planId) :
    seats (t.modify id (fun _ => r')) planId now ≤ seats t planId now + if r.planId = planId then 1 else 0 := by
  have change := countModify found (fun _ => r') (fun _ r => r.planId = planId && live now r)
  simp only [seats] at change ⊢
  rw [change,kept]
  by_cases here : r.planId = planId
  · cases live now r' <;> cases live now r <;> simp [here]
  · simp [here]

theorem seatsCleared {t'} (cleared : Cleared t t') : seats t' planId now ≤ seats t planId now := by
  cases cleared with
  | none => exact le_refl _
  | seat found closed =>
    refine seatsSet found rfl (fun alive => ?_)
    rcases closed with rfl | rfl <;> simp [live,waiting,withdraw] at alive

theorem seatsLapsed (clock) : seats (t.update (fun _ r => lapsed clock r) (withdraw .expired)) planId now ≤ seats t planId now := by
  simp only [seats,countSum,sumUpdate]
  refine sumMono (fun _ r _ => ?_)
  by_cases past : lapsed clock r = true
  · have gone : live now (withdraw .expired r) = false := by simp [live,waiting,withdraw]
    simp only [past,if_true,gone,Bool.and_false,Bool.false_eq_true,if_false]
    split <;> decide
  · simp [past]

end Count

section Step
variable {runtime : Option StripeSubscriptionConfig}

variable {sys : SeatSystem}

theorem takenWithin {waited id op r r'} (within : WithinCapacity sys) (inTime : InTime sys (.call waited op))
    (aimed : target sys.store op = some id)
    (found : sys.store.reservations.get? id = some r) (waits : r.status = .pending ∨ r.status = .reconciliation)
    (here : lapsed (sampled sys.clock waited) r = false) (kept : r'.planId = r.planId)
    {planId plan} (sold : sys.store.plans.get? planId = some plan) :
    seats (sys.store.reservations.modify id (fun _ => r')) planId sys.clock ≤ plan.maxActiveSubscriptions := by
  have before := within planId plan sold
  have counted (alive : live sys.clock r = true) :
      seats (sys.store.reservations.modify id (fun _ => r')) planId sys.clock ≤ plan.maxActiveSubscriptions :=
    le_trans (seatsSet found kept (fun _ => alive)) before
  rcases waits with pending | reconciliation
  · rcases inTime id aimed r found pending with past | still | free
    · rw [past] at here
      cases here
    · exact counted (by simp [live,waiting,pending,still])
    have taken := @seatsTaken _ planId sys.clock id r r' found kept
    split at taken
    · rename_i same
      subst same
      have room := free plan sold
      omega
    · omega
  · exact counted (by simp [live,waiting,reconciliation])

theorem withinEffect {waited op db'} (within : WithinCapacity sys) (inTime : InTime sys (.call waited op))
    (effect : Effected runtime (sampled sys.clock waited) (target sys.store op) sys.store db') : WithinCapacity { sys with store := db' } := by
  obtain ⟨plans,effect⟩ := effect
  intro planId plan sold
  have sold : sys.store.plans.get? planId = some plan := plans ▸ sold
  have before : seats sys.store.reservations planId sys.clock ≤ plan.maxActiveSubscriptions := within planId plan sold
  generalize db'.claims = claims at effect
  generalize db'.reservations = t at effect ⊢
  cases effect with
  | same => exact before
  | withdrawn cleared => exact le_trans (seatsCleared cleared) before
  | lapsed => exact le_trans (seatsLapsed _) before
  | bound found => exact le_trans (seatsSet found rfl id) before
  | reconciled aimed found waits here =>
    refine takenWithin within inTime aimed found waits here ?_ sold
    rfl
  | activated aimed activation =>
    refine takenWithin within inTime aimed activation.found activation.waits activation.here ?_ sold
    rfl
  | @reserved t planId' _ _ _ cleared found room =>
    rw [seatsCounted] at room
    have older := @seatsLater t planId' _ _ (sampledLe sys.clock waited)
    have fewer := @seatsCleared _ planId sys.clock t cleared
    simp only [seats,countAppend] at *
    by_cases same : planId' = planId
    · subst same
      cases sold.symm.trans found
      split <;> omega
    · simp only [newReservation,same,decide_false,Bool.false_and,Bool.false_eq_true,if_false]
      omega

theorem keyedStep (sys event) (keyed : Keyed sys.store.reservations) : Keyed (seatStep runtime sys event).store.reservations := by
  cases event with
  | elapse => exact keyed
  | call waited op =>
    obtain ⟨_,ok,eq⟩ | eq := commitCases sys.store (perform runtime sys.store (sampled sys.clock waited) op)
    · simp only [seatStep,eq]
      exact keyedEffect keyed (performEffect ok).2
    · simp only [seatStep,eq]
      exact keyed

theorem withinStep (sys event) (within : WithinCapacity sys) (inTime : InTime sys event) : WithinCapacity (seatStep runtime sys event) := by
  cases event with
  | elapse seconds =>
    intro planId plan sold
    exact le_trans (seatsLater (Nat.le_add_right sys.clock seconds)) (within planId plan sold)
  | call waited op =>
    obtain ⟨_,ok,eq⟩ | eq := commitCases sys.store (perform runtime sys.store (sampled sys.clock waited) op)
    · simp only [seatStep,eq]
      exact withinEffect within inTime (performEffect ok)
    · simp only [seatStep,eq]
      exact within

theorem seatedOf (keyed : Keyed sys.store.reservations) (within : WithinCapacity sys) : Seated sys := by
  have holder : ∀ id r, sys.store.reservations.get? id = some r → live sys.clock r = true → r.activeUserId = some r.userId := by
    intro id r found alive
    rw [keyed.derived id r found]
    cases status : r.status <;> simp [live,waiting,status] at alive ⊢
  refine ⟨within,?_,keyed.derived⟩
  intro i j r r' foundA foundB aliveA aliveB same
  have holdA := holder i r foundA aliveA
  have holdB := holder j r' foundB aliveB
  refine keyed.single i j r r' foundA foundB ?_ ?_
  · rw [holdA,holdB,same]
  · rw [holdA]
    exact Option.some_ne_none _

theorem seatsWithinCapacity {start : SeatSystem} {events : List SeatEvent} (keyed : Keyed start.store.reservations)
    (within : WithinCapacity start) (inTime : Along (seatStep runtime) InTime start events) :
    Always (seatStep runtime) Seated start events := by
  have both : Always (seatStep runtime) (fun sys => Keyed sys.store.reservations ∧ WithinCapacity sys) start events :=
    alwaysKept (fun sys event h cond => ⟨keyedStep sys event h.1,withinStep sys event h.2 cond⟩) ⟨keyed,within⟩ inTime
  exact alwaysMono (fun _ h => seatedOf h.1 h.2) both

end Step

section Instances

def oneSeat : RecurringPlan := ⟨true,true,1,1,1,0,"founder","standard",true⟩

def opening : SeatSystem := ⟨1000,⟨⟨[(1,oneSeat)],by decide⟩,[1,2],.empty,.empty,.empty,.empty,.empty⟩⟩

theorem openingWithin : WithinCapacity opening := by
  intro _ _ sold
  have mem := getMem.mp sold
  cases List.mem_singleton.mp mem
  decide

theorem markedInTime : Always (seatStep (some sandboxConfig)) Seated opening
    [.call 0 (.reserve 1 1 "a"),.elapse 1800,.call 0 (.reserve 1 2 "b"),.elapse 60,.call 30 (.reconcile 2 "cs")] :=
  seatsWithinCapacity keyedEmpty openingWithin (by decide +kernel)

theorem seatSoldTwice : let events := [.call 0 (.reserve 1 1 "a"),.elapse 1800,.call 0 (.reserve 1 2 "b"),.call 1 (.reconcile 1 "cs")]
    let final := run (seatStep (some sandboxConfig)) opening events
    final.store.reservations.rows.map (fun e => (e.2.userId,e.2.status,e.2.expiresAt)) =
      [(1,.reconciliation,2800),(2,.pending,4600)] ∧ final.clock = 2800 ∧
    seats final.store.reservations 1 final.clock = 2 ∧ oneSeat.maxActiveSubscriptions = 1 ∧
    ¬ Always (seatStep (some sandboxConfig)) Seated opening events := by
  intro _ final
  have two : seats final.store.reservations 1 final.clock = 2 := by decide +kernel
  refine ⟨by decide +kernel,by decide +kernel,two,rfl,fun always => ?_⟩
  have last := alwaysLast always
  have sold : final.store.plans.get? 1 = some oneSeat := by decide +kernel
  have bound := last.capacity 1 oneSeat sold
  exact absurd bound (by decide)

end Instances

end NovaPuraRouter.SeatCapacity
