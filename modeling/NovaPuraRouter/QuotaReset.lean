import NovaPuraRouter.SubscriptionQuota

/-! When the used amount goes back to zero. A subscription is watched with the time of its
previous reset and the point its schedule was computed from: the purchase, or the last
administrative reset that advanced it. -/
namespace NovaPuraRouter.QuotaReset
open SubscriptionUsage SubscriptionQuota Schedule

section Boundaries
variable {loc : Location}

theorem nextDay (loc : Location) {base day} (later : loc.dayOf base < day) : base < loc.midnight day := by
  by_contra early
  have := (loc.starts day base).mp (by omega)
  omega

theorem cutRises {base next endUnix} (rises : base < next) (positive : 0 < cutAtEnd next endUnix) : base < cutAtEnd next endUnix := by
  unfold cutAtEnd at positive ⊢
  split
  · rename_i past
    omega
  · exact rises

def PeriodFits (plan : QuotaPlan) : Prop := plan.quotaResetCustomSeconds ≤ 9223372036

instance (plan : QuotaPlan) : Decidable (PeriodFits plan) := inferInstanceAs (Decidable (plan.quotaResetCustomSeconds ≤ 9223372036))

theorem durationFits {seconds} (positive : 0 < seconds) (fits : seconds ≤ 9223372036) : durationSeconds seconds = seconds := by
  have exactly : int64 (seconds * 1000000000) = seconds * 1000000000 := by
    refine int64Fits ?_ ?_
    · simp only [maxInt64]
      omega
    · simp only [maxInt64]
      omega
  rw [durationSeconds,exactly]
  omega

theorem calcRises (loc) {plan} (fits : PeriodFits plan) (endUnix) : Rises (fun base => calcNextResetTime loc base plan endUnix) := by
  intro _ positive
  simp only [calcNextResetTime] at positive ⊢
  split
  · rename_i never
    simp only [never] at positive
    omega
  · rename_i daily
    simp only [daily] at positive
    exact cutRises (nextDay loc (by omega)) positive
  · rename_i weekly
    simp only [weekly] at positive
    refine cutRises (nextDay loc ?_) positive
    split <;> omega
  · rename_i monthly
    simp only [monthly] at positive
    exact cutRises (nextDay loc (beforeNextMonth _)) positive
  · rename_i custom
    simp only [custom] at positive
    split
    · rename_i nothing
      omega
    rename_i something
    rw [if_neg something] at positive
    refine cutRises ?_ positive
    rw [durationFits (by omega) fits]
    omega

end Boundaries

section Watch
variable (loc : Location) (plan : QuotaPlan)

structure Watch where
  sub : UserSubscription
  last : Int
  anchor : Int
  clock : Int

variable (w : Watch)

def Watch.following (base : Int) : Int := calcNextResetTime loc base plan w.sub.endTime

inductive ResetOp
  | lazily (now : Int)
  | due (now : Int)
  | admin (now : Int) (advanceResetTime : Bool)
  | consume (amountUsed : Int)

def lazyReset (now : Int) : Watch := match maybeResetUserSubscriptionWithPlanTx loc w.sub plan now with
  | .ok after => { w with sub := after, last := if ResetsAt loc plan w.sub now then now else w.last, clock := now }
  | .error _ => { w with clock := now }

def watchStep : ResetOp → Watch
  | .lazily now => lazyReset loc plan w now
  | .due now =>
    if 0 < w.sub.nextResetTime ∧ w.sub.nextResetTime ≤ now then lazyReset loc plan w now else { w with clock := now }
  | .admin now advance => {
      sub := resetUserSubscriptionTx loc w.sub plan now advance
      last := now
      anchor := if advance then now else w.anchor
      clock := now }
  | .consume amountUsed => { w with sub := { w.sub with amountUsed := amountUsed } }

/-- A subscription at its purchase, which counts as the reset before the first. -/
def bought (userId planId : Nat) (start endUnix : Int) : Watch :=
  ⟨createdSubscription loc userId planId plan start endUnix,start,start,start⟩

def BoundaryBetween (now : Int) : Prop := ∃ b, Boundary (w.following loc plan) w.anchor b ∧ w.last < b ∧ b ≤ now

def OnlyAtBoundary : ResetOp → Prop
  | .lazily now => ResetsAt loc plan w.sub now → BoundaryBetween loc plan w now
  | .due now => 0 < w.sub.nextResetTime ∧ w.sub.nextResetTime ≤ now → ResetsAt loc plan w.sub now → BoundaryBetween loc plan w now
  | .admin _ _ | .consume _ => True

def Timely : ResetOp → Prop
  | .lazily now | .due now | .admin now _ => w.clock ≤ now
  | .consume _ => True

instance (w op) : Decidable (Timely w op) := by cases op <;> (unfold Timely; infer_instance)

def AdminInTime : ResetOp → Prop
  | .admin now true => 0 < w.following loc plan now ∨ ¬ 0 < w.following loc plan w.sub.startTime
  | .admin now false => ¬ (0 < w.following loc plan (resetBase w.sub) ∧ w.following loc plan (resetBase w.sub) ≤ now)
  | _ => True

instance (w op) : Decidable (AdminInTime loc plan w op) := by unfold AdminInTime; split <;> infer_instance

end Watch

section Law
variable {loc : Location} {plan : QuotaPlan}

structure Placed (loc : Location) (plan : QuotaPlan) (w : Watch) : Prop where
  opened : 0 < w.sub.startTime
  running : 0 < w.clock
  next : 0 < w.following loc plan (resetBase w.sub) →
    (resetBase w.sub = w.anchor ∨ Boundary (w.following loc plan) w.anchor (resetBase w.sub)) ∧
      w.last < w.following loc plan (resetBase w.sub)

theorem basePos {sub} (opened : 0 < sub.startTime) : 0 < resetBase sub := by
  unfold resetBase
  split
  · exact opened
  · omega

variable {endUnix now base : Int} {w : Watch}

theorem boughtPlaced (fits : PeriodFits plan) (userId planId) {start} (opened : 0 < start) :
    Placed loc plan (bought loc plan userId planId start endUnix) where
  opened := opened
  running := opened
  next positive := by
    have base : resetBase (createdSubscription loc userId planId plan start endUnix) = start := by
      simp only [resetBase,createdSubscription]
      split <;> simp_all
    rw [bought,base] at positive ⊢
    exact ⟨.inl rfl,calcRises loc fits endUnix start positive⟩

theorem lazyPlaced (h : Placed loc plan w) (timely : w.clock ≤ now) : Placed loc plan (lazyReset loc plan w now) := by
  have running : 0 < now := lt_of_lt_of_le h.running timely
  unfold lazyReset
  split
  · rename_i after reset
    obtain ⟨quiet,rfl | rfl⟩ | ⟨resets,b,chain,_,stop,rfl⟩ := resetCases reset
    · rw [if_neg quiet]
      exact ⟨h.opened,running,h.next⟩
    · rw [if_neg quiet]
      have base := basePos h.opened
      have same : resetBase { w.sub with
          nextResetTime := calcNextResetTime loc (resetBase w.sub) plan w.sub.endTime, lastResetTime := resetBase w.sub } =
          resetBase w.sub := if_neg (by simpa using base)
      exact ⟨h.opened,running,by rw [same]; exact h.next⟩
    · rw [if_pos resets]
      have same : resetBase { w.sub with
          amountUsed := 0, lastResetTime := b, nextResetTime := calcNextResetTime loc b plan w.sub.endTime } = b :=
        if_neg (by simpa using boundaryPos chain)
      refine ⟨h.opened,running,?_⟩
      rw [same]
      intro positive
      have late : now < calcNextResetTime loc b plan w.sub.endTime := by
        by_contra due
        exact stop ⟨positive,by omega⟩
      obtain ⟨from?,_⟩ := h.next (boundaryFirst chain)
      refine ⟨.inr ?_,late⟩
      obtain start | earlier := from?
      · exact start ▸ chain
      · exact boundaryTrans earlier chain
  · exact ⟨h.opened,running,h.next⟩

theorem lazyAtBoundary (h : Placed loc plan w) (resets : ResetsAt loc plan w.sub now) : BoundaryBetween loc plan w now := by
  obtain ⟨_,_,positive,due⟩ := resets
  obtain ⟨from?,after⟩ := h.next positive
  refine ⟨w.following loc plan (resetBase w.sub),?_,after,due⟩
  obtain start | earlier := from?
  · exact start ▸ .first positive
  · exact .later earlier positive

theorem adminPlaced (fits : PeriodFits plan) {advance} (h : Placed loc plan w)
    (timely : w.clock ≤ now) (inTime : AdminInTime loc plan w (.admin now advance)) :
    Placed loc plan (watchStep loc plan w (.admin now advance)) := by
  have running : 0 < now := lt_of_lt_of_le h.running timely
  cases advance with
  | false =>
    refine ⟨h.opened,running,?_⟩
    intro positive
    refine ⟨(h.next positive).1,?_⟩
    by_contra early
    exact inTime ⟨positive,Int.not_lt.mp early⟩
  | true =>
    refine ⟨h.opened,running,?_⟩
    by_cases further : 0 < calcNextResetTime loc now plan w.sub.endTime
    · have base : resetBase (resetUserSubscriptionTx loc w.sub plan now true) = now := by
        simp only [resetUserSubscriptionTx,resetBase,if_true,if_pos further]
        exact if_neg (by omega)
      intro _
      exact ⟨.inl base,base.symm ▸ calcRises loc fits w.sub.endTime now further⟩
    · -- The sentinel sends the base back to the purchase, which then must have no boundary either.
      have base : resetBase (resetUserSubscriptionTx loc w.sub plan now true) = w.sub.startTime := by
        simp only [resetUserSubscriptionTx,resetBase,if_true,if_neg further]
        exact if_pos (le_refl _)
      intro positive
      obtain on | off := inTime
      · exact absurd on further
      · exact absurd (base ▸ positive) off

theorem watchPlaced (fits : PeriodFits plan) {op} (h : Placed loc plan w) (timely : Timely w op)
    (inTime : AdminInTime loc plan w op) : Placed loc plan (watchStep loc plan w op) := by
  cases op with
  | lazily => exact lazyPlaced h timely
  | due =>
    rw [watchStep]
    split
    · exact lazyPlaced h timely
    · exact ⟨h.opened,lt_of_lt_of_le h.running timely,h.next⟩
  | admin => exact adminPlaced fits h timely inTime
  | consume => exact { h with }

theorem placedAtBoundary {op} (h : Placed loc plan w) : OnlyAtBoundary loc plan w op := by
  cases op with
  | lazily => exact lazyAtBoundary h
  | due => exact fun _ => lazyAtBoundary h
  | admin | consume => trivial

theorem resetReturns (fits : PeriodFits plan) (sub now) :
    ∃ after, maybeResetUserSubscriptionWithPlanTx loc sub plan now = .ok after ∧
      after.amountUsed = if ResetsAt loc plan sub now then 0 else sub.amountUsed := by
  have returns : ∃ after, maybeResetUserSubscriptionWithPlanTx loc sub plan now = .ok after := by
    unfold maybeResetUserSubscriptionWithPlanTx
    split
    · exact ⟨_,rfl⟩
    split
    · exact ⟨_,rfl⟩
    obtain ⟨⟨b,_⟩,loop⟩ := @advanceEnds _ now (calcRises loc fits sub.endTime)
      (resetFuel (resetBase sub) now) (resetBase sub) false (by unfold resetFuel; omega) (by unfold resetFuel; omega)
    simp only [loop,row,bind,Except.bind]
    split
    · exact ⟨_,rfl⟩
    split
    · exact ⟨_,rfl⟩
    · exact ⟨_,rfl⟩
  obtain ⟨after,reset⟩ := returns
  refine ⟨after,reset,?_⟩
  obtain ⟨quiet,rfl | rfl⟩ | ⟨resets,b,_,_,_,rfl⟩ := resetCases reset
  · rw [if_neg quiet]
  · rw [if_neg quiet]
  · rw [if_pos resets]

/-- From the purchase on, with times that never decrease: where administrators advance
no schedule past its last boundary and reset no overdue period without advancing it,
every automatic reset has a boundary between it and the reset before. -/
theorem resetsOnlyAtBoundaries (fits : PeriodFits plan) (userId planId : Nat) {start endUnix : Int} (opened : 0 < start) :
    (∀ sub now, ∃ after, maybeResetUserSubscriptionWithPlanTx loc sub plan now = .ok after ∧
      after.amountUsed = if ResetsAt loc plan sub now then 0 else sub.amountUsed) ∧
    (∀ ops, Along (watchStep loc plan) (fun w op => Timely w op ∧ AdminInTime loc plan w op)
        (bought loc plan userId planId start endUnix) ops →
      Along (watchStep loc plan) (OnlyAtBoundary loc plan) (bought loc plan userId planId start endUnix) ops) := by
  refine ⟨resetReturns fits,?_⟩
  intro _ along
  exact alongOfAlong (fun _ _ h cond => watchPlaced fits h cond.1 cond.2) (fun _ _ h _ => placedAtBoundary h)
    (boughtPlaced fits userId planId opened) along

def threeDays : Watch := bought .utc dailyPlan 1 1 129600 388800

theorem threeDaysAtBoundaries : Along (watchStep .utc dailyPlan) (OnlyAtBoundary .utc dailyPlan) threeDays
    [.consume 40, .lazily 180000, .consume 60, .admin 200000 true, .consume 10, .due 259200, .consume 20, .lazily 350000] :=
  (resetsOnlyAtBoundaries (by decide) 1 1 (by decide)).2 _ (by decide)

theorem dailyNext (positive : 0 < calcNextResetTime .utc base dailyPlan endUnix) :
    calcNextResetTime .utc base dailyPlan endUnix = (base / 86400 + 1) * 86400 := by
  have daily : normalizeResetPeriod dailyPlan.quotaResetPeriod = .daily := by decide
  simp only [calcNextResetTime,daily,cutAtEnd] at positive ⊢
  split
  · rename_i past
    rw [if_pos past] at positive
    contradiction
  · rfl

theorem dailyMidnight {b} (h : Boundary (fun base => calcNextResetTime .utc base dailyPlan endUnix) base b) : ∃ day, b = day * 86400 := by
  cases h with
  | first positive | later _ positive => exact ⟨_,dailyNext positive⟩

theorem noMidnight (between : BoundaryBetween .utc dailyPlan w now) (sameDay : now / 86400 = w.last / 86400) : False := by
  obtain ⟨b,chain,_⟩ := between
  obtain ⟨_,rfl⟩ := dailyMidnight chain
  omega

def advancedAtTheEnd : List ResetOp := [.lazily 350000, .admin 360000 true, .consume 50, .lazily 370000]

def resetOverdue : List ResetOp := [.admin 180000 false, .consume 50, .lazily 190000]

theorem resetTwiceInPeriod : (Along (watchStep .utc dailyPlan) Timely threeDays advancedAtTheEnd ∧
      (run (watchStep .utc dailyPlan) threeDays (advancedAtTheEnd.take 3)).sub.amountUsed = 50 ∧
      (run (watchStep .utc dailyPlan) threeDays advancedAtTheEnd).sub.amountUsed = 0 ∧
      ¬ Along (watchStep .utc dailyPlan) (OnlyAtBoundary .utc dailyPlan) threeDays advancedAtTheEnd) ∧
    Along (watchStep .utc dailyPlan) Timely threeDays resetOverdue ∧
      (run (watchStep .utc dailyPlan) threeDays (resetOverdue.take 2)).sub.amountUsed = 50 ∧
      (run (watchStep .utc dailyPlan) threeDays resetOverdue).sub.amountUsed = 0 ∧
      ¬ Along (watchStep .utc dailyPlan) (OnlyAtBoundary .utc dailyPlan) threeDays resetOverdue := by
  refine ⟨⟨by decide,by decide,by decide,?_⟩,by decide,by decide,by decide,?_⟩
  · intro along
    exact noMidnight (along.2.2.2.1 (by decide)) (by decide)
  · intro along
    exact noMidnight (along.2.2.1 (by decide)) (by decide)

end Law
end NovaPuraRouter.QuotaReset
