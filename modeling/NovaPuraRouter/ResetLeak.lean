import NovaPuraRouter.QuotaReset

/-! One subscription and the requests charged to it. Each request is kept with what it has
consumed on balance and whether its charge came after the last reset; the row has only the
one counter. -/
namespace NovaPuraRouter.ResetLeak
open SubscriptionUsage SubscriptionQuota Option Table

structure Charge where
  preConsumed : Int
  refunded : Bool
  net : Int
  current : Bool
  deriving DecidableEq, Repr

structure Account where
  sub : UserSubscription
  charges : Table String Charge

inductive AccountOp
  | preConsume (requestId : String) (amount now : Int)
  | settle (requestId : String) (delta : Int)
  | refund (requestId : String)
  | resetDue (now : Int)
  | adminReset (now : Int) (advanceResetTime : Bool)

def owed (charges : Table String Charge) : Int := charges.sum (fun _ c => if c.current then c.net else 0)

def closePeriod (charges : Table String Charge) : Table String Charge :=
  charges.update (fun _ _ => true) (fun c => { c with current := false })

section Steps
variable (loc : Location) (plan : QuotaPlan) (a : Account)

def dueReset (now : Int) : Option Account := match maybeResetUserSubscriptionWithPlanTx loc a.sub plan now with
  | .ok after => some ⟨after,if ResetsAt loc plan a.sub now then closePeriod a.charges else a.charges⟩
  | .error _ => none

def chargeAccount (requestId : String) (amount : Int) : Option Account :=
  if payable a.sub amount then
    (a.charges.insert? requestId ⟨amount,false,amount,true⟩).map (fun charges => ⟨charged a.sub amount,charges⟩)
  else none

def moveAccount (requestId : String) (delta : Int) (refunded : Bool) : Option Account :=
  match moveUsed a.sub delta with
  | .ok after => some ⟨after,a.charges.modify requestId (fun c => { c with net := c.net + delta, refunded := refunded })⟩
  | .error _ => none

/-- A step that fails leaves the account. A pre-consume is refused for want of quota
together with its due reset. -/
def accountStep : AccountOp → Account
  | .preConsume requestId amount now =>
    if 0 < amount then (((dueReset loc plan a now).bind (chargeAccount · requestId amount)).getD a) else a
  | .settle requestId delta => match a.charges.get? requestId with
    | some c => if delta = 0 then a else (moveAccount a requestId delta c.refunded).getD a
    | none => a
  | .refund requestId => match a.charges.get? requestId with
    | some c => if c.refunded then a else (moveAccount a requestId (-c.preConsumed) true).getD a
    | none => a
  | .resetDue now =>
    if 0 < a.sub.nextResetTime ∧ a.sub.nextResetTime ≤ now then (dueReset loc plan a now).getD a else a
  | .adminReset now advance => ⟨resetUserSubscriptionTx loc a.sub plan now advance,closePeriod a.charges⟩

end Steps

def Holds (a : Account) : Prop := owed a.charges ≤ a.sub.amountUsed

instance (a : Account) : Decidable (Holds a) := inferInstanceAs (Decidable (owed a.charges ≤ a.sub.amountUsed))

/-- A reduction belongs to a request charged since the last reset, and no sum leaves the
64 bits of the counter. -/
def WithinPeriod (a : Account) : AccountOp → Prop
  | .preConsume _ amount _ => a.sub.amountUsed + amount ≤ maxInt64
  | .settle requestId delta => (∀ c ∈ a.charges.get? requestId, delta < 0 → c.current = true) ∧
      -maxInt64 - 1 ≤ delta ∧ a.sub.amountUsed + delta ≤ maxInt64
  | .refund requestId => ∀ c ∈ a.charges.get? requestId, c.refunded = false → c.current = true
  | .resetDue _ | .adminReset _ _ => True

instance (a op) : Decidable (WithinPeriod a op) := by cases op <;> (unfold WithinPeriod; infer_instance)

section Law
variable {loc : Location} {plan : QuotaPlan}

structure Sound (a : Account) : Prop where
  used : 0 ≤ a.sub.amountUsed ∧ a.sub.amountUsed ≤ maxInt64
  charges : ∀ requestId c, a.charges.get? requestId = some c → 0 < c.preConsumed ∧ c.preConsumed ≤ maxInt64
  holds : Holds a

theorem owedClosed (charges) : owed (closePeriod charges) = 0 := by
  rw [owed,closePeriod,sumUpdate]
  exact sumZero (fun _ _ _ => rfl)

variable {requestId : String} {a b : Account}

theorem closedGet {charges c} (found : (closePeriod charges).get? requestId = some c) :
    ∃ old, charges.get? requestId = some old ∧ c.preConsumed = old.preConsumed := by
  rw [closePeriod,getUpdate] at found
  obtain ⟨old,there,rfl⟩ := map_eq_some_iff.mp found
  exact ⟨old,there,rfl⟩

theorem closedSound {sub} (zero : sub.amountUsed = 0) (h : Sound a) : Sound ⟨sub,closePeriod a.charges⟩ where
  used := by
    rw [zero]
    decide
  charges requestId c found := by
    obtain ⟨old,there,same⟩ := closedGet found
    rw [same]
    exact h.charges requestId old there
  holds := by
    rw [Holds,owedClosed,zero]

theorem dueSound {now} (h : Sound a) (reset : dueReset loc plan a now = some b) : Sound b ∧ b.sub.amountUsed ≤ a.sub.amountUsed := by
  unfold dueReset at reset
  split at reset
  · rename_i after ok
    cases some.inj reset
    obtain ⟨quiet,rfl | rfl⟩ | ⟨resets,_,_,_,_,rfl⟩ := resetCases ok
    · rw [if_neg quiet]
      exact ⟨h,le_refl _⟩
    · rw [if_neg quiet]
      exact ⟨{ h with },le_refl _⟩
    · rw [if_pos resets]
      exact ⟨closedSound rfl h,h.used.1⟩
  · contradiction

theorem chargeSound {amount} (h : Sound a) (positive : 0 < amount)
    (fits : a.sub.amountUsed + amount ≤ maxInt64) (charge : chargeAccount a requestId amount = some b) : Sound b := by
  unfold chargeAccount at charge
  split at charge
  · obtain ⟨_,inserted,rfl⟩ := map_eq_some_iff.mp charge
    obtain ⟨_,rfl⟩ := insertExact inserted
    obtain ⟨_,_⟩ := h.used
    have exactly : (charged a.sub amount).amountUsed = a.sub.amountUsed + amount :=
      int64Fits (by simp only [maxInt64]; omega) fits
    refine ⟨by simp only [exactly]; omega,?_,?_⟩
    · intro other c found
      rw [getInsert] at found
      split at found
      · cases some.inj found
        exact ⟨positive,show amount ≤ maxInt64 by omega⟩
      · exact h.charges other c found
    · have holds := h.holds
      simp only [Holds,owed,sumInsert,exactly,if_true] at holds ⊢
      omega
  · contradiction

theorem moveSound {c delta refunded} (h : Sound a) (found : a.charges.get? requestId = some c) (within : delta < 0 → c.current = true)
    (low : -maxInt64 - 1 ≤ delta) (fits : a.sub.amountUsed + delta ≤ maxInt64)
    (move : moveAccount a requestId delta refunded = some b) : Sound b := by
  unfold moveAccount at move
  split at move
  · rename_i after moved
    cases some.inj move
    obtain ⟨_,rfl⟩ := movedOk.mp moved
    obtain ⟨_,_⟩ := h.used
    have exactly : int64 (a.sub.amountUsed + delta) = a.sub.amountUsed + delta := int64Fits (by omega) fits
    have high : clampUsed a.sub.amountUsed delta ≤ maxInt64 := by
      rw [clampUsed,exactly]
      split
      · decide
      · exact fits
    refine ⟨⟨clampNonneg _ _,high⟩,?_,?_⟩
    · intro other d there
      obtain ⟨old,was,rfl,rfl⟩ | ⟨_,was⟩ := modifyCases there
      · exact h.charges _ old was
      · exact h.charges other d was
    · have holds := h.holds
      have clamp : a.sub.amountUsed + delta ≤ clampUsed a.sub.amountUsed delta := by
        unfold clampUsed
        split <;> omega
      simp only [Holds,owed] at holds ⊢
      rw [sumModify found]
      cases current : c.current with
      | true =>
        simp only [if_true]
        omega
      | false =>
        have raises : ¬ delta < 0 := fun lowers => by simp [within lowers] at current
        simp only [Bool.false_eq_true,if_false]
        omega
  · contradiction

theorem getDSound {found} (stay : Sound a) (done : ∀ b, found = some b → Sound b) : Sound (found.getD a) := by
  cases found with
  | none => exact stay
  | some b => exact done b rfl

theorem accountSound {op} (h : Sound a) (within : WithinPeriod a op) : Sound (accountStep loc plan a op) := by
  cases op with
  | preConsume =>
    rw [accountStep]
    split
    · rename_i positive
      refine getDSound h ?_
      intro b done
      obtain ⟨reset,ok,charge⟩ := bind_eq_some_iff.mp done
      obtain ⟨sound,_⟩ := dueSound h ok
      exact chargeSound sound positive (le_trans (by omega) within) charge
    · exact h
  | settle =>
    rw [accountStep]
    split
    · rename_i c found
      split
      · exact h
      · exact getDSound h (fun b move => moveSound h found (within.1 c found) within.2.1 within.2.2 move)
    · exact h
  | refund requestId =>
    rw [accountStep]
    split
    · rename_i c found
      split
      · exact h
      rename_i unrefunded
      obtain ⟨_,_⟩ := h.charges requestId c found
      have current := within c found (by simpa using unrefunded)
      obtain ⟨_,_⟩ := h.used
      exact getDSound h (fun b move => moveSound h found (fun _ => current) (by omega) (by omega) move)
    · exact h
  | resetDue =>
    rw [accountStep]
    split
    · exact getDSound h (fun b reset => (dueSound h reset).1)
    · exact h
  | adminReset _ advance =>
    refine closedSound ?_ h
    cases advance with
    | true | false => rfl

theorem counterCoversPeriod {sub : UserSubscription} (used : 0 ≤ sub.amountUsed ∧ sub.amountUsed ≤ maxInt64)
    {ops : List AccountOp} (within : Along (accountStep loc plan) WithinPeriod ⟨sub,.empty⟩ ops) :
    Always (accountStep loc plan) Holds ⟨sub,.empty⟩ ops := by
  have opening : Sound ⟨sub,.empty⟩ := ⟨used,fun _ _ found => (by simp at found),used.1⟩
  exact alwaysMono (fun _ sound => sound.holds) (alwaysKept (fun _ _ sound cond => accountSound sound cond) opening within)

def dailySubscription : UserSubscription := createdSubscription .utc 1 1 dailyPlan 129600 388800

theorem refundedInPeriod : Always (accountStep .utc dailyPlan) Holds ⟨dailySubscription,.empty⟩
    [.preConsume "first" 60 130000, .settle "first" (-20), .refund "first", .preConsume "second" 90 180000,
     .settle "first" 5, .adminReset 190000 true] :=
  counterCoversPeriod (by decide) (by decide)

def refundedLate : List AccountOp := [.preConsume "first" 60 130000, .preConsume "second" 90 180000, .refund "first"]

theorem lateRefundLeaks : ¬ Always (accountStep .utc dailyPlan) Holds ⟨dailySubscription,.empty⟩ refundedLate ∧
    owed (run (accountStep .utc dailyPlan) ⟨dailySubscription,.empty⟩ refundedLate).charges = 90 ∧
    (run (accountStep .utc dailyPlan) ⟨dailySubscription,.empty⟩ refundedLate).sub.amountUsed = 30 ∧
    ((run (step .utc) subscribed [.preConsume ⟨"first",1,"gpt",60⟩ 130000, .preConsume ⟨"second",1,"gpt",90⟩ 180000,
      .refund "first" .none]).subs.get? 1).map UserSubscription.amountUsed = some 30 := by
  refine ⟨?_,by decide,by decide,by decide⟩
  intro always
  have last := alwaysLast always
  revert last
  decide

end Law
end NovaPuraRouter.ResetLeak
