import NovaPuraRouter.SubscriptionUsage

/-! The quota bound of subscriptions. Every write of a used amount is a save of one row
under its lock, so an interleaving is a sequence of committed transactions; only the check
for an earlier record of a pre-consume is outside of the locks. -/
namespace NovaPuraRouter.SubscriptionQuota
open SubscriptionUsage Schedule List Table

section Saves

theorem int64Fits {x} (low : -maxInt64 - 1 ≤ x) (high : x ≤ maxInt64) : int64 x = x := by
  simp only [maxInt64] at low high
  simp only [int64,Int.bmod]
  split <;> omega

variable {s : Store} {id j : Nat}

theorem planFound {plan} (h : s.getSubscriptionPlanById id = .ok plan) : s.plans.get? id = some plan := by
  simp only [Store.getSubscriptionPlanById,bindOk,rowOk] at h
  obtain ⟨_,_,found⟩ := h
  exact found

theorem saveOther {sub} (other : j ≠ id) : (s.save id sub).subs.get? j = s.subs.get? j := getModifyOther _ other _

theorem saveSelf {sub old} (found : s.subs.get? id = some old) : (s.save id sub).subs.get? id = some sub := by
  simp only [Store.save,getModifySelf,found,Option.map_some]

theorem saveCases {sub b} (found : (s.save id sub).subs.get? j = some b) :
    (∃ old, s.subs.get? id = some old ∧ j = id ∧ b = sub) ∨ j ≠ id ∧ s.subs.get? j = some b :=
  modifyCases found

end Saves

section Reset
variable {loc : Location}

def ResetsAt (loc : Location) (plan : QuotaPlan) (sub : UserSubscription) (now : Int) : Prop :=
  ¬ (0 < sub.nextResetTime ∧ now < sub.nextResetTime) ∧ normalizeResetPeriod plan.quotaResetPeriod ≠ .never ∧
    0 < calcNextResetTime loc (resetBase sub) plan sub.endTime ∧ calcNextResetTime loc (resetBase sub) plan sub.endTime ≤ now

instance (loc : Location) (plan : QuotaPlan) (sub : UserSubscription) (now : Int) : Decidable (ResetsAt loc plan sub now) :=
  inferInstanceAs (Decidable (_ ∧ _ ∧ _ ∧ _))

variable {sub after : UserSubscription}

theorem resetCases {plan now} (h : maybeResetUserSubscriptionWithPlanTx loc sub plan now = .ok after) :
    ¬ ResetsAt loc plan sub now ∧ (after = sub ∨ after = { sub with
        nextResetTime := calcNextResetTime loc (resetBase sub) plan sub.endTime, lastResetTime := resetBase sub }) ∨
    ResetsAt loc plan sub now ∧
    ∃ b, Boundary (fun base => calcNextResetTime loc base plan sub.endTime) (resetBase sub) b ∧ b ≤ now ∧
      ¬ (0 < calcNextResetTime loc b plan sub.endTime ∧ calcNextResetTime loc b plan sub.endTime ≤ now) ∧
      after = { sub with
        amountUsed := 0, lastResetTime := b, nextResetTime := calcNextResetTime loc b plan sub.endTime } := by
  unfold maybeResetUserSubscriptionWithPlanTx at h
  split at h
  · rename_i early
    exact .inl ⟨fun resets => resets.1 early,.inl (pureOk.mp h).symm⟩
  rename_i early
  split at h
  · rename_i never
    exact .inl ⟨fun resets => resets.2.1 never,.inl (pureOk.mp h).symm⟩
  rename_i never
  simp only [bindOk,rowOk] at h
  obtain ⟨⟨b,_,_⟩,loop,rest⟩ := h
  obtain ⟨rfl,stop,found⟩ := advanceExact loop
  obtain ⟨rfl,rfl⟩ | ⟨rfl,chain,le,due⟩ := found
  · simp only [Bool.false_eq_true,if_false] at rest
    refine .inl ⟨fun resets => stop resets.2.2,?_⟩
    split at rest
    · exact .inr (pureOk.mp rest).symm
    · exact .inl (pureOk.mp rest).symm
  · have first := boundaryFirst chain
    exact .inr ⟨⟨early,never,first,due⟩,b,chain,le,stop,(pureOk.mp rest).symm⟩

def Bounded (sub : UserSubscription) : Prop := 0 < sub.amountTotal → 0 ≤ sub.amountUsed ∧ sub.amountUsed ≤ sub.amountTotal

theorem boundedZero (zero : sub.amountUsed = 0) : Bounded sub := by
  intro _
  omega

theorem resetBounded {plan now} (bounded : Bounded sub) (h : maybeResetUserSubscriptionWithPlanTx loc sub plan now = .ok after) :
    Bounded after := by
  obtain ⟨_,rfl | rfl⟩ | ⟨_,b,_,_,_,rfl⟩ := resetCases h
  · exact bounded
  · exact bounded
  · exact boundedZero rfl

theorem adminBounded (sub plan now advance) : Bounded (resetUserSubscriptionTx loc sub plan now advance) := by
  cases advance with
  | true | false => exact boundedZero rfl

end Reset

section Evolution

def BoundedStore (s : Store) : Prop := ∀ id sub, s.subs.get? id = some sub → Bounded sub

structure Evolves (s s' : Store) : Prop where
  bounded : BoundedStore s → BoundedStore s'
  recorded : ∀ requestId record, s.records.get? requestId = some record → ∃ kept, s'.records.get? requestId = some kept

theorem evolvesRefl (s) : Evolves s s := ⟨id,fun _ record found => ⟨record,found⟩⟩

theorem evolvesTrans {s t u} (first : Evolves s t) (second : Evolves t u) : Evolves s u where
  bounded := second.bounded ∘ first.bounded
  recorded requestId record found := by
    obtain ⟨kept,there⟩ := first.recorded requestId record found
    exact second.recorded requestId kept there

theorem evolvesSave {s id sub} (bounded : BoundedStore s → Bounded sub) :
    Evolves s (s.save id sub) where
  bounded all j b found := by
    obtain ⟨_,_,_,rfl⟩ | ⟨_,there⟩ := saveCases found
    · exact bounded all
    · exact all j b there
  recorded _ record found := ⟨record,found⟩

end Evolution

section Choice
variable {loc : Location} {now : Int} {req : PreConsume}

def DueReset (loc : Location) (now : Int) (s : Store) (id : Nat) (found : Option UserSubscription) : Prop :=
  found = s.subs.get? id ∨ ∃ sub plan after, s.subs.get? id = some sub ∧ s.plans.get? sub.planId = some plan ∧
    maybeResetUserSubscriptionWithPlanTx loc sub plan now = .ok after ∧ found = some after

structure OnlyResets (loc : Location) (now : Int) (s s' : Store) : Prop where
  plans : s'.plans = s.plans
  records : s'.records = s.records
  rows : ∀ id, DueReset loc now s id (s'.subs.get? id)

theorem onlyResetsRefl (s) : OnlyResets loc now s s := ⟨rfl,rfl,fun _ => .inl rfl⟩

variable {s t s' : Store} {sub after : UserSubscription} {list : List (Nat × UserSubscription)} {r : Nat × UserSubscription} {sees : Bool}
    {result : SubscriptionPreConsumeResult}

theorem onlyResetsSave {id old plan}
    (h : OnlyResets loc now s t) (row : s.subs.get? id = some sub) (there : t.subs.get? id = some old)
    (found : s.plans.get? sub.planId = some plan)
    (reset : maybeResetUserSubscriptionWithPlanTx loc sub plan now = .ok after) : OnlyResets loc now s (t.save id after) where
  plans := h.plans
  records := h.records
  rows j := by
    by_cases same : j = id
    · subst same
      exact .inr ⟨sub,plan,after,row,found,reset,saveSelf there⟩
    · rw [saveOther same]
      exact h.rows j

theorem onlyResetsEvolves (h : OnlyResets loc now s t) : Evolves s t where
  bounded all id b found := by
    obtain same | ⟨sub,plan,after,row,_,reset,same⟩ := h.rows id
    · exact all id b (same ▸ found)
    · cases found.symm.trans same
      exact resetBounded (all id sub row) reset
  recorded _ record found := ⟨record,h.records ▸ found⟩

def Passed (loc : Location) (now : Int) (req : PreConsume) (s : Store) (r : Nat × UserSubscription) : Prop :=
  ∃ plan, s.plans.get? r.2.planId = some plan ∧ (subscriptionPlanAppliesToModel plan req.modelName = true →
    ∃ after, maybeResetUserSubscriptionWithPlanTx loc r.2 plan now = .ok after ∧ ¬ payable after req.amount = true)

structure Stop (loc : Location) (now : Int) (req : PreConsume) (s : Store) (list : List (Nat × UserSubscription))
    (id : Nat) (sub after : UserSubscription) (t : Store) : Prop where
  split : ∃ passed rest, list = passed ++ (id,sub) :: rest ∧ ∀ r ∈ passed, Passed loc now req s r
  plan : ∃ plan, s.plans.get? sub.planId = some plan ∧ subscriptionPlanAppliesToModel plan req.modelName = true ∧
    maybeResetUserSubscriptionWithPlanTx loc sub plan now = .ok after
  covers : payable after req.amount = true
  resets : OnlyResets loc now s t
  row : t.subs.get? id = some after

theorem stopCons {id} (passed : Passed loc now req s r) (h : Stop loc now req s list id sub after t) :
    Stop loc now req s (r :: list) id sub after t where
  split := by
    obtain ⟨before,rest,rfl,all⟩ := h.split
    refine ⟨r :: before,rest,rfl,?_⟩
    intro x mem
    rcases mem_cons.mp mem with rfl | inside
    · exact passed
    · exact all x inside
  plan := h.plan
  covers := h.covers
  resets := h.resets
  row := h.row

theorem chargeFirstExact {applicable} (h : chargeFirst loc now req sees t applicable list = .ok (result,s'))
    (resets : OnlyResets loc now s t) (distinct : (list.map Prod.fst).Nodup)
    (held : ∀ r ∈ list, s.subs.get? r.1 = some r.2 ∧ t.subs.get? r.1 = some r.2) :
    ∃ id sub after u, Stop loc now req s list id sub after u ∧ chargeSubscription u req sees id after = .ok (result,s') := by
  induction list generalizing t applicable with
  | nil => simp [chargeFirst] at h
  | cons r list ih =>
    obtain ⟨id,candidate⟩ := r
    rw [map_cons,nodup_cons] at distinct
    have here := held (id,candidate) mem_cons_self
    simp only [chargeFirst,bindOk] at h
    obtain ⟨plan,found,h⟩ := h
    have plan? : s.plans.get? candidate.planId = some plan := resets.plans ▸ planFound found
    split at h
    · rename_i applies
      simp only [bindOk] at h
      obtain ⟨after,reset,h⟩ := h
      have saved := onlyResetsSave resets here.1 here.2 plan? reset
      split at h
      · rename_i covers
        exact ⟨id,candidate,after,_,
          ⟨⟨[],list,rfl,forall_mem_nil _⟩,⟨plan,plan?,applies,reset⟩,covers,saved,saveSelf here.2⟩,h⟩
      rename_i short
      have others : ∀ r ∈ list, s.subs.get? r.1 = some r.2 ∧ (t.save id after).subs.get? r.1 = some r.2 := by
        intro r mem
        have other : r.1 ≠ id := by
          rintro rfl
          exact distinct.1 (List.mem_map.mpr ⟨r,mem,rfl⟩)
        rw [saveOther other]
        exact held r (mem_cons_of_mem _ mem)
      obtain ⟨id',sub',after',u,stop,charge⟩ := ih h saved distinct.2 others
      exact ⟨id',sub',after',u,stopCons ⟨plan,plan?,fun _ => ⟨after,reset,short⟩⟩ stop,charge⟩
    · rename_i applies
      obtain ⟨id',sub',after',u,stop,charge⟩ :=
        ih h resets distinct.2 (fun r mem => held r (mem_cons_of_mem _ mem))
      exact ⟨id',sub',after',u,stopCons ⟨plan,plan?,fun yes => absurd yes applies⟩ stop,charge⟩

theorem activeHeld {subs userId} : r ∈ activeSubscriptions subs userId now ↔ subs.get? r.1 = some r.2 ∧ liveFor userId now r.2 = true :=
  (mem_insertionSort _).trans memSelect

theorem activeDistinct (subs userId) : ((activeSubscriptions subs userId now).map Prod.fst).Nodup :=
  ((perm_insertionSort _ _).map Prod.fst).nodup_iff.mpr (subs.selectNodup _)

instance : Std.Total byEndTime where
  total a b := by
    simp only [byEndTime]
    omega

instance : IsTrans (Nat × UserSubscription) byEndTime where
  trans a b c := by
    simp only [byEndTime]
    omega

theorem activeSorted (subs userId) : (activeSubscriptions subs userId now).Pairwise byEndTime := pairwise_insertionSort _ _

theorem lockedExact (h : preConsumeLocked loc s now req sees = .ok (result,s')) :
    ∃ id sub after u, Stop loc now req s (activeSubscriptions s.subs req.userId now) id sub after u ∧
      chargeSubscription u req sees id after = .ok (result,s') :=
  chargeFirstExact h (onlyResetsRefl s) (activeDistinct _ _)
    (fun _ mem => ⟨(activeHeld.mp mem).1,(activeHeld.mp mem).1⟩)

theorem chargeCases {u id} (h : chargeSubscription u req sees id sub = .ok (result,s')) : (∃ fresh : req.requestId ∉ u.records.keys,
      s' = { u with records := u.records.insert req.requestId (chargeRecord req id) fresh }.save id (charged sub req.amount) ∧
      result = ⟨id,req.amount,sub.amountTotal,sub.amountUsed,(charged sub req.amount).amountUsed⟩) ∨
    (∃ record, u.records.get? req.requestId = some record) ∧ s' = u := by
  unfold chargeSubscription at h
  split at h
  · rename_i records inserted
    obtain ⟨fresh,rfl⟩ := insertExact inserted
    cases pureOk.mp h
    exact .inl ⟨fresh,rfl,rfl⟩
  · simp only [bindOk,rowOk] at h
    obtain ⟨dup,found,_,_,h⟩ := h
    cases pureOk.mp h
    split at found
    · exact .inr ⟨⟨dup,found⟩,rfl⟩
    · contradiction

end Choice

section Charge
variable {loc : Location} {now : Int} {req : PreConsume}

structure Eligible (loc : Location) (now : Int) (req : PreConsume) (s : Store) (id : Nat) (sub after : UserSubscription) :
    Prop where
  row : s.subs.get? id = some sub
  live : sub.userId = req.userId ∧ sub.status = .active ∧ now < sub.endTime
  plan : ∃ plan, s.plans.get? sub.planId = some plan ∧ subscriptionPlanAppliesToModel plan req.modelName = true ∧
    maybeResetUserSubscriptionWithPlanTx loc sub plan now = .ok after
  covers : 0 < after.amountTotal → req.amount ≤ after.amountTotal - after.amountUsed

/-- One subscription is charged, the first that may pay; the others have at most their
due reset made. -/
def ChargesFirst (loc : Location) (now : Int) (req : PreConsume) (s : Store) (result : SubscriptionPreConsumeResult)
    (s' : Store) : Prop := ∃ id sub after, Eligible loc now req s id sub after ∧
  (∀ id' sub' after', Eligible loc now req s id' sub' after' → byEndTime (id,sub) (id',sub')) ∧
  s'.subs.get? id = some (charged after req.amount) ∧
  (0 < after.amountTotal → (charged after req.amount).amountUsed = after.amountUsed + req.amount) ∧
  (∀ other, other ≠ id → DueReset loc now s other (s'.subs.get? other)) ∧
  s'.records.get? req.requestId = some (chargeRecord req id) ∧
  result = ⟨id,req.amount,after.amountTotal,after.amountUsed,(charged after req.amount).amountUsed⟩

variable {sub after : UserSubscription} {s u s' : Store} {sees : Bool} {result : SubscriptionPreConsumeResult}
    {record : SubscriptionPreConsumeRecord}

theorem payableIff {amount} (bounded : Bounded sub) :
    payable sub amount = true ↔ (0 < sub.amountTotal → amount ≤ sub.amountTotal - sub.amountUsed) := by
  have fits := sub.totalFits
  by_cases limited : 0 < sub.amountTotal
  · obtain ⟨_,_⟩ := bounded limited
    have exactly : int64 (sub.amountTotal - sub.amountUsed) = sub.amountTotal - sub.amountUsed := by
      refine int64Fits ?_ (by omega)
      omega
    simp only [payable,exactly,Bool.not_eq_true',decide_eq_false_iff_not]
    omega
  · simp only [payable,limited,false_and,decide_false,Bool.not_false,false_implies]

theorem chargedExact {amount} (bounded : Bounded sub) (positive : 0 < amount)
    (limited : 0 < sub.amountTotal) (covers : amount ≤ sub.amountTotal - sub.amountUsed) :
    (charged sub amount).amountUsed = sub.amountUsed + amount := by
  obtain ⟨_,_⟩ := bounded limited
  have fits := sub.totalFits
  refine int64Fits ?_ (by omega)
  omega

theorem stopEligible {id} (bounded : BoundedStore s) (h : Stop loc now req s (activeSubscriptions s.subs req.userId now) id sub after u) :
    Eligible loc now req s id sub after := by
  obtain ⟨_,_,list,_⟩ := h.split
  have mem : (id,sub) ∈ activeSubscriptions s.subs req.userId now := by
    rw [list]
    exact mem_append_right _ mem_cons_self
  obtain ⟨row,live⟩ := activeHeld.mp mem
  obtain ⟨plan,found,applies,reset⟩ := h.plan
  exact ⟨row,of_decide_eq_true live,⟨plan,found,applies,reset⟩,
    (payableIff (resetBounded (bounded id sub row) reset)).mp h.covers⟩

theorem stopFirst {id id' sub' after'} (bounded : BoundedStore s)
    (h : Stop loc now req s (activeSubscriptions s.subs req.userId now) id sub after u)
    (other : Eligible loc now req s id' sub' after') : byEndTime (id,sub) (id',sub') := by
  obtain ⟨_,_,list,all⟩ := h.split
  have mem : (id',sub') ∈ activeSubscriptions s.subs req.userId now :=
    activeHeld.mpr ⟨other.row,decide_eq_true other.live⟩
  have sorted := @activeSorted now s.subs req.userId
  rw [list] at mem sorted
  rcases mem_append.mp mem with before | later
  · obtain ⟨_,found,short⟩ := all _ before
    obtain ⟨_,found',applies,reset⟩ := other.plan
    cases found.symm.trans found'
    obtain ⟨_,reset'',less⟩ := short applies
    cases reset.symm.trans reset''
    exact absurd ((payableIff (resetBounded (bounded id' sub' other.row) reset)).mpr other.covers) less
  · rcases mem_cons.mp later with same | after
    · cases same
      exact .inr ⟨rfl,le_refl _⟩
    · exact rel_of_pairwise_cons (pairwise_append.mp sorted).2.1 after

theorem lockedCharges (bounded : BoundedStore s) (positive : 0 < req.amount) (h : preConsumeLocked loc s now req sees = .ok (result,s'))
    (fresh : s.records.get? req.requestId = none) : ChargesFirst loc now req s result s' := by
  obtain ⟨id,sub,after,u,stop,charge⟩ := lockedExact h
  have eligible := stopEligible bounded stop
  obtain ⟨_,_,_,reset⟩ := eligible.plan
  have kept := resetBounded (bounded id sub eligible.row) reset
  obtain ⟨_,rfl,rfl⟩ | ⟨⟨_,found⟩,_⟩ := chargeCases charge
  · refine ⟨id,sub,after,eligible,fun id' sub' after' other => stopFirst bounded stop other,?_,?_,?_,?_,rfl⟩
    · exact saveSelf stop.row
    · intro limited
      exact chargedExact kept positive limited (eligible.covers limited)
    · intro other ne
      rw [saveOther ne]
      exact stop.resets.rows other
    · simp only [Store.save,getInsert,if_true]
  · rw [stop.resets.records,fresh] at found
    contradiction

theorem lockedReplay (h : preConsumeLocked loc s now req sees = .ok (result,s'))
    (found : s.records.get? req.requestId = some record) : OnlyResets loc now s s' := by
  obtain ⟨_,_,_,u,stop,charge⟩ := lockedExact h
  obtain ⟨new,_⟩ | ⟨_,rfl⟩ := chargeCases charge
  · rw [stop.resets.records] at new
    exact absurd (getKeys.mpr ⟨record,found⟩) new
  · exact stop.resets

theorem recordEvolves {requestId} (fresh) : Evolves s { s with records := s.records.insert requestId record fresh } where
  bounded all := all
  recorded other kept found := by
    rw [getInsert]
    split
    · exact ⟨record,rfl⟩
    · exact ⟨kept,found⟩

theorem lockedEvolves (positive : 0 < req.amount) (h : preConsumeLocked loc s now req sees = .ok (result,s')) : Evolves s s' := by
  obtain ⟨id,_,after,u,stop,charge⟩ := lockedExact h
  have resets := onlyResetsEvolves stop.resets
  obtain ⟨new,rfl,_⟩ | ⟨_,rfl⟩ := chargeCases charge
  · refine evolvesTrans resets (evolvesTrans (recordEvolves new) (evolvesSave ?_))
    intro all limited
    have kept : Bounded after := all id after stop.row
    have covers := (payableIff kept).mp stop.covers limited
    obtain ⟨_,_⟩ := kept limited
    have used := chargedExact kept positive limited covers
    have total : (charged after req.amount).amountTotal = after.amountTotal := rfl
    omega
  · exact resets

theorem checkedAmount {u} (h : checkPreConsume req = .ok u) : 0 < req.amount := by
  simp only [checkPreConsume,bindOk,requireOk] at h
  obtain ⟨_,_,_,_,positive⟩ := h
  exact positive

theorem lateOk (h : preConsumeLate loc s now req sees = .ok (result,s')) :
    0 < req.amount ∧ preConsumeLocked loc s now req sees = .ok (result,s') := by
  simp only [preConsumeLate,bindOk] at h
  obtain ⟨_,checked,locked⟩ := h
  exact ⟨checkedAmount checked,locked⟩

theorem preConsumeCases (h : preConsumeUserSubscription loc s now req = .ok (result,s')) :
    s.records.get? req.requestId = none ∧ preConsumeLate loc s now req false = .ok (result,s') ∨
    (∃ record, s.records.get? req.requestId = some record) ∧ s' = s := by
  simp only [preConsumeUserSubscription,bindOk] at h
  obtain ⟨_,checked,h⟩ := h
  split at h
  · rename_i record found
    simp only [bindOk] at h
    obtain ⟨_,_,h⟩ := h
    cases pureOk.mp h
    exact .inr ⟨⟨record,found⟩,rfl⟩
  · rename_i fresh
    refine .inl ⟨fresh,?_⟩
    simp only [preConsumeLate,bindOk]
    exact ⟨_,checked,h⟩

end Charge

section Run
variable {loc : Location}

/-- The committed transactions of an interleaving. A batch of resets is one step per
row, besides the batch that meets no other transaction. -/
inductive UsageOp
  | preConsume (req : PreConsume) (now : Int)
  | preConsumeLate (req : PreConsume) (now : Int) (sees : Bool)
  | postConsume (id : Nat) (delta : Int)
  | refund (requestId : String) (faults : RefundFaults)
  | refundWithRetry (requestId : String) (first second third : RefundFaults)
  | resetDueRow (id : Nat) (plan : QuotaPlan) (now : Int)
  | resetDue (now limit : Int)
  | adminResetUser (userId planId : Nat) (now : Int) (advanceResetTime : Bool)
  | adminResetPlan (planId : Nat) (now : Int) (advanceResetTime : Bool)

def step (loc : Location) (s : Store) : UsageOp → Store
  | .preConsume req now => commit s ((preConsumeUserSubscription loc s now req).map Prod.snd)
  | .preConsumeLate req now sees => commit s ((preConsumeLate loc s now req sees).map Prod.snd)
  | .postConsume id delta => commit s (postConsumeUserSubscriptionDelta s id delta)
  | .refund requestId faults => (refundSubscriptionPreConsume s requestId faults).2
  | .refundWithRetry requestId first second third => (refundWithRetry s requestId first second third).2
  | .resetDueRow id plan now => commit s ((resetDueRow loc s id plan now).map Prod.snd)
  | .resetDue now limit => (resetDueSubscriptions loc s now limit).2
  | .adminResetUser userId planId now advanceResetTime =>
    commit s ((adminResetUserSubscriptionsByPlan loc s userId planId now advanceResetTime).map Prod.snd)
  | .adminResetPlan planId now advanceResetTime =>
    commit s ((adminResetPlanSubscriptions loc s planId now advanceResetTime).map Prod.snd)

theorem clampNonneg (used delta) : 0 ≤ clampUsed used delta := by
  unfold clampUsed
  split <;> omega

variable {delta now : Int} {s s' : Store} {req : PreConsume} {record : SubscriptionPreConsumeRecord}

theorem movedOk {sub after} : moveUsed sub delta = .ok after ↔
    (0 < sub.amountTotal → clampUsed sub.amountUsed delta ≤ sub.amountTotal) ∧
      { sub with amountUsed := clampUsed sub.amountUsed delta } = after := by
  simp only [moveUsed,bindOk,requireOk,pureOk,exists_const]

theorem deltaEvolves {id} (h : postConsumeUserSubscriptionDelta s id delta = .ok s') : Evolves s s' := by
  simp only [postConsumeUserSubscriptionDelta,bindOk,requireOk] at h
  obtain ⟨_,_,h⟩ := h
  split at h
  · cases pureOk.mp h
    exact evolvesRefl s
  simp only [bindOk,rowOk,movedOk] at h
  obtain ⟨_,_,_,⟨within,rfl⟩,h⟩ := h
  cases pureOk.mp h
  exact evolvesSave (fun _ limited => ⟨clampNonneg _ _,within limited⟩)

theorem faultyEvolves {id f} (h : deltaWithFaults s id delta f = .ok s') : Evolves s s' := by
  simp only [deltaWithFaults,bindOk,requireOk] at h
  obtain ⟨_,_,h⟩ := h
  split at h
  · cases pureOk.mp h
    exact evolvesRefl s
  simp only [bindOk,requireOk] at h
  obtain ⟨_,_,_,delta,_,_,h⟩ := h
  cases pureOk.mp h
  exact deltaEvolves delta

theorem markEvolves (s requestId) : Evolves s (markRefunded s requestId) where
  bounded all := all
  recorded other record found := by
    rw [markRefunded,Table.getModify]
    split
    · rename_i same
      subst same
      exact ⟨_,by rw [found]; rfl⟩
    · exact ⟨record,found⟩

theorem closeEvolves (s requestId f) : Evolves s (closeRefund s requestId f).2 := by
  unfold closeRefund
  split
  · exact evolvesRefl s
  · exact markEvolves s requestId

theorem refundEvolves (s requestId f) : Evolves s (refundSubscriptionPreConsume s requestId f).2 := by
  unfold refundSubscriptionPreConsume
  split
  · exact evolvesRefl s
  split
  · exact evolvesRefl s
  split
  · exact evolvesRefl s
  split
  · exact evolvesRefl s
  split
  · exact closeEvolves s requestId f
  split
  · exact evolvesRefl s
  · rename_i s' delta
    exact evolvesTrans (faultyEvolves delta) (closeEvolves s' requestId f)

theorem retryEvolves (s requestId first second third) : Evolves s (refundWithRetry s requestId first second third).2 := by
  have one := refundEvolves s requestId first
  have two := evolvesTrans one (refundEvolves _ requestId second)
  simp only [refundWithRetry]
  split
  · exact one
  split
  · exact two
  · exact evolvesTrans two (refundEvolves _ requestId third)

theorem dueRowEvolves {id plan done} (h : resetDueRow loc s id plan now = .ok (done,s')) : Evolves s s' := by
  unfold resetDueRow at h
  split at h
  · rename_i locked found
    split at h
    · simp only [bindOk] at h
      obtain ⟨_,reset,h⟩ := h
      cases pureOk.mp h
      exact evolvesSave (fun all => resetBounded (all id locked found) reset)
    · cases pureOk.mp h
      exact evolvesRefl s
  · cases pureOk.mp h
    exact evolvesRefl s

theorem dueRowsEvolves (now s count rows) : Evolves s (resetDueRows loc now s count rows).2 := by
  induction rows generalizing s count with
  | nil => exact evolvesRefl s
  | cons _ _ ih =>
    rw [resetDueRows]
    split
    · exact ih s count
    split
    · exact evolvesRefl s
    · rename_i done
      exact evolvesTrans (dueRowEvolves done) (ih _ _)

theorem resetAllEvolves (s plan now advance rows) : Evolves s (resetAll loc s plan now advance rows) := by
  induction rows generalizing s with
  | nil => exact evolvesRefl s
  | cons r _ ih => exact evolvesTrans (evolvesSave (fun _ => adminBounded r.2 plan now advance)) (ih _)

theorem lateEvolves {sees result} (h : preConsumeLate loc s now req sees = .ok (result,s')) : Evolves s s' :=
  lockedEvolves (lateOk h).1 (lateOk h).2

theorem stepEvolves (s op) : Evolves s (step loc s op) := by
  have stay := evolvesRefl s
  cases op with
  | preConsume =>
    refine commitPairOf stay ?_
    intro result s' h
    obtain ⟨_,late⟩ | ⟨_,rfl⟩ := preConsumeCases h
    · exact lateEvolves late
    · exact stay
  | preConsumeLate => exact commitPairOf stay (fun _ _ h => lateEvolves h)
  | postConsume id delta =>
    obtain ⟨s',h,eq⟩ | eq := commitCases s (postConsumeUserSubscriptionDelta s id delta)
    · rw [step,eq]
      exact deltaEvolves h
    · rw [step,eq]
      exact stay
  | refund requestId faults => exact refundEvolves s requestId faults
  | refundWithRetry requestId first second third => exact retryEvolves s requestId first second third
  | resetDueRow => exact commitPairOf stay (fun _ _ h => dueRowEvolves h)
  | resetDue now => exact dueRowsEvolves now s 0 _
  | adminResetUser _ _ now advance =>
    refine commitPairOf stay ?_
    intro result s' h
    simp only [adminResetUserSubscriptionsByPlan,bindOk,requireOk] at h
    obtain ⟨_,_,plan,_,_,_,h⟩ := h
    cases pureOk.mp h
    exact resetAllEvolves s plan now advance _
  | adminResetPlan _ now advance =>
    refine commitPairOf stay ?_
    intro _ _ h
    simp only [adminResetPlanSubscriptions,bindOk,requireOk] at h
    obtain ⟨_,_,plan,_,h⟩ := h
    cases pureOk.mp h
    exact resetAllEvolves s plan now advance _

theorem runEvolves (s ops) : Evolves s (run (step loc) s ops) := by
  induction ops generalizing s with
  | nil => exact evolvesRefl s
  | cons op _ ih => exact evolvesTrans (stepEvolves s op) (ih _)

theorem replayed (now) (found : s.records.get? req.requestId = some record) : step loc s (.preConsume req now) = s := by
  refine @commitPairOf _ _ _ s _ (fun t => t = s) rfl ?_
  intro _ _ h
  obtain ⟨fresh,_⟩ | ⟨_,rfl⟩ := preConsumeCases h
  · rw [found] at fresh
    contradiction
  · rfl

theorem replayedLate (now sees)
    (found : s.records.get? req.requestId = some record) : OnlyResets loc now s (step loc s (.preConsumeLate req now sees)) := by
  refine commitPairOf (onlyResetsRefl s) ?_
  intro _ _ h
  exact lockedReplay (lateOk h).2 found

/-- After any run every limited subscription is within its total; a pre-consume that
succeeds charges the first subscription that may pay and no other; and from the moment a
request has its record, calls for it charge nothing, whatever runs in between. -/
theorem subscriptionQuotaBounded {s : Store} (bounded : BoundedStore s) (ops : List UsageOp) :
    BoundedStore (run (step loc) s ops) ∧
    (∀ req now result s', (run (step loc) s ops).records.get? req.requestId = none →
      (preConsumeUserSubscription loc (run (step loc) s ops) now req = .ok (result,s') ∨
        ∃ sees, preConsumeLate loc (run (step loc) s ops) now req sees = .ok (result,s')) →
      ChargesFirst loc now req (run (step loc) s ops) result s') ∧
    (∀ req record, s.records.get? req.requestId = some record → ∀ now sees,
      step loc (run (step loc) s ops) (.preConsume req now) = run (step loc) s ops ∧
      OnlyResets loc now (run (step loc) s ops) (step loc (run (step loc) s ops) (.preConsumeLate req now sees))) := by
  have evolves := @runEvolves loc s ops
  have kept := evolves.bounded bounded
  refine ⟨kept,?_,?_⟩
  · intro req now result s' fresh success
    have charged {sees : Bool} (late : preConsumeLate loc (run (step loc) s ops) now req sees = .ok (result,s')) :=
      lockedCharges kept (lateOk late).1 (lateOk late).2 fresh
    obtain whole | ⟨sees,late⟩ := success
    · obtain ⟨_,late⟩ | ⟨⟨record,found⟩,_⟩ := preConsumeCases whole
      · exact charged late
      · rw [fresh] at found
        contradiction
    · exact charged late
  · intro _ _ found now sees
    obtain ⟨_,there⟩ := evolves.recorded _ _ found
    exact ⟨replayed now there,replayedLate now sees there⟩

def dailyPlan : QuotaPlan := ⟨false,"",100,"daily",0,by decide⟩

def subscribed : Store where
  plans := ⟨[(1,dailyPlan)],by decide⟩
  subs := ⟨[(1,createdSubscription .utc 1 1 dailyPlan 129600 388800)],by decide⟩
  records := .empty

theorem subscribedBounded : BoundedStore subscribed := by
  intro id sub found
  have row : (id,sub) = (1,createdSubscription .utc 1 1 dailyPlan 129600 388800) :=
    mem_singleton.mp (getMem.mp found)
  cases row
  exact boundedZero rfl

def twoDays : List UsageOp :=
  [.preConsume ⟨"first",1,"gpt",60⟩ 130000, .preConsume ⟨"first",1,"gpt",60⟩ 130001,
   .preConsumeLate ⟨"first",1,"gpt",60⟩ 130002 true, .preConsume ⟨"second",1,"gpt",90⟩ 180000,
   .refund "first" .none]

theorem twoDaysBounded : BoundedStore (run (step .utc) subscribed twoDays) ∧
    ((run (step .utc) subscribed (twoDays.take 3)).subs.get? 1).map UserSubscription.amountUsed = some 60 ∧
    ((run (step .utc) subscribed twoDays).subs.get? 1).map UserSubscription.amountUsed = some 30 :=
  ⟨(subscriptionQuotaBounded subscribedBounded twoDays).1,by decide,by decide⟩

end Run
end NovaPuraRouter.SubscriptionQuota
