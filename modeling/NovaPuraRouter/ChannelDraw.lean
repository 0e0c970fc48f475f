import NovaPuraRouter.SelectAgree

/-! How many values of one draw give each channel. The memory cache takes a channel when the
draw falls below its weight and is exact; an ability row is taken already when it is equal,
which gives the first one value of the last one's. -/
namespace NovaPuraRouter.ChannelSelect
open WeightedChoice
open List hiding splitOn

def drawnId : Except SelectError (Option Channel) → Option Nat
  | .ok (some c) => some c.id
  | _ => none

section Exact
variable (weights : List (Nat × Nat)) (choose : Nat → Except SelectError (Option Channel))

/-- Every draw gives a candidate, and each candidate is given by as many values as it weighs. -/
def Exact : Prop :=
  (∀ random, ∃ x ∈ weights, drawnId (choose random) = some x.1) ∧
    ∀ x ∈ weights, (range (total weights)).countP (fun random => drawnId (choose random) = some x.1) = x.2

variable {weights choose}

theorem exactBelow (same : ∀ random, drawnId (choose random) = below weights (random % total weights)) (positive : 0 < total weights) :
    Exact weights choose ↔ ∀ x ∈ weights, total (weights.filter (fun y => y.1 = x.1)) = x.2 := by
  have counted : ∀ id, (range (total weights)).countP (fun random => drawnId (choose random) = some id) =
      total (weights.filter (fun y => y.1 = id)) := by
    intro id
    rw [← belowCount]
    refine countP_congr (fun random inside => ?_)
    rw [same,Nat.mod_eq_of_lt (mem_range.mp inside)]
  unfold Exact
  simp only [counted]
  refine and_iff_right (fun random => ?_)
  obtain ⟨id,chosen⟩ := belowTotal (Nat.mod_lt random positive)
  obtain ⟨w,mem,_⟩ := belowMem chosen
  exact ⟨(id,w),mem,(same random).trans chosen⟩

theorem exactWithin (same : ∀ random, drawnId (choose random) = within weights (random % total weights))
    (wide : ∀ x ∈ weights, 0 < x.2) (something : weights ≠ []) : Exact weights choose ↔ weights.length = 1 := by
  match weights with
  | [] => exact absurd rfl something
  | [x] =>
    have only : ∀ random, drawnId (choose random) = some x.1 := fun random =>
      (same random).trans (if_pos (le_of_lt (Nat.mod_lt random (wide x mem_cons_self))))
    refine iff_of_true ⟨fun random => ⟨x,mem_cons_self,only random⟩,?_⟩ rfl
    intro y mem
    cases mem_singleton.mp mem
    rw [countP_eq_length.mpr (fun random _ => decide_eq_true (only random)),length_range]
    rfl
  | x :: y :: rest =>
    refine iff_of_false (fun exactly => ?_) (by simp)
    have second := wide y (mem_cons_of_mem _ mem_cons_self)
    have more : ∃ k, total (x :: y :: rest) = x.2 + 1 + k := by
      rw [totalCons,totalCons]
      exact ⟨y.2 + total rest - 1,by omega⟩
    obtain ⟨k,more⟩ := more
    have first : ∀ random ∈ range (x.2 + 1), drawnId (choose random) = some x.1 := by
      intro random inside
      have low := mem_range.mp inside
      rw [same,Nat.mod_eq_of_lt (by omega)]
      exact if_pos (Nat.le_of_lt_succ low)
    have count := exactly.2 x mem_cons_self
    rw [more,range_add,countP_append,countP_eq_length.mpr (fun random inside => decide_eq_true (first random inside)),length_range] at count
    omega

end Exact

section Cached
variable {s : Cache} {now retry random : Nat} {group model requestPath : String} {left : List Channel} {p : Int}

theorem effectiveTotal {targets : List Channel} (something : targets ≠ []) : 0 < total (effectiveWeights targets) := by
  obtain ⟨c,inside,weighs⟩ := heaviest something
  obtain ⟨w,entry,positive⟩ := effectiveReached inside weighs
  obtain ⟨_,low,_⟩ := belowReaches entry positive
  exact Nat.zero_lt_of_lt low

def channelWeights (left : List Channel) (p : Int) : List (Nat × Nat) :=
  (effectiveWeights (targets left p)).map (fun x => (x.1.id,x.2))

theorem totalWeights : total (channelWeights left p) = total (effectiveWeights (targets left p)) := by
  unfold total channelWeights
  rw [map_map]
  rfl

theorem drawChosen (target : targetPriority retry (left.map Channel.getPriority) = some p) (random) :
    ∃ c, drawChannel group model retry left random = .ok (some c) ∧
      below (channelWeights left p) (random % total (channelWeights left p)) = some c.id := by
  have something := targetsSome target
  obtain ⟨c,chosen⟩ := belowTotal (Nat.mod_lt random (effectiveTotal something))
  refine ⟨c,?_,?_⟩
  · unfold drawChannel
    rw [target]
    dsimp only
    unfold targets at something chosen
    rw [if_neg something,chosen]
  · rw [totalWeights]
    unfold channelWeights
    rw [belowMap,chosen]
    rfl

theorem selectDraw (resolved : resolve s (candidateIds s now group model requestPath) = .ok left)
    (target : targetPriority retry (left.map Channel.getPriority) = some p) :
    getRandomSatisfiedChannel s now group model retry requestPath random = drawChannel group model retry left random := by
  obtain ⟨c,drawn,_⟩ := @drawChosen retry group model left p target random
  have mem := drawnMem drawn
  unfold getRandomSatisfiedChannel
  split
  · rename_i nothing
    rw [nothing] at resolved
    cases resolved
    cases mem
  · rename_i id one
    obtain ⟨_,here,found⟩ := (resolveMem resolved c).mp mem
    rw [one] at here
    cases mem_singleton.mp here
    rw [found,drawn]
  · rw [resolved]
    rfl

theorem listedTotal {c : Channel} (f : Channel → Nat) (own : ∀ d ∈ left, d.id = c.id → d = c) :
    total ((left.map (fun d => (d.id,f d))).filter (fun y => y.1 = c.id)) = (left.map Channel.id).count c.id * f c := by
  induction left with
  | nil => exact (zero_mul _).symm
  | cons d _ ih =>
    have later := ih (fun e inside => own e (mem_cons_of_mem _ inside))
    rw [map_cons,map_cons,filter_cons]
    by_cases same : d.id = c.id
    · rw [if_pos (decide_eq_true same),totalCons,later,same,count_cons_self,own d mem_cons_self same,add_mul,one_mul,add_comm]
    · rw [if_neg (mt of_decide_eq_true same),later,count_cons_of_ne same]

/-- No channel that weighs something is listed twice. -/
def Single (targets : List Channel) : Prop :=
  ∀ x ∈ effectiveWeights targets, 0 < x.2 → (targets.map Channel.id).count x.1.id = 1

theorem cachedExact (keyed : ∀ id c, s.channelsIDM id = some c → c.id = id)
    (resolved : resolve s (candidateIds s now group model requestPath) = .ok left)
    (target : targetPriority retry (left.map Channel.getPriority) = some p) :
    Exact (channelWeights left p) (getRandomSatisfiedChannel s now group model retry requestPath) ↔ Single (targets left p) := by
  have same : ∀ random, drawnId (getRandomSatisfiedChannel s now group model retry requestPath random) =
      below (channelWeights left p) (random % total (channelWeights left p)) := by
    intro random
    obtain ⟨c,drawn,chosen⟩ := @drawChosen retry group model left p target random
    rw [selectDraw resolved target,drawn,chosen]
    rfl
  have own : ∀ c ∈ targets left p, ∀ d ∈ targets left p, d.id = c.id → d = c := by
    have found : ∀ c ∈ targets left p, s.channelsIDM c.id = some c := by
      intro c inside
      obtain ⟨id,_,found⟩ := (resolveMem resolved c).mp (mem_filter.mp inside).1
      exact keyed id c found ▸ found
    intro c inside d there eq
    exact Option.some.inj ((found d there).symm.trans (eq ▸ found c inside))
  rw [exactBelow same (totalWeights.symm ▸ effectiveTotal (targetsSome target))]
  obtain ⟨f,mapped⟩ := effectiveMap (targets left p)
  unfold Single channelWeights
  rw [mapped,map_map]
  simp only [forall_mem_map,Function.comp_def]
  refine forall₂_congr (fun c inside => ?_)
  rw [listedTotal f (own c inside)]
  constructor
  · intro exactly positive
    exact Nat.eq_of_mul_eq_mul_right positive (exactly.trans (one_mul _).symm)
  · intro once
    rcases Nat.eq_zero_or_pos (f c) with zero | positive
    · rw [zero,mul_zero]
    · rw [once positive,one_mul]

end Cached

section Stored
variable {db : Database} {now retry : Nat} {group model requestPath : String} {found abilities : List Ability}

def abilityWeights (abilities : List Ability) : List (Nat × Nat) := abilities.map (fun a => (a.channelId,a.weight + 10))

theorem storedExact (query : getChannelQuery db group model retry = .ok found)
    (drawn : filterAbilitiesByRequestPathAndModel db now model requestPath (found.insertionSort (fun a b => a.weight ≥ b.weight)) = abilities)
    (something : abilities ≠ []) :
    Exact (abilityWeights abilities) (getChannel db now group model retry requestPath) ↔ abilities.length = 1 := by
  have entry : ∀ {x}, x ∈ abilityWeights abilities → 0 < x.2 ∧ ∃ c, byId db.channels x.1 = some c := by
    intro x inside
    obtain ⟨a,there,same⟩ := List.mem_map.mp inside
    cases same
    rw [← drawn] at there
    have row := (mem_insertionSort _).mp (mem_filter.mp there).1
    obtain ⟨c,stock,same⟩ := enabledMem.mp ((queryOk query a).mp row).1
    cases same
    exact ⟨Nat.succ_pos _,c,byIdMem db.unique (stockedMem.mp stock).1⟩
  have same : ∀ random, drawnId (getChannel db now group model retry requestPath random) =
      within (abilityWeights abilities) (random % total (abilityWeights abilities)) := by
    intro random
    unfold getChannel
    rw [query]
    show drawnId (if _ then _ else _) = _
    rw [drawn,if_neg something,← abilityWeights]
    cases chosen : within (abilityWeights abilities) (random % total (abilityWeights abilities)) with
    | none => rfl
    | some =>
      obtain ⟨w,inside⟩ := withinMem chosen
      obtain ⟨c,here⟩ := (entry inside).2
      rw [Option.bind_eq_bind,Option.bind_some,here]
      exact congrArg some (byIdOwn here).2
  rw [exactWithin same (fun x inside => (entry inside).1) (mt map_eq_nil_iff.mp something)]
  exact (congrArg (· = 1) (length_map _)).to_iff

end Stored

theorem weightedExact (now group model retry requestPath) : (∀ {s left p}, (∀ id c, s.channelsIDM id = some c → c.id = id) →
      resolve s (candidateIds s now group model requestPath) = .ok left → targetPriority retry (left.map Channel.getPriority) = some p →
      (Exact (channelWeights left p) (getRandomSatisfiedChannel s now group model retry requestPath) ↔ Single (targets left p))) ∧
    ∀ {db found abilities}, getChannelQuery db group model retry = .ok found →
      filterAbilitiesByRequestPathAndModel db now model requestPath (found.insertionSort (fun a b => a.weight ≥ b.weight)) = abilities →
      abilities ≠ [] → (Exact (abilityWeights abilities) (getChannel db now group model retry requestPath) ↔ abilities.length = 1) :=
  ⟨cachedExact,storedExact⟩

def pair : Database where
  channels := [⟨1,false,none,.enabled,"default","gpt,mini",none,some 5,0,0⟩,⟨2,false,none,.enabled,"default","gpt",none,some 5,0,0⟩]
  unique := by decide
  abilities := [⟨"default","gpt",1,true,0,5⟩,⟨"default","mini",1,true,0,5⟩,⟨"default","gpt",2,true,0,5⟩]
  produced := rfl

theorem pairExact : Exact (channelWeights pair.channels 0) (getRandomSatisfiedChannel (freshCache pair.channels 0) 0 "default" "gpt" 0 "") ∧
    Exact [(1,15)] (getChannel pair 0 "default" "mini" 0 "") := by
  constructor
  · refine ((weightedExact _ _ _ _ _).1 (fun id c found => (byIdOwn found).2) rfl (by decide)).mpr ?_
    unfold Single
    decide
  · exact (@(weightedExact 0 "default" "mini" 0 "").2 pair [⟨"default","mini",1,true,0,5⟩] _ rfl rfl (cons_ne_nil _ _)).mpr rfl

theorem pairUneven : ¬ Exact [(1,15),(2,15)] (getChannel pair 0 "default" "gpt" 0 "") := by
  rintro ⟨_,counts⟩
  have first := counts (1,15) mem_cons_self
  revert first
  decide +kernel

end NovaPuraRouter.ChannelSelect
