import NovaPuraRouter.ChannelSelect

/-! The channels that a freshly built memory cache and the database can return for one
request. The cache drops cooling channels and those of another path before it steps down
the priorities, the database after; only the cache tries the normalized model name, and
only the cache never draws a channel without weight beside one with it. -/
namespace NovaPuraRouter.ChannelSelect
open Option
open List hiding splitOn
open MarkedText (splitOn)

section Priorities
variable {retry : Nat} {l m : List Int}

theorem sortedMem {p} : p ∈ sortedUniquePriorities l ↔ p ∈ l := by
  unfold sortedUniquePriorities
  rw [mem_insertionSort,mem_dedup]

theorem sortedCongr (same : ∀ p, p ∈ l ↔ p ∈ m) : sortedUniquePriorities l = sortedUniquePriorities m := by
  have perm : l.dedup.Perm m.dedup := by
    refine (perm_ext_iff_of_nodup l.nodup_dedup m.nodup_dedup).mpr (fun p => ?_)
    rw [mem_dedup,mem_dedup]
    exact same p
  have sorted : (sortedUniquePriorities l).Perm (sortedUniquePriorities m) :=
    (perm_insertionSort _ _).trans (perm.trans (perm_insertionSort _ _).symm)
  exact sorted.eq_of_sortedGE sortedGE_insertionSort sortedGE_insertionSort

theorem targetCongr (same : ∀ p, p ∈ l ↔ p ∈ m) : targetPriority retry l = targetPriority retry m := by
  unfold targetPriority
  rw [sortedCongr same]

theorem targetMem {p} (target : targetPriority retry l = some p) : p ∈ l :=
  sortedMem.mp (mem_of_getElem? target)

theorem targetSome (something : l ≠ []) : ∃ p, targetPriority retry l = some p := by
  have positive : 0 < (sortedUniquePriorities l).length := by
    obtain ⟨p,mem⟩ := exists_mem_of_ne_nil l something
    exact length_pos_of_mem (sortedMem.mpr mem)
  exact ⟨_,getElem?_eq_getElem (by omega)⟩

theorem targetOne (p) : targetPriority retry [p] = some p := by
  obtain ⟨q,target⟩ := @targetSome retry [p] (cons_ne_nil p [])
  rw [target,mem_singleton.mp (targetMem target)]

theorem maxTarget (l) : l.max? = targetPriority 0 l := by
  by_cases nothing : l = []
  · rw [nothing]
    rfl
  obtain ⟨p,target⟩ := @targetSome 0 l nothing
  rw [target]
  refine max?_eq_some_iff.mpr ⟨targetMem target,fun q mem => ?_⟩
  have sorted : (sortedUniquePriorities l).SortedGE := sortedGE_insertionSort
  unfold targetPriority at target
  dsimp only at target
  cases order : sortedUniquePriorities l with
  | nil =>
    rw [order] at target
    cases target
  | cons =>
    rw [order] at target sorted
    cases target
    rcases mem_cons.mp (order ▸ sortedMem.mpr mem) with same | later
    · exact le_of_eq same
    · exact (pairwise_cons.mp sorted.pairwise).1 q later

end Priorities

section Drawn
variable {retry : Nat} {group model : String} {channels : List Channel} {c : Channel}

def Drawable (channels : List Channel) (retry : Nat) (c : Channel) : Prop :=
  c ∈ channels ∧ targetPriority retry (channels.map Channel.getPriority) = some c.getPriority ∧
    (0 < c.getWeight ∨ ∀ d ∈ channels, d.getPriority = c.getPriority → d.getWeight = 0)

theorem drawableCongr {others} (same : ∀ d, d ∈ channels ↔ d ∈ others) : Drawable channels retry c ↔ Drawable others retry c := by
  have priorities : ∀ p, p ∈ channels.map Channel.getPriority ↔ p ∈ others.map Channel.getPriority := by
    intro p
    simp only [List.mem_map,same]
  unfold Drawable
  rw [targetCongr priorities]
  simp only [same]

theorem effectivePositive {targets w} : (c,w) ∈ effectiveWeights targets → 0 < w → 0 < c.getWeight ∨ ∀ d ∈ targets, d.getWeight = 0 := by
  unfold effectiveWeights
  dsimp only
  split
  · rename_i zero
    intro _ _
    exact .inr (fun d inside => sum_eq_zero_iff.mp zero _ (List.mem_map_of_mem inside))
  split
  · intro mem positive
    obtain ⟨d,_,same⟩ := List.mem_map.mp mem
    cases same
    exact .inl (Nat.pos_of_mul_pos_right positive)
  · intro mem positive
    obtain ⟨d,_,same⟩ := List.mem_map.mp mem
    cases same
    exact .inl positive

theorem effectiveReached {targets} (mem : c ∈ targets) (weighs : 0 < c.getWeight ∨ ∀ d ∈ targets, d.getWeight = 0) :
    ∃ w, (c,w) ∈ effectiveWeights targets ∧ 0 < w := by
  unfold effectiveWeights
  dsimp only
  split
  · exact ⟨c.getWeight + 100,List.mem_map.mpr ⟨c,mem,rfl⟩,by omega⟩
  rename_i something
  have positive : 0 < c.getWeight := by
    refine weighs.resolve_right (fun zero => something (sum_eq_zero_iff.mpr (fun w inside => ?_)))
    obtain ⟨d,there,same⟩ := List.mem_map.mp inside
    exact same ▸ zero d there
  split
  · exact ⟨c.getWeight * 100,List.mem_map.mpr ⟨c,mem,rfl⟩,by omega⟩
  · exact ⟨c.getWeight,List.mem_map.mpr ⟨c,mem,rfl⟩,positive⟩

theorem tierWeights {p} (same : c.getPriority = p) : (∀ d ∈ channels.filter (fun d => d.getPriority = p), d.getWeight = 0) ↔
      ∀ d ∈ channels, d.getPriority = c.getPriority → d.getWeight = 0 := by
  simp only [mem_filter,decide_eq_true_eq,and_imp,same]

theorem drawnIff : (∃ random, drawChannel group model retry channels random = .ok (some c)) ↔ Drawable channels retry c := by
  constructor
  · rintro ⟨random,drawn⟩
    refine ⟨drawnMem drawn,?_⟩
    unfold drawChannel at drawn
    split at drawn
    · cases drawn
    rename_i p target
    dsimp only at drawn
    split at drawn
    · cases drawn
    split at drawn
    · rename_i d chosen
      cases drawn
      obtain ⟨w,mem,positive⟩ := WeightedChoice.belowMem chosen
      have same : c.getPriority = p := of_decide_eq_true (mem_filter.mp (effectiveMem mem)).2
      exact ⟨same ▸ target,(effectivePositive mem positive).imp_right (tierWeights same).mp⟩
    · cases drawn
  · rintro ⟨mem,target,weighs⟩
    have inside : c ∈ channels.filter (fun d => d.getPriority = c.getPriority) := mem_filter.mpr ⟨mem,decide_eq_true rfl⟩
    obtain ⟨w,entry,positive⟩ := effectiveReached inside (weighs.imp_right (tierWeights rfl).mpr)
    obtain ⟨random,low,chosen⟩ := WeightedChoice.belowReaches entry positive
    refine ⟨random,?_⟩
    unfold drawChannel
    rw [target]
    dsimp only
    rw [if_neg (ne_nil_of_mem inside),Nat.mod_eq_of_lt low,chosen]

theorem heaviest {targets : List Channel} (something : targets ≠ []) : ∃ c ∈ targets, 0 < c.getWeight ∨ ∀ d ∈ targets, d.getWeight = 0 := by
  by_cases zero : ∀ d ∈ targets, d.getWeight = 0
  · obtain ⟨c,mem⟩ := exists_mem_of_ne_nil targets something
    exact ⟨c,mem,.inr zero⟩
  · obtain ⟨d,inside,weight⟩ := not_forall₂.mp zero
    exact ⟨d,inside,.inl (pos_of_ne_zero weight)⟩

def targets (channels : List Channel) (p : Int) : List Channel := channels.filter (fun c => c.getPriority = p)

theorem targetsSome {p} (target : targetPriority retry (channels.map Channel.getPriority) = some p) : targets channels p ≠ [] := by
  obtain ⟨c,mem,same⟩ := List.mem_map.mp (targetMem target)
  exact ne_nil_of_mem (mem_filter.mpr ⟨mem,decide_eq_true same⟩)

theorem drawableSome (something : channels ≠ []) : ∃ c, Drawable channels retry c := by
  obtain ⟨p,target⟩ := @targetSome retry (channels.map Channel.getPriority) (fun nothing => something (map_eq_nil_iff.mp nothing))
  obtain ⟨c,inside,weighs⟩ := heaviest (targetsSome target)
  obtain ⟨mem,tier⟩ := mem_filter.mp inside
  have tier := of_decide_eq_true tier
  exact ⟨c,mem,tier.symm ▸ target,weighs.imp_right (tierWeights tier).mp⟩

end Drawn

section Cached
variable {channels : List Channel} (unique : (channels.map Channel.id).Nodup) {now retry : Nat}
  {group model requestPath : String} {c : Channel}

def ready (channels : List Channel) (now : Nat) (group name model requestPath : String) : List Channel :=
  channels.filter (fun c => c.status = .enabled ∧ group ∈ c.groups ∧ name ∈ c.modelNames ∧ c.accepts now requestPath model = true)

theorem readyMem {name} : c ∈ ready channels now group name model requestPath ↔
    c ∈ channels ∧ c.status = .enabled ∧ group ∈ c.groups ∧ name ∈ c.modelNames ∧ c.accepts now requestPath model = true := by
  unfold ready
  rw [mem_filter,decide_eq_true_eq]

theorem acceptsCold (accepts : c.accepts now requestPath model = true) : c.inCooldown now = false := by
  exact (Bool.not_eq_true' _).mp ((Bool.and_eq_true _ _).mp accepts).1

def freshCache (channels : List Channel) (now : Nat) : Cache := ⟨buildIndex channels now,byId channels⟩

include unique in
theorem filteredReady {name id} :
    id ∈ filterChannelsByRequestPathAndModel (freshCache channels now) now model requestPath
      ((freshCache channels now).group2model2channels group name) ↔
      ∃ c ∈ ready channels now group name model requestPath, byId channels id = some c := by
  unfold freshCache
  rw [filteredMem,indexMem]
  constructor
  · rintro ⟨⟨c,listed,same,inGroup,named⟩,accepts⟩
    obtain ⟨mem,enabled,_⟩ := listedMem.mp listed
    have found : byId channels id = some c := same ▸ byIdMem unique mem
    exact ⟨c,readyMem.mpr ⟨mem,enabled,inGroup,named,accepts c found⟩,found⟩
  · rintro ⟨c,inside,found⟩
    obtain ⟨mem,enabled,inGroup,named,accepts⟩ := readyMem.mp inside
    refine ⟨⟨c,listedMem.mpr ⟨mem,enabled,acceptsCold accepts⟩,(byIdOwn found).2.symm,inGroup,named⟩,?_⟩
    intro d found'
    cases found.symm.trans found'
    exact accepts

include unique in
theorem filteredNone {name} :
    filterChannelsByRequestPathAndModel (freshCache channels now) now model requestPath
      ((freshCache channels now).group2model2channels group name) = [] ↔
      ready channels now group name model requestPath = [] := by
  rw [eq_nil_iff_forall_not_mem,eq_nil_iff_forall_not_mem]
  constructor
  · intro nothing c mem
    exact nothing c.id ((filteredReady unique).mpr ⟨c,mem,byIdMem unique (readyMem.mp mem).1⟩)
  · intro nothing _ mem
    obtain ⟨c,inside,_⟩ := (filteredReady unique).mp mem
    exact nothing c inside

def usedName (channels : List Channel) (now : Nat) (group model requestPath : String) : String :=
  if ready channels now group model model requestPath = [] then formatMatchingModelName model else model

include unique in
theorem candidateReady {id} : id ∈ candidateIds (freshCache channels now) now group model requestPath ↔
    ∃ c ∈ ready channels now group (usedName channels now group model requestPath) model requestPath, byId channels id = some c := by
  have exactly := @filteredNone channels unique now group model requestPath model
  unfold candidateIds usedName
  by_cases nothing : ready channels now group model model requestPath = []
  · rw [if_pos nothing,if_pos (exactly.mpr nothing)]
    exact filteredReady unique
  · rw [if_neg nothing,if_neg (mt exactly.mp nothing)]
    exact filteredReady unique

theorem resolveOk {s ids} (present : ∀ id ∈ ids, ∃ c, s.channelsIDM id = some c) : ∃ channels, resolve s ids = .ok channels := by
  induction ids with
  | nil => exact ⟨[],rfl⟩
  | cons id _ ih =>
    obtain ⟨tail,ok⟩ := ih (fun j inside => present j (mem_cons_of_mem _ inside))
    obtain ⟨c,found⟩ := present id mem_cons_self
    refine ⟨c :: tail,?_⟩
    unfold resolve
    rw [found,ok]
    rfl

theorem drawableOne {d} : Drawable [d] retry c ↔ c = d := by
  constructor
  · intro drawable
    exact mem_singleton.mp drawable.1
  · intro same
    cases same
    refine ⟨mem_singleton_self c,targetOne c.getPriority,?_⟩
    rcases Nat.eq_zero_or_pos c.getWeight with zero | positive
    · exact .inr (fun d mem _ => mem_singleton.mp mem ▸ zero)
    · exact .inl positive

theorem selectIff {s left} (resolved : resolve s (candidateIds s now group model requestPath) = .ok left) :
    (∃ random, getRandomSatisfiedChannel s now group model retry requestPath random = .ok (some c)) ↔ Drawable left retry c := by
  unfold getRandomSatisfiedChannel
  split
  · rename_i nothing
    rw [nothing] at resolved
    cases resolved
    refine iff_of_false ?_ (fun drawable => absurd drawable.1 not_mem_nil)
    rintro ⟨_,selected⟩
    cases selected
  · rename_i id one
    rw [one] at resolved
    cases found : s.channelsIDM id with
    | none =>
      unfold resolve at resolved
      rw [found] at resolved
      cases resolved
    | some =>
      unfold resolve at resolved
      rw [found] at resolved
      cases resolved
      rw [drawableOne]
      exact ⟨fun drawn => (some.inj (Except.ok.inj drawn.choose_spec)).symm,fun same => ⟨0,same ▸ rfl⟩⟩
  · rw [resolved]
    exact drawnIff

include unique in
theorem cacheIff : (∃ random, getRandomSatisfiedChannel (freshCache channels now) now group model retry requestPath random = .ok (some c)) ↔
    Drawable (ready channels now group (usedName channels now group model requestPath) model requestPath) retry c := by
  have candidates := fun id => @candidateReady channels unique now group model requestPath id
  obtain ⟨_,resolved⟩ := @resolveOk (freshCache channels now) _ (fun id mem => ((candidates id).mp mem).imp (fun c inside => inside.2))
  rw [selectIff resolved]
  refine drawableCongr (fun d => ?_)
  rw [resolveMem resolved]
  constructor
  · rintro ⟨id,mem,found⟩
    obtain ⟨e,inside,found'⟩ := (candidates id).mp mem
    cases found.symm.trans found'
    exact inside
  · intro inside
    have found := byIdMem unique (readyMem.mp inside).1
    exact ⟨d.id,(candidates d.id).mpr ⟨d,inside,found⟩,found⟩

end Cached

section Abilities
variable {seen : List String} {pair : String × String} {l : List (String × String)}

theorem uniqueSub (mem : pair ∈ uniquePairs seen l) : pair ∈ l := by
  induction l generalizing seen with
  | nil => cases mem
  | cons _ _ ih =>
    unfold uniquePairs at mem
    split at mem
    · exact mem_cons_of_mem _ (ih mem)
    · rcases mem_cons.mp mem with same | later
      · exact same ▸ mem_cons_self
      · exact mem_cons_of_mem _ (ih later)

theorem uniqueAppend {more} (mem : pair ∈ uniquePairs seen l) : pair ∈ uniquePairs seen (l ++ more) := by
  induction l generalizing seen with
  | nil => cases mem
  | cons _ _ ih =>
    rw [cons_append]
    unfold uniquePairs at mem ⊢
    split
    · rename_i old
      rw [if_pos old] at mem
      exact ih mem
    rename_i new
    rw [if_neg new] at mem
    rcases mem_cons.mp mem with same | later
    · exact same ▸ mem_cons_self
    · exact mem_cons_of_mem _ (ih later)

theorem uniqueKept (mem : pair ∈ l) (fresh : abilityKey pair ∉ seen) (apart : ∀ q ∈ l, abilityKey q = abilityKey pair → q = pair) :
    pair ∈ uniquePairs seen l := by
  induction l generalizing seen with
  | nil => cases mem
  | cons head rest ih =>
    have later : ∀ q ∈ rest, abilityKey q = abilityKey pair → q = pair := fun q inside => apart q (mem_cons_of_mem _ inside)
    unfold uniquePairs
    by_cases here : head = pair
    · rw [here,if_neg fresh]
      exact mem_cons_self
    have inside : pair ∈ rest := (mem_cons.mp mem).resolve_left (fun same => here same.symm)
    split
    · exact ih inside fresh later
    refine mem_cons_of_mem _ (ih inside ?_ later)
    intro old
    rcases mem_cons.mp old with same | before
    · exact here (apart head mem_cons_self same.symm)
    · exact fresh before

theorem splitSome (s) : ∃ first rest, split s = first :: rest := by
  have parts : ∀ t : List Char, ∃ first rest, splitOn ',' t = first :: rest := by
    intro t
    induction t with
    | nil => exact ⟨[],[],rfl⟩
    | cons _ _ ih =>
      obtain ⟨first,_,same⟩ := ih
      unfold splitOn
      split
      · exact ⟨_,_,rfl⟩
      · rw [same]
        exact ⟨_,_,rfl⟩
  obtain ⟨_,_,same⟩ := parts s.toList
  unfold split
  rw [same]
  exact ⟨_,_,rfl⟩

theorem keyGroup {g h m} (same : abilityKey (g,m) = abilityKey (h,m)) : g = h := by
  have chars := congrArg String.toList same
  unfold abilityKey at chars
  simp only [String.toList_append] at chars
  exact String.toList_inj.mp (append_cancel_right (append_cancel_right chars))

theorem groupKept {c : Channel} {g} (mem : g ∈ c.groups) : ∃ m, (g,m) ∈ uniquePairs [] c.pairs := by
  obtain ⟨first,_,models⟩ := splitSome c.models
  refine ⟨first,?_⟩
  unfold Channel.pairs Channel.modelNames
  rw [models,flatMap_cons]
  refine uniqueAppend (uniqueKept (List.mem_map_of_mem mem) not_mem_nil ?_)
  intro q inside same
  obtain ⟨h,_,eq⟩ := List.mem_map.mp inside
  cases eq
  rw [keyGroup same]

/- The channel has its own row for the pair; it has none where another of its pairs has the
same key and comes first. -/
def Channel.hasRow (c : Channel) (group model : String) : Prop := (group,model) ∈ uniquePairs [] c.pairs

instance (c : Channel) (group model) : Decidable (c.hasRow group model) := by unfold Channel.hasRow; infer_instance

theorem rowServes {c : Channel} {group model} (row : c.hasRow group model) : group ∈ c.groups ∧ model ∈ c.modelNames := by
  obtain ⟨m,named,inside⟩ := mem_flatMap.mp (uniqueSub row)
  obtain ⟨g,mem,same⟩ := List.mem_map.mp inside
  cases same
  exact ⟨mem,named⟩

end Abilities

section Stored
variable {db : Database} {now retry : Nat} {group model requestPath : String} {c : Channel}

theorem producedMem {channels : List Channel} {abilities} (produced : (channels.mapM Channel.addAbilities).map List.flatten = some abilities) :
    ∀ a, a ∈ abilities ↔ ∃ c ∈ channels, a ∈ c.rows := by
  induction channels generalizing abilities with
  | nil =>
    cases produced
    simp
  | cons _ _ ih =>
    rw [mapM_cons] at produced
    obtain ⟨_,ok,flat⟩ := map_eq_some_iff.mp produced
    obtain ⟨_,added,ok⟩ := bind_eq_some_iff.mp ok
    obtain ⟨_,others,same⟩ := bind_eq_some_iff.mp ok
    cases same
    cases flat
    obtain ⟨_,same⟩ := ite_none_right_eq_some.mp added
    have later := ih (congrArg (Option.map List.flatten) others)
    intro a
    rw [flatten_cons,mem_append,later a,← some.inj same,exists_mem_cons_iff]

theorem freshSome (db : Database) (now) :
    initChannelCache db.channels now (db.abilities.map Ability.group) = some (freshCache db.channels now) := by
  refine if_pos (fun c listed g mem => ?_)
  obtain ⟨m,row⟩ := groupKept mem
  have ability : ⟨g,m,c.id,c.status = .enabled,c.getPriority,c.getWeight⟩ ∈ c.rows := List.mem_map.mpr ⟨(g,m),row,rfl⟩
  exact List.mem_map.mpr ⟨_,(producedMem db.produced _).mpr ⟨c,(listedMem.mp listed).1,ability⟩,rfl⟩

def Channel.ability (c : Channel) (group model : String) : Ability := ⟨group,model,c.id,true,c.getPriority,c.getWeight⟩

def stocked (channels : List Channel) (group model : String) : List Channel :=
  channels.filter (fun c => c.status = .enabled ∧ c.hasRow group model)

theorem stockedMem {channels} : c ∈ stocked channels group model ↔ c ∈ channels ∧ c.status = .enabled ∧ c.hasRow group model := by
  unfold stocked
  rw [mem_filter,decide_eq_true_eq]

theorem enabledMem {a} : a ∈ enabledAbilities db group model ↔ ∃ c ∈ stocked db.channels group model, a = c.ability group model := by
  unfold enabledAbilities
  rw [mem_filter,producedMem db.produced,decide_eq_true_eq]
  constructor
  · rintro ⟨⟨c,mem,row⟩,sameGroup,sameModel,on⟩
    obtain ⟨_,kept,same⟩ := List.mem_map.mp row
    cases same
    dsimp only at sameGroup sameModel on
    have status : c.status = .enabled := of_decide_eq_true on
    have has : c.hasRow group model := by
      rw [← sameGroup,← sameModel]
      exact kept
    refine ⟨c,stockedMem.mpr ⟨mem,status,has⟩,?_⟩
    unfold Channel.ability
    rw [sameGroup,sameModel,on]
  · rintro ⟨c,inside,same⟩
    obtain ⟨mem,status,has⟩ := stockedMem.mp inside
    cases same
    refine ⟨⟨c,mem,List.mem_map.mpr ⟨(group,model),has,?_⟩⟩,rfl,rfl,rfl⟩
    unfold Channel.ability
    rw [decide_eq_true status]

theorem enabledPriorities (p) : p ∈ (enabledAbilities db group model).map Ability.priority ↔
    p ∈ (stocked db.channels group model).map Channel.getPriority := by
  simp only [List.mem_map,enabledMem]
  constructor
  · rintro ⟨_,⟨c,mem,rfl⟩,same⟩
    exact ⟨c,mem,same⟩
  · rintro ⟨c,mem,same⟩
    exact ⟨_,⟨c,mem,rfl⟩,same⟩

theorem getPriorityTarget {p} : getPriority db group model retry = .ok p ↔
    targetPriority retry ((enabledAbilities db group model).map Ability.priority) = some p := by
  unfold getPriority targetPriority
  dsimp only
  generalize sortedUniquePriorities ((enabledAbilities db group model).map Ability.priority) = sorted
  by_cases past : retry ≥ sorted.length
  · rw [if_pos past,getLast?_eq_getElem?,min_eq_right (by omega)]
    cases sorted[sorted.length - 1]? with
    | none | some => simp
  · rw [if_neg past,Nat.min_eq_left (by omega)]
    cases sorted[retry]? with
    | none | some => simp

theorem queryOk {found} (ok : getChannelQuery db group model retry = .ok found) (a) : a ∈ found ↔ a ∈ enabledAbilities db group model ∧
      targetPriority retry ((stocked db.channels group model).map Channel.getPriority) = some a.priority := by
  rw [← targetCongr (@enabledPriorities db group model)]
  unfold getChannelQuery at ok
  split at ok
  · obtain ⟨p,target,same⟩ := mapOk.mp ok
    cases same
    rw [getPriorityTarget.mp target,mem_filter,decide_eq_true_eq,some_inj,eq_comm]
  rename_i zero
  cases ok
  rw [not_not.mp zero,← maxTarget,mem_filter,decide_eq_true_eq,eq_comm]
  rfl

theorem querySome (something : stocked db.channels group model ≠ []) : ∃ found, getChannelQuery db group model retry = .ok found := by
  unfold getChannelQuery
  split
  · obtain ⟨p,target⟩ := @targetSome retry ((stocked db.channels group model).map Channel.getPriority)
      (fun nothing => something (map_eq_nil_iff.mp nothing))
    rw [← targetCongr (@enabledPriorities db group model)] at target
    rw [getPriorityTarget.mpr target]
    exact ⟨_,rfl⟩
  · exact ⟨_,rfl⟩

theorem storedIff : (∃ random, getChannel db now group model retry requestPath random = .ok (some c)) ↔
    c ∈ stocked db.channels group model ∧ c.accepts now requestPath model = true ∧
      targetPriority retry ((stocked db.channels group model).map Channel.getPriority) = some c.getPriority := by
  have filtered : ∀ {found : List Ability} (a : Ability), a ∈ filterAbilitiesByRequestPathAndModel db now model requestPath
      (found.insertionSort (fun a b => a.weight ≥ b.weight)) ↔
        a ∈ found ∧ ∀ d, byId db.channels a.channelId = some d → d.accepts now requestPath model = true := by
    intro found a
    unfold filterAbilitiesByRequestPathAndModel
    rw [mem_filter,mem_insertionSort]
    cases byId db.channels a.channelId with
    | none | some => simp
  constructor
  · rintro ⟨random,drawn⟩
    obtain ⟨found,ok,drawn⟩ := bindOk.mp drawn
    dsimp only at drawn
    split at drawn
    · cases drawn
    split at drawn
    · rename_i d chosen
      cases drawn
      obtain ⟨_,picked,here⟩ := bind_eq_some_iff.mp chosen
      obtain ⟨w,mem⟩ := WeightedChoice.withinMem picked
      obtain ⟨a,inside,same⟩ := List.mem_map.mp mem
      cases same
      obtain ⟨member,accepts⟩ := (filtered a).mp inside
      obtain ⟨row,target⟩ := (queryOk ok a).mp member
      obtain ⟨e,inStock,same⟩ := enabledMem.mp row
      cases same
      cases (byIdMem db.unique (stockedMem.mp inStock).1).symm.trans here
      exact ⟨inStock,accepts c here,target⟩
    · cases drawn
  · rintro ⟨inStock,accepts,target⟩
    obtain ⟨found,ok⟩ := @querySome db retry group model (ne_nil_of_mem inStock)
    have here := byIdMem db.unique (stockedMem.mp inStock).1
    have row : c.ability group model ∈ filterAbilitiesByRequestPathAndModel db now model requestPath
        (found.insertionSort (fun a b => a.weight ≥ b.weight)) := by
      refine (filtered _).mpr ⟨(queryOk ok _).mpr ⟨enabledMem.mpr ⟨c,inStock,rfl⟩,target⟩,fun d found' => ?_⟩
      cases here.symm.trans found'
      exact accepts
    have entry := List.mem_map_of_mem (f := fun a : Ability => (a.channelId,a.weight + 10)) row
    obtain ⟨random,_,low,picked⟩ := WeightedChoice.withinReaches (fun x mem => by
      obtain ⟨a,_,same⟩ := List.mem_map.mp mem
      cases same
      omega) entry
    refine ⟨random,?_⟩
    unfold getChannel
    rw [ok]
    show (if _ then _ else _) = _
    rw [if_neg (ne_nil_of_mem row)]
    rw [Nat.mod_eq_of_lt low,picked,Option.bind_eq_bind,bind_some,show (c.ability group model).channelId = c.id from rfl,here]

end Stored

/- Both backends can return the same channels, and some if one is enabled, not cooling and
serves the group and the model. -/
def BackendsAgree (db : Database) (now : Nat) (group model : String) (retry : Nat) (requestPath : String) : Prop :=
  let cached := fun c => ∃ cache random, initChannelCache db.channels now (db.abilities.map Ability.group) = some cache ∧
    getRandomSatisfiedChannel cache now group model retry requestPath random = .ok (some c)
  let stored := fun c => ∃ random, getChannel db now group model retry requestPath random = .ok (some c)
  (∀ c, cached c ↔ stored c) ∧
    ((∃ c ∈ db.channels, c.status = .enabled ∧ c.inCooldown now = false ∧ group ∈ c.groups ∧ model ∈ c.modelNames) →
      (∃ c, cached c) ∧ ∃ c, stored c)

/- With no channel ready under the exact name: there is none under the normalized name and
none that only the path keeps out. Otherwise: the retries come to the same priority among
the ready channels as among all enabled ones, and in that tier the channels with a row are
those with a weight, or all if none has a weight. -/
def Aligned (db : Database) (now : Nat) (group model : String) (retry : Nat) (requestPath : String) : Prop :=
  let left := ready db.channels now group model model requestPath
  if left = [] then
    ready db.channels now group (formatMatchingModelName model) model requestPath = [] ∧
      ∀ c ∈ db.channels, ¬ (c.status = .enabled ∧ c.inCooldown now = false ∧ group ∈ c.groups ∧ model ∈ c.modelNames)
  else
    targetPriority retry (left.map Channel.getPriority) =
        targetPriority retry ((stocked db.channels group model).map Channel.getPriority) ∧
      ∀ c ∈ left, targetPriority retry (left.map Channel.getPriority) = some c.getPriority →
        ((0 < c.getWeight ∨ ∀ d ∈ left, d.getPriority = c.getPriority → d.getWeight = 0) ↔ c.hasRow group model)

section Agree
variable {db : Database} {now retry : Nat} {group model requestPath : String} {c : Channel}

theorem cachedIff : (∃ cache random, initChannelCache db.channels now (db.abilities.map Ability.group) = some cache ∧
      getRandomSatisfiedChannel cache now group model retry requestPath random = .ok (some c)) ↔
    Drawable (ready db.channels now group (usedName db.channels now group model requestPath) model requestPath) retry c := by
  rw [← cacheIff db.unique,freshSome]
  constructor
  · rintro ⟨_,random,same,selected⟩
    cases same
    exact ⟨random,selected⟩
  · rintro ⟨random,selected⟩
    exact ⟨_,random,rfl,selected⟩

theorem stockedReady : c ∈ stocked db.channels group model ∧ c.accepts now requestPath model = true ↔
    c ∈ ready db.channels now group model model requestPath ∧ c.hasRow group model := by
  rw [stockedMem,readyMem]
  constructor
  · rintro ⟨⟨mem,enabled,row⟩,accepts⟩
    obtain ⟨inGroup,named⟩ := rowServes row
    exact ⟨⟨mem,enabled,inGroup,named,accepts⟩,row⟩
  · rintro ⟨⟨mem,enabled,_,_,accepts⟩,row⟩
    exact ⟨⟨mem,enabled,row⟩,accepts⟩

theorem agreeEmpty (nothing : ready db.channels now group model model requestPath = []) :
    BackendsAgree db now group model retry requestPath ↔ Aligned db now group model retry requestPath := by
  have stored : ∀ c, ¬ ∃ random, getChannel db now group model retry requestPath random = .ok (some c) := by
    intro c drawn
    obtain ⟨inStock,accepts,_⟩ := storedIff.mp drawn
    have inside := (stockedReady.mp ⟨inStock,accepts⟩).1
    rw [nothing] at inside
    cases inside
  have name : usedName db.channels now group model requestPath = formatMatchingModelName model := if_pos nothing
  unfold BackendsAgree Aligned
  simp only [cachedIff,name,nothing,if_true]
  constructor
  · rintro ⟨same,serves⟩
    refine ⟨?_,fun c mem serving => ?_⟩
    · by_contra something
      obtain ⟨c,drawable⟩ := @drawableSome retry _ something
      exact stored c ((same c).mp drawable)
    · obtain ⟨_,c,drawn⟩ := serves ⟨c,mem,serving⟩
      exact stored c drawn
  · rintro ⟨normalized,serves⟩
    refine ⟨fun c => ⟨fun drawable => ?_,fun drawn => absurd drawn (stored c)⟩,fun ⟨c,mem,serving⟩ => absurd serving (serves c mem)⟩
    have inside := drawable.1
    rw [normalized] at inside
    cases inside

theorem agreeSome (something : ready db.channels now group model model requestPath ≠ []) :
    BackendsAgree db now group model retry requestPath ↔ Aligned db now group model retry requestPath := by
  have name : usedName db.channels now group model requestPath = model := if_neg something
  have stored : ∀ c, (∃ random, getChannel db now group model retry requestPath random = .ok (some c)) ↔
      (c ∈ ready db.channels now group model model requestPath ∧ c.hasRow group model) ∧
        targetPriority retry ((stocked db.channels group model).map Channel.getPriority) = some c.getPriority := by
    intro c
    rw [storedIff,← and_assoc,stockedReady]
  obtain ⟨one,drawable⟩ := @drawableSome retry _ something
  unfold BackendsAgree Aligned
  simp only [cachedIff,name,stored,something,if_false]
  constructor
  · rintro ⟨same,_⟩
    have target := drawable.2.1.trans ((same one).mp drawable).2.symm
    refine ⟨target,fun c mem tier => ⟨fun weighs => ((same c).mp ⟨mem,tier,weighs⟩).1.2,fun row => ?_⟩⟩
    exact ((same c).mpr ⟨⟨mem,row⟩,target ▸ tier⟩).2.2
  · rintro ⟨target,tier⟩
    refine ⟨?same,fun _ => ⟨⟨one,drawable⟩,one,(?same one).mp drawable⟩⟩
    intro c
    rw [← target]
    constructor
    · rintro ⟨mem,here,weighs⟩
      exact ⟨⟨mem,(tier c mem here).mp weighs⟩,here⟩
    · rintro ⟨⟨mem,row⟩,here⟩
      exact ⟨mem,here,(tier c mem here).mpr row⟩

end Agree

theorem backendsAgree (db : Database) (now : Nat) (group model : String) (retry : Nat) (requestPath : String) :
    BackendsAgree db now group model retry requestPath ↔ Aligned db now group model retry requestPath := by
  by_cases nothing : ready db.channels now group model model requestPath = []
  · exact agreeEmpty nothing
  · exact agreeSome nothing

def coolingTop : Database where
  channels := [⟨1,false,none,.enabled,"default","gpt",some 10,none,200,1⟩,⟨2,false,none,.enabled,"default","gpt",some 0,none,0,0⟩]
  unique := by decide
  abilities := [⟨"default","gpt",1,true,10,0⟩,⟨"default","gpt",2,true,0,0⟩]
  produced := by rfl

theorem coolingTopDiffers : ¬ BackendsAgree coolingTop 100 "default" "gpt" 0 "" := by
  rintro ⟨same,_⟩
  obtain ⟨random,drawn⟩ := (same ⟨2,false,none,.enabled,"default","gpt",some 0,none,0,0⟩).mp ⟨_,0,rfl,rfl⟩
  have nothing : getChannel coolingTop 100 "default" "gpt" 0 "" random = .ok none := rfl
  cases nothing.symm.trans drawn

end NovaPuraRouter.ChannelSelect
