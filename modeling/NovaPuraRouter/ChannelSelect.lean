import NovaPuraRouter.ChannelStatus
import NovaPuraRouter.MarkedText
import NovaPuraRouter.WeightedChoice
import Mathlib.Data.List.Dedup
import Mathlib.Data.List.Sort

/-! How a channel is chosen for a request, from the memory cache and from the ability rows:
among the channels that serve the group and the model, stepping down the priorities with the
retries and drawing by weight. -/
namespace NovaPuraRouter.ChannelSelect
open List hiding splitOn
open ChannelStatus (Status)
open MarkedText (splitOn starts trim)

structure AdvancedCustomConfig where
  supportsPathForModel : String → String → Bool

structure Channel where
  id : Nat
  advancedCustom : Bool
  config : Option AdvancedCustomConfig
  status : Status
  group : String
  models : String
  priority : Option Int
  weight : Option Nat
  cooldownUntil : Int
  failureCount : Nat

def split (s : String) : List String := (splitOn ',' s.toList).map String.ofList

section Channel
variable (c : Channel) (now : Nat)

def Channel.groups : List String := split c.group

def Channel.modelNames : List String := split c.models

def Channel.getPriority : Int := c.priority.getD 0

def Channel.getWeight : Nat := c.weight.getD 0

def Channel.inCooldown : Bool := 0 < c.cooldownUntil ∧ now < c.cooldownUntil

def Channel.supports (requestPath model : String) : Bool :=
  if requestPath = "" ∨ c.advancedCustom = false then true
  else match c.config with
    | some config => config.supportsPathForModel requestPath model
    | none => false

def Channel.accepts (requestPath model : String) : Bool := !c.inCooldown now && c.supports requestPath model

end Channel

def contains (pattern : List Char) : List Char → Bool
  | [] => starts pattern ([] : List Char)
  | c :: rest => starts pattern (c :: rest) || contains pattern rest

def hasPrefix (name start : String) : Bool := starts start.toList name.toList

def handleThinkingBudgetModel (name start wildcard : String) : String :=
  if hasPrefix name start ∧ contains "-thinking-".toList name.toList then wildcard else name

def formatMatchingModelName (name : String) : String :=
  let name :=
    if hasPrefix name "gemini-2.5-flash-lite" then
      handleThinkingBudgetModel name "gemini-2.5-flash-lite" "gemini-2.5-flash-lite-thinking-*"
    else if hasPrefix name "gemini-2.5-flash" then
      handleThinkingBudgetModel name "gemini-2.5-flash" "gemini-2.5-flash-thinking-*"
    else if hasPrefix name "gemini-2.5-pro" then
      handleThinkingBudgetModel name "gemini-2.5-pro" "gemini-2.5-pro-thinking-*"
    else name
  let name := if hasPrefix name "gpt-4-gizmo" then "gpt-4-gizmo-*" else name
  if hasPrefix name "gpt-4o-gizmo" then "gpt-4o-gizmo-*" else name

def sortedUniquePriorities (priorities : List Int) : List Int := priorities.dedup.insertionSort (· ≥ ·)

def targetPriority (retry : Nat) (priorities : List Int) : Option Int :=
  let sorted := sortedUniquePriorities priorities
  sorted[min retry (sorted.length - 1)]?

inductive SelectError
  | missingChannel (id : Nat)
  | noChannelFound (group model : String) (priority : Int)
  | channelNotFound
  | databaseInconsistent
  | recordNotFound
  deriving DecidableEq, Repr

structure Cache where
  group2model2channels : String → String → List Nat
  channelsIDM : Nat → Option Channel

section Init
variable (channels : List Channel) (now : Nat)

def byId (id : Nat) : Option Channel := channels.find? (fun c => c.id = id)

def listedChannels : List Channel := channels.filter (fun c => c.status = .enabled ∧ c.inCooldown now = false)

def Channel.entries (c : Channel) (group model : String) : List Nat :=
  c.groups.flatMap (fun g => c.modelNames.filterMap (fun m => if g = group ∧ m = model then some c.id else none))

def priorityOf (id : Nat) : Int := ((byId channels id).map Channel.getPriority).getD 0

def buildIndex (group model : String) : List Nat :=
  ((listedChannels channels now).flatMap (fun c => c.entries group model)).insertionSort
    (fun i j => priorityOf channels i ≥ priorityOf channels j)

/- The groups are those of the abilities; a channel of another group has no map to write to,
and nothing is built. -/
def initChannelCache (groups : List String) : Option Cache :=
  if ∀ c ∈ listedChannels channels now, ∀ g ∈ c.groups, g ∈ groups then some ⟨buildIndex channels now,byId channels⟩ else none

end Init

section Select
variable (s : Cache) (now : Nat) (group model : String) (retry : Nat) (requestPath : String)

def filterChannelsByRequestPathAndModel (ids : List Nat) : List Nat :=
  ids.filter (fun id => match s.channelsIDM id with
    | none => true
    | some c => c.accepts now requestPath model)

def resolve : List Nat → Except SelectError (List Channel)
  | [] => .ok []
  | id :: rest => match s.channelsIDM id with
    | none => .error (.missingChannel id)
    | some c => (resolve rest).map (c :: ·)

def effectiveWeights (targets : List Channel) : List (Channel × Nat) :=
  let sumWeight := (targets.map Channel.getWeight).sum
  if sumWeight = 0 then targets.map (fun c => (c,c.getWeight + 100))
  else if sumWeight / targets.length < 10 then targets.map (fun c => (c,c.getWeight * 100))
  else targets.map (fun c => (c,c.getWeight))

def drawChannel (channels : List Channel) (random : Nat) : Except SelectError (Option Channel) :=
  match targetPriority retry (channels.map Channel.getPriority) with
  | none => .error .channelNotFound
  | some priority =>
    let targets := channels.filter (fun c => c.getPriority = priority)
    if targets = [] then .error (.noChannelFound group model priority)
    else match WeightedChoice.below (effectiveWeights targets) (random % WeightedChoice.total (effectiveWeights targets)) with
      | some c => .ok (some c)
      | none => .error .channelNotFound

def candidateIds : List Nat :=
  let exactly := filterChannelsByRequestPathAndModel s now model requestPath (s.group2model2channels group model)
  if exactly = [] then
    filterChannelsByRequestPathAndModel s now model requestPath (s.group2model2channels group (formatMatchingModelName model))
  else exactly

def getRandomSatisfiedChannel (random : Nat) : Except SelectError (Option Channel) :=
  match candidateIds s now group model requestPath with
  | [] => .ok none
  | [id] => match s.channelsIDM id with
    | some c => .ok (some c)
    | none => .error (.missingChannel id)
  | ids => resolve s ids >>= fun channels => drawChannel group model retry channels random

end Select

structure Ability where
  group : String
  model : String
  channelId : Nat
  enabled : Bool
  priority : Int
  weight : Nat

def isInvalidModelName (name : List Char) : Bool := (trim name).getLast? = some '"'

def validateChannelModelNames (models : String) : Bool :=
  (splitOn ',' models.toList).all (fun raw => trim raw = [] ∨ isInvalidModelName (trim raw) = false)

def abilityKey (pair : String × String) : String := pair.1 ++ "|" ++ pair.2

def uniquePairs (seen : List String) : List (String × String) → List (String × String)
  | [] => []
  | pair :: rest =>
    if abilityKey pair ∈ seen then uniquePairs seen rest else pair :: uniquePairs (abilityKey pair :: seen) rest

section Abilities
variable (c : Channel)

def Channel.pairs : List (String × String) := c.modelNames.flatMap (fun m => c.groups.map (fun g => (g,m)))

def Channel.rows : List Ability := (uniquePairs [] c.pairs).map (fun pair =>
  ⟨pair.1,pair.2,c.id,c.status = .enabled,c.getPriority,c.getWeight⟩)

def Channel.addAbilities : Option (List Ability) := if validateChannelModelNames c.models then some c.rows else none

end Abilities

structure Database where
  channels : List Channel
  unique : (channels.map Channel.id).Nodup
  abilities : List Ability
  produced : (channels.mapM Channel.addAbilities).map List.flatten = some abilities

section Query
variable (db : Database) (now : Nat) (group model : String) (retry : Nat) (requestPath : String)

def enabledAbilities : List Ability := db.abilities.filter (fun a => a.group = group ∧ a.model = model ∧ a.enabled)

def getPriority : Except SelectError Int :=
  let priorities := sortedUniquePriorities ((enabledAbilities db group model).map Ability.priority)
  if retry ≥ priorities.length then
    match priorities.getLast? with
    | some priority => .ok priority
    | none => .error .databaseInconsistent
  else match priorities[retry]? with
    | some priority => .ok priority
    | none => .error .databaseInconsistent

def maxPriority : Option Int := ((enabledAbilities db group model).map Ability.priority).max?

def getChannelQuery : Except SelectError (List Ability) :=
  if retry ≠ 0 then
    (getPriority db group model retry).map (fun priority => (enabledAbilities db group model).filter (fun a => a.priority = priority))
  else .ok ((enabledAbilities db group model).filter (fun a => some a.priority = maxPriority db group model))

def filterAbilitiesByRequestPathAndModel (abilities : List Ability) : List Ability :=
  abilities.filter (fun a => match byId db.channels a.channelId with
    | none => true
    | some c => c.accepts now requestPath model)

def getChannel (random : Nat) : Except SelectError (Option Channel) :=
  getChannelQuery db group model retry >>= fun found =>
    let abilities := filterAbilitiesByRequestPathAndModel db now model requestPath
      (found.insertionSort (fun a b => a.weight ≥ b.weight))
    if abilities = [] then .ok none
    else
      let weights := abilities.map (fun a => (a.channelId,a.weight + 10))
      match WeightedChoice.within weights (random % WeightedChoice.total weights) >>= byId db.channels with
      | some c => .ok (some c)
      | none => .error .recordNotFound

end Query

section Index
variable {channels : List Channel} {now : Nat} {group model : String} {id : Nat} {c : Channel}

theorem byIdOwn (found : byId channels id = some c) : c ∈ channels ∧ c.id = id :=
  have key := find?_some found
  ⟨mem_of_find?_eq_some found,of_decide_eq_true key⟩

theorem byIdMem (unique : (channels.map Channel.id).Nodup) (mem : c ∈ channels) : byId channels c.id = some c := by
  cases found : byId channels c.id with
  | none => exact absurd (decide_eq_true rfl) (find?_eq_none.mp found c mem)
  | some =>
    obtain ⟨there,same⟩ := byIdOwn found
    rw [inj_on_of_nodup_map unique there mem same]

theorem entriesReplicate (c : Channel) (group model) :
    c.entries group model = List.replicate (c.groups.count group * c.modelNames.count model) c.id := by
  have inner : ∀ g, c.modelNames.filterMap (fun m => if g = group ∧ m = model then some c.id else none) =
      List.replicate (if g = group then c.modelNames.count model else 0) c.id := by
    intro g
    induction c.modelNames with
    | nil => simp
    | cons m =>
      by_cases sameGroup : g = group
      · by_cases sameModel : m = model
        · simp_all [replicate_succ]
        · simp_all
      · simp_all
  unfold Channel.entries
  simp only [inner]
  induction c.groups with
  | nil => simp
  | cons g _ ih =>
    rw [flatMap_cons,ih,replicate_append_replicate]
    by_cases same : g = group
    · rw [if_pos same,same,count_cons_self,add_mul,one_mul,add_comm]
    · rw [if_neg same,count_cons_of_ne same,zero_add]

theorem entriesMem {c : Channel} : id ∈ c.entries group model ↔ id = c.id ∧ group ∈ c.groups ∧ model ∈ c.modelNames := by
  rw [entriesReplicate,mem_replicate]
  have positive : c.groups.count group * c.modelNames.count model ≠ 0 ↔ group ∈ c.groups ∧ model ∈ c.modelNames := by
    rw [Nat.mul_ne_zero_iff,← Nat.pos_iff_ne_zero,← Nat.pos_iff_ne_zero,count_pos_iff,count_pos_iff]
  rw [positive]
  exact and_comm

theorem listedMem : c ∈ listedChannels channels now ↔ c ∈ channels ∧ c.status = .enabled ∧ c.inCooldown now = false := by
  unfold listedChannels
  rw [mem_filter,decide_eq_true_eq]

theorem indexMem : id ∈ buildIndex channels now group model ↔
    ∃ c ∈ listedChannels channels now, id = c.id ∧ group ∈ c.groups ∧ model ∈ c.modelNames := by
  unfold buildIndex
  rw [mem_insertionSort,mem_flatMap]
  simp only [entriesMem]

theorem indexCount (unique : (channels.map Channel.id).Nodup) (mem : c ∈ channels) :
    (buildIndex channels now group model).count c.id ≤ c.groups.count group * c.modelNames.count model := by
  unfold buildIndex
  rw [(perm_insertionSort _ _).count_eq]
  have sub : ((listedChannels channels now).map Channel.id).Nodup := unique.sublist (filter_sublist.map _)
  have own : ∀ d ∈ listedChannels channels now, d.id = c.id → d = c := fun d inside same =>
    inj_on_of_nodup_map unique (listedMem.mp inside).1 mem same
  generalize listedChannels channels now = listed at sub own
  induction listed with
  | nil => exact Nat.zero_le _
  | cons d rest ih =>
    obtain ⟨fresh,nodup⟩ := nodup_cons.mp sub
    have tail := ih nodup (fun e inside => own e (mem_cons_of_mem _ inside))
    rw [flatMap_cons,count_append,entriesReplicate,count_replicate]
    by_cases same : d.id = c.id
    · have nothing : (rest.flatMap (fun c => c.entries group model)).count c.id = 0 := by
        refine count_eq_zero.mpr (fun inside => ?_)
        obtain ⟨e,there,entry⟩ := mem_flatMap.mp inside
        exact fresh (mem_map.mpr ⟨e,there,(entriesMem.mp entry).1.symm.trans same.symm⟩)
      rw [nothing,own d mem_cons_self same,if_pos (beq_self_eq_true _),add_zero]
    · rw [if_neg (fun eq => same (eq_of_beq eq)),zero_add]
      exact tail

end Index

section Selected
variable {s : Cache} {now retry random : Nat} {group model requestPath : String} {c : Channel}

theorem filteredMem {ids id} : id ∈ filterChannelsByRequestPathAndModel s now model requestPath ids ↔
    id ∈ ids ∧ ∀ c, s.channelsIDM id = some c → c.accepts now requestPath model = true := by
  unfold filterChannelsByRequestPathAndModel
  rw [mem_filter]
  cases s.channelsIDM id with
  | none | some => simp

theorem candidateMem {id} (mem : id ∈ candidateIds s now group model requestPath) :
    (∃ name, id ∈ s.group2model2channels group name) ∧ ∀ c, s.channelsIDM id = some c → c.accepts now requestPath model = true := by
  unfold candidateIds at mem
  dsimp only at mem
  split at mem
  · obtain ⟨inside,accepts⟩ := filteredMem.mp mem
    exact ⟨⟨_,inside⟩,accepts⟩
  · obtain ⟨inside,accepts⟩ := filteredMem.mp mem
    exact ⟨⟨_,inside⟩,accepts⟩

theorem resolveMem {ids channels} (resolved : resolve s ids = .ok channels) : ∀ c, c ∈ channels ↔ ∃ id ∈ ids, s.channelsIDM id = some c := by
  induction ids generalizing channels with
  | nil =>
    cases resolved
    simp
  | cons id _ ih =>
    unfold resolve at resolved
    cases found : s.channelsIDM id with
    | none =>
      rw [found] at resolved
      cases resolved
    | some =>
      rw [found] at resolved
      obtain ⟨_,ok,same⟩ := mapOk.mp resolved
      cases same
      intro c
      rw [mem_cons,ih ok,exists_mem_cons_iff,found,Option.some_inj,eq_comm]

theorem effectiveMap (targets) : ∃ f : Channel → Nat, effectiveWeights targets = targets.map (fun c => (c,f c)) := by
  unfold effectiveWeights
  dsimp only
  split
  · exact ⟨_,rfl⟩
  split
  · exact ⟨_,rfl⟩
  · exact ⟨_,rfl⟩

theorem effectiveMem {targets w} (mem : (c,w) ∈ effectiveWeights targets) : c ∈ targets := by
  obtain ⟨f,mapped⟩ := effectiveMap targets
  rw [mapped] at mem
  obtain ⟨d,there,same⟩ := mem_map.mp mem
  cases same
  exact there

theorem drawnMem {channels} (drawn : drawChannel group model retry channels random = .ok (some c)) : c ∈ channels := by
  unfold drawChannel at drawn
  split at drawn
  · cases drawn
  dsimp only at drawn
  split at drawn
  · cases drawn
  split at drawn
  · rename_i chosen
    cases drawn
    obtain ⟨w,mem,_⟩ := WeightedChoice.belowMem chosen
    exact (mem_filter.mp (effectiveMem mem)).1
  · cases drawn

theorem selectedListed (selected : getRandomSatisfiedChannel s now group model retry requestPath random = .ok (some c)) :
    ∃ name id, id ∈ s.group2model2channels group name ∧ s.channelsIDM id = some c ∧ c.accepts now requestPath model = true := by
  suffices listed : ∃ id ∈ candidateIds s now group model requestPath, s.channelsIDM id = some c by
    obtain ⟨id,mem,found⟩ := listed
    obtain ⟨⟨name,inside⟩,accepts⟩ := candidateMem mem
    exact ⟨name,id,inside,found,accepts c found⟩
  unfold getRandomSatisfiedChannel at selected
  split at selected
  · cases selected
  · rename_i id one
    split at selected
    · rename_i d found
      cases selected
      exact ⟨id,one ▸ mem_singleton_self id,found⟩
    · cases selected
  · obtain ⟨_,resolved,drawn⟩ := bindOk.mp selected
    exact (resolveMem resolved c).mp (drawnMem drawn)

end Selected

end NovaPuraRouter.ChannelSelect
