import NovaPuraRouter.ChannelStatus
import NovaPuraRouter.MarkedText

/-! The statuses of a channel's keys when the channel is edited. They are stored by position;
the number of keys is counted again from the text as it is stored, which may be ciphertext. -/
namespace NovaPuraRouter.ChannelEdit
open ChannelStatus (Status)
open MarkedText (splitOn starts trim blank)
open List hiding splitOn

structure Info where
  multiKeySize : Nat
  multiKeyStatusList : Nat → Option Status

def Info.getStatus (info : Info) (i : Nat) : Status := (info.multiKeyStatusList i).getD .enabled

def channelKeyCipherPrefix : List Char := "enc:v1:".toList

def keyLines (trimmed : List Char) : List (List Char) := ((splitOn '\n' trimmed).map trim).filter (· ≠ [])

section Keys
variable (unmarshal : List Char → Option (List (List Char))) (gcmOpen : List Char → Option (List Char)) (stored newKey : List Char) (info : Info)

def plaintextKey : List Char :=
  if starts channelKeyCipherPrefix stored then (gcmOpen (stored.drop channelKeyCipherPrefix.length)).getD stored else stored

def getKeys : List (List Char) :=
  if stored = [] then [] else
    let trimmed := trim (plaintextKey gcmOpen stored)
    if starts ['['] trimmed then (unmarshal trimmed).getD (keyLines trimmed) else keyLines trimmed

/- The parser of `Update` does not decrypt, and takes an empty array for a line. -/
def parseKeys : List (List Char) :=
  if stored = [] then [] else
    let trimmed := trim stored
    let keys := if starts ['['] trimmed then (unmarshal trimmed).getD [] else []
    if keys = [] then keyLines trimmed else keys

def EmptyArray : Prop := starts ['['] (trim stored) = true ∧ unmarshal (trim stored) = some []

def update : Info :=
  let size := (parseKeys unmarshal (if newKey ≠ [] then newKey else stored)).length
  ⟨size,fun i => if i < size then info.multiKeyStatusList i else none⟩

/-- An edit without a new key counts the keys right and leaves the statuses. -/
def Unedited : Prop :=
  (update unmarshal stored [] info).multiKeySize = (getKeys unmarshal gcmOpen stored).length ∧
    (update unmarshal stored [] info).multiKeyStatusList = info.multiKeyStatusList

/-- A key of the new list has the status that it had, wherever it stood, or else is enabled. -/
def Carried (status : Nat → Status) : Prop :=
  ∀ j key, (getKeys unmarshal gcmOpen newKey)[j]? = some key →
    (∀ i, (getKeys unmarshal gcmOpen stored)[i]? = some key → status j = info.getStatus i) ∧
      (key ∉ getKeys unmarshal gcmOpen stored → status j = .enabled)

variable {unmarshal gcmOpen stored newKey info}

theorem uneditedIff : Unedited unmarshal gcmOpen stored info ↔ (parseKeys unmarshal stored).length = (getKeys unmarshal gcmOpen stored).length ∧
    ∀ i, (parseKeys unmarshal stored).length ≤ i → info.multiKeyStatusList i = none := by
  have kept : ∀ n, (fun i => if i < n then info.multiKeyStatusList i else none) = info.multiKeyStatusList ↔
      ∀ i, n ≤ i → info.multiKeyStatusList i = none := by
    intro n
    rw [funext_iff]
    refine forall_congr' (fun i => ?_)
    by_cases low : i < n
    · simp [low,not_le.mpr low]
    · simp [low,not_lt.mp low,eq_comm]
  simp [Unedited,update,kept]

/-- Text without a blank is one line. -/
theorem linesSolid {t : List Char} (solid : ∀ c ∈ t, blank c = false) (something : t ≠ []) : trim t = t ∧ keyLines t = [t] := by
  have whole : ∀ t : List Char, (∀ c ∈ t, blank c = false) → t.dropWhile blank = t := by
    intro t solid
    cases t with
    | nil => rfl
    | cons c => exact dropWhile_cons_of_neg (by rw [solid c mem_cons_self]; exact Bool.false_ne_true)
  have trimmed : trim t = t := by
    rw [trim,whole t solid,whole _ (fun c inside => solid c (mem_reverse.mp inside)),reverse_reverse]
  have line : ∀ t : List Char, (∀ c ∈ t, blank c = false) → splitOn '\n' t = [t] := by
    intro t solid
    induction t with
    | nil => rfl
    | cons c _ ih =>
      rw [splitOn,ih (fun d inside => solid d (mem_cons_of_mem _ inside))]
      refine if_neg (fun same => ?_)
      have here := solid c mem_cons_self
      rw [show c = '\n' from same] at here
      exact absurd here (by decide)
  refine ⟨trimmed,?_⟩
  rw [keyLines,line t solid,map_singleton,trimmed]
  exact filter_eq_self.mpr (fun x inside => decide_eq_true (mem_singleton.mp inside ▸ something))

theorem sealedCount {body : List Char} (solid : ∀ c ∈ body, blank c = false) :
    (parseKeys unmarshal (channelKeyCipherPrefix ++ body)).length = 1 := by
  have head : ∀ c ∈ channelKeyCipherPrefix, blank c = false := forall_iff_forall_mem.mp (by decide)
  obtain ⟨trimmed,line⟩ := linesSolid (fun c inside => (mem_append.mp inside).elim (head c) (solid c))
    (show channelKeyCipherPrefix ++ body ≠ [] from cons_ne_nil _ _)
  unfold parseKeys
  rw [trimmed]
  exact congrArg length line

theorem linesBracket {t : List Char} (bracket : starts ['['] t = true) : keyLines t ≠ [] := by
  cases t with
  | nil => cases bracket
  | cons c rest =>
    have same : c = '[' := of_decide_eq_true (Bool.and_eq_true_iff.mp bracket).1
    obtain ⟨first,inside⟩ : ∃ first, '[' :: first ∈ splitOn '\n' (c :: rest) := by
      rw [same,splitOn,if_neg (show ¬ Marked.chr '[' = '\n' by decide)]
      cases splitOn '\n' rest with
      | nil => exact ⟨[],mem_cons_self⟩
      | cons line => exact ⟨line,mem_cons_self⟩
    -- The bracket of the first line is left of it.
    have filled : trim ('[' :: first) ≠ [] := by
      intro empty
      rw [trim,dropWhile_cons_of_neg (by decide),reverse_eq_nil_iff,dropWhile_eq_nil_iff] at empty
      exact absurd (empty '[' (mem_reverse.mpr mem_cons_self)) (by decide)
    exact ne_nil_of_mem (mem_filter.mpr ⟨mem_map_of_mem inside,decide_eq_true filled⟩)

theorem legacySame (plain : starts channelKeyCipherPrefix stored = false) (filled : ¬ EmptyArray unmarshal stored) :
    parseKeys unmarshal stored = getKeys unmarshal gcmOpen stored := by
  have same : plaintextKey gcmOpen stored = stored := by simp [plaintextKey,plain]
  unfold parseKeys getKeys
  rw [same]
  by_cases unset : stored = []
  · rw [if_pos unset,if_pos unset]
  rw [if_neg unset,if_neg unset]
  dsimp only
  by_cases array : starts ['['] (trim stored) = true
  · rw [if_pos array,if_pos array]
    cases parsed : unmarshal (trim stored) with
    | none => rfl
    | some keys => exact if_neg (fun empty : keys = [] => filled ⟨array,parsed.trans (congrArg some empty)⟩)
  · rw [if_neg array,if_neg array]
    rfl

theorem emptyArrayCounted (plain : starts channelKeyCipherPrefix stored = false) (empty : EmptyArray unmarshal stored) :
    getKeys unmarshal gcmOpen stored = [] ∧ parseKeys unmarshal stored ≠ [] := by
  have same : plaintextKey gcmOpen stored = stored := by simp [plaintextKey,plain]
  have set : stored ≠ [] := by
    rintro rfl
    exact absurd empty.1 (by decide)
  unfold getKeys parseKeys
  rw [same,if_neg set,if_neg set]
  dsimp only
  rw [if_pos empty.1,if_pos empty.1,empty.2]
  exact ⟨rfl,linesBracket empty.1⟩

theorem statusesKept (unmarshal gcmOpen stored info) : (∀ body, (∀ c ∈ body, blank c = false) → stored = channelKeyCipherPrefix ++ body →
      (Unedited unmarshal gcmOpen stored info ↔ (getKeys unmarshal gcmOpen stored).length = 1 ∧ ∀ i, 1 ≤ i → info.multiKeyStatusList i = none)) ∧
    (starts channelKeyCipherPrefix stored = false → (Unedited unmarshal gcmOpen stored info ↔
      ¬ EmptyArray unmarshal stored ∧ ∀ i, (getKeys unmarshal gcmOpen stored).length ≤ i → info.multiKeyStatusList i = none)) ∧
    ∀ newKey, newKey ≠ [] → starts channelKeyCipherPrefix newKey = false →
      (Carried unmarshal gcmOpen stored newKey info (update unmarshal stored newKey info).getStatus ↔
        Carried unmarshal gcmOpen stored newKey info info.getStatus) := by
  refine ⟨fun body solid same => ?_,fun plain => ?_,fun newKey something plain => ?_⟩
  · rw [uneditedIff,same,sealedCount solid,eq_comm]
  · rw [uneditedIff]
    by_cases empty : EmptyArray unmarshal stored
    · obtain ⟨unseen,counted⟩ := @emptyArrayCounted unmarshal gcmOpen stored plain empty
      refine iff_of_false (fun both => counted ?_) (fun both => both.1 empty)
      rw [unseen] at both
      exact length_eq_zero_iff.mp both.1
    · rw [@legacySame unmarshal gcmOpen stored plain empty]
      simp [empty]
  · refine forall₂_congr (fun j key => forall_congr' (fun here => ?_))
    have low : j < (parseKeys unmarshal newKey).length := by
      have filled : ¬ EmptyArray unmarshal newKey := fun empty =>
        ne_nil_of_mem (mem_of_getElem? here) (emptyArrayCounted plain empty).1
      rw [@legacySame unmarshal gcmOpen newKey plain filled]
      exact (List.getElem?_eq_some_iff.mp here).1
    have same : (update unmarshal stored newKey info).getStatus j = info.getStatus j := by simp [update,Info.getStatus,something,low]
    rw [same]

end Keys

def halved : Info := ⟨2,fun i => if i = 1 then some .manuallyDisabled else none⟩

def alone : Info := ⟨1,fun i => if i = 0 then some .manuallyDisabled else none⟩

theorem editsKeep : Unedited (fun _ => none) (fun _ => some "a".toList) "enc:v1:Zg==".toList alone ∧
    Unedited (fun _ => none) (fun _ => none) "a\nb".toList halved ∧
    Carried (fun _ => none) (fun _ => none) "a\nb".toList "a\nb\nc".toList halved
      (update (fun _ => none) "a\nb".toList "a\nb\nc".toList halved).getStatus := by
  have solid : ∀ c ∈ "Zg==".toList, blank c = false := forall_iff_forall_mem.mp (by decide)
  refine ⟨((statusesKept _ _ _ _).1 "Zg==".toList solid rfl).mpr ⟨by decide,fun i above => if_neg (by omega)⟩,
    ((statusesKept _ _ _ _).2.1 (by decide)).mpr ⟨fun empty => absurd empty.1 (by decide),fun i above => if_neg ?_⟩,
    ((statusesKept _ _ _ _).2.2 _ (by decide) (by decide)).mpr (fun j key here => ?_)⟩
  · have two : 2 ≤ i := above
    omega
  · have old : getKeys (fun _ => none) (fun _ => none) "a\nb".toList = [['a'],['b']] := by decide
    have new : getKeys (fun _ => none) (fun _ => none) "a\nb\nc".toList = [['a'],['b'],['c']] := by decide
    rw [new] at here
    rw [old]
    match j with
    | 0 | 1 | 2 =>
      cases here
      refine ⟨fun i found => ?_,by decide⟩
      match i with
      | 0 | 1 => first | rfl | cases found
      | _ + 2 => cases found
    | _ + 3 => cases here

theorem sealedCut : ¬ Unedited (fun _ => none) (fun _ => some "a\nb".toList) "enc:v1:Zg==".toList halved := by
  rintro ⟨size,_⟩
  revert size
  decide

end NovaPuraRouter.ChannelEdit
