import Mathlib.Tactic.Ring
import Mathlib.Algebra.Order.BigOperators.Group.List
import Mathlib.Data.List.Nodup

/-! Rows of one database table under a unique key. An insert of a used key is refused, as by
a unique index, and an update never touches the key, so two rows of one key cannot be built.
Row order is insertion order. -/
namespace NovaPuraRouter

structure Table (κ α : Type) where
  rows : List (κ × α)
  unique : (rows.map Prod.fst).Nodup

namespace Table
variable {κ α : Type}

def empty : Table κ α := ⟨[],List.nodup_nil⟩

def keys (t : Table κ α) : List κ := t.rows.map Prod.fst

def insert (t : Table κ α) (k : κ) (a : α) (fresh : k ∉ t.keys) : Table κ α where
  rows := t.rows ++ [(k,a)]
  unique := by
    rw [List.map_append]
    refine t.unique.append (List.nodup_singleton k) ?_
    intro x old new
    exact fresh (by simpa [keys,List.mem_singleton.mp new] using old)

def select (t : Table κ α) (p : κ → α → Bool) : List (κ × α) := t.rows.filter (fun r => p r.1 r.2)

def sum (t : Table κ α) (w : κ → α → Int) : Int := (t.rows.map (fun r => w r.1 r.2)).sum

def nextId (t : Table Nat α) : Nat := t.keys.foldr max 0 + 1

theorem keyLtNextId (t : Table Nat α) {k} (mem : k ∈ t.keys) : k < t.nextId := by
  unfold nextId
  generalize t.keys = ks at mem
  induction ks with
  | nil => simp at mem
  | cons _ _ ih =>
    simp only [List.foldr_cons]
    rcases List.mem_cons.mp mem with rfl | inside
    · omega
    · have := ih inside
      omega

theorem nextIdFresh (t : Table Nat α) : t.nextId ∉ t.keys := fun mem =>
  lt_irrefl _ (t.keyLtNextId mem)

def append (t : Table Nat α) (a : α) : Table Nat α := t.insert t.nextId a t.nextIdFresh

@[simp] theorem sumEmpty (w) : (empty : Table κ α).sum w = 0 := rfl

theorem sumInsert (t : Table κ α) (k a fresh w) : (t.insert k a fresh).sum w = t.sum w + w k a := by
  simp [sum,insert]

theorem sumAppend (t : Table Nat α) (a w) : (t.append a).sum w = t.sum w + w t.nextId a := sumInsert t _ a _ w

theorem sumAdd (t : Table κ α) (v w) : t.sum (fun k a => v k a + w k a) = t.sum v + t.sum w :=
  List.sum_map_add

theorem selectNodup (t : Table κ α) (p) : ((t.select p).map Prod.fst).Nodup :=
  t.unique.sublist (List.filter_sublist.map Prod.fst)

theorem sumSelect (t : Table κ α) (p) (w : κ → α → Int) :
    ((t.select p).map (fun r => w r.1 r.2)).sum = t.sum (fun k a => if p k a then w k a else 0) := by
  unfold select sum
  induction t.rows with
  | nil => rfl
  | cons head _ ih =>
    by_cases h : p head.1 head.2 = true
    · simp [h,ih]
    · simp [h,ih]

def count (t : Table κ α) (p : κ → α → Bool) : Int := (t.select p).length

theorem countSum (t : Table κ α) (p) : t.count p = t.sum (fun k a => if p k a then 1 else 0) := by
  rw [← sumSelect]
  simp [count]

theorem countAppend (t : Table Nat α) (a p) : (t.append a).count p = t.count p + if p t.nextId a then 1 else 0 := by
  rw [countSum,countSum,sumAppend]

def update (t : Table κ α) (p : κ → α → Bool) (f : α → α) : Table κ α where
  rows := t.rows.map (fun r => (r.1,if p r.1 r.2 then f r.2 else r.2))
  unique := by
    simpa [List.map_map,Function.comp_def] using t.unique

theorem sumUpdate (t : Table κ α) (p f w) : (t.update p f).sum w = t.sum (fun k a => w k (if p k a then f a else a)) := by
  simp [sum,update,List.map_map,Function.comp_def]

variable [DecidableEq κ]

def get? (t : Table κ α) (k : κ) : Option α :=
  (t.rows.find? (fun r => decide (r.1 = k))).map Prod.snd

def touch (k : κ) (f : α → α) (r : κ × α) : κ × α := if r.1 = k then (r.1,f r.2) else r

theorem touchKey (k : κ) (f) (r : κ × α) : (touch k f r).1 = r.1 := by
  unfold touch
  split <;> rfl

def modify (t : Table κ α) (k : κ) (f : α → α) : Table κ α where
  rows := t.rows.map (touch k f)
  unique := by
    have same : (t.rows.map (touch k f)).map Prod.fst = t.rows.map Prod.fst := by
      simp [List.map_map,Function.comp_def,touchKey]
    rw [same]
    exact t.unique

def insert? (t : Table κ α) (k : κ) (a : α) : Option (Table κ α) :=
  if fresh : k ∉ t.keys then some (t.insert k a fresh) else none

def erase (t : Table κ α) (k : κ) : Table κ α where
  rows := t.rows.filter (fun r => decide (r.1 ≠ k))
  unique := t.unique.sublist (List.filter_sublist.map Prod.fst)

theorem findUnique {rows : List (κ × α)} (unique : (rows.map Prod.fst).Nodup) {k a} (mem : (k,a) ∈ rows) :
    rows.find? (fun r => decide (r.1 = k)) = some (k,a) := by
  induction rows with
  | nil => simp at mem
  | cons head _ ih =>
    rw [List.map_cons,List.nodup_cons] at unique
    rcases List.mem_cons.mp mem with rfl | inside
    · simp
    have other : head.1 ≠ k := by
      rintro rfl
      exact unique.1 (List.mem_map.mpr ⟨_,inside,rfl⟩)
    rw [List.find?_cons_of_neg (by simpa using other)]
    exact ih unique.2 inside

variable {t : Table κ α} {k : κ} {f : α → α} {b a : α} {p : κ → α → Bool} {v w : κ → α → Int}

theorem getMem {k a} : t.get? k = some a ↔ (k,a) ∈ t.rows := by
  constructor
  · intro found
    obtain ⟨r,hr,rfl⟩ := Option.map_eq_some_iff.mp found
    have key : r.1 = k := by simpa using List.find?_some hr
    have mem := List.mem_of_find?_eq_some hr
    rwa [← key]
  · intro mem
    simp [get?,findUnique t.unique mem]

theorem getKeys {k} : k ∈ t.keys ↔ ∃ a, t.get? k = some a := by
  constructor
  · intro mem
    obtain ⟨r,hr,rfl⟩ := List.mem_map.mp mem
    exact ⟨r.2,getMem.mpr hr⟩
  · rintro ⟨a,found⟩
    exact List.mem_map.mpr ⟨_,getMem.mp found,rfl⟩

theorem getFresh {k} (fresh : k ∉ t.keys) : t.get? k = none := by
  cases found : t.get? k with
  | none => rfl
  | some a => exact absurd (getKeys.mpr ⟨a,found⟩) fresh

theorem getLtNextId {t : Table Nat α} {k a} (found : t.get? k = some a) : k < t.nextId :=
  t.keyLtNextId (getKeys.mpr ⟨a,found⟩)

@[simp] theorem getNextId (t : Table Nat α) : t.get? t.nextId = none := by
  rw [← Option.not_isSome_iff_eq_none,Option.isSome_iff_exists,← getKeys]
  exact t.nextIdFresh

@[simp] theorem getEmpty (k) : (empty : Table κ α).get? k = none := rfl

theorem getModify (t : Table κ α) (k j) (f : α → α) : (t.modify k f).get? j = if j = k then (t.get? k).map f else t.get? j := by
  have find : (t.rows.map (touch k f)).find? (fun r => decide (r.1 = j)) =
      (t.rows.find? (fun r => decide (r.1 = j))).map (touch k f) := by
    rw [List.find?_map]
    simp only [Function.comp_def,touchKey]
  simp only [get?,modify,find,Option.map_map]
  split
  · rename_i same
    subst j
    cases h : t.rows.find? (fun r => decide (r.1 = k)) with
    | none => rfl
    | some r =>
      have key : r.1 = k := by simpa using List.find?_some h
      simp [touch,key]
  · rename_i other
    cases h : t.rows.find? (fun r => decide (r.1 = j)) with
    | none => rfl
    | some r =>
      have key : r.1 = j := by simpa using List.find?_some h
      simp [touch,key,other]

@[simp] theorem getModifySelf (t : Table κ α) (k f) : (t.modify k f).get? k = (t.get? k).map f := by simp [getModify]

theorem getModifyOther (t : Table κ α) {j} (other : j ≠ k) (f) : (t.modify k f).get? j = t.get? j := by simp [getModify,other]

theorem modifyCases {j} (found : (t.modify k f).get? j = some b) : (∃ a, t.get? k = some a ∧ j = k ∧ b = f a) ∨ j ≠ k ∧ t.get? j = some b := by
  rw [getModify] at found
  split at found
  · rename_i same
    obtain ⟨a,here,rfl⟩ := Option.map_eq_some_iff.mp found
    exact .inl ⟨a,here,same,rfl⟩
  · rename_i other
    exact .inr ⟨other,found⟩

theorem getInsert (t : Table κ α) (k j a fresh) : (t.insert k a fresh).get? j = if j = k then some a else t.get? j := by
  simp only [get?,insert,List.find?_append,List.find?_singleton,decide_eq_true_eq]
  split
  · rename_i same
    subst j
    have nothing : t.rows.find? (fun r => decide (r.1 = k)) = none := by
      refine List.find?_eq_none.mpr ?_
      intro r mem hit
      exact fresh (List.mem_map.mpr ⟨r,mem,by simpa using hit⟩)
    simp [nothing]
  · rename_i other
    simp [Ne.symm other]

theorem insertExact {t' k a} (ok : t.insert? k a = some t') : ∃ fresh : k ∉ t.keys, t' = t.insert k a fresh := by
  unfold insert? at ok
  split at ok
  · rename_i fresh
    exact ⟨fresh,(Option.some.inj ok).symm⟩
  · contradiction

theorem getAppend (t : Table Nat α) (a j) : (t.append a).get? j = if j = t.nextId then some a else t.get? j := getInsert t _ j a _

theorem getAppendOld {t : Table Nat α} {j} (found : t.get? j = some b) (a) : (t.append a).get? j = some b := by
  rw [getAppend,if_neg (ne_of_lt (getLtNextId found))]
  exact found

theorem appendCases {t : Table Nat α} {j} (found : (t.append a).get? j = some b) : j = t.nextId ∧ b = a ∨ t.get? j = some b := by
  rw [getAppend] at found
  split at found
  · rename_i last
    exact .inl ⟨last,(Option.some.inj found).symm⟩
  · exact .inr found

theorem getErase (t : Table κ α) (k j) : (t.erase k).get? j = if j = k then none else t.get? j := by
  simp only [get?,erase,List.find?_filter]
  split
  · rename_i same
    subst j
    simp
  rename_i other
  have same : (fun r : κ × α => decide (decide (r.1 ≠ k) = true ∧ decide (r.1 = j) = true)) =
      (fun r => decide (r.1 = j)) := by
    funext r
    by_cases h : r.1 = j
    · simp [h,other]
    · simp [h]
  rw [same]

theorem memSelect {k a} : (k,a) ∈ t.select p ↔ t.get? k = some a ∧ p k a = true := by
  simp [select,List.mem_filter,getMem]

theorem headFound {k a} (found : (t.select p).head? = some (k,a)) : t.get? k = some a ∧ p k a = true := memSelect.mp (List.mem_of_head? found)

theorem headNone (nothing : (t.select p).head? = none) {k a} (row : t.get? k = some a) : p k a = false := by
  refine Bool.eq_false_iff.mpr (fun here => ?_)
  have mem := memSelect.mpr ⟨row,here⟩
  rw [List.head?_eq_none_iff.mp nothing] at mem
  cases mem

theorem selectModify (t : Table κ α) (k f) (same : ∀ a, p k (f a) = p k a) : (t.modify k f).select p = (t.select p).map (touch k f) := by
  have key : (fun r : κ × α => p r.1 r.2) ∘ touch k f = fun r => p r.1 r.2 := by
    funext r
    simp only [Function.comp_apply,touch]
    split
    · rename_i here
      rw [here,same]
    · rfl
  simp only [select,modify,List.filter_map,key]

theorem sumCongr (same : ∀ k a, t.get? k = some a → v k a = w k a) : t.sum v = t.sum w := by
  unfold sum
  congr 1
  refine List.map_congr_left ?_
  intro r mem
  exact same r.1 r.2 (getMem.mpr mem)

theorem sumZero (zero : ∀ k a, t.get? k = some a → w k a = 0) : t.sum w = 0 := by
  refine (sumCongr zero).trans ?_
  simp [sum]

theorem sumMono (le : ∀ k a, t.get? k = some a → v k a ≤ w k a) : t.sum v ≤ t.sum w := by
  refine List.sum_le_sum ?_
  intro r mem
  exact le r.1 r.2 (getMem.mpr mem)

theorem countMono {q} (implies : ∀ k a, t.get? k = some a → p k a = true → q k a = true) : t.count p ≤ t.count q := by
  rw [countSum,countSum]
  refine sumMono (fun k a found => ?_)
  by_cases h : p k a = true
  · simp [h,implies k a found h]
  · by_cases h' : q k a = true
    · simp [h,h']
    · simp [h,h']

theorem countPos {k a} (found : t.get? k = some a) (here : p k a = true) : 0 < t.count p := by
  have mem : (k,a) ∈ t.select p := memSelect.mpr ⟨found,here⟩
  have pos := List.length_pos_of_mem mem
  simp only [count]
  omega

theorem countNone (zero : t.count p = 0) {k a} (found : t.get? k = some a) : p k a = false := by
  refine Bool.eq_false_iff.mpr (fun here => ?_)
  have pos := countPos found here
  omega

theorem sumNonneg (nonneg : ∀ k a, t.get? k = some a → 0 ≤ w k a) : 0 ≤ t.sum w := by
  refine List.sum_nonneg ?_
  intro x mem
  obtain ⟨r,hr,rfl⟩ := List.mem_map.mp mem
  exact nonneg r.1 r.2 (getMem.mpr hr)

theorem sumRowsModify {rows : List (κ × α)} (unique : (rows.map Prod.fst).Nodup) {k a} (mem : (k,a) ∈ rows) (f) (w : κ → α → Int) :
    ((rows.map (touch k f)).map (fun r => w r.1 r.2)).sum = (rows.map (fun r => w r.1 r.2)).sum + (w k (f a) - w k a) := by
  induction rows with
  | nil => simp at mem
  | cons head tail ih =>
    rw [List.map_cons,List.nodup_cons] at unique
    rcases List.mem_cons.mp mem with rfl | inside
    · have same : tail.map (touch k f) = tail := by
        refine (List.map_congr_left ?_).trans (List.map_id tail)
        intro r hr
        have other : r.1 ≠ k := by
          rintro rfl
          exact unique.1 (List.mem_map.mpr ⟨r,hr,rfl⟩)
        simp [touch,other]
      simp only [List.map_cons,List.sum_cons,same,touch,if_true]
      ring
    · have other : head.1 ≠ k := by
        rintro rfl
        exact unique.1 (List.mem_map.mpr ⟨_,inside,rfl⟩)
      have hd : touch k f head = head := by simp [touch,other]
      simp only [List.map_cons,List.sum_cons,hd]
      rw [ih unique.2 inside]
      ring

theorem sumModify {k a} (found : t.get? k = some a) (f : α → α) (w) : (t.modify k f).sum w = t.sum w + (w k (f a) - w k a) :=
  sumRowsModify t.unique (getMem.mp found) f w

theorem countModify {k a} (found : t.get? k = some a) (f p) :
    (t.modify k f).count p = t.count p + ((if p k (f a) then 1 else 0) - (if p k a then 1 else 0)) := by
  rw [countSum,countSum,sumModify found]

theorem modifyHere (found : t.get? k = some a) (f) : t.modify k f = t.modify k (fun _ => f a) := by
  have same : t.rows.map (touch k f) = t.rows.map (touch k (fun _ => f a)) := by
    refine List.map_congr_left ?_
    rintro ⟨j,b⟩ mem
    by_cases here : j = k
    · subst here
      have row := found.symm.trans (getMem.mpr mem)
      simp [touch,Option.some.inj row]
    · simp [touch,here]
  simp only [modify,same]

theorem modifyAbsent (absent : t.get? k = none) (f) : t.modify k f = t := by
  have same : t.rows.map (touch k f) = t.rows := by
    refine (List.map_congr_left ?_).trans (List.map_id t.rows)
    intro r mem
    have other : r.1 ≠ k := by
      rintro rfl
      rw [getMem.mpr mem] at absent
      cases absent
    simp [touch,other]
  cases t
  simpa [modify] using same

theorem sumModifyLe (le : ∀ a, t.get? k = some a → w k (f a) ≤ w k a) : (t.modify k f).sum w ≤ t.sum w := by
  cases found : t.get? k with
  | none => rw [modifyAbsent found]
  | some a =>
    have step := le a found
    rw [sumModify found]
    omega

theorem getUpdate (t : Table κ α) (p f k) : (t.update p f).get? k = (t.get? k).map (fun a => if p k a then f a else a) := by
  cases found : t.get? k with
  | some a =>
    refine getMem.mpr (List.mem_map.mpr ⟨(k,a),getMem.mp found,rfl⟩)
  | none =>
    rw [Option.map_none,Option.eq_none_iff_forall_ne_some]
    intro b got
    obtain ⟨r,mem,same⟩ := List.mem_map.mp (getMem.mp got)
    obtain ⟨rfl,_⟩ := Prod.mk.inj same
    rw [getMem.mpr mem] at found
    cases found

theorem updateCases (found : (t.update p f).get? k = some b) : ∃ a, t.get? k = some a ∧ (b = f a ∨ b = a) := by
  rw [getUpdate] at found
  obtain ⟨a,here,rfl⟩ := Option.map_eq_some_iff.mp found
  refine ⟨a,here,?_⟩
  split
  · exact .inl rfl
  · exact .inr rfl

/-- Rows held outside the table add up to what the table holds under their keys. -/
theorem sumWithin {t : Table κ α} {held : List (κ × α)} (unique : (held.map Prod.fst).Nodup)
    (within : ∀ r ∈ held, t.get? r.1 = some r.2) (w : κ → α → Int) :
    (held.map (fun r => w r.1 r.2)).sum = t.sum (fun k a => if k ∈ held.map Prod.fst then w k a else 0) := by
  have perm : held.Perm (t.select (fun k _ => decide (k ∈ held.map Prod.fst))) := by
    refine (List.perm_ext_iff_of_nodup unique.of_map (t.selectNodup _).of_map).mpr ?_
    intro r
    constructor
    · intro mem
      exact memSelect.mpr ⟨within r mem,decide_eq_true (List.mem_map_of_mem mem)⟩
    · intro mem
      obtain ⟨found,key⟩ := memSelect.mp mem
      obtain ⟨r',mem',same⟩ := List.mem_map.mp (of_decide_eq_true key)
      have row := within r' mem'
      rw [same,found] at row
      rw [Prod.ext same (Option.some.inj row.symm)] at mem'
      exact mem'
  rw [(perm.map (fun r => w r.1 r.2)).sum_eq,sumSelect]
  simp only [decide_eq_true_eq]

end Table
end NovaPuraRouter
