import NovaPuraRouter.Table

/-! Tables that a cache keeps under a key with a time to live. A row is put over the one of
its key, rows are dropped by a condition, and a key whose time is over is gone with its
rows. A table without rows is no key and has no time to live. -/
namespace NovaPuraRouter

namespace Table
variable {κ α : Type}

def size (t : Table κ α) : Nat := t.rows.length

theorem sizeSum (t : Table κ α) : (t.size : Int) = t.sum (fun _ _ => 1) := by
  simp [size,sum]

variable [DecidableEq κ]

def put (t : Table κ α) (k : κ) (a : α) : Table κ α :=
  if fresh : k ∉ t.keys then t.insert k a fresh else t.modify k (fun _ => a)

def retain (t : Table κ α) (p : κ → α → Bool) : Table κ α where
  rows := t.select p
  unique := t.selectNodup p

variable {t u : Table κ α} {k : κ}

theorem absentKeys : k ∉ t.keys ↔ t.get? k = none := by
  rw [getKeys,Option.eq_none_iff_forall_ne_some]
  exact not_exists

@[simp] theorem getPut (t : Table κ α) (k j a) : (t.put k a).get? j = if j = k then some a else t.get? j := by
  unfold put
  split
  · exact getInsert t k j a _
  rename_i used
  rw [getModify]
  split
  · obtain ⟨b,found⟩ := getKeys.mp (not_not.mp used)
    rw [found]
    rfl
  · rfl

theorem sumPut (absent : t.get? k = none) (a w) : (t.put k a).sum w = t.sum w + w k a := by
  rw [put,dif_pos (absentKeys.mpr absent)]
  exact sumInsert t k a _ w

theorem sumPutOver {b} (found : t.get? k = some b) (a w) : (t.put k a).sum w = t.sum w + (w k a - w k b) := by
  have used : ¬ k ∉ t.keys := not_not.mpr (getKeys.mpr ⟨b,found⟩)
  rw [put,dif_neg used]
  exact sumModify found _ w

@[simp] theorem getRetain (t : Table κ α) (p j) : (t.retain p).get? j = (t.get? j).filter (p j) := by
  refine Option.ext (fun a => ?_)
  rw [getMem,Option.filter_eq_some_iff]
  exact memSelect

theorem sumRetain {p w} (zero : ∀ k a, t.get? k = some a → p k a = false → w k a = 0) : (t.retain p).sum w = t.sum w := by
  refine (sumSelect t p w).trans (sumCongr (fun k a found => ?_))
  split
  · rfl
  · rename_i dropped
    exact (zero k a found (Bool.eq_false_iff.mpr dropped)).symm

theorem sumExt (same : ∀ k, t.get? k = u.get? k) (w) : t.sum w = u.sum w := by
  have rows : t.rows.Perm u.rows := by
    refine (List.perm_ext_iff_of_nodup t.unique.of_map u.unique.of_map).mpr (fun r => ?_)
    rw [show r = (r.1,r.2) from rfl,← getMem,← getMem,same]
  exact (rows.map _).sum_eq

theorem sizeExt (same : ∀ k, t.get? k = u.get? k) : t.size = u.size := by
  have sums := sumExt same (fun _ _ => 1)
  rw [← sizeSum,← sizeSum] at sums
  exact Int.ofNat_inj.mp sums

theorem sizeSubset {β} {u : Table κ β} (within : ∀ k a, t.get? k = some a → ∃ b, u.get? k = some b) : t.size ≤ u.size := by
  have held : t.keys ⊆ u.keys := by
    intro k mem
    obtain ⟨a,found⟩ := getKeys.mp mem
    exact getKeys.mpr (within k a found)
  have lengths := (List.subperm_of_subset t.unique held).length_le
  simpa [keys,size] using lengths

theorem eraseAbsent (absent : t.get? k = none) : t.erase k = t := by
  have same : t.rows.filter (fun r => decide (r.1 ≠ k)) = t.rows := by
    refine List.filter_eq_self.mpr (fun r mem => decide_eq_true ?_)
    intro here
    exact absentKeys.mpr absent (here ▸ List.mem_map_of_mem mem)
  simp only [erase,same]

theorem sumErase {a} (found : t.get? k = some a) (w) : (t.erase k).sum w = t.sum w - w k a := by
  have gone : (t.erase k).sum w = t.sum (fun j b => if j = k then 0 else w j b) := by
    refine (sumSelect t (fun j _ => decide (j ≠ k)) w).trans (sumCongr (fun j b _ => ?_))
    by_cases same : j = k <;> simp [same]
  have here : t.sum (fun j b => if j = k then w j b else 0) = w k a := by
    have one := @sumWithin _ _ _ t [(k,a)] (by simp) (by simpa using found) w
    simpa using one.symm
  have split : t.sum w = t.sum (fun j b => if j = k then 0 else w j b) + t.sum (fun j b => if j = k then w j b else 0) := by
    rw [← sumAdd]
    refine sumCongr (fun j b _ => ?_)
    by_cases same : j = k <;> simp [same]
  omega

theorem rowsNil : t.rows = [] ↔ ∀ k, t.get? k = none := by
  constructor
  · intro nothing k
    simp [get?,nothing]
  · intro nothing
    refine List.eq_nil_iff_forall_not_mem.mpr (fun r mem => ?_)
    have found : t.get? r.1 = some r.2 := getMem.mpr mem
    rw [nothing] at found
    cases found

end Table

structure Expiring (κ α : Type) where
  rows : Table κ α
  deadline : Option Nat

namespace Expiring
variable {κ α : Type}

def blank : Expiring κ α := ⟨.empty,none⟩

-- A key lives to the end of its last millisecond.
def wake (now : Nat) (k : Expiring κ α) : Expiring κ α := if k.deadline.any (fun d => d < now) then blank else k

variable (k : Expiring κ α)

def write (f : Table κ α → Table κ α) : Expiring κ α :=
  ⟨f k.rows,if (f k.rows).rows = [] then none else k.deadline⟩

def touch (limit : Nat) : Expiring κ α := if k.rows.rows = [] then k else ⟨k.rows,some limit⟩

@[simp] theorem writeRows (f) : (k.write f).rows = f k.rows := rfl

@[simp] theorem touchRows (t) : (k.touch t).rows = k.rows := by
  unfold touch
  split <;> rfl

variable {k : Expiring κ α} {f : Table κ α → Table κ α} {d now t : Nat} {j : κ} {a : α}

theorem writeDeadline (here : d ∈ (k.write f).deadline) : d ∈ k.deadline := by
  unfold write at here
  split at here
  · cases here
  · exact here

theorem wakeCases (now) (k : Expiring κ α) : (∃ d ∈ k.deadline, d < now ∧ k.wake now = blank) ∨ k.wake now = k := by
  unfold wake
  cases deadline : k.deadline with
  | none => exact .inr rfl
  | some d =>
    by_cases late : d < now
    · exact .inl ⟨d,rfl,late,by simp [late]⟩
    · exact .inr (by simp [late])

theorem wakeDeadline (here : d ∈ (k.wake now).deadline) : d ∈ k.deadline := by
  obtain ⟨_,_,_,gone⟩ | same := wakeCases now k
  · rw [gone] at here
    cases here
  · rwa [same] at here

variable [DecidableEq κ]

@[simp] theorem blankGet (j) : (blank : Expiring κ α).rows.get? j = none := rfl

theorem wakeGet (found : (k.wake now).rows.get? j = some a) : k.rows.get? j = some a := by
  obtain ⟨_,_,_,gone⟩ | same := wakeCases now k
  · rw [gone] at found
    cases found
  · rwa [same] at found

theorem writeKept (found : (f k.rows).get? j = some a) : (k.write f).deadline = k.deadline := by
  refine if_neg (fun nothing => ?_)
  rw [Table.rowsNil.mp nothing] at found
  cases found

theorem touchHeld (found : k.rows.get? j = some a) : (k.touch t).deadline = some t := by
  unfold touch
  split
  · rename_i nothing
    rw [Table.rowsNil.mp nothing] at found
    cases found
  · rfl

theorem touchDeadline (found : k.rows.get? j = some a) (here : d ∈ (k.touch t).deadline) : d = t := by
  rw [touchHeld found] at here
  exact (Option.some.inj here).symm

theorem sumWake {w} (zero : ∀ d ∈ k.deadline, d < now → ∀ j a, k.rows.get? j = some a → w j a = 0) : (k.wake now).rows.sum w = k.rows.sum w := by
  obtain ⟨d,here,late,gone⟩ | same := wakeCases now k
  · rw [gone]
    exact (Table.sumZero (zero d here late)).symm
  · rw [same]

end Expiring
end NovaPuraRouter
