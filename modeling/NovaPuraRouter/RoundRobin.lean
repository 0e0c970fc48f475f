import Mathlib.Data.List.Rotate

/-! A walk round `n` places of which some are on: the next one from a place, and the order in
which the walk comes by them. -/
namespace NovaPuraRouter.RoundRobin
open List

section Places
variable (n : Nat) (on : Nat → Bool) (start : Nat)

def places : List Nat := (range n).filter on

def next : Option Nat := ((range n).map (fun k => (start + k) % n)).find? on

/-- The places that are on, in the order in which a walk from here comes by them. -/
def ahead : List Nat := ((range n).rotate start).filter on

end Places

section Walk
variable {n : Nat} {on : Nat → Bool} {start i : Nat}

theorem rangeRotate : (range n).map (fun k => (start + k) % n) = (range n).rotate start := by
  refine ext_getElem (by simp) (fun k _ _ => ?_)
  rw [getElem_rotate]
  simp [Nat.add_comm]

theorem aheadRotated (n on start) : ahead n on start ~r places n on := by
  unfold ahead places
  rw [rotate_eq_drop_append_take_mod,filter_append]
  refine isRotated_append.trans ?_
  rw [← filter_append,take_append_drop]

theorem nextNone (nothing : next n on start = none) : places n on = [] := by
  unfold next at nothing
  rw [rangeRotate] at nothing
  have rotated := aheadRotated n on start
  unfold ahead at rotated
  rw [filter_eq_nil_iff.mpr (find?_eq_none.mp nothing)] at rotated
  exact isRotated_nil_iff.mp rotated.symm

/-- What the walk comes by is the last place ahead from then on. -/
theorem aheadNext (found : next n on start = some i) : ∃ rest, ahead n on start = i :: rest ∧ ahead n on ((i + 1) % n) = rest ++ [i] := by
  unfold next at found
  rw [rangeRotate] at found
  obtain ⟨here,passed,left,order,off⟩ := find?_eq_some_iff_append.mp found
  have nothing : passed.filter on = [] := filter_eq_nil_iff.mpr (fun j inside => by simpa using off j inside)
  have reached : (start + passed.length) % n = i := by
    have spot : ((range n).rotate start)[passed.length]? = some i := by
      rw [order,getElem?_append_right (Nat.le_refl _),Nat.sub_self]
      rfl
    rw [← rangeRotate,getElem?_map] at spot
    obtain ⟨k,here,same⟩ := Option.map_eq_some_iff.mp spot
    obtain ⟨_,spot⟩ := List.getElem?_eq_some_iff.mp here
    rw [getElem_range] at spot
    exact spot ▸ same
  refine ⟨left.filter on,?_,?_⟩
  · unfold ahead
    rw [order,filter_append,nothing,filter_cons_of_pos here]
    rfl
  · have turned : (range n).rotate ((i + 1) % n) = left ++ (passed ++ [i]) := by
      have same : (i + 1) % n = (start + (passed.length + 1)) % n := by rw [← reached,Nat.mod_add_mod,Nat.add_assoc]
      rw [same]
      have mod := rotate_mod (range n) (start + (passed.length + 1))
      rw [length_range] at mod
      have step := rotate_append_length_eq (passed ++ [i]) left
      rw [length_append,length_singleton] at step
      rw [mod,← rotate_rotate,order,append_cons,step]
    unfold ahead
    rw [turned,filter_append,filter_append,nothing,filter_cons_of_pos here]
    rfl

end Walk

section Windows
variable {α : Type} (m : Nat) (good : List α → Prop)

/-- Any `m` elements in a row. -/
def Windows (l : List α) : Prop := ∀ k, k + m ≤ l.length → good ((l.drop k).take m)

variable {m good} {l r : List α}

theorem windowsPrefix (all : Windows m good (l ++ r)) : Windows m good l := by
  intro k _
  have window := all k (by rw [length_append]; omega)
  rwa [drop_append_of_le_length (by omega),take_append_of_le_length (by rw [length_drop]; omega)] at window

theorem windowsOne (whole : good l) : Windows l.length good l := by
  intro k _
  have first : k = 0 := by omega
  rw [first,drop_zero,take_length]
  exact whole

theorem windowsTurn {x} (all : Windows (x :: r).length good (l ++ x :: r)) (last : good (r ++ [x])) :
    Windows (x :: r).length good (l ++ [x] ++ (r ++ [x])) := by
  have grown : l ++ [x] ++ (r ++ [x]) = l ++ x :: r ++ [x] := by simp
  intro k fits
  simp only [length_append,length_cons,length_nil] at fits
  by_cases old : k ≤ l.length
  · rw [grown,drop_append_of_le_length (by simp; omega),take_append_of_le_length (by simp; omega)]
    exact all k (by simp; omega)
  · have here : k = (l ++ [x]).length := by simp; omega
    rw [here,drop_left,take_of_length_le (by simp)]
    exact last

end Windows
end NovaPuraRouter.RoundRobin
