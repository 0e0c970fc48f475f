import Mathlib.Data.List.Basic
import Mathlib.Algebra.Ring.Nat

/-! Choosing from a list by weight with one draw below the sum of the weights. -/
namespace NovaPuraRouter.WeightedChoice
open List
variable {α : Type}

def total (l : List (α × Nat)) : Nat := (l.map Prod.snd).sum

/-- Weights are taken off until the draw falls below the next one. -/
def below : List (α × Nat) → Nat → Option α
  | [],_ => none
  | (a,w) :: rest,draw => if draw < w then some a else below rest (draw - w)

/-- Weights are taken off until the draw is at most the next one. -/
def within : List (α × Nat) → Nat → Option α
  | [],_ => none
  | (a,w) :: rest,draw => if draw ≤ w then some a else within rest (draw - w)

theorem totalCons (a : α) (w) (rest : List (α × Nat)) : total ((a,w) :: rest) = w + total rest := sum_cons

variable {l rest : List (α × Nat)} {draw w : Nat} {a : α}

theorem belowTail : below ((a,w) :: rest) (w + draw) = below rest draw := by
  rw [below,if_neg (Nat.not_lt.mpr (Nat.le_add_right w draw)),Nat.add_sub_cancel_left]

theorem belowMem (chosen : below l draw = some a) : ∃ w, (a,w) ∈ l ∧ 0 < w := by
  induction l generalizing draw with
  | nil => cases chosen
  | cons head _ ih =>
    obtain ⟨b,w⟩ := head
    unfold below at chosen
    split at chosen
    · rename_i low
      cases chosen
      exact ⟨w,mem_cons_self,Nat.zero_lt_of_lt low⟩
    · obtain ⟨w',mem,positive⟩ := ih chosen
      exact ⟨w',mem_cons_of_mem _ mem,positive⟩

theorem belowReaches (mem : (a,w) ∈ l) (positive : 0 < w) : ∃ draw < total l, below l draw = some a := by
  induction l with
  | nil => cases mem
  | cons head _ ih =>
    obtain ⟨b,v⟩ := head
    rcases mem_cons.mp mem with same | later
    · cases same
      refine ⟨0,?_,if_pos positive⟩
      rw [totalCons]
      omega
    · obtain ⟨draw,_,chosen⟩ := ih later
      refine ⟨v + draw,?_,?_⟩
      · rw [totalCons]
        omega
      · rw [belowTail]
        exact chosen

theorem belowTotal (low : draw < total l) : ∃ a, below l draw = some a := by
  induction l generalizing draw with
  | nil => cases low
  | cons head _ ih =>
    obtain ⟨b,w⟩ := head
    rw [totalCons] at low
    by_cases first : draw < w
    · exact ⟨b,if_pos first⟩
    · rw [← Nat.add_sub_of_le (Nat.not_lt.mp first),belowTail]
      exact ih (by omega)

theorem belowMap {β : Type} (f : α → β) : below (l.map (fun x => (f x.1,x.2))) draw = (below l draw).map f := by
  induction l generalizing draw with
  | nil => rfl
  | cons _ _ ih =>
    rw [map_cons,below,below,ih]
    split
    · rfl
    · rfl

theorem belowCount [DecidableEq α] (a : α) :
    (range (total l)).countP (fun draw => below l draw = some a) = total (l.filter (fun x => x.1 = a)) := by
  induction l with
  | nil => rfl
  | cons head rest ih =>
    obtain ⟨b,w⟩ := head
    have first : ∀ draw ∈ range w, below ((b,w) :: rest) draw = some b := fun draw inside => if_pos (mem_range.mp inside)
    rw [totalCons,range_add,countP_append,countP_map]
    simp only [Function.comp_def,belowTail,ih]
    by_cases same : b = a
    · rw [countP_eq_length.mpr (fun draw inside => decide_eq_true (same ▸ first draw inside)),length_range,
        filter_cons,if_pos (decide_eq_true same),totalCons]
    · have other : ∀ draw ∈ range w, ¬ decide (below ((b,w) :: rest) draw = some a) = true := by
        intro draw inside chosen
        exact same (Option.some.inj ((first draw inside).symm.trans (of_decide_eq_true chosen)))
      rw [countP_eq_zero.mpr other,Nat.zero_add,filter_cons,if_neg (mt of_decide_eq_true same)]

theorem withinMem (chosen : within l draw = some a) : ∃ w, (a,w) ∈ l := by
  induction l generalizing draw with
  | nil => cases chosen
  | cons head _ ih =>
    obtain ⟨b,w⟩ := head
    unfold within at chosen
    split at chosen
    · cases chosen
      exact ⟨w,mem_cons_self⟩
    · obtain ⟨w',mem⟩ := ih chosen
      exact ⟨w',mem_cons_of_mem _ mem⟩

theorem withinReaches (wide : ∀ x ∈ l, 1 < x.2) (mem : (a,w) ∈ l) : ∃ draw, 0 < draw ∧ draw < total l ∧ within l draw = some a := by
  induction l with
  | nil => cases mem
  | cons head _ ih =>
    obtain ⟨b,v⟩ := head
    have first := wide _ mem_cons_self
    rcases mem_cons.mp mem with same | later
    · cases same
      refine ⟨1,Nat.one_pos,?_,if_pos (Nat.le_of_lt first)⟩
      exact Nat.lt_add_right _ first
    · obtain ⟨draw,_,_,chosen⟩ := ih (fun x inside => wide x (mem_cons_of_mem _ inside)) later
      refine ⟨v + draw,by omega,?_,?_⟩
      · rw [totalCons]
        omega
      · unfold within
        rw [if_neg (by omega),Nat.add_sub_cancel_left]
        exact chosen

end NovaPuraRouter.WeightedChoice
