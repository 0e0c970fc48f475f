import Mathlib.Tactic.Common

/-! The length that an interval of whole numbers has in common with a window. -/
namespace NovaPuraRouter

def overlap (lo hi a b : Nat) : Nat := min b hi - max a lo

section
variable {lo hi a b m : Nat}

theorem overlapSplit (am : a ≤ m) (mb : m ≤ b) : overlap lo hi a b = overlap lo hi a m + overlap lo hi m b := by
  unfold overlap
  omega

theorem overlapBefore (before : b ≤ lo) : overlap lo hi a b = 0 := by
  unfold overlap
  omega

theorem overlapAfter (after : hi ≤ a) : overlap lo hi a b = 0 := by
  unfold overlap
  omega

theorem overlapEmpty (empty : b ≤ a) : overlap lo hi a b = 0 := by
  unfold overlap
  omega

theorem overlapClip {l} (low : l ≤ lo) : overlap lo hi (max a l) b = overlap lo hi a b := by
  unfold overlap
  omega

theorem overlapScale (c) : overlap (lo * c) (hi * c) (a * c) (b * c) = overlap lo hi a b * c := by
  unfold overlap
  rw [Nat.mul_min_mul_right,Nat.mul_max_mul_right,Nat.sub_mul]

end
end NovaPuraRouter
