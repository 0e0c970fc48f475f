import Mathlib.Tactic.Ring

/-! Repeating dates. The civil calendar on day numbers, counted from 1970-01-01 in years
that start in March, so that a leap day is the last of its year; and schedules given by the
date that follows a date, none where it is not positive. -/
namespace NovaPuraRouter.Schedule

section Civil

def yearStart (year : Int) : Int := 365 * year + year / 4 - year / 100 + year / 400 - 719468

def yearOf (day : Int) : Int :=
  let cycles := (day + 719468) / 146097
  let inCycle := (day + 719468) % 146097
  let centuries := min 3 (inCycle / 36524)
  let inCentury := inCycle - 36524 * centuries
  let leaps := inCentury / 1461
  let years := min 3 (inCentury % 1461 / 365)
  400 * cycles + 100 * centuries + 4 * leaps + years

def monthStart (month : Int) : Int := yearStart (month / 12) + (153 * (month % 12) + 2) / 5

def monthOf (day : Int) : Int := 12 * yearOf day + (5 * (day - yearStart (yearOf day)) + 2) / 153

section Year
variable {a c q y : Int} (hc : 0 ≤ c ∧ c ≤ 3) (hq : 0 ≤ q ∧ q ≤ 24) (hy : 0 ≤ y ∧ y ≤ 3)
include hc hq hy

theorem yearStartParts : yearStart (400 * a + 100 * c + 4 * q + y) = 146097 * a + 36524 * c + 1461 * q + 365 * y - 719468 := by
  have leaps : (400 * a + 100 * c + 4 * q + y) / 4 = 100 * a + 25 * c + q := by omega
  have centuries : (400 * a + 100 * c + 4 * q + y) / 100 = 4 * a + c := by omega
  have cycles : (400 * a + 100 * c + 4 * q + y) / 400 = a := by omega
  rw [yearStart,leaps,centuries,cycles]
  ring

theorem yearStartNext : yearStart (400 * a + 100 * c + 4 * q + y + 1) =
    yearStart (400 * a + 100 * c + 4 * q + y) + 365 + (if y = 3 ∧ (q < 24 ∨ c = 3) then 1 else 0) := by
  rw [yearStartParts hc hq hy,yearStart]
  omega

end Year

theorem yearHolds (day) : yearStart (yearOf day) ≤ day ∧ day < yearStart (yearOf day + 1) := by
  simp only [yearOf]
  -- Each division is replaced by its quotient and remainder before the next one is looked at.
  have cyclePos := Int.emod_nonneg (day + 719468) (by decide : (146097 : Int) ≠ 0)
  have cycleLt := Int.emod_lt_of_pos (day + 719468) (by decide : (0 : Int) < 146097)
  have whole := Int.mul_ediv_add_emod (day + 719468) 146097
  generalize (day + 719468) / 146097 = a at whole
  generalize (day + 719468) % 146097 = inCycle at cyclePos cycleLt whole
  have hc : 0 ≤ min 3 (inCycle / 36524) ∧ min 3 (inCycle / 36524) ≤ 3 := by omega
  have century : 0 ≤ inCycle - 36524 * min 3 (inCycle / 36524) ∧
      inCycle - 36524 * min 3 (inCycle / 36524) ≤ 36524 ∧
      (min 3 (inCycle / 36524) < 3 → inCycle - 36524 * min 3 (inCycle / 36524) < 36524) := by omega
  generalize min 3 (inCycle / 36524) = c at hc century
  generalize hd : inCycle - 36524 * c = inCentury at century
  have hq : 0 ≤ inCentury / 1461 ∧ inCentury / 1461 ≤ 24 := by omega
  have parts := Int.mul_ediv_add_emod inCentury 1461
  have leapPos := Int.emod_nonneg inCentury (by decide : (1461 : Int) ≠ 0)
  have leapLt := Int.emod_lt_of_pos inCentury (by decide : (0 : Int) < 1461)
  generalize inCentury / 1461 = q at hq parts
  generalize inCentury % 1461 = inLeap at parts leapPos leapLt
  have hy : 0 ≤ min 3 (inLeap / 365) ∧ min 3 (inLeap / 365) ≤ 3 := by omega
  rw [yearStartNext hc hq hy,yearStartParts hc hq hy]
  omega

theorem beforeNextMonth (day) : day < monthStart (monthOf day + 1) := by
  obtain ⟨low,high⟩ := yearHolds day
  simp only [monthStart,monthOf]
  generalize yearOf day = year at low high
  have long : yearStart (year + 1) ≤ yearStart year + 366 := by
    simp only [yearStart]
    omega
  by_cases inside : (5 * (day - yearStart year) + 2) / 153 < 11
  · have same : (12 * year + (5 * (day - yearStart year) + 2) / 153 + 1) / 12 = year := by omega
    rw [same]
    omega
  · have next : (12 * year + (5 * (day - yearStart year) + 2) / 153 + 1) / 12 = year + 1 := by omega
    rw [next]
    omega

example : monthOf 0 = 23638 ∧ monthStart 23638 = 0 ∧ monthStart 23639 = 31 ∧ monthOf 19782 = 12 * 2023 + 11 := by decide

end Civil

section Chain

inductive Boundary (next : Int → Int) (base : Int) : Int → Prop
  | first : 0 < next base → Boundary next base (next base)
  | later {b : Int} : Boundary next base b → 0 < next b → Boundary next base (next b)

def Rises (next : Int → Int) : Prop := ∀ t, 0 < next t → t < next t

/-- The loop that moves a schedule up to `now`: the last date reached, the one after
it and whether any was passed. It has no result where the fuel ends first. -/
def advance (next : Int → Int) (now : Int) : Nat → Int → Int → Bool → Option (Int × Int × Bool)
  | 0, _, _, _ => none
  | fuel + 1, base, after, advanced =>
    if 0 < after ∧ after ≤ now then advance next now fuel after (next after) true else some (base,after,advanced)

variable {next : Int → Int} {now : Int}

variable {base b : Int}

theorem boundaryPos (h : Boundary next base b) : 0 < b := by
  cases h with
  | first pos | later _ pos => exact pos

theorem boundaryFirst (h : Boundary next base b) : 0 < next base := by
  induction h with
  | first pos => exact pos
  | later _ _ ih => exact ih

theorem boundaryTrans {c} (h : Boundary next base b) (more : Boundary next b c) : Boundary next base c := by
  induction more with
  | first pos => exact .later h pos
  | later _ pos ih => exact .later ih pos

/-- What the loop found: the next date is the one after the last, it is not yet due,
and either no date was due or the last one is a due date of the schedule. -/
theorem advanceExact {fuel flag after advanced}
    (h : advance next now fuel base (next base) flag = some (b,after,advanced)) : after = next b ∧ ¬ (0 < after ∧ after ≤ now) ∧
      (b = base ∧ advanced = flag ∨ advanced = true ∧ Boundary next base b ∧ b ≤ now ∧ next base ≤ now) := by
  induction fuel generalizing base flag with
  | zero => simp [advance] at h
  | succ _ ih =>
    rw [advance] at h
    split at h
    · rename_i due
      obtain ⟨same,stop,found⟩ := ih h
      refine ⟨same,stop,.inr ?_⟩
      obtain ⟨rfl,rfl⟩ | ⟨rfl,chain,le,_⟩ := found
      · exact ⟨rfl,.first due.1,due.2,due.2⟩
      · exact ⟨rfl,boundaryTrans (.first due.1) chain,le,due.2⟩
    · rename_i stop
      cases Option.some.inj h
      exact ⟨rfl,stop,.inl ⟨rfl,rfl⟩⟩

theorem advanceEnds (rises : Rises next) {fuel : Nat} {base : Int} {flag : Bool} (fueled : 0 < fuel)
    (enough : now - base < fuel) : ∃ found, advance next now fuel base (next base) flag = some found := by
  induction fuel generalizing base flag with
  | zero => omega
  | succ _ ih =>
    rw [advance]
    split
    · rename_i due
      have later := rises base due.1
      exact ih (by omega) (by omega)
    · exact ⟨_,rfl⟩

end Chain
end NovaPuraRouter.Schedule
