import NovaPuraRouter.Schema
import Mathlib.Data.Rat.Floor

/-! From tokens and ratios to a quota. Prices and ratios are decimals in the source and
rationals here; the quota is rounded half away from zero and kept within 32 bits. -/
namespace NovaPuraRouter.QuotaMath

def roundHalfAway (d : ℚ) : Int := if 0 ≤ d then ⌊d + 1 / 2⌋ else -⌊-d + 1 / 2⌋

def saturateQuota (value : Int) : Int :=
  if maxQuota ≤ value then maxQuota else if value ≤ minQuota then minQuota else value

def quotaFromDecimal (d : ℚ) : Int := saturateQuota (roundHalfAway d)

theorem roundNonneg {d} (nonneg : 0 ≤ d) : 0 ≤ roundHalfAway d := by
  rw [roundHalfAway,if_pos nonneg]
  exact Int.floor_nonneg.mpr (by linarith)

theorem saturateNonneg {value} (nonneg : 0 ≤ value) : 0 ≤ saturateQuota value := by
  unfold saturateQuota maxQuota minQuota
  split
  · decide
  · split <;> omega

theorem quotaNonneg {d} (nonneg : 0 ≤ d) : 0 ≤ quotaFromDecimal d := saturateNonneg (roundNonneg nonneg)

@[ext] structure TokenDetails where
  textTokens : Int
  audioTokens : Int
  deriving DecidableEq

structure AudioRatios where
  completionRatio : ℚ
  audioRatio : ℚ
  audioCompletionRatio : ℚ

structure QuotaInfo where
  inputDetails : TokenDetails
  outputDetails : TokenDetails
  ratios : AudioRatios
  usePrice : Bool
  modelPrice : ℚ
  modelRatio : ℚ
  groupRatio : ℚ

def audioTokenQuota (info : QuotaInfo) : ℚ :=
  (info.inputDetails.textTokens + info.outputDetails.textTokens * info.ratios.completionRatio +
    info.inputDetails.audioTokens * info.ratios.audioRatio +
    info.outputDetails.audioTokens * info.ratios.audioRatio * info.ratios.audioCompletionRatio) *
  (info.groupRatio * info.modelRatio)

def calculateAudioQuota (quotaPerUnit : ℚ) (info : QuotaInfo) : Int :=
  if info.usePrice then quotaFromDecimal (info.modelPrice * quotaPerUnit * info.groupRatio) else
    let quota := audioTokenQuota info
    quotaFromDecimal (if info.groupRatio * info.modelRatio ≠ 0 ∧ quota ≤ 0 then 1 else quota)

theorem audioQuotaNonneg (quotaPerUnit) {info} (free : info.usePrice = true → info.modelPrice = 0) :
    0 ≤ calculateAudioQuota quotaPerUnit info := by
  unfold calculateAudioQuota
  split
  · rename_i price
    rw [free price,zero_mul,zero_mul]
    exact quotaNonneg (le_refl 0)
  refine quotaNonneg ?_
  split
  · exact zero_le_one
  rename_i large
  by_cases ratio : info.groupRatio * info.modelRatio = 0
  · rw [audioTokenQuota,ratio,mul_zero]
  · exact le_of_lt (not_le.mp (fun small => large ⟨ratio,small⟩))

end NovaPuraRouter.QuotaMath
