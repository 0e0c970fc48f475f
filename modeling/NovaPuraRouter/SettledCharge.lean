import NovaPuraRouter.FrozenPrice

/-! The quota that the three settlement functions pass on is no payment to the user, but
for a tiered expression that comes to less than nothing on the tokens of the request. -/
namespace NovaPuraRouter.SettledCharge
open QuotaMath TextQuota UsageReport FrozenPrice Option

def InRange (quota : Int) : Prop := 0 ≤ quota ∧ quota ≤ maxQuota

theorem quotaRange (d) : InRange (quotaFromDecimal d) ↔ -1 / 2 < d := by
  have signs : 0 ≤ roundHalfAway d ↔ -1 / 2 < d := by
    unfold roundHalfAway
    split
    · exact iff_of_true (Int.floor_nonneg.mpr (by linarith)) (by linarith)
    · rw [Int.neg_nonneg,← Int.lt_add_one_iff,Int.floor_lt]
      push_cast
      constructor <;> intro <;> linarith
  rw [← signs]
  unfold InRange quotaFromDecimal saturateQuota maxQuota minQuota
  split
  · omega
  · split <;> omega

theorem quotaMost (d) : quotaFromDecimal d ≤ maxQuota := by
  unfold quotaFromDecimal saturateQuota maxQuota minQuota
  split
  · omega
  · split <;> omega

theorem nonnegRange {d} (nonneg : 0 ≤ d) : InRange (quotaFromDecimal d) := (quotaRange d).mpr (by linarith)

theorem flooredRange {q} (zero one : Prop) [Decidable zero] [Decidable one] (range : InRange q) :
    InRange (if zero then 0 else if one then 1 else q) := by
  split
  · exact ⟨le_refl 0,by decide⟩
  split
  · exact ⟨zero_le_one,by decide⟩
  · exact range

/- The vectors an expression is tried on before it is saved, with each of two requests. -/
def smokeTestExpr (runs : List (TokenParams → Option ℚ)) : Bool :=
  [0,1000,100000,1000000].all fun n => runs.all fun run => (run ⟨n,n,n,0,0,0,0,0,0,0⟩).any (0 ≤ ·)

structure NonnegRates (look : Lookups) (info : RequestInfo) : Prop where
  group : 0 ≤ info.priceData.groupRatio
  unit : 0 ≤ look.quotaPerUnit
  price : info.priceData.usePrice = true → 0 ≤ info.priceData.modelPrice
  tool : ∀ name, 0 ≤ look.toolPrice name
  toolModel : ∀ name model, 0 ≤ look.toolPriceForModel name model
  image : ∀ quality size, 0 ≤ look.gptImage1PriceOnceCall quality size

/- What the expression makes of the tokens, with the surcharge, or else what was reserved. -/
def Affordable (look : Lookups) (info : RequestInfo) (params : TokenParams) (surcharge : ℚ) : Prop :=
  ∀ snap, info.tieredBillingSnapshot = some snap → snap.billingMode = "tiered_expr" → match computeTieredQuota look snap params with
    | some r => -1 / 2 < r.actualQuotaBeforeGroup * snap.groupRatio + surcharge
    | none =>
      let reserved := if info.finalPreConsumedQuota ≤ 0 then snap.estimatedQuotaAfterGroup else info.finalPreConsumedQuota
      if surcharge = 0 then InRange reserved else -1 / 2 < reserved + surcharge

theorem tieredRange {look info params quota result} (s : TextQuotaSummary)
    (settled : tryTieredSettle look info params = some (quota,result)) :
    InRange (composeTieredTextQuota info s quota result) ↔ Affordable look info params s.toolCallSurchargeQuota := by
  unfold tryTieredSettle at settled
  split at settled
  · cases settled
  rename_i snap found
  split at settled
  · cases settled
  rename_i tiered
  simp only [Affordable,found,some.injEq,forall_eq',not_not.mp tiered,forall_const]
  cases run : computeTieredQuota look snap params with
  | none =>
    simp only [run,some.injEq,Prod.mk.injEq] at settled
    obtain ⟨rfl,rfl⟩ := settled
    unfold composeTieredTextQuota
    split
    · exact Iff.rfl
    · exact quotaRange _
  | some r =>
    simp only [run,some.injEq,Prod.mk.injEq] at settled
    obtain ⟨rfl,rfl⟩ := settled
    have rounded : r.actualQuotaAfterGroup = quotaFromDecimal (r.actualQuotaBeforeGroup * snap.groupRatio) := by
      simp only [computeTieredQuota,bind_eq_bind,bind_eq_some_iff,some.injEq] at run
      obtain ⟨_,_,rfl⟩ := run
      rfl
    unfold composeTieredTextQuota
    split
    · rename_i free
      simp only [rounded,free,add_zero]
      exact quotaRange _
    · rw [found]
      exact quotaRange _

theorem decimalDivNonneg {a b} (first : 0 ≤ a) (second : 0 ≤ b) : 0 ≤ decimalDiv a b := by
  have rounded := roundNonneg (d := a / b * 10 ^ 16) (by positivity)
  unfold decimalDiv
  positivity

theorem otherRatiosNonneg (p : PriceData) {value} (nonneg : 0 ≤ value) : 0 ≤ p.applyOtherRatiosToDecimal value := by
  unfold PriceData.applyOtherRatiosToDecimal
  induction p.otherRatios generalizing value with
  | nil => exact nonneg
  | cons r _ ih =>
    refine ih ?_
    dsimp only
    split
    · rename_i valid
      exact mul_nonneg nonneg (le_of_lt valid.1)
    · exact nonneg

section Ratios
variable {look : Lookups} {info : RequestInfo} (rates : NonnegRates look info)
include rates

theorem surchargeNonneg : 0 ≤ calculateTextToolCallSurcharge look info := by
  have priced : ∀ {price : ℚ}, 0 ≤ price → 0 ≤ decimalDiv price 1000 * info.priceData.groupRatio * look.quotaPerUnit :=
    fun nonneg => mul_nonneg (mul_nonneg (decimalDivNonneg nonneg (by norm_num)) rates.group) rates.unit
  have calls : ∀ {n : Int}, 0 < n → (0 : ℚ) ≤ n := fun something => Int.cast_nonneg (le_of_lt something)
  unfold calculateTextToolCallSurcharge
  refine add_nonneg (add_nonneg (add_nonneg ?_ ?_) ?_) ?_
  · split
    · split
      · exact priced (mul_nonneg (rates.toolModel _ _) (calls ‹_›))
      · exact le_refl 0
    · split
      · exact priced (rates.toolModel _ _)
      · exact le_refl 0
  · split
    · exact mul_nonneg (priced (rates.tool _)) (calls ‹_›)
    · exact le_refl 0
  · split
    · split
      · exact priced (mul_nonneg (rates.tool _) (calls ‹_›))
      · exact le_refl 0
    · exact le_refl 0
  · split
    · exact mul_nonneg (mul_nonneg (rates.image _ _) rates.group) rates.unit
    · exact le_refl 0

theorem ratioQuotaNonneg {s} (legacy) (surcharge : 0 ≤ s.toolCallSurchargeQuota) (audio : 0 ≤ s.audioTokens) :
    0 ≤ ratioQuota look info s legacy := by
  have group := rates.group
  have unit := rates.unit
  have tokens : (0 : ℚ) ≤ s.audioTokens := Int.cast_nonneg audio
  have input : 0 ≤ audioInputQuota look info.priceData s (look.geminiInputAudioPrice info.originModelName) := by
    unfold audioInputQuota
    split
    · rename_i priced
      have := decimalDivNonneg (le_of_lt priced) (by norm_num : (0 : ℚ) ≤ 1000000)
      positivity
    · exact le_refl 0
  unfold ratioQuota
  dsimp only
  split
  · exact zero_le_one
  rename_i large
  by_cases free : info.priceData.modelRatio * info.priceData.groupRatio = 0
  · rw [free,mul_zero,zero_add]
    exact otherRatiosNonneg _ (add_nonneg surcharge input)
  · exact le_of_lt (not_le.mp (fun small => large ⟨free,small⟩))

theorem summaryRange {usage} (audio : ∀ u, usage = some u → 0 ≤ u.promptTokensDetails.audioTokens) :
    InRange (calculateTextQuotaSummary look info usage).quota := by
  have surcharge := surchargeNonneg rates
  have group := rates.group
  have unit := rates.unit
  have counts : ∀ u, (countedTokens look info usage u).toolCallSurchargeQuota = calculateTextToolCallSurcharge look info ∧
      (countedTokens look info usage u).audioTokens = u.promptTokensDetails.audioTokens := by
    intro u
    unfold countedTokens
    dsimp only
    split <;> exact ⟨rfl,rfl⟩
  have billed : 0 ≤ (usage.getD { Counts.zero with
      promptTokens := info.estimatePromptTokens, totalTokens := info.estimatePromptTokens }).promptTokensDetails.audioTokens := by
    cases usage with
    | none => exact le_refl 0
    | some u => exact audio u rfl
  unfold calculateTextQuotaSummary
  generalize usage.getD _ = u at billed
  refine flooredRange _ _ (nonnegRange ?_)
  split
  · have price := rates.price ‹_›
    unfold priceQuota
    rw [(counts u).1]
    exact otherRatiosNonneg _ (by positivity)
  · exact ratioQuotaNonneg rates _ ((counts u).1 ▸ surcharge) ((counts u).2 ▸ billed)

end Ratios

/- The counts as they are billed: only the audio tokens have a price of their own. -/
def AudioCounted : Settlement → Prop
  | .text (some usage) => 0 ≤ (effectiveBillingUsage usage).promptTokensDetails.audioTokens
  | _ => True

def PaysFor (look : Lookups) (info : RequestInfo) : Settlement → Prop
  | .text (some usage) =>
    let u := effectiveBillingUsage usage
    let s := calculateTextQuotaSummary look info (some u)
    Affordable look info (buildTieredTokenParams look u s.isClaudeUsageSemantic (info.tieredBillingSnapshot.map (·.exprString)))
      s.toolCallSurchargeQuota
  | .audio (some usage) => usage.counts.totalTokens ≠ 0 →
    Affordable look info (buildTieredTokenParams look usage.counts false (info.tieredBillingSnapshot.map (·.exprString))) 0
  | .wss (some u) => u.totalTokens ≠ 0 → Affordable look info ⟨u.inputTokens,u.outputTokens,u.inputTokens,0,0,0,0,0,0,0⟩ 0
  | _ => True

theorem tieredElse {look info params} (plain : tryTieredSettle look info params = none) (surcharge) : Affordable look info params surcharge :=
  fun snap found tiered => absurd ⟨snap,found,tiered⟩ ((tieredSettled look info params).mp plain)

theorem audioRange (look info model input output params total) :
    InRange (audioQuota look info model input output (tryTieredSettle look info params) total) ↔
      (total ≠ 0 → Affordable look info params 0) := by
  unfold audioQuota
  split
  · rename_i zero
    exact iff_of_true ⟨le_refl 0,by decide⟩ (fun something => absurd zero something)
  rename_i tokens
  rw [forall_prop_of_true tokens]
  cases tiered : tryTieredSettle look info params with
  | none =>
    refine iff_of_true ⟨audioQuotaNonneg _ (fun _ => rfl),?_⟩ (tieredElse tiered 0)
    dsimp only
    unfold calculateAudioQuota
    split <;> exact quotaMost _
  | some result =>
    obtain ⟨_,result⟩ := result
    have range := tieredRange ⟨0,0,0,0,0,0,0,0,0,false,0,0⟩ tiered
    simpa [composeTieredTextQuota] using range

theorem settledInRange (look : Lookups) (info : RequestInfo) (s : Settlement) (rates : NonnegRates look info) (audio : AudioCounted s)
    {quota : Int} (settled : charged look info s = some [quota]) : InRange quota ↔ PaysFor look info s := by
  unfold charged at settled
  cases s with
  | text usage =>
    simp only [settle,postTextConsumeQuota,map_some,reportCharges,some.injEq,List.cons.injEq,and_true] at settled
    subst settled
    cases usage with
    | none => exact iff_of_true (summaryRange rates (fun _ found => by cases found)) trivial
    | some usage =>
      simp only [textQuota,map_some,bind_some]
      cases tiered : tieredText look info (effectiveBillingUsage usage) with
      | none => exact iff_of_true (summaryRange rates (fun _ found => some.inj found ▸ audio)) (tieredElse tiered _)
      | some => exact tieredRange _ tiered
  | audio usage | wss usage =>
    cases usage with
    | none => cases settled
    | some =>
      simp only [settle,postAudioConsumeQuota,postWssConsumeQuota,map_some,reportCharges,some.injEq,List.cons.injEq,and_true] at settled
      subst settled
      exact audioRange _ _ _ _ _ _ _

def tieredChat : RequestInfo := chat 0 (some ⟨"tiered_expr","e",1,1,0,500000⟩)

theorem tieredChatInRange : charged (prices (some 500)) tieredChat (.text (some (counted 100))) = some [250] ∧ InRange 250 := by
  have settled : charged (prices (some 500)) tieredChat (.text (some (counted 100))) = some [250] := by decide +kernel
  have rates : NonnegRates (prices (some 500)) tieredChat := ⟨by decide,by decide,fun _ => le_refl (0 : ℚ),
    fun _ => (by decide : (0 : ℚ) ≤ 10),fun _ _ => (by decide : (0 : ℚ) ≤ 10),fun _ _ => le_refl (0 : ℚ)⟩
  refine ⟨settled,(settledInRange _ _ _ rates (le_refl 0) settled).mpr ?_⟩
  rintro _ ⟨⟩ _
  show (-1 / 2 : ℚ) < _
  decide +kernel

def rebate : Lookups := { prices none with runExpr := fun _ p => some (if p.p = 7 then -2000000 else 0) }

theorem sevenTokensPaid : smokeTestExpr [rebate.runExpr "e",rebate.runExpr "e"] = true ∧
    charged rebate tieredChat (.text (some (counted 7))) = some [-1000000] ∧ ¬ InRange (-1000000) :=
  ⟨by decide +kernel,by decide +kernel,fun range => absurd range.1 (by decide)⟩

end NovaPuraRouter.SettledCharge
