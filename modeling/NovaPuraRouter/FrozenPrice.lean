import NovaPuraRouter.UsageReport

/-! What is read after a request was admitted: the completion and audio ratios, for a turn of
a session the model and group ratio too, and all prices for a compact request, which is
priced again once it is answered. Any other text request and an expression keep the prices
they were admitted with. -/
namespace NovaPuraRouter.FrozenPrice
open QuotaMath TextQuota UsageReport Realtime

def charged (look : Lookups) (info : RequestInfo) (s : Settlement) : Option (List Int) :=
  (settle look info s).map (·.filterMap settledBy)

def turnCharge (session : RealtimeInfo) (usage : RealtimeUsage) : Option Int :=
  if session.usePrice then none else some (turnQuota session usage)

def Tiered (info : RequestInfo) : Prop := ∃ snap, info.tieredBillingSnapshot = some snap ∧ snap.billingMode = "tiered_expr"

structure PriceRatios where
  set : Bool
  modelRatio : ℚ
  completionRatio : ℚ
  cacheRatio : ℚ
  createCacheRatio : ℚ
  imageRatio : ℚ
  preConsumedQuota : Int

/- The settings of one model for the group of the request. A model that is billed by
expression may lack the expression. -/
structure Pricing where
  expression : Option (Option String)
  modelPrice : Option ℚ
  ratios : PriceRatios
  discount : Option ℚ
  globalDiscount : Option ℚ
  groupRatio : ℚ

structure Live where
  audioRatios : String → AudioRatios
  pricing : String → Pricing

def Live.turnRates (live : Live) (model : String) : ModelRates :=
  ⟨live.audioRatios model,(live.pricing model).ratios.modelRatio,(live.pricing model).groupRatio⟩

section Compact
variable (look : Lookups) (info : RequestInfo) (p : Pricing)

-- A quota that a strict conversion takes.
def fits (value : ℚ) : Bool := minQuota < value ∧ value < maxQuota

/- The estimate of a free group is zero, with or without its own check. -/
def modelPriceHelperTiered (expr : String) : Option RequestInfo := do
  let prompt : ℚ := info.estimatePromptTokens
  let cost ← look.runExpr expr ⟨prompt,if p.groupRatio = 0 then 0 else 8192,prompt,0,0,0,0,0,0,0⟩
  let discount := p.globalDiscount.getD 1
  let estimate := roundHalfAway (cost / 1000000 * look.quotaPerUnit * discount * p.groupRatio)
  if fits estimate then
    some { info with
      priceData := ⟨0,0,0,0,0,0,0,0,[],false,p.groupRatio⟩
      tieredBillingSnapshot := some ⟨"tiered_expr",expr,p.groupRatio,discount,estimate,look.quotaPerUnit⟩ }
  else none

-- Only an expression replaces the snapshot of the admission.
def modelPriceHelper (acceptUnset : Bool) : Option RequestInfo := match p.expression,p.modelPrice with
  | some expr,_ => expr.bind (modelPriceHelperTiered look info p)
  | none,some price =>
    let data : PriceData := ⟨price,0,0,0,0,0,0,0,p.discount.toList,true,p.groupRatio⟩
    if fits (data.applyOtherRatiosToDecimal (price * look.quotaPerUnit * p.groupRatio)) then some { info with priceData := data } else none
  | none,none =>
    let r := p.ratios
    let tokens := max info.estimatePromptTokens r.preConsumedQuota
    if (r.set || acceptUnset) && fits (tokens * (r.modelRatio * p.groupRatio * p.discount.getD 1)) then
      some { info with priceData := ⟨-1,r.modelRatio,r.completionRatio,r.cacheRatio,r.createCacheRatio,r.createCacheRatio,
        r.createCacheRatio * (8 / 5),r.imageRatio,p.discount.toList,false,p.groupRatio⟩ }
    else none

def compactConsumeQuota (acceptUnset : Bool) (usage : Option Usage) : Option (List Effect) :=
  (modelPriceHelper look info p acceptUnset).map (fun priced => postTextConsumeQuota look priced usage)

end Compact

inductive Charge
  | settled (s : Settlement)
  | compact (acceptUnset : Bool) (usage : Option Usage)
  | turn (session : RealtimeInfo) (usage : RealtimeUsage)

def charges (look : Lookups) (live : Live) (info : RequestInfo) : Charge → Option (List Int)
  | .settled s => charged { look with audioRatios := live.audioRatios } info s
  | .compact acceptUnset usage =>
    (compactConsumeQuota look info (live.pricing info.originModelName) acceptUnset usage).map (·.filterMap settledBy)
  | .turn session usage => (turnCharge { session with turnRates := live.turnRates info.originModelName } usage).map ([·])

/- The ratios of the tokens that are there. -/
structure TokensSame (input output : TokenDetails) (r r' : AudioRatios) : Prop where
  written : output.textTokens ≠ 0 → r'.completionRatio = r.completionRatio
  heard : input.audioTokens ≠ 0 → r'.audioRatio = r.audioRatio
  spoken : output.audioTokens ≠ 0 → r'.audioRatio * r'.audioCompletionRatio = r.audioRatio * r.audioCompletionRatio

structure RatesSame (input output : TokenDetails) (r r' : ModelRates) : Prop where
  ratio : r'.groupRatio * r'.modelRatio = r.groupRatio * r.modelRatio
  tokens : r.groupRatio * r.modelRatio = 0 ∨ TokensSame input output r.ratios r'.ratios

/- What the model's way of billing reads. -/
structure Pricing.Same (p p' : Pricing) : Prop where
  expression : p'.expression = p.expression
  group : p'.groupRatio = p.groupRatio
  tiered : p.expression ≠ none → p'.globalDiscount = p.globalDiscount
  price : p.expression = none → p'.modelPrice = p.modelPrice ∧ p'.discount = p.discount
  ratios : p.expression = none → p.modelPrice = none → p'.ratios = p.ratios

section Frozen
variable (live live' : Live) (info : RequestInfo)

def Unmoved (model : String) (input output : TokenDetails) (total : Int) : Prop :=
  let rates (live : Live) : ModelRates := ⟨live.audioRatios model,info.priceData.modelRatio,info.priceData.groupRatio⟩
  total = 0 ∨ Tiered info ∨ info.priceData.usePrice = true ∨ RatesSame input output (rates live) (rates live')

def Frozen : Charge → Prop
  | .settled (.audio (some usage)) =>
    let u := usage.counts
    Unmoved live live' info info.originModelName ⟨u.promptTokensDetails.textTokens,u.promptTokensDetails.audioTokens⟩
      ⟨u.completionTokenDetails.textTokens,u.completionTokenDetails.audioTokens⟩ u.totalTokens
  | .settled (.wss (some u)) => Unmoved live live' info info.upstreamModelName u.inputDetails u.outputDetails u.totalTokens
  | .settled _ => True
  | .compact _ _ => (live.pricing info.originModelName).Same (live'.pricing info.originModelName)
  | .turn session u => session.usePrice = true ∨
      RatesSame u.inputDetails u.outputDetails (live.turnRates info.originModelName) (live'.turnRates info.originModelName)

end Frozen

theorem reportCharges (total prompt completion quota) : (report total prompt completion quota).filterMap settledBy = [quota] := by
  unfold report
  split <;> rfl

theorem tieredSettled (look info params) : tryTieredSettle look info params = none ↔ ¬ Tiered info := by
  unfold tryTieredSettle Tiered
  cases info.tieredBillingSnapshot with
  | none => simp
  | some snap =>
    by_cases mode : snap.billingMode = "tiered_expr"
    · simp only [mode,ne_eq,not_true_eq_false,if_false,Option.some.injEq,exists_eq_left',iff_false]
      split <;> simp
    · simp [mode]

theorem mulSame {n : Int} {x y : ℚ} (same : n ≠ 0 → x = y) : (n : ℚ) * x = n * y := by
  by_cases empty : n = 0
  · simp [empty]
  · rw [same empty]

theorem rateChargeSame (unit) {input output} {r r' : ModelRates} (same : RatesSame input output r r') :
    calculateAudioQuota unit ⟨input,output,r'.ratios,false,0,r'.modelRatio,r'.groupRatio⟩ =
      calculateAudioQuota unit ⟨input,output,r.ratios,false,0,r.modelRatio,r.groupRatio⟩ := by
  have tokens : audioTokenQuota ⟨input,output,r'.ratios,false,0,r'.modelRatio,r'.groupRatio⟩ =
      audioTokenQuota ⟨input,output,r.ratios,false,0,r.modelRatio,r.groupRatio⟩ := by
    unfold audioTokenQuota
    dsimp only
    rw [same.ratio]
    rcases same.tokens with free | tokens
    · rw [free,mul_zero,mul_zero]
    · rw [mul_assoc (output.audioTokens : ℚ),mul_assoc (output.audioTokens : ℚ),mulSame tokens.written,mulSame tokens.heard,
        mulSame tokens.spoken]
  simp only [calculateAudioQuota,Bool.false_eq_true,if_false,tokens,same.ratio]

theorem audioFrozen {live live' info model input output total} (look params) (unmoved : Unmoved live live' info model input output total) :
    audioQuota { look with audioRatios := live'.audioRatios } info model input output (tryTieredSettle look info params) total =
      audioQuota { look with audioRatios := live.audioRatios } info model input output (tryTieredSettle look info params) total := by
  unfold audioQuota
  rcases unmoved with empty | tiered | price | same
  · rw [if_pos empty,if_pos empty]
  · cases settled : tryTieredSettle look info params with
    | none => exact absurd tiered ((tieredSettled look info params).mp settled)
    | some => rfl
  · simp only [price,calculateAudioQuota,if_true]
  · cases price : info.priceData.usePrice with
    | true => simp only [calculateAudioQuota,if_true]
    | false =>
      dsimp only
      rw [rateChargeSame look.quotaPerUnit same]

theorem pricedSame {p p' : Pricing} (look info acceptUnset) (same : p.Same p') :
    modelPriceHelper look info p' acceptUnset = modelPriceHelper look info p acceptUnset := by
  unfold modelPriceHelper
  rw [same.expression]
  cases billed : p.expression with
  | some expr =>
    have discount := same.tiered (by simp [billed])
    refine congrArg expr.bind (funext fun text => ?_)
    simp only [modelPriceHelperTiered,discount,same.group]
  | none =>
    obtain ⟨price,discount⟩ := same.price billed
    rw [price]
    cases fixed : p.modelPrice with
    | some => simp only [discount,same.group]
    | none => simp only [discount,same.group,same.ratios billed fixed]

section Sample

def settings (expression : Option (Option String)) (modelRatio audioRatio : ℚ) : Live :=
  ⟨fun _ => ⟨1,audioRatio,1⟩,fun _ => ⟨expression,none,⟨true,modelRatio,1,1,1,1,500⟩,none,none,1⟩⟩

end Sample

end NovaPuraRouter.FrozenPrice
