import NovaPuraRouter.QuotaMath

/-! The quota of a text request: which usage is billed, its tokens under ratios or a
fixed price, the surcharges of tools, and the tiered expression that replaces the
result. Settings and prices are look-ups; floats and decimals are rationals. -/
namespace NovaPuraRouter.TextQuota
open QuotaMath

structure InputTokenDetails where
  cachedTokens : Int
  cachedCreationTokens : Int
  cacheWriteTokens : Int
  textTokens : Int
  audioTokens : Int
  imageTokens : Int

def InputTokenDetails.cacheCreationTokensTotal (d : InputTokenDetails) : Int :=
  let total := if d.cachedCreationTokens < d.cacheWriteTokens then d.cacheWriteTokens else d.cachedCreationTokens
  if total < 0 then 0 else total

structure OutputTokenDetails where
  textTokens : Int
  audioTokens : Int
  imageTokens : Int

structure Counts where
  promptTokens : Int
  completionTokens : Int
  totalTokens : Int
  usageSemantic : String
  usageSource : String
  promptTokensDetails : InputTokenDetails
  completionTokenDetails : OutputTokenDetails
  inputTokens : Int
  outputTokens : Int
  claudeCacheCreation5mTokens : Int
  claudeCacheCreation1hTokens : Int
  cost : Option ℚ

def Counts.zero : Counts := ⟨0,0,0,"","",⟨0,0,0,0,0,0⟩,⟨0,0,0⟩,0,0,0,0,none⟩

structure ClaudeCacheCreationUsage where
  ephemeral5mInputTokens : Int
  ephemeral1hInputTokens : Int

structure ClaudeUsage where
  inputTokens : Int
  cacheCreationInputTokens : Int
  cacheReadInputTokens : Int
  outputTokens : Int
  cacheCreation : Option ClaudeCacheCreationUsage
  claudeCacheCreation5mTokens : Int
  claudeCacheCreation1hTokens : Int

structure GeminiTokensDetails where
  modality : String
  tokenCount : Int

structure GeminiUsageMetadata where
  promptTokenCount : Int
  toolUsePromptTokenCount : Int
  candidatesTokenCount : Int
  totalTokenCount : Int
  thoughtsTokenCount : Int
  cachedContentTokenCount : Int
  promptTokensDetails : List GeminiTokensDetails
  toolUsePromptTokensDetails : List GeminiTokensDetails
  candidatesTokensDetails : List GeminiTokensDetails

structure BillingUsage where
  source : String
  semantic : String
  openAIUsage : Option Counts
  claudeUsage : Option ClaudeUsage
  geminiUsageMetadata : Option GeminiUsageMetadata

structure Usage where
  counts : Counts
  billingUsage : Option BillingUsage

-- Case folding and trimming as for ASCII text, which all the names are.
def names (text name : String) : Bool := text.trimAscii.toString.toLower = name

def usageFromOpenAIBillingUsage (source : String) (u : Counts) : Counts :=
  let prompt := if u.promptTokens = 0 ∧ 0 < u.inputTokens then u.inputTokens else u.promptTokens
  let completion := if u.completionTokens = 0 ∧ 0 < u.outputTokens then u.outputTokens else u.completionTokens
  { u with
    promptTokens := prompt, completionTokens := completion
    inputTokens := if u.inputTokens = 0 ∧ 0 < prompt then prompt else u.inputTokens
    outputTokens := if u.outputTokens = 0 ∧ 0 < completion then completion else u.outputTokens
    totalTokens := if u.totalTokens = 0 then prompt + completion else u.totalTokens
    usageSemantic := "openai", usageSource := source }

def usageFromClaudeBillingUsage (u : ClaudeUsage) : Counts :=
  let made5m := (u.cacheCreation.map (·.ephemeral5mInputTokens)).getD 0
  let made1h := (u.cacheCreation.map (·.ephemeral1hInputTokens)).getD 0
  { Counts.zero with
    promptTokens := u.inputTokens, completionTokens := u.outputTokens, totalTokens := u.inputTokens + u.outputTokens
    inputTokens := u.inputTokens + u.cacheReadInputTokens + u.cacheCreationInputTokens, outputTokens := u.outputTokens
    usageSemantic := "anthropic", usageSource := "claude_messages"
    claudeCacheCreation5mTokens := if made5m = 0 then u.claudeCacheCreation5mTokens else made5m
    claudeCacheCreation1hTokens := if made1h = 0 then u.claudeCacheCreation1hTokens else made1h
    promptTokensDetails := ⟨u.cacheReadInputTokens,u.cacheCreationInputTokens,0,0,0,0⟩ }

def modalityTokens (modality : String) (details : List GeminiTokensDetails) : Int :=
  (details.map (fun d => if d.modality = modality then d.tokenCount else 0)).sum

def usageFromGeminiBillingUsage (m : GeminiUsageMetadata) : Counts :=
  let prompt := m.promptTokenCount + m.toolUsePromptTokenCount
  let completion := m.candidatesTokenCount + m.thoughtsTokenCount
  let input := m.promptTokensDetails ++ m.toolUsePromptTokensDetails
  let text := modalityTokens "TEXT" input
  let audio := modalityTokens "AUDIO" input
  { Counts.zero with
    promptTokens := prompt
    completionTokens := if m.totalTokenCount ≠ 0 ∧ completion ≤ 0 then m.totalTokenCount - prompt else completion
    totalTokens := if m.totalTokenCount = 0 then prompt + completion else m.totalTokenCount
    usageSemantic := "gemini", usageSource := "gemini_chat"
    promptTokensDetails := ⟨m.cachedContentTokenCount,0,0,if 0 < prompt ∧ text = 0 ∧ audio = 0 then prompt else text,audio,
      modalityTokens "IMAGE" input⟩
    completionTokenDetails := ⟨modalityTokens "TEXT" m.candidatesTokensDetails,modalityTokens "AUDIO" m.candidatesTokensDetails,
      modalityTokens "IMAGE" m.candidatesTokensDetails⟩ }

def usageFromBillingUsage (b : BillingUsage) : Option Counts :=
  let openAI := if names b.source "oai_chat" ∨ names b.source "oai_responses" ∨ names b.semantic "openai" then b.openAIUsage else none
  let claude := if names b.source "claude_messages" ∨ names b.semantic "anthropic" then b.claudeUsage else none
  let gemini := if names b.source "gemini_chat" ∨ names b.semantic "gemini" then b.geminiUsageMetadata else none
  match openAI,claude,gemini with
  | some u,_,_ => some (usageFromOpenAIBillingUsage b.source u)
  | none,some u,_ => some (usageFromClaudeBillingUsage u)
  | none,none,some m => some (usageFromGeminiBillingUsage m)
  | none,none,none => none

def effectiveBillingUsage (usage : Usage) : Counts := (usage.billingUsage.bind usageFromBillingUsage).getD usage.counts

structure PriceData where
  modelPrice : ℚ
  modelRatio : ℚ
  completionRatio : ℚ
  cacheRatio : ℚ
  cacheCreationRatio : ℚ
  cacheCreation5mRatio : ℚ
  cacheCreation1hRatio : ℚ
  imageRatio : ℚ
  otherRatios : List ℚ
  usePrice : Bool
  groupRatio : ℚ

def PriceData.applyOtherRatiosToDecimal (p : PriceData) (value : ℚ) : ℚ :=
  p.otherRatios.foldl (fun v r => if 0 < r ∧ r ≠ 1 then v * r else v) value

structure BillingSnapshot where
  billingMode : String
  exprString : String
  groupRatio : ℚ
  globalDiscount : ℚ
  estimatedQuotaAfterGroup : Int
  quotaPerUnit : ℚ

structure ResponsesUsageInfo where
  webSearchCalls : Int
  fileSearchCalls : Int

structure RequestInfo where
  originModelName : String
  upstreamModelName : String
  priceData : PriceData
  claudeFormat : Bool
  openRouter : Bool
  responsesUsageInfo : Option ResponsesUsageInfo
  claudeWebSearchRequests : Int
  imageGenerationCall : Option (String × String)
  estimatePromptTokens : Int
  finalPreConsumedQuota : Int
  tieredBillingSnapshot : Option BillingSnapshot

structure TokenParams where
  p : ℚ
  c : ℚ
  len : ℚ
  cr : ℚ
  cc : ℚ
  cc1h : ℚ
  img : ℚ
  imgO : ℚ
  ai : ℚ
  ao : ℚ

/- Settings by name, and the expression engine: which variables an expression uses and
what it evaluates to. -/
structure Lookups where
  quotaPerUnit : ℚ
  toolPriceForModel : String → String → ℚ
  toolPrice : String → ℚ
  gptImage1PriceOnceCall : String → String → ℚ
  geminiInputAudioPrice : String → ℚ
  defaultModelRatio : String → Option ℚ
  audioRatios : String → AudioRatios
  usesVar : String → String → Bool
  runExpr : String → TokenParams → Option ℚ

-- Division keeps sixteen decimal places.
def decimalDiv (a b : ℚ) : ℚ := roundHalfAway (a / b * 10 ^ 16) / 10 ^ 16

variable (look : Lookups)

def hasCustomModelRatio (model : String) (ratio : ℚ) : Bool := match look.defaultModelRatio model with
  | none => true
  | some usual => decide (ratio ≠ usual)

def calcOpenRouterCacheCreateTokens (usage : Counts) (price : PriceData) : Int :=
  if price.cacheCreationRatio = 1 then 0 else
    let quotaPrice := price.modelRatio / look.quotaPerUnit
    let createPrice := quotaPrice * price.cacheCreationRatio
    let readPrice := quotaPrice * price.cacheRatio
    let completionPrice := quotaPrice * price.completionRatio
    roundHalfAway ((usage.cost.getD 0 - usage.promptTokens * quotaPrice +
      usage.promptTokensDetails.cachedTokens * (quotaPrice - readPrice) - usage.completionTokens * completionPrice) /
      (createPrice - quotaPrice))

variable (info : RequestInfo) (usage : Option Counts)

def usageSemanticFromUsage : String :=
  let usual := if info.claudeFormat then "anthropic" else "openai"
  match usage with
  | some u => if u.usageSemantic = "" then usual else u.usageSemantic
  | none => usual

variable (u : Counts)

def isLegacyClaudeDerivedOpenAIUsage : Bool :=
  decide (info.claudeFormat = false ∧ u.usageSource = "" ∧ u.usageSemantic = "" ∧
    (0 < u.claudeCacheCreation5mTokens ∨ 0 < u.claudeCacheCreation1hTokens))

-- A count of calls is priced before the division for some tools and after it for others.
def calculateTextToolCallSurcharge : ℚ :=
  let group := info.priceData.groupRatio
  let webPrice := look.toolPriceForModel "web_search_preview" info.originModelName
  let web : ℚ := match info.responsesUsageInfo with
    | some tools => if 0 < tools.webSearchCalls then
        decimalDiv (webPrice * tools.webSearchCalls) 1000 * group * look.quotaPerUnit else 0
    | none => if info.originModelName.endsWith "search-preview" then decimalDiv webPrice 1000 * group * look.quotaPerUnit else 0
  let claude : ℚ := if 0 < info.claudeWebSearchRequests then
    decimalDiv (look.toolPrice "web_search") 1000 * group * look.quotaPerUnit * info.claudeWebSearchRequests else 0
  let file : ℚ := match info.responsesUsageInfo with
    | some tools => if 0 < tools.fileSearchCalls then
        decimalDiv (look.toolPrice "file_search" * tools.fileSearchCalls) 1000 * group * look.quotaPerUnit else 0
    | none => 0
  let image : ℚ := match info.imageGenerationCall with
    | some (quality,size) => look.gptImage1PriceOnceCall quality size * group * look.quotaPerUnit
    | none => 0
  web + claude + file + image

structure TextQuotaSummary where
  promptTokens : Int
  completionTokens : Int
  totalTokens : Int
  cacheTokens : Int
  cacheCreationTokens : Int
  cacheCreationTokens5m : Int
  cacheCreationTokens1h : Int
  imageTokens : Int
  audioTokens : Int
  isClaudeUsageSemantic : Bool
  quota : Int
  toolCallSurchargeQuota : ℚ

/- OpenRouter counts the cache in the prompt. A cost is never the integer zero that the
source compares it with, so that test always passes. -/
def openRouterCounts (s : TextQuotaSummary) : TextQuotaSummary :=
  let prompt := s.promptTokens - s.cacheTokens
  let custom := info.priceData.usePrice || hasCustomModelRatio look info.originModelName info.priceData.modelRatio
  let maybe := calcOpenRouterCacheCreateTokens look u info.priceData
  let created := if s.cacheCreationTokens = 0 ∧ info.priceData.cacheCreationRatio ≠ 1 ∧ custom = false ∧ 0 ≤ maybe ∧ maybe ≤ prompt
    then maybe else s.cacheCreationTokens
  { s with promptTokens := prompt - created, cacheCreationTokens := created }

def countedTokens : TextQuotaSummary :=
  let s : TextQuotaSummary := ⟨u.promptTokens,u.completionTokens,u.promptTokens + u.completionTokens,
    u.promptTokensDetails.cachedTokens,u.promptTokensDetails.cacheCreationTokensTotal,u.claudeCacheCreation5mTokens,
    u.claudeCacheCreation1hTokens,u.promptTokensDetails.imageTokens,u.promptTokensDetails.audioTokens,
    decide (usageSemanticFromUsage info usage = "anthropic"),0,calculateTextToolCallSurcharge look info⟩
  if info.openRouter ∧ s.isClaudeUsageSemantic then openRouterCounts look info u s else s

variable (s : TextQuotaSummary)

def separateCache (legacy : Bool) : Bool := !s.isClaudeUsageSemantic && !legacy

def cacheWriteQuota (p : PriceData) (s : TextQuotaSummary) (legacy : Bool) : ℚ :=
  if s.cacheCreationTokens ≠ 0 ∨ 0 < s.cacheCreationTokens5m ∨ 0 < s.cacheCreationTokens1h then
    if separateCache s legacy then s.cacheCreationTokens * p.cacheCreationRatio else
      let remaining := s.cacheCreationTokens - s.cacheCreationTokens5m - s.cacheCreationTokens1h
      (if remaining < 0 then 0 else remaining : Int) * p.cacheCreationRatio +
        s.cacheCreationTokens5m * p.cacheCreation5mRatio + s.cacheCreationTokens1h * p.cacheCreation1hRatio
  else 0

-- Tokens that have their own price leave the base, which does not go below zero.
def baseTokens (legacy : Bool) (audioPrice : ℚ) : Int :=
  let cached := if separateCache s legacy then s.cacheTokens + s.cacheCreationTokens else 0
  let audio := if 0 < audioPrice then s.audioTokens else 0
  let base := s.promptTokens - cached - s.imageTokens - audio
  if base < 0 then 0 else base

def audioInputQuota (p : PriceData) (s : TextQuotaSummary) (audioPrice : ℚ) : ℚ :=
  if 0 < audioPrice then decimalDiv audioPrice 1000000 * s.audioTokens * p.groupRatio * look.quotaPerUnit else 0

def ratioQuota (legacy : Bool) : ℚ :=
  let p := info.priceData
  let audioPrice := look.geminiInputAudioPrice info.originModelName
  let promptQuota := baseTokens s legacy audioPrice + s.cacheTokens * p.cacheRatio + s.imageTokens * p.imageRatio +
    cacheWriteQuota p s legacy
  let quota := p.applyOtherRatiosToDecimal ((promptQuota + s.completionTokens * p.completionRatio) * (p.modelRatio * p.groupRatio) +
    s.toolCallSurchargeQuota + audioInputQuota look p s audioPrice)
  if p.modelRatio * p.groupRatio ≠ 0 ∧ quota ≤ 0 then 1 else quota

def priceQuota : ℚ :=
  let p := info.priceData
  p.applyOtherRatiosToDecimal (p.modelPrice * look.quotaPerUnit * p.groupRatio + s.toolCallSurchargeQuota)

def calculateTextQuotaSummary : TextQuotaSummary :=
  let u := usage.getD { Counts.zero with promptTokens := info.estimatePromptTokens, totalTokens := info.estimatePromptTokens }
  let s := countedTokens look info usage u
  let quota := quotaFromDecimal (if info.priceData.usePrice then priceQuota look info s else
    ratioQuota look info s (isLegacyClaudeDerivedOpenAIUsage info u))
  { s with quota := if s.totalTokens = 0 then 0 else
      if info.priceData.modelRatio * info.priceData.groupRatio ≠ 0 ∧ quota = 0 then 1 else quota }

def buildTieredTokenParams (claude : Bool) (expr : Option String) : TokenParams :=
  let cr : ℚ := u.promptTokensDetails.cachedTokens
  let cc : ℚ := if u.usageSemantic = "anthropic" then u.claudeCacheCreation5mTokens else u.promptTokensDetails.cacheCreationTokensTotal
  let cc1h : ℚ := if u.usageSemantic = "anthropic" then u.claudeCacheCreation1hTokens else 0
  let img : ℚ := u.promptTokensDetails.imageTokens
  let ai : ℚ := u.promptTokensDetails.audioTokens
  let imgO : ℚ := u.completionTokenDetails.imageTokens
  let ao : ℚ := u.completionTokenDetails.audioTokens
  let own (name : String) (tokens : ℚ) : ℚ :=
    if claude = false ∧ (expr.map (look.usesVar · name)).getD false then tokens else 0
  let p := u.promptTokens - own "cr" cr - own "cc" cc - own "cc1h" cc1h - own "img" img - own "ai" ai
  let c := u.completionTokens - own "img_o" imgO - own "ao" ao
  ⟨if p < 0 then 0 else p,if c < 0 then 0 else c,
    if claude then u.promptTokens + cr + cc + cc1h else u.promptTokens,cr,cc,cc1h,img,imgO,ai,ao⟩

structure TieredResult where
  actualQuotaBeforeGroup : ℚ
  actualQuotaAfterGroup : Int

def computeTieredQuota (snap : BillingSnapshot) (params : TokenParams) : Option TieredResult := do
  let cost ← look.runExpr snap.exprString params
  let discount := if snap.globalDiscount ≤ 0 ∨ 1 < snap.globalDiscount then 1 else snap.globalDiscount
  let before := cost / 1000000 * snap.quotaPerUnit * discount
  some ⟨before,quotaFromDecimal (before * snap.groupRatio)⟩

-- An expression that fails costs what was pre-consumed, or else the estimate.
def tryTieredSettle (params : TokenParams) : Option (Int × Option TieredResult) :=
  match info.tieredBillingSnapshot with
  | none => none
  | some snap => if snap.billingMode ≠ "tiered_expr" then none else match computeTieredQuota look snap params with
    | none => some (if info.finalPreConsumedQuota ≤ 0 then snap.estimatedQuotaAfterGroup else info.finalPreConsumedQuota,none)
    | some result => some (result.actualQuotaAfterGroup,some result)

def composeTieredTextQuota (quota : Int) (result : Option TieredResult) : Int :=
  if s.toolCallSurchargeQuota = 0 then quota else match result,info.tieredBillingSnapshot with
    | some r,some snap => quotaFromDecimal (r.actualQuotaBeforeGroup * snap.groupRatio + s.toolCallSurchargeQuota)
    | _,_ => quotaFromDecimal (quota + s.toolCallSurchargeQuota)

end NovaPuraRouter.TextQuota
