import NovaPuraRouter.Realtime
import NovaPuraRouter.TextQuota

/-! What the three settlement functions report: the calls they make, in order, with the
quota each is given. A nil usage that the source dereferences settles nothing. -/
namespace NovaPuraRouter.UsageReport
open QuotaMath TextQuota Option

inductive Effect
  | updateUserUsedQuota (quota : Int)
  | updateChannelUsedQuota (quota : Int)
  | settleBilling (quota : Int)
  | recordConsumeLog (promptTokens completionTokens quota : Int)
  deriving DecidableEq

-- The usage counters are left alone when there are no tokens.
def report (totalTokens promptTokens completionTokens quota : Int) : List Effect :=
  (if totalTokens = 0 then [] else [.updateUserUsedQuota quota,.updateChannelUsedQuota quota]) ++
    [.settleBilling quota,.recordConsumeLog promptTokens completionTokens quota]

variable (look : Lookups) (info : RequestInfo)

def tieredText (u : Counts) : Option (Int × Option TieredResult) :=
  tryTieredSettle look info (buildTieredTokenParams look u (calculateTextQuotaSummary look info (some u)).isClaudeUsageSemantic
    (info.tieredBillingSnapshot.map (·.exprString)))

-- The quota after the tiered expression; without a usage there is none to evaluate.
def textQuota (usage : Option Usage) : Int :=
  let billed := usage.map effectiveBillingUsage
  let summary := calculateTextQuotaSummary look info billed
  match billed.bind (tieredText look info) with
  | none => summary.quota
  | some (quota,result) => composeTieredTextQuota info summary quota result

def postTextConsumeQuota (usage : Option Usage) : List Effect :=
  let summary := calculateTextQuotaSummary look info (usage.map effectiveBillingUsage)
  report summary.totalTokens summary.promptTokens summary.completionTokens (textQuota look info usage)

def audioQuota (model : String) (input output : TokenDetails)
    (tiered : Option (Int × Option TieredResult)) (totalTokens : Int) : Int :=
  if totalTokens = 0 then 0 else match tiered with
    | some (tieredQuota,_) => tieredQuota
    | none => calculateAudioQuota look.quotaPerUnit
        ⟨input,output,look.audioRatios model,info.priceData.usePrice,0,info.priceData.modelRatio,info.priceData.groupRatio⟩

def postAudioConsumeQuota : Option Usage → Option (List Effect)
  | none => none
  | some usage =>
    let u := usage.counts
    let tiered := tryTieredSettle look info (buildTieredTokenParams look u false (info.tieredBillingSnapshot.map (·.exprString)))
    some (report u.totalTokens u.promptTokens u.completionTokens (audioQuota look info info.originModelName
      ⟨u.promptTokensDetails.textTokens,u.promptTokensDetails.audioTokens⟩
      ⟨u.completionTokenDetails.textTokens,u.completionTokenDetails.audioTokens⟩ tiered u.totalTokens))

def postWssConsumeQuota : Option Realtime.RealtimeUsage → Option (List Effect)
  | none => none
  | some u =>
    let tiered := tryTieredSettle look info ⟨u.inputTokens,u.outputTokens,u.inputTokens,0,0,0,0,0,0,0⟩
    some (report u.totalTokens u.inputTokens u.outputTokens
      (audioQuota look info info.upstreamModelName u.inputDetails u.outputDetails tiered u.totalTokens))

inductive Settlement
  | text (usage : Option Usage)
  | audio (usage : Option Usage)
  | wss (usage : Option Realtime.RealtimeUsage)

def settle : Settlement → Option (List Effect)
  | .text usage => some (postTextConsumeQuota look info usage)
  | .audio usage => postAudioConsumeQuota look info usage
  | .wss usage => postWssConsumeQuota look info usage

section Reading

def settledBy : Effect → Option Int
  | .settleBilling quota => some quota
  | _ => none

def loggedBy : Effect → Option Int
  | .recordConsumeLog _ _ quota => some quota
  | _ => none

def userIncrement : Effect → Int
  | .updateUserUsedQuota quota => quota
  | _ => 0

def channelIncrement : Effect → Int
  | .updateChannelUsedQuota quota => quota
  | _ => 0

end Reading

structure Agrees (effects : List Effect) (quota : Int) : Prop where
  settled : effects.filterMap settledBy = [quota]
  logged : effects.filterMap loggedBy = [quota]
  user : (effects.map userIncrement).sum = quota
  channel : (effects.map channelIncrement).sum = quota

def Reported (effects : List Effect) : Prop := ∃ quota, Agrees effects quota

theorem reportIff (total prompt completion quota) : Reported (report total prompt completion quota) ↔ (total = 0 → quota = 0) := by
  have settled : (report total prompt completion quota).filterMap settledBy = [quota] := by
    unfold report
    split <;> rfl
  have logged : (report total prompt completion quota).filterMap loggedBy = [quota] := by
    unfold report
    split <;> rfl
  constructor
  · rintro ⟨q,agrees⟩ nothing
    have same := settled.symm.trans agrees.settled
    cases same
    have user := agrees.user
    rw [report,if_pos nothing] at user
    exact user.symm
  · intro zero
    refine ⟨quota,settled,logged,?_,?_⟩
    · unfold report
      split
      · rename_i nothing
        rw [zero nothing]
        rfl
      · simp [userIncrement]
    · unfold report
      split
      · rename_i nothing
        rw [zero nothing]
        rfl
      · simp [channelIncrement]

theorem audioReported (look info model input output) (tiered total prompt completion) :
    Reported (report total prompt completion (audioQuota look info model input output tiered total)) := by
  refine (reportIff total prompt completion _).mpr ?_
  intro nothing
  exact if_pos nothing

theorem summaryZero {look info usage} (nothing : (calculateTextQuotaSummary look info usage).totalTokens = 0) :
    (calculateTextQuotaSummary look info usage).quota = 0 := by
  exact if_pos nothing

theorem countedTotal (look info u) : (calculateTextQuotaSummary look info (some u)).totalTokens = u.promptTokens + u.completionTokens := by
  simp only [calculateTextQuotaSummary,countedTokens,getD_some]
  split <;> rfl

/- A text usage without tokens that a tiered expression prices all the same, by a flat
fee, a tool surcharge, or the fallback of a failed expression. -/
def PricedNothing : Settlement → Prop
  | .text (some usage) =>
    let u := effectiveBillingUsage usage
    u.promptTokens + u.completionTokens = 0 ∧ ∃ quota result, tieredText look info u = some (quota,result) ∧
      composeTieredTextQuota info (calculateTextQuotaSummary look info (some u)) quota result ≠ 0
  | _ => False

theorem textReportedIff (look info usage) : Reported (postTextConsumeQuota look info usage) ↔ ¬ PricedNothing look info (.text usage) := by
  refine (reportIff _ _ _ _).trans ?_
  cases usage with
  | none =>
    refine iff_of_true (fun nothing => ?_) (fun h => h)
    exact summaryZero nothing
  | some usage =>
    simp only [textQuota,PricedNothing,map_some,bind_some,countedTotal]
    cases tiered : tieredText look info (effectiveBillingUsage usage) with
    | none =>
      refine iff_of_true (fun nothing => summaryZero ?_) ?_
      · rw [countedTotal]
        exact nothing
      · rintro ⟨_,quota,result,applied,_⟩
        cases applied
    | some r =>
      obtain ⟨quota,result⟩ := r
      constructor
      · rintro zero ⟨nothing,_,_,applied,priced⟩
        cases applied
        exact priced (zero nothing)
      · intro free nothing
        by_contra priced
        exact free ⟨nothing,quota,result,rfl,priced⟩

theorem usageReportedIff (settlement : Settlement) {effects : List Effect}
    (settled : settle look info settlement = some effects) : Reported effects ↔ ¬ PricedNothing look info settlement := by
  cases settlement with
  | text usage =>
    cases some.inj settled
    exact textReportedIff look info usage
  | audio usage | wss usage =>
    cases usage with
    | none => cases settled
    | some =>
      cases some.inj settled
      exact iff_of_true (audioReported _ _ _ _ _ _ _ _ _) (fun h => h)

def prices (cost : Option ℚ) : Lookups where
  quotaPerUnit := 500000
  toolPriceForModel := fun _ _ => 10
  toolPrice := fun _ => 10
  gptImage1PriceOnceCall := fun _ _ => 0
  geminiInputAudioPrice := fun _ => 0
  defaultModelRatio := fun _ => some 1
  audioRatios := fun _ => ⟨1,1,1⟩
  usesVar := fun _ _ => false
  runExpr := fun _ _ => cost

def chat (webSearches : Int) (snapshot : Option BillingSnapshot) : RequestInfo where
  originModelName := "m"
  upstreamModelName := "m"
  priceData := ⟨0,1,1,1,1,1,1,1,[],false,1⟩
  claudeFormat := false
  openRouter := false
  responsesUsageInfo := none
  claudeWebSearchRequests := webSearches
  imageGenerationCall := none
  estimatePromptTokens := 0
  finalPreConsumedQuota := 0
  tieredBillingSnapshot := snapshot

def counted (prompt : Int) : Usage := ⟨{ Counts.zero with promptTokens := prompt },none⟩

theorem searchedChatReported : Reported (postTextConsumeQuota (prices (some 500)) (chat 1 (some ⟨"tiered_expr","e",1,1,0,500000⟩))
    (some (counted 100))) :=
  (usageReportedIff _ _ (.text (some (counted 100))) rfl).mpr (by rintro ⟨nothing,_⟩; exact absurd nothing (by decide))

theorem emptyChatCharged : settle (prices (some 500)) (chat 1 (some ⟨"tiered_expr","e",1,1,0,500000⟩)) (.text (some (counted 0))) =
      some [.settleBilling 5250,.recordConsumeLog 0 0 5250] ∧
    ¬ Reported (postTextConsumeQuota (prices (some 500)) (chat 1 (some ⟨"tiered_expr","e",1,1,0,500000⟩)) (some (counted 0))) := by
  have effects : postTextConsumeQuota (prices (some 500)) (chat 1 (some ⟨"tiered_expr","e",1,1,0,500000⟩)) (some (counted 0)) =
      [.settleBilling 5250,.recordConsumeLog 0 0 5250] := by decide +kernel
  refine ⟨congrArg some effects,?_⟩
  rw [effects]
  rintro ⟨_,agrees⟩
  have settled := agrees.settled
  have user := agrees.user
  cases settled
  exact absurd user (by decide)

end NovaPuraRouter.UsageReport
