import NovaPuraRouter.Execution

/-! What one attempt of a request hands to the next. Each attempt writes the keys of its
channel into the request's context, some of them only for some channels, and the next one
reads them all. -/
namespace NovaPuraRouter.RetryContext

inductive ChannelType
  | openAI | azure | vertexAi | xunfei | gemini | ali | cloudflare | mokaAI | coze | other (value : Nat)
  deriving DecidableEq, Repr

def ChannelType.setsVersion : ChannelType → Bool
  | .azure | .xunfei | .gemini | .cloudflare | .mokaAI => true
  | _ => false

structure Channel (α : Type) where
  id : Nat
  channelType : ChannelType
  createdTime : Int
  setting : α
  otherSettings : α
  paramOverride : α
  headerOverride : α
  openAIOrganization : Option String
  modelMapping : String
  baseURL : String
  other : String
  isMultiKeyPool : Bool

structure Attempt (α : Type) where
  channel : Channel α
  key : String
  index : Nat

def Attempt.organization {α} (a : Attempt α) : String := a.channel.openAIOrganization.getD ""

structure Context (α : Type) where
  originalModel : String
  channelId : Nat
  channelType : ChannelType
  channelCreateTime : Int
  channelSetting : Option α
  channelOtherSetting : Option α
  paramOverride : Option α
  headerOverride : Option α
  channelOrganization : String
  modelMapping : String
  channelIsMultiKey : Bool
  channelMultiKeyIndex : Nat
  channelKey : String
  baseUrl : String
  apiVersion : String
  region : String

def Context.empty {α} : Context α := ⟨"",0,.other 0,0,none,none,none,none,"","",false,0,"","","",""⟩

structure ChannelMeta (α : Type) where
  channelType : ChannelType
  channelId : Nat
  channelIsMultiKey : Bool
  channelMultiKeyIndex : Nat
  channelBaseUrl : String
  apiVersion : String
  apiKey : String
  organization : String
  channelCreateTime : Int
  paramOverride : Option α
  headersOverride : Option α
  upstreamModelName : String
  channelSetting : Option α
  channelOtherSettings : Option α
  modelMapping : String

section Attempts
variable {α : Type} (template : α → α) (modelName query : String) (c : Context α)

/- `template` is what the affinity rule of the request makes of an override. -/
def setupContextForSelectedChannel (a : Attempt α) : Context α :=
  { originalModel := modelName
    channelId := a.channel.id
    channelType := a.channel.channelType
    channelCreateTime := a.channel.createdTime
    channelSetting := some a.channel.setting
    channelOtherSetting := some a.channel.otherSettings
    paramOverride := some (template a.channel.paramOverride)
    headerOverride := some a.channel.headerOverride
    channelOrganization := if a.organization ≠ "" then a.organization else c.channelOrganization
    modelMapping := a.channel.modelMapping
    channelIsMultiKey := a.channel.isMultiKeyPool
    channelMultiKeyIndex := if a.channel.isMultiKeyPool then a.index else c.channelMultiKeyIndex
    channelKey := a.key
    baseUrl := a.channel.baseURL
    apiVersion := if a.channel.channelType.setsVersion then a.channel.other else c.apiVersion
    region := if a.channel.channelType = .vertexAi then a.channel.other else c.region }

def getAPIVersion : String := if query = "" then c.apiVersion else query

def initChannelMeta : ChannelMeta α :=
  { channelType := c.channelType
    channelId := c.channelId
    channelIsMultiKey := c.channelIsMultiKey
    channelMultiKeyIndex := c.channelMultiKeyIndex
    channelBaseUrl := c.baseUrl
    apiVersion := if c.channelType = .azure then getAPIVersion query c else if c.channelType = .vertexAi then c.region else c.apiVersion
    apiKey := c.channelKey
    organization := c.channelOrganization
    channelCreateTime := c.channelCreateTime
    paramOverride := c.paramOverride
    headersOverride := c.headerOverride
    upstreamModelName := c.originalModel
    channelSetting := c.channelSetting
    channelOtherSettings := c.channelOtherSetting
    modelMapping := c.modelMapping }

def Same (m m' : ChannelMeta α) : Prop :=
  { m with channelMultiKeyIndex := m'.channelMultiKeyIndex } = m' ∧
    (m.channelIsMultiKey = true → m.channelMultiKeyIndex = m'.channelMultiKeyIndex)

def attempts (earlier : List (Attempt α)) : Context α := run (setupContextForSelectedChannel template modelName) c earlier

theorem organizationLeft (c earlier) :
    (attempts template modelName c earlier).channelOrganization = "" ↔ c.channelOrganization = "" ∧ ∀ a ∈ earlier, a.organization = "" := by
  induction earlier generalizing c with
  | nil => simp [attempts,run]
  | cons a _ ih =>
    refine (ih (setupContextForSelectedChannel template modelName c a)).trans ?_
    by_cases own : a.organization = "" <;> simp [setupContextForSelectedChannel,own]

theorem versionLeft (c earlier) : (attempts template modelName c earlier).apiVersion =
    (((earlier.filter (·.channel.channelType.setsVersion)).getLast?).map (·.channel.other)).getD c.apiVersion := by
  induction earlier generalizing c with
  | nil => rfl
  | cons a rest ih =>
    refine (ih (setupContextForSelectedChannel template modelName c a)).trans ?_
    cases sets : a.channel.channelType.setsVersion with
    | false => simp [setupContextForSelectedChannel,sets]
    | true => cases last : (rest.filter (·.channel.channelType.setsVersion)).getLast? <;>
        simp [setupContextForSelectedChannel,sets,List.getLast?_cons,last]

theorem ownIffNothingLeft (earlier : List (Attempt α)) (last : Attempt α) :
    Same (initChannelMeta query (setupContextForSelectedChannel template modelName (attempts template modelName .empty earlier) last))
      (initChannelMeta query (setupContextForSelectedChannel template modelName .empty last)) ↔
    (last.organization ≠ "" ∨ ∀ a ∈ earlier, a.organization = "") ∧
    (last.channel.channelType.setsVersion = true ∨ last.channel.channelType = .vertexAi ∨
      ∀ a ∈ (earlier.filter (·.channel.channelType.setsVersion)).getLast?, a.channel.other = "") := by
  have org := organizationLeft template modelName .empty earlier
  have version := versionLeft template modelName .empty earlier
  generalize attempts template modelName .empty earlier = c at org version ⊢
  have left : (∀ a ∈ (earlier.filter (·.channel.channelType.setsVersion)).getLast?, a.channel.other = "") ↔ c.apiVersion = "" := by
    rw [version]
    cases (earlier.filter (·.channel.channelType.setsVersion)).getLast? <;> simp [Context.empty]
  rw [left,← (org.trans (and_iff_right rfl))]
  cases pool : last.channel.isMultiKeyPool <;> cases type_ : last.channel.channelType <;> by_cases own : last.organization = "" <;>
    simp [Same,initChannelMeta,setupContextForSelectedChannel,getAPIVersion,Context.empty,ChannelType.setsVersion,pool,type_,own,and_comm]

end Attempts

/-- The second channel has no organization and is sent the first one's. -/
theorem organizationSurvives : let channel : Channel Unit := ⟨1,.openAI,0,(),(),(),(),some "org-a","","https://a","",false⟩
    ¬ Same (initChannelMeta "" (setupContextForSelectedChannel id "gpt" (attempts id "gpt" .empty [⟨channel,"k1",0⟩])
        ⟨{ channel with id := 2, openAIOrganization := none },"k2",0⟩))
      (initChannelMeta "" (setupContextForSelectedChannel id "gpt" .empty ⟨{ channel with id := 2, openAIOrganization := none },"k2",0⟩)) := by
  intro _ same
  exact absurd (congrArg ChannelMeta.organization same.1) (by decide)

end NovaPuraRouter.RetryContext
