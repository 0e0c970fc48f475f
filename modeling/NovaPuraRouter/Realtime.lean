import NovaPuraRouter.Billing
import NovaPuraRouter.QuotaMath

/-! A realtime websocket session: the three usage accumulators, the charge of every turn,
and the settlement of the session's sum. The two readers are interleaved in the order of the
events; what the look-ups of a charge find may come from the cache and is an argument. -/
namespace NovaPuraRouter.Realtime
open CreditLot Grants Billing QuotaMath

@[ext] structure RealtimeUsage where
  totalTokens : Int
  inputTokens : Int
  outputTokens : Int
  cachedTokens : Int
  inputDetails : TokenDetails
  outputDetails : TokenDetails
  deriving DecidableEq

def TokenDetails.plus (a b : TokenDetails) : TokenDetails := ⟨a.textTokens + b.textTokens,a.audioTokens + b.audioTokens⟩

def RealtimeUsage.empty : RealtimeUsage := ⟨0,0,0,0,⟨0,0⟩,⟨0,0⟩⟩

def RealtimeUsage.plus (a b : RealtimeUsage) : RealtimeUsage :=
  ⟨a.totalTokens + b.totalTokens,a.inputTokens + b.inputTokens,a.outputTokens + b.outputTokens,
    a.cachedTokens + b.cachedTokens,TokenDetails.plus a.inputDetails b.inputDetails,
    TokenDetails.plus a.outputDetails b.outputDetails⟩

def countedInput (text audio : Int) : RealtimeUsage := ⟨text + audio,text + audio,0,0,⟨text,audio⟩,⟨0,0⟩⟩

def countedOutput (text audio : Int) : RealtimeUsage := ⟨text + audio,0,text + audio,0,⟨0,0⟩,⟨text,audio⟩⟩

structure ModelRates where
  ratios : AudioRatios
  modelRatio : ℚ
  groupRatio : ℚ

/- A turn is priced under the model the client asked for, the session under the one it
was mapped to. Nothing in the source sets the flag that turns read. -/
structure RealtimeInfo where
  relay : RelayInfo
  quotaPerUnit : ℚ
  usePrice : Bool
  turnRates : ModelRates
  priceDataUsePrice : Bool
  sessionRates : ModelRates

-- The model price is not handed on, here or at the settlement.
def quotaInfo (usage : RealtimeUsage) (usePrice : Bool) (rates : ModelRates) : QuotaInfo :=
  ⟨usage.inputDetails,usage.outputDetails,rates.ratios,usePrice,0,rates.modelRatio,rates.groupRatio⟩

def turnQuota (info : RealtimeInfo) (usage : RealtimeUsage) : Int :=
  calculateAudioQuota info.quotaPerUnit (quotaInfo usage info.usePrice info.turnRates)

def sessionQuota (info : RealtimeInfo) (usage : RealtimeUsage) : Int :=
  calculateAudioQuota info.quotaPerUnit (quotaInfo usage info.priceDataUsePrice info.sessionRates)

structure TokenSeen where
  remainQuota : Int
  unlimitedQuota : Bool

structure Look where
  userQuota : Option Int
  token : Option TokenSeen
  now : Int

inductive RealtimeFailure
  | userNotFound | tokenNotFound
  | userQuotaNotEnough (userQuota need : Int)
  | tokenQuotaNotEnough (remain need : Int)
  | consume (failure : Failure)
  deriving DecidableEq

variable (cfg : Config) (db : Database)

def increaseUserQuota (id : Nat) (quota : Int) : Except Failure Database :=
  increaseUserCashQuota cfg db id quota false

def decreaseUserQuota (id : Nat) (quota now : Int) : Except Failure Database := do
  let taken ← decreaseUserQuotaWithSplit db id quota now
  pure taken.2

variable (info : RelayInfo)

def consumeWallet (quota now : Int) : Except Failure Database :=
  if 0 < quota then decreaseUserQuota db info.userId quota now else increaseUserQuota cfg db info.userId (-quota)

-- What the wallet paid stays paid when the token's update fails.
def postConsumeQuota (quota now : Int) : Database × Except Failure Unit :=
  match consumeWallet cfg db info quota now with
  | .error e => (db,.error e)
  | .ok taken => match settleToken cfg taken info quota with
    | .error e => (taken,.error e)
    | .ok paid => (paid,.ok ())

def checkTurn (info : RealtimeInfo) (usage : RealtimeUsage) (look : Look) : Except RealtimeFailure Unit := do
  let userQuota ← row look.userQuota .userNotFound
  let token ← row look.token .tokenNotFound
  require (¬ userQuota < turnQuota info usage) (.userQuotaNotEnough userQuota (turnQuota info usage))
  require (token.unlimitedQuota = true ∨ ¬ token.remainQuota < turnQuota info usage)
    (.tokenQuotaNotEnough token.remainQuota (turnQuota info usage))

def preWssConsumeQuota (info : RealtimeInfo) (usage : RealtimeUsage) (look : Look) :
    Database × Except RealtimeFailure Unit :=
  if info.usePrice then (db,.ok ()) else match checkTurn info usage look with
    | .error e => (db,.error e)
    | .ok _ => match postConsumeQuota cfg db info.relay (turnQuota info usage) look.now with
      | (db',.error e) => (db',.error (.consume e))
      | (db',.ok _) => (db',.ok ())

structure Handler where
  db : Database
  usage : RealtimeUsage
  localUsage : RealtimeUsage
  sumUsage : RealtimeUsage
  stopped : Bool

def Handler.start : Handler := ⟨db,.empty,.empty,.empty,false⟩

def preConsumeUsage (info : RealtimeInfo) (h : Handler) (usage : RealtimeUsage) (look : Look) :
    Handler × Except RealtimeFailure Unit :=
  let charged := preWssConsumeQuota cfg h.db info usage look
  ({ h with db := charged.1, sumUsage := h.sumUsage.plus usage },charged.2)

inductive RealtimeEvent
  | client (text audio : Int)
  | target (text audio : Int)
  | responseDone (usage : Option RealtimeUsage) (text audio : Int) (look : Look)

-- The accumulators are cleared only if the charge went through; otherwise the reader ends.
def turnDone (info : RealtimeInfo) (h : Handler) (usage : Option RealtimeUsage) (text audio : Int) (look : Look) :
    Handler := match usage with
  | some u =>
    let added := { h with usage := h.usage.plus u }
    match preConsumeUsage cfg info added added.usage look with
    | (charged,.error _) => { charged with stopped := true }
    | (charged,.ok _) => { charged with usage := .empty, localUsage := .empty }
  | none =>
    let added := { h with localUsage := h.localUsage.plus (countedInput text audio) }
    match preConsumeUsage cfg info added added.localUsage look with
    | (charged,.error _) => { charged with stopped := true }
    | (charged,.ok _) => { charged with localUsage := .empty }

def handle (info : RealtimeInfo) (h : Handler) (event : RealtimeEvent) : Handler :=
  if h.stopped then h else match event with
    | .client text audio => { h with localUsage := h.localUsage.plus (countedInput text audio) }
    | .target text audio => { h with localUsage := h.localUsage.plus (countedOutput text audio) }
    | .responseDone usage text audio look => turnDone cfg info h usage text audio look

def flush (info : RealtimeInfo) (h : Handler) (usage : RealtimeUsage) (look : Look) : Handler :=
  if usage.totalTokens = 0 then h else (preConsumeUsage cfg info h usage look).1

-- The errors of the last two charges are dropped.
def close (info : RealtimeInfo) (h : Handler) (first second : Look) : Handler :=
  flush cfg info (flush cfg info h h.usage first) h.localUsage second

structure Reservation where
  quota : Int
  seen : Option Int
  now : Int

def preConsumeBilling : Option Reservation → Database × Except Failure (Option BillingSession)
  | none => (db,.ok none)
  | some r => if r.quota < 0 then (db,.error .negativeQuota) else match preConsume cfg db info r.quota r.seen r.now with
    | (db',.error e) => (db',.error e)
    | (db',.ok s) => (db',.ok (some s))

def settleBilling (billing : Option BillingSession) (actual now : Int) :
    Database × Except Failure Unit := match billing with
  | some s =>
    let settled := settle cfg db s actual now
    (settled.1,settled.2.2)
  | none => if actual = 0 then (db,.ok ()) else postConsumeQuota cfg db info actual now

def postWssQuota (info : RealtimeInfo) (usage : RealtimeUsage) : Int :=
  if usage.totalTokens = 0 then 0 else sessionQuota info usage

def postWssConsumeQuota (info : RealtimeInfo) (billing : Option BillingSession)
    (usage : RealtimeUsage) (now : Int) : Database × Except Failure Unit :=
  settleBilling cfg db info.relay billing (postWssQuota info usage) now

structure Ending where
  first : Look
  second : Look
  now : Int

end NovaPuraRouter.Realtime
