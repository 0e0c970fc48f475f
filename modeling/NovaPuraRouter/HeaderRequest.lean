import NovaPuraRouter.HeaderOverride

/-! From the map of header overrides to the headers of the upstream request: rules that pass
client headers on, placeholders, and the attempts of one request, each on a channel of its
own. Regular expressions are an argument. -/
namespace NovaPuraRouter.HeaderRequest
open MarkedText HeaderOverride

def clientHeaderPlaceholder : List Char := "\x7bclient_header:".toList

def apiKeyPlaceholderTail : List Char := "api_key\x7d".toList

def passthroughSkipHeaderNamesLower : List String :=
  ["connection","keep-alive","proxy-authenticate","proxy-authorization","te","trailer","transfer-encoding","upgrade",
   "cookie","host","content-length","accept-encoding","authorization","x-api-key","x-goog-api-key",
   "sec-websocket-key","sec-websocket-version","sec-websocket-extensions"]

def shouldSkipPassthroughHeader (name : String) : Bool :=
  normalizeHeaderContextKey name = "" || normalizeHeaderContextKey name ∈ passthroughSkipHeaderNamesLower

variable (headers : HeaderMap Char)

def headerGet (name : String) : List Char :=
  ((headers.find? (fun e => lowerKey e.1 = lowerKey name)).map (·.2)).getD []

-- The closing brace must be the value's only one and its last character.
def closedPlaceholder (rest : List Char) : Bool := rest.getLast? = some '\x7d' && '\x7d' ∉ rest.dropLast

def replaceApiKey (apiKey template : List Char) : List Char :=
  substitute '\x7b' apiKeyPlaceholderTail apiKey (fun _ => true) 0 template

def applyHeaderOverridePlaceholders (apiKey template : List Char) :
    Except OverrideFailure (Option (List Char)) :=
  let trimmed := trim template
  if starts clientHeaderPlaceholder trimmed then
    let rest := trimmed.drop clientHeaderPlaceholder.length
    let name := String.ofList (trim rest.dropLast)
    if ¬ closedPlaceholder rest then .error (.clientHeaderNotFull (String.ofList template)) else
    if name = "" then .error (.clientHeaderNameEmpty (String.ofList template)) else
      .ok (if trim (headerGet headers name) = [] then none else some (headerGet headers name))
  else .ok (if trim (replaceApiKey apiKey template) = [] then none else some (replaceApiKey apiKey template))

inductive PassRule
  | all
  | names (pattern : String)

def passRule (key : String) : Option PassRule :=
  if lowerKey key = ['*'] then some .all else
  if starts ['r','e',':'] (lowerKey key) then some (.names (String.ofList (trim ((lowerKey key).drop 3)))) else
  if starts ['r','e','g','e','x',':'] (lowerKey key) then some (.names (String.ofList (trim ((lowerKey key).drop 6)))) else none

def compileRule (compile : String → Option (String → Bool)) (key : String) : PassRule → Except OverrideFailure (String → Bool)
  | .all => .ok (fun _ => true)
  | .names pattern => if pattern = "" then .error (.regexEmpty key) else row (compile pattern) (.regexInvalid pattern)

def passRules (compile : String → Option (String → Bool)) : List String → Except OverrideFailure (List (String → Bool))
  | [] => .ok []
  | key :: rest => match passRule key with
    | none => passRules compile rest
    | some rule => do
      let passes ← compileRule compile key rule
      let others ← passRules compile rest
      pure (passes :: others)

def passedHeaders (rules : List (String → Bool)) : HeaderMap Char :=
  headers.foldl (fun out e =>
    if shouldSkipPassthroughHeader e.1 ∨ rules.all (fun passes => !passes e.1) ∨ trim (headerGet headers e.1) = [] then out else
      setKey out (normalizeHeaderContextKey e.1) (trim (headerGet headers e.1))) []

structure Client where
  headers : HeaderMap Char
  compile : String → Option (String → Bool)
  isChannelTest : Bool

/- What each entry of the override map contributes; the rules have had their turn. -/
def contributions (client : Client) (apiKey : List Char) (source : HeaderMap Char) :
    List (String × Except OverrideFailure (Option (List Char))) :=
  (source.filter (fun e => !isHeaderPassthroughRuleKey e.1 && lowerKey e.1 ≠ [])).map (fun e =>
    (normalizeHeaderContextKey e.1,
      if client.isChannelTest && starts clientHeaderPlaceholder (trim e.2) then .ok none else
        applyHeaderOverridePlaceholders client.headers apiKey e.2))

def collect (out : HeaderMap Char) : List (String × Except OverrideFailure (Option (List Char))) → Except OverrideFailure (HeaderMap Char)
  | [] => .ok out
  | (key,value) :: rest => do
    let value ← value
    collect (match value with
      | none => out
      | some t => setKey out key t) rest

def processHeaderOverride (client : Client) (apiKey : List Char) (source : HeaderMap Char) : Except OverrideFailure (HeaderMap Char) := do
  let rules ← if client.isChannelTest then pure [] else passRules client.compile (source.map (·.1))
  collect (passedHeaders client.headers rules) (contributions client apiKey source)

structure UpstreamRequest where
  headers : HeaderMap Char
  host : Option (List Char)
  deriving DecidableEq

def applyHeaderOverrideToRequest (request : UpstreamRequest) (override : HeaderMap Char) : UpstreamRequest :=
  override.foldl (fun r e => ⟨setKey r.headers e.1 e.2,if lowerKey e.1 = "host".toList then some e.2 else r.host⟩) request

structure Channel (κ δ : Type) where
  headersOverride : List (String × HeaderValue Char)
  paramOverride : Option (ParamOverride κ δ)
  apiKey : List Char

inductive LastError
  | override (failure : OverrideFailure)
  | upstream (answer : String)
  deriving DecidableEq

structure Attempt (β κ δ : Type) where
  channel : Channel κ δ
  body : β
  request : UpstreamRequest
  engine : Nat → Option LastError → BodyEngine Char β κ δ
  answer : String

structure RelayInfo where
  runtime : Option (HeaderMap Char)
  retryIndex : Nat
  lastError : Option LastError

def RelayInfo.start : RelayInfo := ⟨none,0,none⟩

section Attempts
variable {β κ δ : Type} (client : Client) (info : RelayInfo) (a : Attempt β κ δ)

def runtimeOf : Except OverrideFailure (Option (HeaderMap Char)) :=
  match a.channel.paramOverride with
  | none => .ok info.runtime
  | some o => do
    let done ← applyParamOverrideWithRelayInfo (a.engine info.retryIndex info.lastError) client.headers info.runtime
      a.channel.headersOverride o a.body
    pure (some done.2)

def sent : Except OverrideFailure UpstreamRequest := do
  let runtime ← runtimeOf client info a
  let override ← processHeaderOverride client a.channel.apiKey (getEffectiveHeaderOverride runtime a.channel.headersOverride)
  pure (applyHeaderOverrideToRequest a.request override)

-- The channel's metadata is replaced at the next attempt; the runtime map is not.
def attempt : RelayInfo :=
  ⟨match runtimeOf client info a with
    | .error _ => info.runtime
    | .ok runtime => runtime,
  info.retryIndex + 1,
  some (match sent client info a with
    | .error e => .override e
    | .ok _ => .upstream a.answer)⟩

end Attempts

end NovaPuraRouter.HeaderRequest
