import NovaPuraRouter.Execution
import NovaPuraRouter.MarkedText

/-! A channel's parameter override: the operations that move text between the client's
headers, the request body and the map of header overrides. The text may carry marks; the
program's own is a list of characters without any. Conditions and edits of the body are an
engine's, since no header operation looks into them. -/
namespace NovaPuraRouter.HeaderOverride
open MarkedText

abbrev HeaderMap (α : Type) := List (String × List α)

inductive HeaderValue (α : Type)
  | null
  | bool (b : Bool)
  | number (t : List α)
  | text (t : List α)
  | list (items : List (HeaderValue α))
  | mapping (entries : List (String × HeaderValue α))

inductive OverrideFailure
  | headerNameRequired | headerValueRequired | mappingEmpty | replacementKind
  | copyHeaderRequired | moveHeaderRequired
  | sourceHeaderNotFound (name : String)
  | passHeaders (reason : String)
  | syncTargetRequired
  | syncKeyRequired (raw : String)
  | syncKindInvalid (raw : String)
  | returned (reason : String)
  | unknownOperation (mode : String)
  | body (reason : String)
  | operation (mode : String) (cause : OverrideFailure)
  | clientHeaderNotFull (template : String)
  | clientHeaderNameEmpty (template : String)
  | regexEmpty (key : String)
  | regexInvalid (pattern : String)
  deriving DecidableEq

def lowerKey (key : String) : List Char := trim (key.toList.map Char.toLower)

def normalizeHeaderContextKey (key : String) : String := String.ofList (lowerKey key)

def isHeaderPassthroughRuleKey (key : String) : Bool :=
  lowerKey key = ['*'] || starts ['r','e',':'] (lowerKey key) || starts ['r','e','g','e','x',':'] (lowerKey key)

section Text
variable {α : Type} [Marked α]

mutual
-- As the source's formatting prints a value; the keys of a mapping come in order.
def HeaderValue.shown : HeaderValue α → List α
  | .null => lits ['<','n','i','l','>']
  | .bool true => lits ['t','r','u','e']
  | .bool false => lits ['f','a','l','s','e']
  | .number t | .text t => t
  | .list items => lits ['['] ++ shownItems items ++ lits [']']
  | .mapping entries => lits ['m','a','p','['] ++ shownEntries entries ++ lits [']']
def shownItems : List (HeaderValue α) → List α
  | [] => []
  | [v] => v.shown
  | v :: rest => v.shown ++ lits [' '] ++ shownItems rest
def shownEntries : List (String × HeaderValue α) → List α
  | [] => []
  | [(k,v)] => lits (k.toList ++ [':']) ++ v.shown
  | (k,v) :: rest => lits (k.toList ++ [':']) ++ v.shown ++ lits [' '] ++ shownEntries rest
end

mutual
def HeaderValue.lift : HeaderValue Char → HeaderValue α
  | .null => .null
  | .bool b => .bool b
  | .number t => .number (lits t)
  | .text t => .text (lits t)
  | .list items => .list (liftItems items)
  | .mapping entries => .mapping (liftEntries entries)
def liftItems : List (HeaderValue Char) → List (HeaderValue α)
  | [] => []
  | v :: rest => v.lift :: liftItems rest
def liftEntries : List (String × HeaderValue Char) → List (String × HeaderValue α)
  | [] => []
  | (k,v) :: rest => (k,v.lift) :: liftEntries rest
end

variable (m : HeaderMap α)

def setKey (key : String) (t : List α) : HeaderMap α := (key,t) :: m.filter (fun e => e.1 ≠ key)

def deleteKey (key : String) : HeaderMap α := m.filter (fun e => e.1 ≠ key)

def keepHeader (key : String) (t : List α) : HeaderMap α :=
  if normalizeHeaderContextKey key = "" then m else
  if plain (trim t) = [] then
    if isHeaderPassthroughRuleKey (normalizeHeaderContextKey key) then setKey m (normalizeHeaderContextKey key) [] else m
  else setKey m (normalizeHeaderContextKey key) (trim t)

def sanitizeHeaderOverrideMap (source : HeaderMap α) : HeaderMap α :=
  source.foldl (fun m e => keepHeader m e.1 e.2) []

def configured (source : List (String × HeaderValue Char)) : HeaderMap α := source.map (fun e => (e.1,lits e.2.shown))

def buildRequestHeadersContext (headers : HeaderMap α) : HeaderMap α :=
  headers.foldl (fun m e => if normalizeHeaderContextKey e.1 = "" ∨ plain (trim e.2) = [] then m else
    setKey m (normalizeHeaderContextKey e.1) (trim e.2)) []

structure HeaderContext (α : Type) where
  requestHeaders : HeaderMap α
  headerOverride : HeaderMap α

def nonblank (t : Option (List α)) : Option (List α) := t.bind (fun t => if plain (trim t) = [] then none else some (trim t))

variable (ctx : HeaderContext α) (name : String)

def getHeaderValueFromContext : Option (List α) :=
  let key := normalizeHeaderContextKey name
  if key = "" then none else
    (nonblank (ctx.headerOverride.lookup key)).or (nonblank (ctx.requestHeaders.lookup key))

def splitHeaderListValue (t : List α) : List (List α) := ((splitOn ',' t).map trim).filter (fun t => plain t ≠ [])

mutual
def parseHeaderReplacementTokens : HeaderValue α → Except OverrideFailure (List (List α))
  | .null => .ok []
  | .text t => .ok (splitHeaderListValue t)
  | .list items => (replacementItems items).map uniq
  | .mapping _ => .error .replacementKind
  | .number t => .ok (if plain (trim t) = [] then [] else [trim t])
  | .bool b => .ok [(HeaderValue.bool b).shown]
def replacementItems : List (HeaderValue α) → Except OverrideFailure (List (List α))
  | [] => .ok []
  | v :: rest => do
    let tokens ← parseHeaderReplacementTokens v
    let others ← replacementItems rest
    pure (tokens ++ others)
end

variable (entries : List (String × HeaderValue α))

def declared (token : List α) : Option (HeaderValue α) :=
  entries.lookup (String.ofList (plain token))

def keepsOnlyDeclared : Bool := match entries.lookup "$keep_only_declared" with
  | some (.bool b) => b
  | _ => false

def replaceToken (token : List α) : Except OverrideFailure (List (List α)) :=
  let only := keepsOnlyDeclared entries
  match declared entries token,entries.lookup "*" with
  | some v,_ => parseHeaderReplacementTokens v
  | none,some v => if only then .ok [] else parseHeaderReplacementTokens v
  | none,none => .ok (if only then [] else [token])

def replaceTokens (entries : List (String × HeaderValue α)) : List (List α) → Except OverrideFailure (List (List α))
  | [] => .ok []
  | token :: rest => do
    let tokens ← replaceToken entries token
    let others ← replaceTokens entries rest
    pure (tokens ++ others)

def resolveHeaderOverrideValueByMapping (entries : List (String × HeaderValue α)) :
    Except OverrideFailure (Option (List α)) := do
  require (entries.length ≠ 0) .mappingEmpty
  let appended ← match entries.lookup "$append" with
    | some v => parseHeaderReplacementTokens v
    | none => pure []
  let replaced ← replaceTokens entries (((getHeaderValueFromContext ctx name).map splitHeaderListValue).getD [])
  let tokens := uniq (replaced ++ appended)
  pure (if tokens.length = 0 then none else some (join ',' tokens))

def resolveHeaderOverrideValue :
    HeaderValue α → Except OverrideFailure (Option (List α))
  | .null => .error .headerValueRequired
  | .mapping entries => resolveHeaderOverrideValueByMapping ctx name entries
  | value => .ok (nonblank (some value.shown))

def setHeaderOverrideInContext (value : HeaderValue α) (keepOrigin : Bool) :
    Except OverrideFailure (HeaderContext α) := do
  let key := normalizeHeaderContextKey name
  require (key ≠ "") .headerNameRequired
  if keepOrigin ∧ (nonblank (ctx.headerOverride.lookup key)).isSome then pure ctx else do
    let resolved ← resolveHeaderOverrideValue ctx key value
    pure (match resolved with
      | none => { ctx with headerOverride := deleteKey ctx.headerOverride key }
      | some t => { ctx with headerOverride := setKey ctx.headerOverride key t })

def deleteHeaderOverrideInContext : Except OverrideFailure (HeaderContext α) := do
  require (normalizeHeaderContextKey name ≠ "") .headerNameRequired
  pure { ctx with headerOverride := deleteKey ctx.headerOverride (normalizeHeaderContextKey name) }

def copyHeaderInContext (source target : String) (keepOrigin : Bool) :
    Except OverrideFailure (HeaderContext α) := do
  require (normalizeHeaderContextKey source ≠ "" ∧ normalizeHeaderContextKey target ≠ "") .copyHeaderRequired
  let t ← row (getHeaderValueFromContext ctx (normalizeHeaderContextKey source))
    (.sourceHeaderNotFound (normalizeHeaderContextKey source))
  setHeaderOverrideInContext ctx (normalizeHeaderContextKey target) (.text t) keepOrigin

def moveHeaderInContext (source target : String) (keepOrigin : Bool) :
    Except OverrideFailure (HeaderContext α) := do
  require (normalizeHeaderContextKey source ≠ "" ∧ normalizeHeaderContextKey target ≠ "") .moveHeaderRequired
  let copied ← copyHeaderInContext ctx (normalizeHeaderContextKey source) (normalizeHeaderContextKey target) keepOrigin
  if normalizeHeaderContextKey source = normalizeHeaderContextKey target then pure copied else
    deleteHeaderOverrideInContext copied (normalizeHeaderContextKey source)

inductive SyncTarget
  | json (key : String)
  | header (key : String)
  deriving DecidableEq

def parseSyncTarget (spec : String) : Except OverrideFailure SyncTarget :=
  let raw := trim spec.toList
  let kind := String.ofList (trim ((raw.takeWhile (· ≠ ':')).map Char.toLower))
  let key := String.ofList (trim ((raw.dropWhile (· ≠ ':')).drop 1))
  if raw = [] then .error .syncTargetRequired else
  if ':' ∉ raw then .ok (.json (String.ofList raw)) else
  if key = "" then .error (.syncKeyRequired (String.ofList raw)) else
  if kind = "json" ∨ kind = "body" then .ok (.json key) else
  if kind = "header" then .ok (.header key) else .error (.syncKindInvalid (String.ofList raw))

/- What the body is to the header operations: conditions over body and headers, edits
that fail or give a new body, and fields that are read and written by path. -/
structure BodyEngine (α β κ δ : Type) where
  holds : κ → β → HeaderContext α → Except OverrideFailure Bool
  edit : δ → β → HeaderContext α → Except OverrideFailure β
  read : String → β → HeaderValue α
  write : String → HeaderValue α → β → Except OverrideFailure β

def noBody : BodyEngine Char Unit Unit Unit := ⟨fun _ _ _ => .ok true,fun _ _ _ => .ok (),fun _ _ => .null,fun _ _ _ => .ok ()⟩

variable {β κ δ : Type}

def present : HeaderValue α → Option (HeaderValue α)
  | .null => none
  | .text t => if plain (trim t) = [] then none else some (.text t)
  | value => some value

variable (engine : BodyEngine α β κ δ)

def readSyncTargetValue (body : β) (ctx : HeaderContext α) : SyncTarget → Option (HeaderValue α)
  | .json key => present (engine.read key body)
  | .header key => (getHeaderValueFromContext ctx key).map .text

def writeSyncTargetValue (body : β) (ctx : HeaderContext α) (target : SyncTarget)
    (value : HeaderValue α) : Except OverrideFailure (β × HeaderContext α) := match target with
  | .json key => do
    let written ← engine.write key value body
    pure (written,ctx)
  | .header key => do
    let set ← setHeaderOverrideInContext ctx key value false
    pure (body,set)

def syncFieldsBetweenTargets (s : β × HeaderContext α) (fromSpec toSpec : String) :
    Except OverrideFailure (β × HeaderContext α) := do
  let source ← parseSyncTarget fromSpec
  let target ← parseSyncTarget toSpec
  match readSyncTargetValue engine s.1 s.2 source,readSyncTargetValue engine s.1 s.2 target with
  | some value,none => writeSyncTargetValue engine s.1 s.2 target value
  | none,some value => writeSyncTargetValue engine s.1 s.2 source value
  | _,_ => pure s

end Text

inductive HeaderOperation (δ : Type)
  | setHeader (path : String) (value : HeaderValue Char) (keepOrigin : Bool)
  | deleteHeader (path : String)
  | copyHeader (path source target : String) (keepOrigin : Bool)
  | moveHeader (path source target : String) (keepOrigin : Bool)
  | passHeaders (names : Except OverrideFailure (List String)) (keepOrigin : Bool)
  | syncFields (source target : String)
  | returnError (failure : OverrideFailure)
  | body (edit : δ)
  | unknown (mode : String)

structure ParamOperation (κ δ : Type) where
  conditions : κ
  operation : HeaderOperation δ

structure ParamOverride (κ δ : Type) where
  legacy : Option δ
  operations : List (ParamOperation κ δ)

section Engine
variable {α β κ δ : Type} [Marked α]

def failing {σ : Type} (mode : String) : Except OverrideFailure σ → Except OverrideFailure σ
  | .error e => .error (.operation mode e)
  | .ok s => .ok s

-- A header that is not there is no error.
def tolerated {σ : Type} (s : σ) : Except OverrideFailure σ → Except OverrideFailure σ
  | .error (.sourceHeaderNotFound _) => .ok s
  | r => r

def orPath (name path : String) : String := if trim name.toList = [] then path else name

def passAll (ctx : HeaderContext α) (keepOrigin : Bool) : List String → Except OverrideFailure (HeaderContext α)
  | [] => .ok ctx
  | name :: rest => do
    let copied ← tolerated ctx (copyHeaderInContext ctx name name keepOrigin)
    passAll copied keepOrigin rest

variable (engine : BodyEngine α β κ δ) (s : β × HeaderContext α)

def runOperation :
    HeaderOperation δ → Except OverrideFailure (β × HeaderContext α)
  | .setHeader path value keepOrigin =>
    failing "set_header" ((setHeaderOverrideInContext s.2 path value.lift keepOrigin).map (s.1,·))
  | .deleteHeader path => failing "delete_header" ((deleteHeaderOverrideInContext s.2 path).map (s.1,·))
  | .copyHeader path source target keepOrigin => failing "copy_header"
    ((tolerated s.2 (copyHeaderInContext s.2 (orPath source path) (orPath target path) keepOrigin)).map (s.1,·))
  | .moveHeader path source target keepOrigin => failing "move_header"
    ((tolerated s.2 (moveHeaderInContext s.2 (orPath source path) (orPath target path) keepOrigin)).map (s.1,·))
  | .passHeaders names keepOrigin => do
    let names ← names
    failing "pass_headers" ((passAll s.2 keepOrigin names).map (s.1,·))
  | .syncFields source target => failing "sync_fields" (syncFieldsBetweenTargets engine s source target)
  | .returnError failure => .error failure
  | .body edit => (engine.edit edit s.1 s.2).map (·,s.2)
  | .unknown mode => .error (.unknownOperation mode)

def applyOperation (o : ParamOperation κ δ) :
    Except OverrideFailure (β × HeaderContext α) := do
  let holds ← engine.holds o.conditions s.1 s.2
  if holds then runOperation engine s o.operation else pure s

def applyOperations (engine : BodyEngine α β κ δ) (s : β × HeaderContext α) :
    List (ParamOperation κ δ) → Except OverrideFailure (β × HeaderContext α)
  | [] => .ok s
  | o :: rest => do
    let next ← applyOperation engine s o
    applyOperations engine next rest

def applyParamOverride (o : ParamOverride κ δ) :
    Except OverrideFailure (β × HeaderContext α) := do
  let body ← match o.legacy with
    | some edit => engine.edit edit s.1 s.2
    | none => pure s.1
  applyOperations engine (body,s.2) o.operations

def getEffectiveHeaderOverride (runtime : Option (HeaderMap α)) (own : List (String × HeaderValue Char)) : HeaderMap α :=
  sanitizeHeaderOverrideMap (runtime.getD (configured own))

def buildParamOverrideContext (requestHeaders : HeaderMap α) (runtime : Option (HeaderMap α))
    (own : List (String × HeaderValue Char)) : HeaderContext α :=
  ⟨buildRequestHeadersContext requestHeaders,sanitizeHeaderOverrideMap (getEffectiveHeaderOverride runtime own)⟩

def applyParamOverrideWithRelayInfo (requestHeaders : HeaderMap α)
    (runtime : Option (HeaderMap α)) (own : List (String × HeaderValue Char)) (o : ParamOverride κ δ) (body : β) :
    Except OverrideFailure (β × HeaderMap α) := do
  let done ← applyParamOverride engine (body,buildParamOverrideContext requestHeaders runtime own) o
  pure (done.1,sanitizeHeaderOverrideMap done.2.headerOverride)

end Engine

end NovaPuraRouter.HeaderOverride
