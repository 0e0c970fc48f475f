import NovaPuraRouter.HeaderOverride

/-! The override engine looks at no marks: with the marks taken off its input, it does
what it does with them, and its result is the marked result without them. -/
namespace NovaPuraRouter.HeaderOverride
open MarkedText List Option

section Erase
variable {α : Type} [Marked α]

mutual
def HeaderValue.plain : HeaderValue α → HeaderValue Char
  | .null => .null
  | .bool b => .bool b
  | .number t => .number (MarkedText.plain t)
  | .text t => .text (MarkedText.plain t)
  | .list items => .list (plainItems items)
  | .mapping entries => .mapping (plainEntries entries)
def plainItems : List (HeaderValue α) → List (HeaderValue Char)
  | [] => []
  | v :: rest => v.plain :: plainItems rest
def plainEntries : List (String × HeaderValue α) → List (String × HeaderValue Char)
  | [] => []
  | (k,v) :: rest => (k,v.plain) :: plainEntries rest
end

def plainMap (m : HeaderMap α) : HeaderMap Char := m.map (fun e => (e.1,plain e.2))

def HeaderContext.plain (ctx : HeaderContext α) : HeaderContext Char := ⟨plainMap ctx.requestHeaders,plainMap ctx.headerOverride⟩

@[simp] theorem litsSelf (t) : (lits t : List Char) = t := List.map_id t

mutual
theorem shownPlain : ∀ v : HeaderValue α, plain v.shown = v.plain.shown
  | .null | .bool true | .bool false | .number t | .text t => by simp [HeaderValue.shown,HeaderValue.plain]
  | .list items => by simp [HeaderValue.shown,HeaderValue.plain,shownItemsPlain items]
  | .mapping entries => by simp [HeaderValue.shown,HeaderValue.plain,shownEntriesPlain entries]
theorem shownItemsPlain : ∀ items : List (HeaderValue α), plain (shownItems items) = shownItems (plainItems items)
  | [] => rfl
  | [v] => by simp [shownItems,plainItems,shownPlain v]
  | v :: w :: rest => by
    have later := shownItemsPlain (w :: rest)
    simp [shownItems,plainItems,shownPlain v,later]
theorem shownEntriesPlain : ∀ entries : List (String × HeaderValue α),
    plain (shownEntries entries) = shownEntries (plainEntries entries)
  | [] => rfl
  | [(k,v)] => by simp [shownEntries,plainEntries,shownPlain v]
  | (k,v) :: w :: rest => by
    have later := shownEntriesPlain (w :: rest)
    simp [shownEntries,plainEntries,shownPlain v,later]
end

mutual
theorem liftPlain : ∀ v : HeaderValue Char, (v.lift : HeaderValue α).plain = v
  | .null | .bool b => rfl
  | .number t | .text t => by simp [HeaderValue.lift,HeaderValue.plain]
  | .list items => by simp [HeaderValue.lift,HeaderValue.plain,liftItemsPlain items]
  | .mapping entries => by simp [HeaderValue.lift,HeaderValue.plain,liftEntriesPlain entries]
theorem liftItemsPlain : ∀ items : List (HeaderValue Char), plainItems (liftItems items : List (HeaderValue α)) = items
  | [] => rfl
  | v :: rest => by simp [liftItems,plainItems,liftPlain v,liftItemsPlain rest]
theorem liftEntriesPlain : ∀ entries : List (String × HeaderValue Char),
    plainEntries (liftEntries entries : List (String × HeaderValue α)) = entries
  | [] => rfl
  | (k,v) :: rest => by simp [liftEntries,plainEntries,liftPlain v,liftEntriesPlain rest]
end

mutual
theorem liftChar : ∀ v : HeaderValue Char, (v.lift : HeaderValue Char) = v
  | .null | .bool b => rfl
  | .number t | .text t => by simp [HeaderValue.lift]
  | .list items => by simp [HeaderValue.lift,liftItemsChar items]
  | .mapping entries => by simp [HeaderValue.lift,liftEntriesChar entries]
theorem liftItemsChar : ∀ items : List (HeaderValue Char), (liftItems items : List (HeaderValue Char)) = items
  | [] => rfl
  | v :: rest => by simp [liftItems,liftChar v,liftItemsChar rest]
theorem liftEntriesChar : ∀ entries : List (String × HeaderValue Char),
    (liftEntries entries : List (String × HeaderValue Char)) = entries
  | [] => rfl
  | (k,v) :: rest => by simp [liftEntries,liftChar v,liftEntriesChar rest]
end

section Maps

variable (m : HeaderMap α)

theorem lookupPlain (key) : (plainMap m).lookup key = (m.lookup key).map plain := by
  induction m with
  | nil => rfl
  | cons e _ ih =>
    obtain ⟨name,t⟩ := e
    simp only [plainMap,map_cons,lookup_cons] at ih ⊢
    cases key == name with
    | true => rfl
    | false => exact ih

theorem lookupEntries (entries : List (String × HeaderValue α)) (key) :
    (plainEntries entries).lookup key = (entries.lookup key).map HeaderValue.plain := by
  induction entries with
  | nil => rfl
  | cons e _ ih =>
    obtain ⟨name,v⟩ := e
    simp only [plainEntries,lookup_cons]
    cases key == name with
    | true => rfl
    | false => exact ih

theorem deletePlain (key) : deleteKey (plainMap m) key = plainMap (deleteKey m key) := by
  simp only [deleteKey,plainMap,List.filter_map,Function.comp_def]

theorem setPlain (key) (t : List α) : setKey (plainMap m) key (plain t) = plainMap (setKey m key t) := by
  have others := deletePlain m key
  simp only [deleteKey] at others
  simp only [setKey,others]
  rfl

theorem keepPlain (key) (t : List α) : keepHeader (plainMap m) key (plain t) = plainMap (keepHeader m key t) := by
  simp only [keepHeader,plainSelf,plainTrim]
  split
  · rfl
  split
  · split
    · exact setPlain m _ []
    · rfl
  · rw [← plainTrim,setPlain]

theorem foldPlain {step step'} (each : ∀ m e, step' (plainMap m) (e.1,plain e.2) = plainMap (step m e)) (source out : HeaderMap α) :
    (plainMap source).foldl step' (plainMap out) = plainMap (source.foldl step out) := by
  induction source generalizing out with
  | nil => rfl
  | cons e rest ih =>
    show (plainMap rest).foldl step' (step' (plainMap out) (e.1,plain e.2)) = _
    rw [each,ih]
    rfl

theorem sanitizePlain (source : HeaderMap α) :
    sanitizeHeaderOverrideMap (plainMap source) = plainMap (sanitizeHeaderOverrideMap source) := by
  refine foldPlain ?_ source []
  intro m e
  exact keepPlain m e.1 e.2

theorem requestPlain (headers : HeaderMap α) :
    buildRequestHeadersContext (plainMap headers) = plainMap (buildRequestHeadersContext headers) := by
  refine foldPlain (fun m e => ?_) headers []
  simp only [plainSelf,plainTrim]
  split
  · rfl
  · rw [← plainTrim,setPlain]

theorem configuredPlain (source) : plainMap (configured source : HeaderMap α) = configured source := by
  simp [plainMap,configured,Function.comp_def]

theorem effectivePlain (runtime : Option (HeaderMap α)) (own) :
    getEffectiveHeaderOverride (runtime.map plainMap) own = plainMap (getEffectiveHeaderOverride runtime own) := by
  simp only [getEffectiveHeaderOverride,← sanitizePlain]
  cases runtime with
  | none => rw [map_none,getD_none,getD_none,configuredPlain]
  | some => rfl

theorem contextPlain (headers : HeaderMap α) (runtime own) :
    buildParamOverrideContext (plainMap headers) (runtime.map plainMap) own = (buildParamOverrideContext headers runtime own).plain := by
  simp only [buildParamOverrideContext,HeaderContext.plain,requestPlain,effectivePlain,sanitizePlain]

end Maps

section Values

theorem nonblankPlain (t : Option (List α)) : nonblank (t.map plain) = (nonblank t).map plain := by
  cases t with
  | none => rfl
  | some =>
    simp only [nonblank,map_some,bind_some,plainSelf,plainTrim]
    split
    · rfl
    · simp

theorem getPlain (ctx : HeaderContext α) (name) :
    getHeaderValueFromContext ctx.plain name = (getHeaderValueFromContext ctx name).map plain := by
  simp only [getHeaderValueFromContext,HeaderContext.plain,lookupPlain,nonblankPlain]
  split
  · rfl
  · cases nonblank (ctx.headerOverride.lookup (normalizeHeaderContextKey name)) with
    | none | some => rfl

theorem splitPlain (t : List α) : splitHeaderListValue (plain t) = (splitHeaderListValue t).map plain := by
  simp only [splitHeaderListValue,← plainSplit,List.map_map,List.filter_map,Function.comp_def,plainTrim,plainSelf]

mutual
theorem parsePlain : ∀ v : HeaderValue α,
    parseHeaderReplacementTokens v.plain = (parseHeaderReplacementTokens v).map (List.map plain)
  | .null => rfl
  | .text t => by simp [HeaderValue.plain,parseHeaderReplacementTokens,splitPlain,Except.map]
  | .list items => by
    simp only [HeaderValue.plain,parseHeaderReplacementTokens,itemsPlain items]
    cases replacementItems items with
    | error => rfl
    | ok => simp [Except.map,plainUniq]
  | .mapping _ => rfl
  | .number t => by
    simp only [HeaderValue.plain,parseHeaderReplacementTokens,plainSelf,plainTrim]
    split
    · rfl
    · simp [Except.map]
  | .bool true | .bool false => by simp [HeaderValue.plain,parseHeaderReplacementTokens,HeaderValue.shown,Except.map]
theorem itemsPlain : ∀ items : List (HeaderValue α),
    replacementItems (plainItems items) = (replacementItems items).map (List.map plain)
  | [] => rfl
  | v :: rest => by
    refine bindMapped (parsePlain v) (fun tokens => bindMapped (itemsPlain rest) (fun others => ?_))
    simp [Except.map,pure,Except.pure]
end

variable (entries : List (String × HeaderValue α))

theorem keepsPlain : keepsOnlyDeclared (plainEntries entries) = keepsOnlyDeclared entries := by
  simp only [keepsOnlyDeclared,lookupEntries]
  cases entries.lookup "$keep_only_declared" with
  | none => rfl
  | some v => cases v <;> rfl

theorem declaredPlain (entries) (token : List α) :
    declared (plainEntries entries) (plain token) = (declared entries token).map HeaderValue.plain := by
  simp only [declared,plainSelf,lookupEntries]

theorem replaceTokenPlain (token : List α) :
    replaceToken (plainEntries entries) (plain token) = (replaceToken entries token).map (List.map plain) := by
  simp only [replaceToken,keepsPlain,declaredPlain,lookupEntries]
  cases declared entries token with
  | some v => exact parsePlain v
  | none =>
    cases entries.lookup "*" with
    | some v =>
      simp only [map_none,map_some]
      split
      · rfl
      · exact parsePlain v
    | none =>
      simp only [map_none]
      split
      · rfl
      · rfl

theorem replaceTokensPlain (entries) (tokens : List (List α)) :
    replaceTokens (plainEntries entries) (tokens.map plain) = (replaceTokens entries tokens).map (List.map plain) := by
  induction tokens with
  | nil => rfl
  | cons token _ ih =>
    refine bindMapped (replaceTokenPlain entries token) (fun replaced => bindMapped ih (fun others => ?_))
    simp [Except.map,pure,Except.pure]

theorem entriesLength : (plainEntries entries).length = entries.length := by
  induction entries with
  | nil => rfl
  | cons _ _ ih => simp [plainEntries,ih]

theorem joinedPlain (replaced appended : List (List α)) : (pure (if (uniq (replaced.map plain ++ appended.map plain)).length = 0 then none
        else some (join ',' (uniq (replaced.map plain ++ appended.map plain)))) : Except OverrideFailure _) =
      Except.map (Option.map plain) (pure (if (uniq (replaced ++ appended)).length = 0 then none
        else some (join ',' (uniq (replaced ++ appended))))) := by
  simp only [← map_append,← plainUniq,length_map,pure,Except.pure,Except.map]
  split
  · rfl
  · rw [map_some,plainJoin]

theorem mappingPlain (ctx : HeaderContext α) (name entries) : resolveHeaderOverrideValueByMapping ctx.plain name (plainEntries entries) =
      (resolveHeaderOverrideValueByMapping ctx name entries).map (Option.map plain) := by
  have current : ((getHeaderValueFromContext ctx.plain name).map splitHeaderListValue).getD [] =
      (((getHeaderValueFromContext ctx name).map splitHeaderListValue).getD []).map plain := by
    rw [getPlain]
    cases getHeaderValueFromContext ctx name with
    | none => rfl
    | some t => exact splitPlain t
  have replaced := replaceTokensPlain entries (((getHeaderValueFromContext ctx name).map splitHeaderListValue).getD [])
  simp only [resolveHeaderOverrideValueByMapping,entriesLength,current,lookupEntries]
  refine bindShared (fun _ => ?_)
  cases entries.lookup "$append" with
  | none =>
    have nothing : (pure [] : Except OverrideFailure (List (List Char))) = Except.map (List.map plain) (pure ([] : List (List α))) := rfl
    exact bindMapped nothing (fun added => bindMapped replaced (fun tokens => joinedPlain tokens added))
  | some v => exact bindMapped (parsePlain v) (fun added => bindMapped replaced (fun tokens => joinedPlain tokens added))

theorem resolvePlain (ctx : HeaderContext α) (name value) :
    resolveHeaderOverrideValue ctx.plain name value.plain = (resolveHeaderOverrideValue ctx name value).map (Option.map plain) := by
  have printed := nonblankPlain (some value.shown)
  rw [map_some,shownPlain] at printed
  cases value with
  | null => rfl
  | mapping entries => exact mappingPlain ctx name entries
  | bool | number | text | list => exact congrArg Except.ok printed

end Values

section Operations

variable (ctx : HeaderContext α)

theorem setHeaderPlain (name) (value : HeaderValue α) (keepOrigin) :
    setHeaderOverrideInContext ctx.plain name value.plain keepOrigin =
      (setHeaderOverrideInContext ctx name value keepOrigin).map HeaderContext.plain := by
  have kept : (nonblank (ctx.plain.headerOverride.lookup (normalizeHeaderContextKey name))).isSome =
      (nonblank (ctx.headerOverride.lookup (normalizeHeaderContextKey name))).isSome := by
    simp only [HeaderContext.plain,lookupPlain,nonblankPlain,isSome_map]
  refine bindShared (fun _ => ?_)
  simp only [kept]
  split
  · rfl
  refine bindMapped (resolvePlain ctx _ value) (fun resolved => ?_)
  cases resolved with
  | none => simp only [map_none,HeaderContext.plain,deletePlain,pure,Except.pure,Except.map]
  | some => simp only [map_some,HeaderContext.plain,setPlain,pure,Except.pure,Except.map]

theorem deleteHeaderPlain (name) :
    deleteHeaderOverrideInContext ctx.plain name = (deleteHeaderOverrideInContext ctx name).map HeaderContext.plain := by
  refine bindShared (fun _ => ?_)
  simp only [HeaderContext.plain,deletePlain,pure,Except.pure,Except.map]

theorem copyPlain (source target keepOrigin) : copyHeaderInContext ctx.plain source target keepOrigin =
      (copyHeaderInContext ctx source target keepOrigin).map HeaderContext.plain := by
  refine bindShared (fun _ => bindMapped (e := plain) ?_ (fun t => setHeaderPlain ctx _ (.text t) keepOrigin))
  rw [getPlain]
  cases getHeaderValueFromContext ctx (normalizeHeaderContextKey source) with
  | none | some => rfl

theorem movePlain (source target keepOrigin) : moveHeaderInContext ctx.plain source target keepOrigin =
      (moveHeaderInContext ctx source target keepOrigin).map HeaderContext.plain := by
  refine bindShared (fun _ => bindMapped (copyPlain ctx _ _ keepOrigin) (fun copied => ?_))
  split
  · rfl
  · exact deleteHeaderPlain copied _

theorem toleratedPlain {ctx : HeaderContext α} {x} :
    tolerated ctx.plain (x.map HeaderContext.plain) = (tolerated ctx x).map HeaderContext.plain := by
  cases x with
  | ok => rfl
  | error e => cases e <;> rfl

theorem failingMap {σ τ} (mode) (g : σ → τ) (x) : failing mode (x.map g) = (failing mode x).map g := by
  cases x with
  | ok | error => rfl

theorem passAllPlain (keepOrigin names) :
    passAll ctx.plain keepOrigin names = (passAll ctx keepOrigin names).map HeaderContext.plain := by
  induction names generalizing ctx with
  | nil => rfl
  | cons _ _ ih =>
    refine bindMapped ?_ ih
    rw [copyPlain,toleratedPlain]

end Operations

end Erase

/- An engine on marked bodies beside the program's own, which does the same without the
marks. -/
structure MarkedEngine (α β γ κ δ : Type) [Marked α] where
  marked : BodyEngine α β κ δ
  code : BodyEngine Char γ κ δ
  erase : β → γ
  holds : ∀ conditions body ctx, code.holds conditions (erase body) ctx.plain = marked.holds conditions body ctx
  edit : ∀ change body ctx, code.edit change (erase body) ctx.plain = (marked.edit change body ctx).map erase
  read : ∀ path body, code.read path (erase body) = (marked.read path body).plain
  write : ∀ path value body, code.write path value.plain (erase body) = (marked.write path value body).map erase

section Run
variable {α β γ κ δ : Type} [Marked α] (engine : MarkedEngine α β γ κ δ) (s : β × HeaderContext α)

def MarkedEngine.state : γ × HeaderContext Char := (engine.erase s.1,s.2.plain)

theorem presentPlain (v : HeaderValue α) : present v.plain = (present v).map HeaderValue.plain := by
  cases v with
  | text =>
    simp only [HeaderValue.plain,present,plainSelf,plainTrim]
    split
    · rfl
    · rfl
  | null | bool | number | list | mapping => rfl

theorem readSyncPlain (body) (ctx : HeaderContext α) (target) : readSyncTargetValue engine.code (engine.erase body) ctx.plain target =
      (readSyncTargetValue engine.marked body ctx target).map HeaderValue.plain := by
  cases target with
  | json => simp only [readSyncTargetValue,engine.read,presentPlain]
  | header =>
    simp only [readSyncTargetValue,getPlain,Option.map_map]
    rfl

theorem writeSyncPlain (body) (ctx : HeaderContext α) (target value) :
    writeSyncTargetValue engine.code (engine.erase body) ctx.plain target value.plain =
      (writeSyncTargetValue engine.marked body ctx target value).map engine.state := by
  cases target with
  | json key => exact bindMapped (engine.write key value body) (fun _ => rfl)
  | header key => exact bindMapped (setHeaderPlain ctx key value false) (fun _ => rfl)

open MarkedEngine

theorem syncPlain (s fromSpec toSpec) : syncFieldsBetweenTargets engine.code (engine.state s) fromSpec toSpec =
      (syncFieldsBetweenTargets engine.marked s fromSpec toSpec).map engine.state := by
  refine bindShared (fun source => bindShared (fun target => ?_))
  simp only [state,readSyncPlain]
  cases readSyncTargetValue engine.marked s.1 s.2 source with
  | none =>
    cases readSyncTargetValue engine.marked s.1 s.2 target with
    | none => rfl
    | some value => exact writeSyncPlain engine s.1 s.2 source value
  | some value =>
    cases readSyncTargetValue engine.marked s.1 s.2 target with
    | none => exact writeSyncPlain engine s.1 s.2 target value
    | some => rfl

theorem onHeaders (mode) {x : Except OverrideFailure (HeaderContext Char)}
    {y : Except OverrideFailure (HeaderContext α)} (same : x = y.map HeaderContext.plain) :
    failing mode (x.map (engine.erase s.1,·)) = (failing mode (y.map (s.1,·))).map engine.state := by
  subst same
  cases y with
  | ok | error => rfl

theorem runOperationPlain (o : HeaderOperation δ) :
    runOperation engine.code (engine.state s) o = (runOperation engine.marked s o).map engine.state := by
  cases o with
  | setHeader path value keepOrigin =>
    have set := setHeaderPlain s.2 path (value.lift : HeaderValue α) keepOrigin
    rw [liftPlain] at set
    simp only [runOperation,liftChar]
    exact onHeaders engine s _ set
  | deleteHeader path => exact onHeaders engine s _ (deleteHeaderPlain s.2 path)
  | copyHeader path source target keepOrigin =>
    have copied : tolerated s.2.plain (copyHeaderInContext s.2.plain (orPath source path) (orPath target path) keepOrigin) =
        (tolerated s.2 (copyHeaderInContext s.2 (orPath source path) (orPath target path) keepOrigin)).map HeaderContext.plain := by
      rw [copyPlain,toleratedPlain]
    simp only [runOperation,state,copied]
    exact onHeaders engine s _ rfl
  | moveHeader path source target keepOrigin =>
    have moved : tolerated s.2.plain (moveHeaderInContext s.2.plain (orPath source path) (orPath target path) keepOrigin) =
        (tolerated s.2 (moveHeaderInContext s.2 (orPath source path) (orPath target path) keepOrigin)).map HeaderContext.plain := by
      rw [movePlain,toleratedPlain]
    simp only [runOperation,state,moved]
    exact onHeaders engine s _ rfl
  | passHeaders names keepOrigin =>
    exact bindShared (fun names => onHeaders engine s _ (passAllPlain s.2 keepOrigin names))
  | syncFields =>
    simp only [runOperation,syncPlain,failingMap]
  | returnError => rfl
  | body change =>
    have edited := engine.edit change s.1 s.2
    simp only [runOperation,state,edited]
    cases engine.marked.edit change s.1 s.2 with
    | ok | error => rfl
  | unknown => rfl

theorem applyOperationPlain (s o) :
    applyOperation engine.code (engine.state s) o = (applyOperation engine.marked s o).map engine.state := by
  have decided := engine.holds o.conditions s.1 s.2
  simp only [applyOperation,state,decided]
  refine bindShared (fun holds => ?_)
  split
  · exact runOperationPlain engine s o.operation
  · rfl

theorem applyOperationsPlain (s operations) :
    applyOperations engine.code (engine.state s) operations = (applyOperations engine.marked s operations).map engine.state := by
  induction operations generalizing s with
  | nil => rfl
  | cons o _ ih => exact bindMapped (applyOperationPlain engine s o) ih

theorem applyParamOverridePlain (s o) :
    applyParamOverride engine.code (engine.state s) o = (applyParamOverride engine.marked s o).map engine.state := by
  have operations : ∀ body, applyOperations engine.code (engine.erase body,s.2.plain) o.operations =
      (applyOperations engine.marked (body,s.2) o.operations).map engine.state :=
    fun body => applyOperationsPlain engine (body,s.2) o.operations
  simp only [applyParamOverride,state]
  cases o.legacy with
  | none => exact operations s.1
  | some change => exact bindMapped (engine.edit change s.1 s.2) operations

theorem applyWithRelayInfoPlain (headers : HeaderMap α) (runtime) (own : List (String × HeaderValue Char))
    (o : ParamOverride κ δ) (body : β) :
    applyParamOverrideWithRelayInfo engine.code (plainMap headers) (runtime.map plainMap) own o (engine.erase body) =
      (applyParamOverrideWithRelayInfo engine.marked headers runtime own o body).map (fun r => (engine.erase r.1,plainMap r.2)) := by
  have start := applyParamOverridePlain engine (body,buildParamOverrideContext headers runtime own) o
  simp only [state,← contextPlain] at start
  refine bindMapped start (fun done => ?_)
  simp only [state,HeaderContext.plain,sanitizePlain,pure,Except.pure,Except.map]

end Run

end NovaPuraRouter.HeaderOverride
