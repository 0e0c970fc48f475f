import NovaPuraRouter.HeaderErasure
import NovaPuraRouter.HeaderRequest

/-! Whose text is a template. Every character carries who wrote it; the administrator's
placeholders are filled in and the client's text is sent as it is. The program knows
no writers: what it sends is compared with that. -/
namespace NovaPuraRouter.HeaderTemplate
open MarkedText HeaderOverride HeaderRequest List

inductive Origin
  | administrator | client
  deriving DecidableEq

structure Sourced where
  chr : Char
  origin : Origin
  deriving DecidableEq

open Sourced

instance : Marked Sourced := ⟨chr,(⟨·,.administrator⟩),fun _ => rfl⟩

def Sourced.trusted (c : Sourced) : Bool := c.origin = .administrator

def fromClient (t : List Char) : List Sourced := t.map (⟨·,.client⟩)

def clientHeaders (headers : HeaderMap Char) : HeaderMap Sourced := headers.map (fun e => (e.1,fromClient e.2))

@[simp] theorem fromClientPlain (t) : plain (fromClient t) = t := by
  simp [plain,fromClient,Function.comp_def,Marked.chr]

@[simp] theorem clientHeadersPlain (headers) : plainMap (clientHeaders headers) = headers := by
  simp [plainMap,clientHeaders,Function.comp_def]

section Body

mutual
def clientValue : HeaderValue Char → HeaderValue Sourced
  | .null => .null
  | .bool b => .bool b
  | .number t => .number (fromClient t)
  | .text t => .text (fromClient t)
  | .list items => .list (clientItems items)
  | .mapping entries => .mapping (clientEntries entries)
def clientItems : List (HeaderValue Char) → List (HeaderValue Sourced)
  | [] => []
  | v :: rest => clientValue v :: clientItems rest
def clientEntries : List (String × HeaderValue Char) → List (String × HeaderValue Sourced)
  | [] => []
  | (k,v) :: rest => (k,clientValue v) :: clientEntries rest
end

mutual
theorem clientValuePlain : ∀ v : HeaderValue Char, (clientValue v).plain = v
  | .null | .bool b => rfl
  | .number t | .text t => by simp [clientValue,HeaderValue.plain]
  | .list items => by simp [clientValue,HeaderValue.plain,clientItemsPlain items]
  | .mapping entries => by simp [clientValue,HeaderValue.plain,clientEntriesPlain entries]
theorem clientItemsPlain : ∀ items : List (HeaderValue Char), plainItems (clientItems items) = items
  | [] => rfl
  | v :: rest => by simp [clientItems,plainItems,clientValuePlain v,clientItemsPlain rest]
theorem clientEntriesPlain : ∀ entries : List (String × HeaderValue Char), plainEntries (clientEntries entries) = entries
  | [] => rfl
  | (k,v) :: rest => by simp [clientEntries,plainEntries,clientValuePlain v,clientEntriesPlain rest]
end

def clientBody {γ κ δ : Type} (code : BodyEngine Char γ κ δ) : MarkedEngine Sourced γ γ κ δ where
  marked := ⟨fun conditions body ctx => code.holds conditions body ctx.plain,
    fun change body ctx => code.edit change body ctx.plain,
    fun path body => clientValue (code.read path body),
    fun path value body => code.write path value.plain body⟩
  code := code
  erase := id
  holds _ _ _ := rfl
  edit change body ctx := by
    show code.edit change body ctx.plain = Except.map id (code.edit change body ctx.plain)
    cases code.edit change body ctx.plain <;> rfl
  read path body := (clientValuePlain (code.read path body)).symm
  write path value body := by
    show code.write path value.plain body = Except.map id (code.write path value.plain body)
    cases code.write path value.plain body <;> rfl

end Body

section Emission

variable (t : List Sourced)

def administratorOpens : Bool :=
  starts clientHeaderPlaceholder (trim t) && ((trim t).take clientHeaderPlaceholder.length).all trusted

def literal (apiKey : List Char) (t : List Sourced) : List Char :=
  substitute '\x7b' apiKeyPlaceholderTail apiKey trusted 0 t

def included (t : List Char) : Option (List Char) := if trim t = [] then none else some t

variable (client : Client)

/- What an entry of the map is to send: a placeholder names a client header only in the
administrator's own words, and the key stands only where they ask for it. -/
def emit (apiKey : List Char) (t : List Sourced) : Except OverrideFailure (Option (List Char)) :=
  if administratorOpens t then
    if client.isChannelTest then .ok none else
    if (trim t).all trusted then applyHeaderOverridePlaceholders client.headers apiKey (plain t) else
      .error (.clientHeaderNotFull (String.ofList (plain t)))
  else .ok (included (literal apiKey t))

def contribution (apiKey t : List Char) : Except OverrideFailure (Option (List Char)) :=
  if client.isChannelTest && starts clientHeaderPlaceholder (trim t) then .ok none else
    applyHeaderOverridePlaceholders client.headers apiKey t

def emissions (apiKey : List Char) (source : HeaderMap Sourced) :
    List (String × Except OverrideFailure (Option (List Char))) :=
  (source.filter (fun e => !isHeaderPassthroughRuleKey e.1 && lowerKey e.1 ≠ [])).map (fun e =>
    (normalizeHeaderContextKey e.1,emit client apiKey e.2))

def placeholderRest : List Char := (trim (plain t)).drop clientHeaderPlaceholder.length

def placeholderName : String := String.ofList (trim (placeholderRest t).dropLast)

inductive Faithful (client : Client) (apiKey : List Char) (t : List Sourced) : Prop
  | text (plainText : starts clientHeaderPlaceholder (trim t) = false)
      (unasked : foreign '\x7b' apiKeyPlaceholderTail trusted t = 0 ∨ apiKey = '\x7b' :: apiKeyPlaceholderTail)
  | opened (administrator : administratorOpens t = true)
      (whole : client.isChannelTest = true ∨ (trim t).all trusted = true ∨ closedPlaceholder (placeholderRest t) = false)
  | echoed (placeholder : starts clientHeaderPlaceholder (trim t) = true) (foreign : administratorOpens t = false)
      (relayed : client.isChannelTest = false) (closed : closedPlaceholder (placeholderRest t) = true)
      (named : placeholderName t ≠ "") (same : headerGet client.headers (placeholderName t) = literal apiKey t)

end Emission

section Entry
variable {client : Client} {apiKey : List Char} {t : List Sourced}

theorem keyFresh : '\x7b' ∉ apiKeyPlaceholderTail := by decide

variable {x pattern : List Char}

theorem braceIncluded (mem : '\x7b' ∈ x) : included x = some x := by
  refine if_neg (fun empty => ?_)
  have space := blankOfTrim empty mem
  exact absurd space (by decide)

theorem includedSame {y} (brace : '\x7b' ∈ x) (same : included y = included x) : y = x := by
  rw [braceIncluded brace,included] at same
  split at same
  · cases same
  · exact Option.some.inj same

theorem startsTrimmed : starts clientHeaderPlaceholder (trim (plain t)) = starts clientHeaderPlaceholder (trim t) := by
  rw [← plainTrim,startsPlain]

theorem startsAppend {a b : List Sourced} (h : starts pattern a = true) : starts pattern (a ++ b) = true := by
  induction pattern generalizing a with
  | nil => rfl
  | cons _ _ ih =>
    cases a with
    | nil => cases h
    | cons =>
      simp only [starts,Bool.and_eq_true,cons_append] at h ⊢
      exact ⟨h.1,ih h.2⟩

theorem startsUntrimmed (h : starts pattern (trim t) = true) : starts pattern (t.dropWhile blank) = true := by
  have split := @takeWhile_append_dropWhile _ blank (t.dropWhile blank).reverse
  have whole : t.dropWhile blank = trim t ++ ((t.dropWhile blank).reverse.takeWhile blank).reverse := by
    rw [trim,← reverse_append,split,reverse_reverse]
  rw [whole]
  exact startsAppend h

theorem literalBrace (h : starts clientHeaderPlaceholder (t.dropWhile blank) = true) : '\x7b' ∈ literal apiKey t := by
  induction t with
  | nil => cases h
  | cons c rest ih =>
    by_cases space : blank c = true
    · have other : starts ('\x7b' :: apiKeyPlaceholderTail) (c :: rest) = false := by
        refine Bool.eq_false_iff.mpr (fun found => ?_)
        simp only [starts,Bool.and_eq_true,decide_eq_true_eq] at found
        rw [blank,found.1] at space
        exact absurd space (by decide)
      rw [dropWhile_cons_of_pos space] at h
      rw [literal,substituteOther other]
      exact mem_cons_of_mem _ (ih h)
    · rw [dropWhile_cons_of_neg space] at h
      have opening : ∃ tail, clientHeaderPlaceholder = '\x7b' :: 'c' :: tail := ⟨_,rfl⟩
      obtain ⟨tail,opening⟩ := opening
      rw [opening] at h
      have other : starts ('\x7b' :: apiKeyPlaceholderTail) (c :: rest) = false := by
        refine Bool.eq_false_iff.mpr (fun found => ?_)
        have key : ∃ tail, apiKeyPlaceholderTail = 'a' :: tail := ⟨_,rfl⟩
        obtain ⟨_,key⟩ := key
        rw [key] at found
        cases rest with
        | nil => simp [starts] at h
        | cons =>
          simp only [starts,Bool.and_eq_true,decide_eq_true_eq] at h found
          exact absurd (h.2.1.symm.trans found.2.1) (by decide)
      simp only [starts,Bool.and_eq_true,decide_eq_true_eq] at h
      rw [literal,substituteOther other,h.1]
      exact mem_cons_self

theorem textIff (plainText : starts clientHeaderPlaceholder (trim t) = false) :
    contribution client apiKey (plain t) = emit client apiKey t ↔
      foreign '\x7b' apiKeyPlaceholderTail trusted t = 0 ∨ apiKey = '\x7b' :: apiKeyPlaceholderTail := by
  have code : contribution client apiKey (plain t) = .ok (included (replaceApiKey apiKey (plain t))) := by
    simp [contribution,applyHeaderOverridePlaceholders,startsTrimmed,plainText,included]
  have spec : emit client apiKey t = .ok (included (literal apiKey t)) := by
    simp [emit,administratorOpens,plainText]
  rw [code,spec,Except.ok.injEq,← substituteIff keyFresh]
  constructor
  · intro same
    by_cases nothing : foreign '\x7b' apiKeyPlaceholderTail trusted t = 0
    · exact substituteClean keyFresh t nothing
    · exact (includedSame (foreignStays keyFresh t nothing) same).symm
  · intro same
    exact congrArg included same.symm

theorem placeholderCode (relayed : client.isChannelTest = false) (placeholder : starts clientHeaderPlaceholder (trim t) = true) :
    contribution client apiKey (plain t) =
      if ¬ closedPlaceholder (placeholderRest t) then .error (.clientHeaderNotFull (String.ofList (plain t))) else
      if placeholderName t = "" then .error (.clientHeaderNameEmpty (String.ofList (plain t))) else
        .ok (included (headerGet client.headers (placeholderName t))) := by
  simp only [contribution,relayed,Bool.false_and,applyHeaderOverridePlaceholders,startsTrimmed,placeholder,if_true]
  rfl

theorem openedIff (administrator : administratorOpens t = true) : contribution client apiKey (plain t) = emit client apiKey t ↔
      client.isChannelTest = true ∨ (trim t).all trusted = true ∨ closedPlaceholder (placeholderRest t) = false := by
  have placeholder : starts clientHeaderPlaceholder (trim t) = true := (Bool.and_eq_true_iff.mp administrator).1
  cases test : client.isChannelTest with
  | true => simp [contribution,emit,test,startsTrimmed,placeholder,administrator]
  | false =>
    cases all : (trim t).all trusted with
    | true => simp [contribution,emit,test,administrator,all]
    | false =>
      have spec : emit client apiKey t = .error (.clientHeaderNotFull (String.ofList (plain t))) := by
        simp [emit,test,administrator,all]
      rw [spec,placeholderCode test placeholder]
      cases closed : closedPlaceholder (placeholderRest t) with
      | false => simp
      | true =>
        by_cases named : placeholderName t = ""
        · simp [named]
        · simp [named]

theorem echoedIff (placeholder : starts clientHeaderPlaceholder (trim t) = true) (foreign : administratorOpens t = false) :
    contribution client apiKey (plain t) = emit client apiKey t ↔
      client.isChannelTest = false ∧ closedPlaceholder (placeholderRest t) = true ∧ placeholderName t ≠ "" ∧
      headerGet client.headers (placeholderName t) = literal apiKey t := by
  have brace : '\x7b' ∈ literal apiKey t := literalBrace (startsUntrimmed placeholder)
  have spec : emit client apiKey t = .ok (some (literal apiKey t)) := by
    simp [emit,foreign,braceIncluded brace]
  rw [spec]
  cases test : client.isChannelTest with
  | true => simp [contribution,test,startsTrimmed,placeholder]
  | false =>
    rw [placeholderCode test placeholder]
    cases closed : closedPlaceholder (placeholderRest t) with
    | false => simp
    | true =>
      by_cases named : placeholderName t = ""
      · simp [named]
      simp only [not_true_eq_false,if_false,named,Except.ok.injEq,true_and,ne_eq,not_false_eq_true]
      constructor
      · intro same
        exact includedSame brace (same.trans (braceIncluded brace).symm)
      · intro same
        rw [same,braceIncluded brace]

theorem entryIff : contribution client apiKey (plain t) = emit client apiKey t ↔ Faithful client apiKey t := by
  cases placeholder : starts clientHeaderPlaceholder (trim t) with
  | false =>
    rw [textIff placeholder]
    constructor
    · exact .text placeholder
    · rintro (⟨_,unasked⟩ | ⟨administrator,_⟩ | ⟨other,_⟩)
      · exact unasked
      · simp [administratorOpens,placeholder] at administrator
      · simp [placeholder] at other
  | true =>
    cases administrator : administratorOpens t with
    | true =>
      rw [openedIff administrator]
      constructor
      · exact .opened administrator
      · rintro (⟨other,_⟩ | ⟨_,whole⟩ | ⟨_,foreign,_⟩)
        · simp [placeholder] at other
        · exact whole
        · simp [administrator] at foreign
    | false =>
      rw [echoedIff placeholder administrator]
      constructor
      · rintro ⟨relayed,closed,named,same⟩
        exact .echoed placeholder administrator relayed closed named same
      · rintro (⟨other,_⟩ | ⟨opens,_⟩ | ⟨_,_,relayed,closed,named,same⟩)
        · simp [placeholder] at other
        · simp [administrator] at opens
        · exact ⟨relayed,closed,named,same⟩

end Entry

section Pipeline
variable {α β γ κ δ : Type} [Marked α]

def overridden (engine : BodyEngine α β κ δ) (headers : HeaderMap α) (runtime : Option (HeaderMap α)) (channel : Channel κ δ)
    (body : β) : Except OverrideFailure (HeaderMap α) := match channel.paramOverride with
  | none => .ok (getEffectiveHeaderOverride runtime channel.headersOverride)
  | some o => do
    let done ← applyParamOverrideWithRelayInfo engine headers runtime channel.headersOverride o body
    pure (getEffectiveHeaderOverride (some done.2) channel.headersOverride)

theorem sentOverridden (client info) (a : Attempt β κ δ) :
    sent client info a = (do
      let source ← overridden (a.engine info.retryIndex info.lastError) client.headers info.runtime a.channel a.body
      let override ← processHeaderOverride client a.channel.apiKey source
      pure (applyHeaderOverrideToRequest a.request override)) := by
  simp only [sent,runtimeOf,overridden]
  cases a.channel.paramOverride with
  | none => rfl
  | some o =>
    dsimp only
    cases applyParamOverrideWithRelayInfo (a.engine info.retryIndex info.lastError) client.headers info.runtime
      a.channel.headersOverride o a.body with
    | error e => rfl
    | ok done => rfl

theorem overriddenPlain (engine : MarkedEngine α β γ κ δ) (headers runtime) (channel body) :
    overridden engine.code (plainMap headers) (runtime.map plainMap) channel (engine.erase body) =
      (overridden engine.marked headers runtime channel body).map plainMap := by
  simp only [overridden]
  cases channel.paramOverride with
  | none => exact congrArg Except.ok (effectivePlain runtime channel.headersOverride)
  | some o =>
    refine bindMapped (applyWithRelayInfoPlain engine headers runtime channel.headersOverride o body) (fun done => ?_)
    exact congrArg Except.ok (effectivePlain (some done.2) channel.headersOverride)

end Pipeline

section Law
variable {β γ κ δ : Type}

/-- The program sends what it would if it knew whose text it was handling. -/
def NeverTemplate (engine : MarkedEngine Sourced β γ κ δ) (client : Client) (runtime : Option (HeaderMap Sourced))
    (channel : Channel κ δ) (body : β) : Prop :=
  (overridden engine.code client.headers (runtime.map plainMap) channel (engine.erase body)).map
      (contributions client channel.apiKey) =
    (overridden engine.marked (clientHeaders client.headers) runtime channel body).map (emissions client channel.apiKey)

theorem contributionsIff (client apiKey source) : contributions client apiKey (plainMap source) = emissions client apiKey source ↔
      ∀ e ∈ source, isHeaderPassthroughRuleKey e.1 = false → lowerKey e.1 ≠ [] → Faithful client apiKey e.2 := by
  have code : contributions client apiKey (plainMap source) =
      (source.filter (fun e => !isHeaderPassthroughRuleKey e.1 && lowerKey e.1 ≠ [])).map (fun e =>
        (normalizeHeaderContextKey e.1,contribution client apiKey (plain e.2))) := by
    simp only [contributions,plainMap,filter_map,map_map,Function.comp_def]
    rfl
  rw [code,emissions,map_inj_left]
  constructor
  · intro same e mem rule key
    have here := same e (mem_filter.mpr ⟨mem,by simp [rule,key]⟩)
    exact entryIff.mp (Prod.mk.inj here).2
  · intro faithful e kept
    obtain ⟨mem,sends⟩ := mem_filter.mp kept
    simp only [Bool.and_eq_true,Bool.not_eq_true',decide_eq_true_eq] at sends
    rw [entryIff.mpr (faithful e mem sends.1 sends.2)]

end Law

section Instances

def tracing : Channel Unit Unit := ⟨[],some ⟨none,[⟨(),.passHeaders (.ok ["x-trace"]) false⟩]⟩,"sk-1".toList⟩

def asking (trace : String) : Client := ⟨[("Cookie","session".toList),("X-Trace",trace.toList)],fun _ => none,false⟩

end Instances

end NovaPuraRouter.HeaderTemplate
