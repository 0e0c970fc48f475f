import NovaPuraRouter.HeaderRequest
import Mathlib.Data.List.Induction

/-! Which channel's configuration an attempt's headers come from. The map that a parameter
override leaves is not reset, so it replaces the header overrides of every channel that a
retry turns to. -/
namespace NovaPuraRouter.HeaderRetry
open MarkedText HeaderOverride HeaderRequest List

section Law
variable {β κ δ : Type}

def lastAnswer (before : List (Attempt β κ δ)) : Option LastError := before.getLast?.map (fun a => .upstream a.answer)

/- The request as if the earlier channels had configured nothing: it reads the channel,
the client, the number of the attempt and the upstream's last answer. -/
def own (client : Client) (before : List (Attempt β κ δ)) (last : Attempt β κ δ) : Except OverrideFailure UpstreamRequest :=
  sent client ⟨none,before.length,lastAnswer before⟩ last

def FromOwnChannel (client : Client) (attempts : List (Attempt β κ δ)) : Prop :=
  ∀ before last after, attempts = before ++ last :: after →
    sent client (run (attempt client) .start before) last = own client before last

structure Plain (client : Client) (a : Attempt β κ δ) : Prop where
  override : a.channel.paramOverride = none
  built : ∃ headers, processHeaderOverride client a.channel.apiKey
    (getEffectiveHeaderOverride none a.channel.headersOverride) = .ok headers

theorem plainAttempt {client} {a : Attempt β κ δ} (plain : Plain client a) (index lastError) :
    attempt client ⟨none,index,lastError⟩ a = ⟨none,index + 1,some (.upstream a.answer)⟩ := by
  obtain ⟨headers,built⟩ := plain.built
  have runtime : runtimeOf client ⟨none,index,lastError⟩ a = .ok none := by
    simp only [runtimeOf,plain.override]
  have done : sent client ⟨none,index,lastError⟩ a = .ok (applyHeaderOverrideToRequest a.request headers) := by
    simp only [sent,runtime,built,bind,Except.bind,pure,Except.pure]
  simp only [attempt,runtime,done]

theorem plainRun {client} {before : List (Attempt β κ δ)} (plain : ∀ a ∈ before, Plain client a) :
    run (attempt client) .start before = ⟨none,before.length,lastAnswer before⟩ := by
  induction before using List.reverseRecOn with
  | nil => rfl
  | append_singleton first a ih =>
    have earlier := ih (fun b mem => plain b (mem_append_left [a] mem))
    have here := plain a (mem_append_right first mem_cons_self)
    simp only [run] at earlier ⊢
    rw [foldl_append,earlier]
    simp only [foldl_cons,foldl_nil,plainAttempt here,lastAnswer,length_append,length_cons,length_nil,
      getLast?_append,getLast?_singleton,Option.some_or,Option.map_some]

theorem headersFromOwnChannel {client : Client} {attempts : List (Attempt β κ δ)}
    (plain : ∀ a ∈ attempts.dropLast, Plain client a) : FromOwnChannel client attempts := by
  rintro before last after rfl
  rw [plainRun]
  · rfl
  · intro a mem
    refine plain a ?_
    rw [dropLast_append_of_ne_nil (cons_ne_nil last after)]
    exact mem_append_left _ mem

end Law

section Instances

def caller : Client := ⟨[("User-Agent","curl".toList)],fun _ => none,false⟩

def onChannel (headers : List (String × HeaderValue Char)) (param : Option (ParamOverride Unit Unit)) (apiKey : String) :
    Attempt Unit Unit Unit :=
  ⟨⟨headers,param,apiKey.toList⟩,(),⟨[],none⟩,fun _ _ => noBody,"503"⟩

def plainThenOverride : List (Attempt Unit Unit Unit) :=
  [onChannel [("X-Org",.text "one".toList)] none "k1",
   onChannel [("X-Key",.text "\x7bapi_key\x7d".toList)] (some ⟨none,[⟨(),.setHeader "X-Trace" (.text "t".toList) false⟩]⟩) "k2"]

theorem plainThenOverrideOwn : FromOwnChannel caller plainThenOverride :=
  headersFromOwnChannel (by
    intro a mem
    cases mem_singleton.mp mem
    exact ⟨rfl,_,rfl⟩)

theorem secretCrossesChannels : let first := onChannel [("Authorization",.text "Bearer s1".toList)] (some ⟨some (),[]⟩) "k1"
    let second := onChannel [] none "k2"
    sent caller (run (attempt caller) .start [first]) second = .ok ⟨[("authorization","Bearer s1".toList)],none⟩ ∧
    ¬ FromOwnChannel caller [first,second] := by
  intro first second
  have leaked : sent caller (run (attempt caller) .start [first]) second =
      .ok ⟨[("authorization","Bearer s1".toList)],none⟩ := by decide +kernel
  refine ⟨leaked,fun law => ?_⟩
  have same := law [first] second [] rfl
  exact absurd same (by decide +kernel)

end Instances

end NovaPuraRouter.HeaderRetry
