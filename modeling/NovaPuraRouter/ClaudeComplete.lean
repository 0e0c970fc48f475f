import NovaPuraRouter.ClaudeGrammar
import Mathlib.Data.List.Induction

/-! What the chunks carry against what the events say: text, thinking, the arguments of each
tool call and the finish reason. A delta is converted by one branch only, so a chunk that
mixes kinds loses all but one. -/
namespace NovaPuraRouter.ClaudeStream
open List Function
variable {υ : Type}

structure Said where
  text : String
  thinking : String
  args : Int → String
  blocks : List Int
  stopReason : Option String

def Said.add (w : Said) : Event υ → Said
  | .blockStart i (.toolUse _ _) => { w with blocks := w.blocks ++ [i] }
  | .blockDelta _ (.text s) => { w with text := w.text ++ s }
  | .blockDelta _ (.thinking s) => { w with thinking := w.thinking ++ s }
  | .blockDelta i (.inputJson s) => { w with args := update w.args i (w.args i ++ s) }
  | .messageDelta _ reason => { w with stopReason := some reason }
  | _ => w

def said (sent : List (Event υ)) : Said := sent.foldl Said.add ⟨"","",fun _ => "",[],none⟩

theorem saidAppend (sent) (e : Event υ) : said (sent ++ [e]) = (said sent).add e := by
  unfold said
  rw [foldl_append]
  rfl

structure Given where
  text : String
  thinking : String
  calls : List (Int × String)
  finishReason : Option String
  deriving DecidableEq

def addCall (calls : List (Int × String)) (index : Int) (arguments : String) : List (Int × String) :=
  if index ∈ calls.map Prod.fst then calls.map (fun call => if call.1 = index then (call.1,call.2 ++ arguments) else call)
  else calls ++ [(index,arguments)]

def addCalls (calls : List (Int × String)) (i : Nat) : List ToolCall → List (Int × String)
  | [] => calls
  | call :: rest => addCalls (addCall calls (call.index.getD i) call.arguments) (i + 1) rest

def Given.add (g : Given) (choice : Choice) : Given where
  text := g.text ++ choice.delta.getContentString
  thinking := g.thinking ++ choice.delta.getReasoningContent
  calls := addCalls g.calls 0 choice.delta.toolCalls
  finishReason := choice.finish? <|> g.finishReason

structure Tally (υ : Type) where
  stream : Stream υ
  given : Given

def Tally.start (estimatePromptTokens : Int) : Tally υ := ⟨.start estimatePromptTokens,⟨"","",[],none⟩⟩

variable (t : Tally υ)

open Given

def Tally.step (d : Delivery υ) : Tally υ := ⟨t.stream.step d,d.chunk.choices.foldl add t.given⟩

structure Complete (w : Said) (g : Given) : Prop where
  text : w.text = g.text
  thinking : w.thinking = g.thinking
  calls : w.blocks.map w.args = g.calls.map Prod.snd
  finishReason : ∀ reason ∈ w.stopReason, ∀ last ∈ g.finishReason, reason = stopReasonOpenAI2Claude last

def Tally.Complete : Prop := ClaudeStream.Complete (said t.stream.sent) t.given

def Choice.Bare (c : Choice) : Prop :=
  c.delta.getContentString = "" ∧ c.delta.getReasoningContent = "" ∧ c.delta.toolCalls = [] ∧ c.finish? = none

instance (c : Choice) : Decidable c.Bare := by unfold Choice.Bare; infer_instance

def Delta.OneVoice (d : Delta) : Prop := d.getReasoningContent = "" ∨ d.getContentString = ""

instance (d : Delta) : Decidable d.OneVoice := by unfold Delta.OneVoice; infer_instance

def FirstSound (choice : Choice) : Prop :=
  choice.delta.OneVoice ∧ (choice.delta.toolCalls = [] ∨ ∃ call ∈ choice.delta.toolCalls.head?, choice.delta.toolCalls = [call] ∧
    call.index.getD 0 = 0)

instance (choice : Choice) : Decidable (FirstSound choice) := by unfold FirstSound; infer_instance

/- A later chunk has tool calls, reasoning or text; a finish reason without usage comes
alone; tool calls are orderly and not interrupted. -/
def Tally.LaterSound (choice : Choice) (usage : Option υ) : Prop :=
  if choice.converted usage then
    choice.delta.OneVoice ∧ Orderly t.stream.openCalls 0 choice.delta.toolCalls ∧
      (choice.delta.toolCalls = [] ∨ choice.delta.getReasoningContent = "" ∧ choice.delta.getContentString = "" ∧
        (t.stream.lastMessagesType = .tools ∨ t.given.calls = []))
  else choice.delta.getContentString = "" ∧ choice.delta.getReasoningContent = "" ∧ choice.delta.toolCalls = []

instance (t : Tally υ) (choice usage) : Decidable (t.LaterSound choice usage) := by unfold Tally.LaterSound; infer_instance

/- Nothing comes after the end, nothing in another choice than the first, and the first
choice is converted as a whole. -/
def Tally.Sound (d : Delivery υ) : Prop :=
  (∀ choice ∈ d.chunk.choices.tail, choice.Bare) ∧
  ∀ choice ∈ d.chunk.choices.head?,
    if t.stream.done then choice.Bare
    else if t.stream.sendResponseCount = 0 then FirstSound choice
    else t.LaterSound choice d.chunk.usage

instance (t : Tally υ) (d) : Decidable (t.Sound d) := by unfold Tally.Sound; infer_instance

section Quiet
variable {s : Stream υ}

def Event.silent : Event υ → Bool
  | .messageStart _ _ _ | .blockStart _ .text | .blockStart _ .thinking | .blockStop _ | .messageStop => true
  | _ => false

theorem silentAdd {e : Event υ} (silent : e.silent = true) (w : Said) : w.add e = w := by
  cases e with
  | messageStart => rfl
  | blockStart _ b =>
    cases b with
    | text | thinking => rfl
    | toolUse => cases silent
  | blockDelta => cases silent
  | blockStop => rfl
  | messageDelta => cases silent
  | messageStop => rfl

theorem silentAppend {sent} {e : Event υ} (silent : e.silent = true) : said (sent ++ [e]) = said sent := by
  rw [saidAppend,silentAdd silent]

theorem silentList {sent more : List (Event υ)} (silent : ∀ e ∈ more, e.silent = true) : said (sent ++ more) = said sent := by
  induction more generalizing sent with
  | nil => rw [append_nil]
  | cons e _ ih =>
    rw [append_cons,ih (fun x mem => silent x (mem_cons_of_mem _ mem)),silentAppend (silent e mem_cons_self)]

theorem stopQuiet (s : Stream υ) : said s.stopOpenBlocks.sent = said s.sent := by
  unfold Stream.stopOpenBlocks
  split
  · rfl
  · exact silentAppend rfl
  · exact silentAppend rfl
  · refine silentList (fun e mem => ?_)
    obtain ⟨_,_,same⟩ := mem_map.mp mem
    exact same ▸ rfl

theorem advanceQuiet (s : Stream υ) : said s.stopOpenBlocksAndAdvance.sent = said s.sent := by
  unfold Stream.stopOpenBlocksAndAdvance
  split
  · rfl
  · exact stopQuiet s
  · exact stopQuiet s

theorem openQuiet (s : Stream υ) {type block} (kind : block.kind ≠ .tool) : said (s.openBlock type block).sent = said s.sent := by
  have silent : ∀ i, (Event.blockStart i block : Event υ).silent = true := by
    intro i
    cases block with
    | text | thinking => rfl
    | toolUse => exact absurd rfl kind
  unfold Stream.openBlock Stream.emit
  rw [silentAppend (silent _)]
  split
  · exact advanceQuiet s
  · rfl

theorem enterQuiet (s : Stream υ) {type block} (kind : block.kind ≠ .tool) : said (s.enterBlock type block).sent = said s.sent := by
  unfold Stream.enterBlock
  split
  · exact openQuiet s kind
  · rfl

structure Voices (s t : Stream υ) (d : Delta) : Prop where
  said : d.OneVoice → said t.sent = { said s.sent with
    text := (ClaudeStream.said s.sent).text ++ d.getContentString
    thinking := (ClaudeStream.said s.sent).thinking ++ d.getReasoningContent }
  tools : t.lastMessagesType = .tools → t = s

theorem voicesOf (enter : LastMessageType → Block → Stream υ)
    (quiet : ∀ type block, block.kind ≠ .tool → said (enter type block).sent = said s.sent)
    (last : ∀ type block, (enter type block).lastMessagesType = type) (d) :
    Voices s (if d.getReasoningContent ≠ "" then (enter .thinking .thinking).emit
      (.blockDelta (enter .thinking .thinking).index (.thinking d.getReasoningContent))
      else if d.getContentString ≠ "" then (enter .text .text).emit (.blockDelta (enter .text .text).index (.text d.getContentString))
        else s) d := by
  split
  · rename_i reasoning
    refine ⟨fun one => ?_,fun tools => absurd ((last .thinking .thinking).symm.trans tools) nofun⟩
    dsimp only [Stream.emit]
    rw [saidAppend,quiet .thinking .thinking nofun,one.resolve_left reasoning,String.append_empty]
    rfl
  · rename_i silent
    rw [not_not] at silent
    split
    · refine ⟨fun _ => ?_,fun tools => absurd ((last .text .text).symm.trans tools) nofun⟩
      dsimp only [Stream.emit]
      rw [saidAppend,quiet .text .text nofun,silent,String.append_empty]
      rfl
    · rename_i nothing
      exact ⟨fun _ => by rw [silent,not_not.mp nothing,String.append_empty,String.append_empty],fun _ => rfl⟩

theorem contentVoices (s : Stream υ) (d) : Voices s (s.contentChunk d) d := by
  refine voicesOf s.enterBlock (fun _ _ kind => enterQuiet s kind) (fun type block => ?_) d
  unfold Stream.enterBlock
  split
  · rfl
  · rename_i same
    exact not_not.mp same

theorem firstVoices (s : Stream υ) (d) : Voices s (s.firstContent d) d :=
  voicesOf s.openBlock (fun _ _ kind => openQuiet s kind) (fun _ _ => rfl) d

theorem finishSaid (s : Stream υ) (usage reason) : said (s.finish usage reason).sent =
    { said s.sent with stopReason := if usage.isSome then some reason else (said s.sent).stopReason } := by
  unfold Stream.finish
  cases usage with
  | none => exact (silentAppend rfl).trans (stopQuiet s)
  | some =>
    dsimp only [Stream.emit]
    rw [silentAppend rfl,saidAppend,stopQuiet]
    rfl

end Quiet

def counted (n : Nat) (f : Nat → String) : List (Int × String) := (List.range n).map (fun j : Nat => ((j : Int),f j))

section Counted
variable {n o : Nat} {f g : Nat → String}

theorem countedNew (arguments) : addCall (counted n f) n arguments = counted n f ++ [((n : Int),arguments)] := by
  refine if_neg (fun mem => ?_)
  unfold counted at mem
  rw [map_map] at mem
  obtain ⟨j,low,same⟩ := mem_map.mp mem
  have small := mem_range.mp low
  have eq : (j : Int) = n := same
  omega

theorem countedOld (low : o < n) (arguments) :
    addCall (counted n f) o arguments = counted n (fun j => if j = o then f j ++ arguments else f j) := by
  have known : (o : Int) ∈ (counted n f).map Prod.fst := by
    unfold counted
    rw [map_map]
    exact mem_map.mpr ⟨o,mem_range.mpr low,rfl⟩
  unfold addCall
  rw [if_pos known]
  unfold counted
  rw [map_map]
  refine map_congr_left (fun j _ => ?_)
  dsimp only [comp]
  by_cases same : j = o
  · rw [if_pos (congrArg Nat.cast same),if_pos same]
  · have apart : ¬ (j : Int) = o := by omega
    rw [if_neg apart,if_neg same]

theorem countedSucc : counted (n + 1) f = counted n f ++ [((n : Int),f n)] := by
  unfold counted
  rw [range_succ,map_append,map_singleton]

theorem countedCongr (same : ∀ j < n, f j = g j) : counted n f = counted n g :=
  map_congr_left (fun j low => congrArg (Prod.mk (j : Int)) (same j (mem_range.mp low)))

end Counted

section Calls
variable {s : Stream υ} {calls : List (Int × String)}

theorem argsNone {sent : List (Event υ)} {i} (nothing : ∀ d, .blockDelta i d ∉ sent) : (said sent).args i = "" := by
  induction sent using List.reverseRecOn with
  | nil => rfl
  | append_singleton _ e ih =>
    have before := ih (fun d mem => nothing d (mem_append_left _ mem))
    rw [saidAppend]
    cases e with
    | blockDelta j d =>
      cases d with
      | inputJson a =>
        have other : i ≠ j := fun same => nothing (.inputJson a) (same ▸ mem_append_right _ (mem_singleton_self _))
        exact (update_of_ne other _ _).trans before
      | _ => exact before
    | blockStart _ b =>
      cases b with
      | _ => exact before
    | _ => exact before

variable {n i : Nat}

theorem argsFresh {sent : List (Event υ)} {lo} {kind : Kind} (ready : Ready sent lo n kind) : (said sent).args (n : Int) = "" := by
  refine argsNone (fun d mem => ?_)
  obtain ⟨before,after,same⟩ := append_of_mem mem
  obtain ⟨⟨b,start,_⟩,_⟩ := ready.grammatical.deltas before n d after same
  obtain ⟨j,_⟩ := ready.opened (i := n) (b := b) (same ▸ mem_append_left _ start)
  omega

def Said.call (w : Said) (i : Int) (call : ToolCall) : Said :=
  { w with
    blocks := if call.name ≠ "" then w.blocks ++ [i] else w.blocks
    args := update w.args i (w.args i ++ call.arguments) }

theorem toolCallSaid (s : Stream υ) (i call) :
    said (s.toolCallDelta i call).sent = (said s.sent).call (s.toolCallBaseIndex + call.index.getD i) call := by
  have raised : ∀ offset : Int,
      (if offset > s.toolCallMaxIndexOffset then { s with toolCallMaxIndexOffset := offset.toNat } else s).sent = s.sent ∧
      (if offset > s.toolCallMaxIndexOffset then { s with toolCallMaxIndexOffset := offset.toNat } else s).toolCallBaseIndex =
        s.toolCallBaseIndex := by
    intro _
    split
    · exact ⟨rfl,rfl⟩
    · exact ⟨rfl,rfl⟩
  obtain ⟨sent,base⟩ := raised (call.index.getD i)
  unfold Stream.toolCallDelta Said.call
  dsimp only
  rw [base]
  by_cases named : call.name ≠ ""
  · rw [if_pos named,if_pos named]
    by_cases something : call.arguments ≠ ""
    · rw [if_pos something]
      dsimp only [Stream.emit]
      rw [saidAppend,saidAppend,sent]
      rfl
    · rw [if_neg something]
      dsimp only [Stream.emit]
      rw [saidAppend,sent,not_not.mp something,String.append_empty,update_eq_self]
      rfl
  · rw [if_neg named,if_neg named]
    by_cases something : call.arguments ≠ ""
    · rw [if_pos something]
      dsimp only [Stream.emit]
      rw [saidAppend,sent]
      rfl
    · rw [if_neg something,sent,not_not.mp something,String.append_empty,update_eq_self]

structure Matched (s : Stream υ) (calls : List (Int × String)) (n : Nat) : Prop where
  held : s.Held n
  blocks : (said s.sent).blocks = (List.range n).map (fun j : Nat => ((s.toolCallBaseIndex + j : Nat) : Int))
  calls : calls = counted n (fun j => (said s.sent).args (s.toolCallBaseIndex + j : Nat))

theorem openMatched (matched : Matched s calls n) {call : ToolCall} (named : call.name ≠ "")
    (next : call.index.getD i = n) : Matched (s.toolCallDelta i call) (addCall calls (call.index.getD i) call.arguments) (n + 1) := by
  have base := (toolCallFrame s i call).base
  have index : ((s.toolCallBaseIndex : Int) + (n : Int)) = ((s.toolCallBaseIndex + n : Nat) : Int) := (Int.natCast_add _ _).symm
  have after := toolCallSaid s i call
  rw [next,index] at after
  refine ⟨openCallHeld matched.held named next,?_,?_⟩
  · rw [after,base]
    dsimp only [Said.call]
    rw [if_pos named,matched.blocks,range_succ,map_append,map_singleton]
  · rw [after,base,next,matched.calls,countedNew,countedSucc]
    dsimp only [Said.call]
    rw [update_self,argsFresh matched.held.ready,String.empty_append]
    congr 1
    refine countedCongr (fun j low => ?_)
    rw [update_of_ne (by omega)]

theorem goOnMatched (matched : Matched s calls n) {call : ToolCall} (unnamed : call.name = "") (low : 0 ≤ call.index.getD i)
    (below : call.index.getD i < n) : Matched (s.toolCallDelta i call) (addCall calls (call.index.getD i) call.arguments) n := by
  obtain ⟨o,same⟩ := Int.eq_ofNat_of_zero_le low
  have base := (toolCallFrame s i call).base
  have index : ((s.toolCallBaseIndex : Int) + (o : Int)) = ((s.toolCallBaseIndex + o : Nat) : Int) := (Int.natCast_add _ _).symm
  have after := toolCallSaid s i call
  rw [same,index] at after
  refine ⟨goOnHeld matched.held unnamed low below,?_,?_⟩
  · rw [after,base]
    dsimp only [Said.call]
    rw [if_neg (not_not.mpr unnamed)]
    exact matched.blocks
  · rw [after,base,same,matched.calls,countedOld (by omega)]
    refine countedCongr (fun j _ => ?_)
    dsimp only [Said.call]
    by_cases here : j = o
    · rw [if_pos here,here,update_self]
    · rw [if_neg here,update_of_ne (by omega)]

theorem toolCallsMatched {list} (matched : Matched s calls n) (orderly : Orderly n i list) :
    ∃ m, (list ≠ [] → 0 < m) ∧ n ≤ m ∧ Matched (s.toolCallDeltas i list) (addCalls calls i list) m ∧
      (said (s.toolCallDeltas i list).sent).text = (said s.sent).text ∧ (said (s.toolCallDeltas i list).sent).thinking = (said s.sent).thinking ∧
      (said (s.toolCallDeltas i list).sent).stopReason = (said s.sent).stopReason := by
  induction list generalizing s calls n i with
  | nil => exact ⟨n,fun something => absurd rfl something,Nat.le_refl n,matched,rfl,rfl,rfl⟩
  | cons call _ ih =>
    have after := toolCallSaid s i call
    have words : ∀ {w : Said} {j : Int}, (w.call j call).text = w.text ∧ (w.call j call).thinking = w.thinking ∧
        (w.call j call).stopReason = w.stopReason := ⟨rfl,rfl,rfl⟩
    rcases orderly with ⟨named,next,later⟩ | ⟨unnamed,low,below,later⟩
    · obtain ⟨m,_,more,tail,text,thinking,reason⟩ := ih (openMatched matched named next) later
      rw [after] at text thinking reason
      exact ⟨m,fun _ => by omega,by omega,tail,text.trans words.1,thinking.trans words.2.1,reason.trans words.2.2⟩
    · obtain ⟨m,_,more,tail,text,thinking,reason⟩ := ih (goOnMatched matched unnamed low below) later
      rw [after] at text thinking reason
      exact ⟨m,fun _ => by omega,more,tail,text.trans words.1,thinking.trans words.2.1,reason.trans words.2.2⟩

end Calls

structure Level (s : Stream υ) (g : Given) : Prop where
  text : (said s.sent).text = g.text
  thinking : (said s.sent).thinking = g.thinking
  calls : (said s.sent).blocks.map (said s.sent).args = g.calls.map Prod.snd
  tools : s.lastMessagesType = .tools → Matched s g.calls (s.toolCallMaxIndexOffset + 1)
  stopReason : (said s.sent).stopReason = none

section Level
variable {s : Stream υ} {g : Given}

theorem matchedCalls {calls n} (matched : Matched s calls n) : (said s.sent).blocks.map (said s.sent).args = calls.map Prod.snd := by
  rw [matched.blocks,matched.calls,counted,map_map,map_map]
  rfl

theorem levelSame (level : Level s g) {s'} (sent : s'.sent = s.sent) (last : s'.lastMessagesType = s.lastMessagesType)
    (base : s'.toolCallBaseIndex = s.toolCallBaseIndex) (greatest : s'.toolCallMaxIndexOffset = s.toolCallMaxIndexOffset) : Level s' g := by
  refine ⟨sent ▸ level.text,sent ▸ level.thinking,sent ▸ level.calls,fun tools => ?_,sent ▸ level.stopReason⟩
  have matched := level.tools (last ▸ tools)
  refine ⟨⟨?_,?_⟩,?_,?_⟩
  · rw [sent,base,greatest]
    exact matched.held.ready
  · rw [greatest]
    rfl
  · rw [sent,base,greatest]
    exact matched.blocks
  · rw [sent,base,greatest]
    exact matched.calls

theorem enterToolsMatched (tracks : s.Tracks) (level : Level s g) (free : s.lastMessagesType = .tools ∨ g.calls = []) :
    Matched s.enterTools g.calls s.openCalls ∧ said s.enterTools.sent = said s.sent := by
  have held := enterToolsHeld tracks
  by_cases tools : s.lastMessagesType = .tools
  · have same : s.enterTools = s := if_neg (not_not.mpr tools)
    have open_ : s.openCalls = s.toolCallMaxIndexOffset + 1 := if_pos tools
    rw [same,open_]
    exact ⟨level.tools tools,rfl⟩
  · have nothing := free.resolve_left tools
    have quiet : said s.enterTools.sent = said s.sent := by
      unfold Stream.enterTools
      rw [if_pos tools]
      exact advanceQuiet s
    have open_ : s.openCalls = 0 := if_neg tools
    have blocks : (said s.sent).blocks = [] := by
      have calls := level.calls
      rw [nothing] at calls
      exact map_eq_nil_iff.mp calls
    rw [open_] at held ⊢
    refine ⟨⟨held,?_,nothing⟩,quiet⟩
    rw [quiet]
    exact blocks

theorem toolsLevel (tracks : s.Tracks) (level : Level s g) {list} (something : list ≠ [])
    (orderly : Orderly s.openCalls 0 list) (free : s.lastMessagesType = .tools ∨ g.calls = []) :
    Level (s.toolCallsChunk list) { g with calls := addCalls g.calls 0 list } := by
  obtain ⟨entered,quiet⟩ := enterToolsMatched tracks level free
  obtain ⟨m,positive,_,matched,text,thinking,reason⟩ := toolCallsMatched entered orderly
  rw [quiet] at text thinking reason
  have size : (s.enterTools.toolCallDeltas 0 list).toolCallMaxIndexOffset + 1 = m := by
    have greatest := matched.held.greatest
    have more := positive something
    omega
  have same := matchedCalls matched
  refine ⟨text.trans level.text,thinking.trans level.thinking,same,fun _ => ?_,reason.trans level.stopReason⟩
  rw [← size] at matched
  exact ⟨⟨matched.held.ready,matched.held.greatest⟩,matched.blocks,matched.calls⟩

theorem voicesLevel {t d} (voices : Voices s t d) (level : Level s g) (one : d.OneVoice) :
    Level t { g with text := g.text ++ d.getContentString, thinking := g.thinking ++ d.getReasoningContent } := by
  have after := voices.said one
  refine ⟨?_,?_,?_,fun last => ?_,?_⟩
  · rw [after,← level.text]
  · rw [after,← level.thinking]
  · rw [after]
    exact level.calls
  · have same := voices.tools last
    rw [same] at last ⊢
    exact level.tools last
  · rw [after]
    exact level.stopReason

theorem deltaLevel (tracks : s.Tracks) (level : Level s g) {d} (one : d.OneVoice) (orderly : Orderly s.openCalls 0 d.toolCalls)
    (alone : d.toolCalls = [] ∨ d.getReasoningContent = "" ∧ d.getContentString = "" ∧ (s.lastMessagesType = .tools ∨ g.calls = [])) :
    Level (s.deltaChunk d) { g with
      text := g.text ++ d.getContentString
      thinking := g.thinking ++ d.getReasoningContent
      calls := addCalls g.calls 0 d.toolCalls } := by
  unfold Stream.deltaChunk
  split
  · rename_i something
    obtain ⟨reasoning,text,free⟩ := alone.resolve_left something
    rw [reasoning,text,String.append_empty,String.append_empty]
    exact toolsLevel tracks level something orderly free
  · rename_i nothing
    rw [not_not.mp nothing]
    exact voicesLevel (contentVoices s d) level one

theorem finishComplete (level : Level s g) {usage reason}
    (last : ∀ given ∈ g.finishReason, reason = stopReasonOpenAI2Claude given) : Complete (said (s.finish usage reason).sent) g := by
  rw [finishSaid]
  refine ⟨level.text,level.thinking,level.calls,fun r mem given there => ?_⟩
  cases usage with
  | none =>
    rw [level.stopReason] at mem
    cases mem
  | some =>
    cases mem
    exact last given there

theorem levelComplete (level : Level s g) : Complete (said s.sent) g := by
  refine ⟨level.text,level.thinking,level.calls,fun r mem => ?_⟩
  rw [level.stopReason] at mem
  cases mem

end Level

section First
variable {s : Stream υ}

theorem firstToolLevel (last : s.lastMessagesType = .none) (quiet : said s.sent = said ([] : List (Event υ))) (ready : Ready s.sent 0 0 .text)
    {calls} (one : calls = [] ∨ ∃ call ∈ calls.head?, calls = [call] ∧ call.index.getD 0 = 0) :
    Level (s.firstToolCall calls) ⟨"","",addCalls [] 0 calls,none⟩ := by
  rcases one with nothing | ⟨call,_,single,zero⟩
  · rw [nothing]
    refine ⟨?_,?_,?_,fun tools => ?_,?_⟩
    · exact congrArg Said.text quiet
    · exact congrArg Said.thinking quiet
    · show (said s.sent).blocks.map (said s.sent).args = []
      rw [quiet]
      rfl
    · cases last.symm.trans tools
    · exact congrArg Said.stopReason quiet
  · have opened := (ready.any .tool).start (b := .toolUse call.id call.name) rfl
    have index : (call.index.getD (0 : Nat) : Int) = 0 := zero
    have words : said (s.firstToolCall [call]).sent = ⟨"","",update (fun _ => "") 0 call.arguments,[0],none⟩ := by
      unfold Stream.firstToolCall
      dsimp only [Stream.emit]
      split
      · rw [saidAppend,saidAppend,quiet]
        show (⟨"","",update (fun _ => "") 0 ("" ++ call.arguments),[0],none⟩ : Said) = _
        rw [String.empty_append]
      rename_i empty
      rw [saidAppend,quiet,not_not.mp empty]
      show (⟨"","",fun _ => "",[0],none⟩ : Said) = _
      rw [update_eq_self_iff.mpr rfl]
    have held : (s.firstToolCall [call]).Held 1 := by
      unfold Stream.firstToolCall
      dsimp only [Stream.emit]
      split
      · exact ⟨opened.delta (Nat.le_refl 0) Nat.one_pos rfl,rfl⟩
      · exact ⟨opened,rfl⟩
    have base : (s.firstToolCall [call]).toolCallBaseIndex = 0 ∧ (s.firstToolCall [call]).toolCallMaxIndexOffset = 0 := by
      unfold Stream.firstToolCall
      dsimp only [Stream.emit]
      split
      · exact ⟨rfl,rfl⟩
      · exact ⟨rfl,rfl⟩
    have added : addCalls [] 0 [call] = [(0,call.arguments)] := by
      show addCall [] (call.index.getD (0 : Nat)) call.arguments = _
      rw [index]
      rfl
    have matched : Matched (s.firstToolCall [call]) [(0,call.arguments)] 1 := by
      refine ⟨held,?_,?_⟩
      · rw [words,base.1]
        rfl
      · rw [words,base.1]
        rfl
    rw [single,added]
    refine ⟨?_,?_,matchedCalls matched,fun _ => ?_,?_⟩
    · rw [words]
    · rw [words]
    · rw [base.2]
      exact matched
    · rw [words]

end First

section Step
variable {s : Stream υ} {g : Given}

theorem bareAdd {c} (bare : c.Bare) (g : Given) : g.add c = g := by
  obtain ⟨text,reasoning,calls,finish⟩ := bare
  unfold add
  rw [text,reasoning,calls,finish,String.append_empty,String.append_empty]
  rfl

theorem bareList {choices : List Choice} (bare : ∀ c ∈ choices, c.Bare) (g) : choices.foldl add g = g := by
  induction choices with
  | nil => rfl
  | cons c _ ih =>
    rw [foldl_cons,bareAdd (bare c mem_cons_self)]
    exact ih (fun x mem => bare x (mem_cons_of_mem _ mem))

variable {reason : String}

theorem finishSome {c : Choice} (finish : c.finish? = some reason) : reason ≠ "" :=
  of_decide_eq_true (Option.filter_eq_some_iff.mp finish).2

theorem stopReasonSome (something : reason ≠ "") : stopReasonOpenAI2Claude reason ≠ "" := by
  unfold stopReasonOpenAI2Claude
  split
  · decide
  split
  · decide
  split
  · decide
  split
  · decide
  · split
    · decide
    · exact something

def Whole (s : Stream υ) (g : Given) : Prop :=
  (s.done = true ∧ Complete (said s.sent) g) ∨
  (s.done = false ∧ Level s g ∧ ∀ last ∈ g.finishReason, last ≠ "" ∧ s.finishReason = last)

theorem finishWhole (level : Level s g) (usage) {reason} (last : ∀ given ∈ g.finishReason, reason = stopReasonOpenAI2Claude given) :
    Whole (s.finish usage reason) g := .inl ⟨rfl,finishComplete level last⟩

theorem reasonLast {c} (finish : c.finish? = some reason) :
    ∀ given ∈ (g.add c).finishReason, stopReasonOpenAI2Claude reason = stopReasonOpenAI2Claude given := by
  intro _ mem
  unfold add at mem
  rw [finish] at mem
  cases mem
  rfl

theorem firstWhole (sent : s.sent = []) (last : s.lastMessagesType = .none) (done : s.done = false)
    (chunk : Chunk υ) (sound : ∀ choice ∈ chunk.choices.head?, FirstSound choice) (bare : ∀ choice ∈ chunk.choices.tail, choice.Bare) :
    Whole (s.firstChunk chunk) (chunk.choices.foldl add ⟨"","",[],none⟩) := by
  have ready : Ready (s.emit (.messageStart chunk.id chunk.model s.estimatePromptTokens)).sent 0 0 .text := by
    unfold Stream.emit
    rw [sent]
    exact startReady _ _ _
  have quiet : said (s.emit (.messageStart chunk.id chunk.model s.estimatePromptTokens)).sent = said ([] : List (Event υ)) := by
    unfold Stream.emit
    rw [silentAppend rfl,sent]
  unfold Stream.firstChunk
  cases choices : chunk.choices with
  | nil =>
    have level := @firstToolLevel _ (s.emit (.messageStart chunk.id chunk.model s.estimatePromptTokens)) last quiet ready [] (.inl rfl)
    exact .inr ⟨done,level,fun _ mem => (nomatch mem)⟩
  | cons choice rest =>
    rw [choices] at sound bare
    obtain ⟨one,calls⟩ := sound choice rfl
    have others : ∀ c ∈ rest, c.Bare := bare
    rw [foldl_cons,bareList others]
    have level := voicesLevel (firstVoices _ choice.delta) (@firstToolLevel _
      (s.emit (.messageStart chunk.id chunk.model s.estimatePromptTokens)) last quiet ready _ calls) one
    have frame := ((emitFrame s (.messageStart chunk.id chunk.model s.estimatePromptTokens)).trans
      (firstToolFrame _ choice.delta.toolCalls)).trans
      (firstContentFrame _ choice.delta)
    dsimp only
    generalize Stream.firstContent _ choice.delta = after at level frame ⊢
    cases finish : choice.finish? with
    | none =>
      refine .inr ⟨frame.done.trans done,{ level with },fun given mem => ?_⟩
      unfold add at mem
      rw [finish] at mem
      cases mem
    | some reason =>
      have given : Level after (add ⟨"","",[],none⟩ choice) := { level with }
      exact @finishWhole _ { after with finishReason := reason } _ (levelSame given rfl rfl rfl rfl) _ _ (reasonLast finish)

theorem choiceWhole (tracks : s.Tracks) (done : s.done = false) (level : Level s g)
    (named : ∀ last ∈ g.finishReason, last ≠ "" ∧ s.finishReason = last) (choice usage)
    (sound : Tally.LaterSound ⟨s,g⟩ choice usage) : Whole (s.choiceChunk choice usage) (g.add choice) := by
  unfold Tally.LaterSound Choice.converted at sound
  unfold Stream.choiceChunk
  cases finish : choice.finish? with
  | none =>
    rw [finish] at sound
    obtain ⟨one,orderly,alone⟩ := sound
    have after := deltaLevel tracks level one orderly alone
    have frame := deltaFrame s choice.delta
    refine .inr ⟨frame.done.trans done,{ after with },fun last mem => ?_⟩
    unfold add at mem
    rw [finish] at mem
    obtain ⟨something,same⟩ := named last mem
    exact ⟨something,frame.finishReason.trans same⟩
  | some reason =>
    have remembered : Level { s with finishReason := reason } g := levelSame level rfl rfl rfl rfl
    cases usage with
    | none =>
      rw [finish] at sound
      obtain ⟨text,reasoning,calls⟩ := sound
      have same : g.add choice = { g with finishReason := some reason } := by
        unfold add
        rw [text,reasoning,calls,finish,String.append_empty,String.append_empty]
        rfl
      rw [same]
      refine .inr ⟨done,{ remembered with },fun last mem => ?_⟩
      cases mem
      exact ⟨finishSome finish,rfl⟩
    | some =>
      rw [finish] at sound
      obtain ⟨one,orderly,alone⟩ := sound
      have after := @deltaLevel _ { s with finishReason := reason } g tracks remembered _ one orderly alone
      exact finishWhole (g := g.add choice) { after with } _ (reasonLast finish)

theorem usageWhole (done : s.done = false) (level : Level s g) (named : ∀ last ∈ g.finishReason, last ≠ "" ∧ s.finishReason = last)
    (usage) : Whole (s.usageChunk usage) g := by
  unfold Stream.usageChunk
  split
  · exact .inr ⟨done,level,named⟩
  · refine finishWhole level _ (fun given mem => ?_)
    obtain ⟨something,same⟩ := named given mem
    rw [same,if_neg (stopReasonSome something)]

end Step

structure Tally.Kept (t : Tally υ) : Prop where
  keeping : t.stream.Keeping
  whole : Whole t.stream t.given
  first : t.stream.sendResponseCount = 0 → t.given = ⟨"","",[],none⟩

theorem soundOrderly {t : Tally υ} {d} (sound : t.Sound d) : t.stream.OrderlyCalls d := by
  intro positive done choice mem converted
  have first := sound.2 choice mem
  rw [if_neg (Bool.eq_false_iff.mp done),if_neg (Nat.pos_iff_ne_zero.mp positive)] at first
  unfold Tally.LaterSound at first
  rw [if_pos converted] at first
  exact first.2.1

theorem stepWhole {t : Tally υ} {d} (keeping : t.stream.Keeping) (done : t.stream.done = false) (level : Level t.stream t.given)
    (named : ∀ last ∈ t.given.finishReason, last ≠ "" ∧ t.stream.finishReason = last)
    (first : t.stream.sendResponseCount = 0 → t.given = ⟨"","",[],none⟩) (sound : t.Sound d) :
    Whole (t.stream.step d) (d.chunk.choices.foldl add t.given) := by
  obtain ⟨bare,head⟩ := sound
  have running : ¬ (t.stream.receive d).done = true := Bool.eq_false_iff.mp done
  rw [done] at head
  unfold Stream.step Stream.streamResponseOpenAI2Claude
  rw [if_neg running]
  rcases keeping with ⟨zero,sent,last,_⟩ | ⟨_,over_,_⟩ | ⟨positive,_,tracks⟩
  · have one : (t.stream.receive d).sendResponseCount = 1 := congrArg (· + 1) zero
    rw [if_pos one,first zero]
    rw [zero] at head
    exact @firstWhole _ (t.stream.receive d) sent last done d.chunk head bare
  · cases done.symm.trans over_
  · have later : ¬ (t.stream.receive d).sendResponseCount = 1 := Nat.ne_of_gt (Nat.succ_lt_succ positive)
    have same : Level (t.stream.receive d) t.given := levelSame level rfl rfl rfl rfl
    have head : ∀ choice ∈ d.chunk.choices.head?, t.LaterSound choice d.chunk.usage := by
      intro choice mem
      have here := head choice mem
      rw [if_neg Bool.false_ne_true,if_neg (Nat.pos_iff_ne_zero.mp positive)] at here
      exact here
    rw [if_neg later]
    cases choices : d.chunk.choices with
    | nil => exact @usageWhole _ (t.stream.receive d) t.given done same named d.chunk.usage
    | cons choice rest =>
      rw [choices] at head bare
      have others : ∀ c ∈ rest, c.Bare := bare
      rw [foldl_cons,bareList others]
      exact @choiceWhole _ (t.stream.receive d) t.given tracks done same named choice d.chunk.usage (head choice rfl)

open Tally

theorem stepTally (d) (kept : t.Kept) (sound : t.Sound d) : (t.step d).Kept := by
  have keeping := stepKeeping t.stream d kept.keeping (soundOrderly sound)
  have count : (t.stream.step d).sendResponseCount ≠ 0 := by
    rw [Stream.step,convertCount]
    exact Nat.succ_ne_zero _
  refine ⟨keeping,?_,fun zero => absurd zero count⟩
  rcases kept.whole with ⟨done,complete⟩ | ⟨done,level,named⟩
  · have same : t.stream.step d = t.stream.receive d := if_pos done
    have all : ∀ choice ∈ d.chunk.choices, choice.Bare := by
      obtain ⟨bare,head⟩ := sound
      intro choice mem
      cases choices : d.chunk.choices with
      | nil =>
        rw [choices] at mem
        cases mem
      | cons c =>
        rw [choices] at mem head bare
        rcases mem_cons.mp mem with here | later
        · have first := head c rfl
          rw [if_pos done] at first
          exact here ▸ first
        · exact bare choice later
    unfold step
    rw [same,bareList all]
    exact .inl ⟨done,complete⟩
  · exact stepWhole kept.keeping done level named kept.first sound

theorem keptComplete (kept : t.Kept) : t.Complete := by
  rcases kept.whole with ⟨_,complete⟩ | ⟨_,level,_⟩
  · exact complete
  · exact levelComplete level

theorem startKept (estimatePromptTokens) : (start estimatePromptTokens : Tally υ).Kept :=
  ⟨.inl ⟨rfl,rfl,rfl,rfl,rfl⟩,.inr ⟨rfl,⟨rfl,rfl,rfl,fun tools => (nomatch tools),rfl⟩,fun _ mem => (nomatch mem)⟩,fun _ => rfl⟩

theorem claudeComplete (estimatePromptTokens : Int) (deliveries : List (Delivery υ))
    (sound : Along step Tally.Sound (.start estimatePromptTokens) deliveries) :
    Always step Tally.Complete (.start estimatePromptTokens) deliveries :=
  alwaysMono keptComplete (alwaysKept stepTally (startKept estimatePromptTokens) sound)

theorem claudeCompleteSample : Always step Tally.Complete (.start 7)
    [chunkOf (callsDelta [⟨some 0,"a","f","x"⟩]) none none,chunkOf (callsDelta [⟨some 0,"","","y"⟩,⟨some 1,"b","g","z"⟩]) none none,
      chunkOf (textDelta "hi") none none,chunkOf (textDelta "") (some "tool_calls") none,⟨some (),⟨"c","m",[],some ()⟩⟩] :=
  claudeComplete 7 _ (by decide +kernel)

theorem claudeLoses : ¬ Always step Tally.Complete (.start 7)
      [chunkOf (textDelta "a") none none,chunkOf (textDelta "b") (some "stop") none,⟨some (),⟨"c","m",[],some ()⟩⟩] ∧
    ¬ Always step Tally.Complete (.start 7) [chunkOf (textDelta "a") none none,chunkOf ⟨some "b",some "r",none,[]⟩ none none] ∧
    ¬ Always step Tally.Complete (.start 7) [chunkOf (callsDelta [⟨some 0,"a","f","x"⟩,⟨some 1,"b","g","y"⟩]) none none] := by
  have last : ∀ {deliveries : List (Delivery Unit)}, Always step Tally.Complete (.start 7) deliveries →
      (run step (.start 7) deliveries).Complete := fun always => alwaysLast always
  refine ⟨fun always => ?_,fun always => ?_,fun always => ?_⟩
  · have text := (last always).text
    revert text
    decide +kernel
  · have text := (last always).text
    revert text
    decide +kernel
  · have calls := (last always).calls
    revert calls
    decide +kernel

end NovaPuraRouter.ClaudeStream
