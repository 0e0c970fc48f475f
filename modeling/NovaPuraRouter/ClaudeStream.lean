import NovaPuraRouter.Execution

/-! A stream of chat completion chunks as the events of a Claude messages stream. Of the
open blocks only a type tag, a running index and the base and greatest offset of the tool
calls are kept; the first chunk has a branch of its own. -/
namespace NovaPuraRouter.ClaudeStream

structure ToolCall where
  index : Option Int
  id : String
  name : String
  arguments : String
  deriving DecidableEq, Repr

structure Delta where
  content : Option String
  reasoningContent : Option String
  reasoning : Option String
  toolCalls : List ToolCall
  deriving DecidableEq, Repr

def Delta.getContentString (d : Delta) : String := d.content.getD ""

def Delta.getReasoningContent (d : Delta) : String := (d.reasoningContent <|> d.reasoning).getD ""

structure Choice where
  delta : Delta
  finishReason : Option String
  deriving DecidableEq, Repr

def Choice.finish? (c : Choice) : Option String := c.finishReason.filter (fun reason => reason ≠ "")

structure Chunk (υ : Type) where
  id : String
  model : String
  choices : List Choice
  usage : Option υ
  deriving DecidableEq, Repr

inductive Block
  | text
  | thinking
  | toolUse (id name : String)
  deriving DecidableEq, Repr

inductive Fragment
  | text (s : String)
  | thinking (s : String)
  | inputJson (s : String)
  deriving DecidableEq, Repr

inductive Event (υ : Type)
  | messageStart (id model : String) (inputTokens : Int)
  | blockStart (index : Int) (block : Block)
  | blockDelta (index : Int) (delta : Fragment)
  | blockStop (index : Int)
  | messageDelta (usage : υ) (stopReason : String)
  | messageStop
  deriving DecidableEq, Repr

inductive LastMessageType
  | none | text | thinking | tools
  deriving DecidableEq, Repr

structure Stream (υ : Type) where
  sendResponseCount : Nat
  estimatePromptTokens : Int
  finishReason : String
  lastMessagesType : LastMessageType
  index : Nat
  usage : Option υ
  done : Bool
  toolCallBaseIndex : Nat
  toolCallMaxIndexOffset : Nat
  sent : List (Event υ)

def lower (s : String) : String := String.ofList (s.toList.map Char.toLower)

def stopReasonOpenAI2Claude (reason : String) : String :=
  if lower reason = "stop" then "end_turn"
  else if lower reason = "stop_sequence" then "stop_sequence"
  else if lower reason = "length" ∨ lower reason = "max_tokens" then "max_tokens"
  else if lower reason = "content_filter" then "refusal"
  else if lower reason = "tool_calls" then "tool_use"
  else reason

namespace Stream
variable {υ : Type}

def start (estimatePromptTokens : Int) : Stream υ := ⟨0,estimatePromptTokens,"",.none,0,none,false,0,0,[]⟩

section Blocks
variable (s : Stream υ)

def emit (e : Event υ) : Stream υ := { s with sent := s.sent ++ [e] }

def stopOpenBlocks : Stream υ := match s.lastMessagesType with
  | .none => s
  | .text | .thinking => s.emit (.blockStop s.index)
  | .tools => { s with
      sent := s.sent ++ (List.range (s.toolCallMaxIndexOffset + 1)).map (fun offset => .blockStop (s.toolCallBaseIndex + offset : Nat)) }

def stopOpenBlocksAndAdvance : Stream υ := match s.lastMessagesType with
  | .none => s
  | .tools => { s.stopOpenBlocks with
      index := s.toolCallBaseIndex + s.toolCallMaxIndexOffset + 1
      toolCallBaseIndex := 0
      toolCallMaxIndexOffset := 0
      lastMessagesType := .none }
  | _ => { s.stopOpenBlocks with index := s.index + 1, lastMessagesType := .none }

def openBlock (type : LastMessageType) (block : Block) : Stream υ :=
  let s := if s.lastMessagesType ≠ type then s.stopOpenBlocksAndAdvance else s
  { s.emit (.blockStart s.index block) with lastMessagesType := type }

def enterBlock (type : LastMessageType) (block : Block) : Stream υ :=
  if s.lastMessagesType ≠ type then s.openBlock type block else s

def finish (usage : Option υ) (stopReason : String) : Stream υ :=
  let s := s.stopOpenBlocks
  let s := match usage with
    | some u => s.emit (.messageDelta u stopReason)
    | none => s
  { s.emit .messageStop with done := true }

end Blocks

section First
variable (s : Stream υ)

/- Of the first chunk's tool calls only the first is looked at, and not its index. -/
def firstToolCall (calls : List ToolCall) : Stream υ := match calls with
  | [] => s
  | call :: _ =>
    let s := { s with lastMessagesType := .tools, toolCallBaseIndex := 0, toolCallMaxIndexOffset := 0 }
    let s := s.emit (.blockStart 0 (.toolUse call.id call.name))
    if call.arguments ≠ "" then s.emit (.blockDelta 0 (.inputJson call.arguments)) else s

def firstContent (delta : Delta) : Stream υ :=
  if delta.getReasoningContent ≠ "" then
    let s := s.openBlock .thinking .thinking
    s.emit (.blockDelta s.index (.thinking delta.getReasoningContent))
  else if delta.getContentString ≠ "" then
    let s := s.openBlock .text .text
    s.emit (.blockDelta s.index (.text delta.getContentString))
  else s

def firstChunk (chunk : Chunk υ) : Stream υ :=
  let s := s.emit (.messageStart chunk.id chunk.model s.estimatePromptTokens)
  match chunk.choices with
  | [] => s
  | choice :: _ =>
    let s := (s.firstToolCall choice.delta.toolCalls).firstContent choice.delta
    match choice.finish? with
    | none => s
    | some reason => { s with finishReason := reason }.finish (chunk.usage <|> s.usage) (stopReasonOpenAI2Claude reason)

end First

section Later
variable (s : Stream υ)

def toolCallDelta (i : Nat) (call : ToolCall) : Stream υ :=
  let offset := call.index.getD i
  let s := if offset > s.toolCallMaxIndexOffset then { s with toolCallMaxIndexOffset := offset.toNat } else s
  let blockIndex := s.toolCallBaseIndex + offset
  let s := if call.name ≠ "" then s.emit (.blockStart blockIndex (.toolUse call.id call.name)) else s
  if call.arguments ≠ "" then s.emit (.blockDelta blockIndex (.inputJson call.arguments)) else s

def toolCallDeltas (s : Stream υ) (i : Nat) : List ToolCall → Stream υ
  | [] => s
  | call :: rest => (s.toolCallDelta i call).toolCallDeltas (i + 1) rest

def enterTools : Stream υ :=
  if s.lastMessagesType ≠ .tools then
    let s := s.stopOpenBlocksAndAdvance
    { s with toolCallBaseIndex := s.index, toolCallMaxIndexOffset := 0, lastMessagesType := .tools }
  else s

def toolCallsChunk (calls : List ToolCall) : Stream υ :=
  let s := s.enterTools.toolCallDeltas 0 calls
  { s with index := s.toolCallBaseIndex + s.toolCallMaxIndexOffset }

def contentChunk (delta : Delta) : Stream υ :=
  if delta.getReasoningContent ≠ "" then
    let s := s.enterBlock .thinking .thinking
    s.emit (.blockDelta s.index (.thinking delta.getReasoningContent))
  else if delta.getContentString ≠ "" then
    let s := s.enterBlock .text .text
    s.emit (.blockDelta s.index (.text delta.getContentString))
  else s

def deltaChunk (delta : Delta) : Stream υ :=
  if delta.toolCalls ≠ [] then s.toolCallsChunk delta.toolCalls else s.contentChunk delta

def usageChunk (usage : Option υ) : Stream υ := match usage <|> s.usage with
  | none => s
  | some u => s.finish (some u) (if stopReasonOpenAI2Claude s.finishReason = "" then "end_turn" else stopReasonOpenAI2Claude s.finishReason)

def choiceChunk (choice : Choice) (usage : Option υ) : Stream υ := match choice.finish?,usage with
  | none,_ => s.deltaChunk choice.delta
  | some reason,none => { s with finishReason := reason }
  | some reason,some u => ({ s with finishReason := reason }.deltaChunk choice.delta).finish (some u) (stopReasonOpenAI2Claude reason)

end Later

def streamResponseOpenAI2Claude (s : Stream υ) (chunk : Chunk υ) : Stream υ :=
  if s.done then s
  else if s.sendResponseCount = 1 then s.firstChunk chunk
  else match chunk.choices with
    | [] => s.usageChunk chunk.usage
    | choice :: _ => s.choiceChunk choice chunk.usage

end Stream

structure Stream.Frame {υ : Type} (s s' : Stream υ) : Prop where
  count : s'.sendResponseCount = s.sendResponseCount
  done : s'.done = s.done
  finishReason : s'.finishReason = s.finishReason
  usage : s'.usage = s.usage

section Frame
variable {υ : Type} {s s' s'' : Stream υ}

theorem Stream.Frame.refl (s : Stream υ) : s.Frame s := ⟨rfl,rfl,rfl,rfl⟩

theorem Stream.Frame.trans (first : s.Frame s') (second : s'.Frame s'') : s.Frame s'' :=
  ⟨second.count.trans first.count,second.done.trans first.done,second.finishReason.trans first.finishReason,second.usage.trans first.usage⟩

section
variable (s : Stream υ)

theorem emitFrame (e) : s.Frame (s.emit e) := ⟨rfl,rfl,rfl,rfl⟩

theorem stopFrame : s.Frame s.stopOpenBlocks := by
  unfold Stream.stopOpenBlocks
  split
  · exact .refl s
  · exact emitFrame s _
  · exact emitFrame s _
  · exact ⟨rfl,rfl,rfl,rfl⟩

theorem advanceFrame : s.Frame s.stopOpenBlocksAndAdvance := by
  have stopped := stopFrame s
  unfold Stream.stopOpenBlocksAndAdvance
  split
  · exact .refl s
  · exact { stopped with }
  · exact { stopped with }

theorem openFrame (type block) : s.Frame (s.openBlock type block) := by
  have advanced := advanceFrame s
  unfold Stream.openBlock
  split
  · exact { advanced with }
  · exact ⟨rfl,rfl,rfl,rfl⟩

theorem enterFrame (type block) : s.Frame (s.enterBlock type block) := by
  unfold Stream.enterBlock
  split
  · exact openFrame s type block
  · exact .refl s

theorem contentFrame (delta) : s.Frame (s.contentChunk delta) := by
  unfold Stream.contentChunk
  split
  · exact (enterFrame s _ _).trans (emitFrame _ _)
  · split
    · exact (enterFrame s _ _).trans (emitFrame _ _)
    · exact .refl s

theorem firstToolFrame (calls) : s.Frame (s.firstToolCall calls) := by
  unfold Stream.firstToolCall
  split
  · exact .refl s
  split
  · exact ⟨rfl,rfl,rfl,rfl⟩
  · exact ⟨rfl,rfl,rfl,rfl⟩

theorem firstContentFrame (delta) : s.Frame (s.firstContent delta) := by
  unfold Stream.firstContent
  split
  · exact (openFrame s _ _).trans (emitFrame _ _)
  · split
    · exact (openFrame s _ _).trans (emitFrame _ _)
    · exact .refl s

end

structure Stream.ToolFrame (s s' : Stream υ) : Prop extends s.Frame s' where
  base : s'.toolCallBaseIndex = s.toolCallBaseIndex
  last : s'.lastMessagesType = s.lastMessagesType

section
variable (s : Stream υ)

theorem toolCallFrame (i call) : s.ToolFrame (s.toolCallDelta i call) := by
  have raised : ∀ offset : Int, s.ToolFrame (if offset > s.toolCallMaxIndexOffset then { s with toolCallMaxIndexOffset := offset.toNat }
    else s) := by
    intro _
    split
    · exact ⟨⟨rfl,rfl,rfl,rfl⟩,rfl,rfl⟩
    · exact ⟨.refl s,rfl,rfl⟩
  have frame := raised (call.index.getD i)
  unfold Stream.toolCallDelta
  split
  · split
    · exact ⟨{ frame with },frame.base,frame.last⟩
    · exact ⟨{ frame with },frame.base,frame.last⟩
  · split
    · exact ⟨{ frame with },frame.base,frame.last⟩
    · exact frame

theorem toolCallsFrame (i calls) : s.ToolFrame (s.toolCallDeltas i calls) := by
  induction calls generalizing s i with
  | nil => exact ⟨.refl s,rfl,rfl⟩
  | cons call _ ih =>
    have first := toolCallFrame s i call
    have later := ih (s.toolCallDelta i call) (i + 1)
    exact ⟨first.toFrame.trans later.toFrame,later.base.trans first.base,later.last.trans first.last⟩

theorem enterToolsFrame : s.Frame s.enterTools := by
  have advanced := advanceFrame s
  unfold Stream.enterTools
  split
  · exact { advanced with }
  · exact .refl s

theorem enterToolsLast : s.enterTools.lastMessagesType = .tools := by
  unfold Stream.enterTools
  split
  · rfl
  · rename_i tools
    exact not_not.mp tools

theorem deltaFrame (delta) : s.Frame (s.deltaChunk delta) := by
  unfold Stream.deltaChunk Stream.toolCallsChunk
  split
  · have entered := enterToolsFrame s
    have calls := (toolCallsFrame s.enterTools 0 delta.toolCalls).toFrame
    have frame := entered.trans calls
    exact { frame with }
  · exact contentFrame s delta

theorem finishCount (usage reason) : (s.finish usage reason).sendResponseCount = s.sendResponseCount := by
  cases usage with
  | none | some => exact (stopFrame s).count

theorem convertCount (chunk) : (s.streamResponseOpenAI2Claude chunk).sendResponseCount = s.sendResponseCount := by
  unfold Stream.streamResponseOpenAI2Claude
  split
  · rfl
  split
  · unfold Stream.firstChunk
    split
    · rfl
    rename_i choice _ _
    have frame := ((emitFrame s (.messageStart chunk.id chunk.model s.estimatePromptTokens)).trans
      (firstToolFrame _ choice.delta.toolCalls)).trans
      (firstContentFrame _ choice.delta)
    split
    · exact frame.count
    · exact (finishCount _ _ _).trans frame.count
  · split
    · unfold Stream.usageChunk
      split
      · rfl
      · exact finishCount s _ _
    · rename_i choice _ _
      unfold Stream.choiceChunk
      split
      · exact (deltaFrame s choice.delta).count
      · rfl
      · rename_i reason _ _ _
        exact (finishCount _ _ _).trans (deltaFrame { s with finishReason := reason } choice.delta).count

end

end Frame

structure Delivery (υ : Type) where
  usage : Option υ
  chunk : Chunk υ

def Stream.receive {υ : Type} (s : Stream υ) (d : Delivery υ) : Stream υ :=
  { s with sendResponseCount := s.sendResponseCount + 1, usage := d.usage <|> s.usage }

def Stream.step {υ : Type} (s : Stream υ) (d : Delivery υ) : Stream υ := (s.receive d).streamResponseOpenAI2Claude d.chunk

end NovaPuraRouter.ClaudeStream
