import NovaPuraRouter.ClaudeStream
import NovaPuraRouter.Expiring
import NovaPuraRouter.MarkedText
import Mathlib.Data.List.Sort

/-! The chunks of a chat completion stream and the events of a Responses stream. A
character stands for a byte, arguments are strings already decoded. -/
namespace NovaPuraRouter.ResponsesStream
open ClaudeStream (ToolCall)

def trimSpace (s : String) : String := String.ofList (MarkedText.trim s.toList)

structure Delta extends ClaudeStream.Delta where
  role : String
  deriving DecidableEq, Repr

structure Choice where
  index : Int
  delta : Delta
  finishReason : Option String
  deriving DecidableEq, Repr

structure Chunk (υ : Type) where
  id : String
  created : Int
  model : String
  choices : List Choice
  usage : Option υ
  deriving DecidableEq, Repr

inductive EventType
  | created | completed | done | incomplete | failed | error
  | outputTextDelta | outputItemAdded | outputItemDone
  | functionArgsDelta | functionArgsDone | customToolInputDelta | customToolInputDone
  | reasoningSummaryDelta | reasoningSummaryDone | reasoningTextDelta | reasoningTextDone
  | other (name : String)
  deriving DecidableEq, Repr

inductive OutputType
  | message | reasoning | functionCall | customToolCall
  | other (name : String)
  deriving DecidableEq, Repr

structure Content where
  type : String
  text : String
  deriving DecidableEq, Repr

structure Item where
  type : OutputType
  id : String
  callId : String
  name : String
  arguments : String
  content : List Content
  deriving DecidableEq, Repr

def Item.anyText (item : Item) : String := String.join (item.content.map Content.text)

structure Response (υ : Type) where
  id : String
  createdAt : Int
  model : String
  status : Option String
  incompleteReason : Option String
  output : List Item
  usage : Option υ
  deriving DecidableEq, Repr

structure Event (υ : Type) where
  type : EventType
  response : Option (Response υ)
  delta : String
  item : Option Item
  outputIndex : Option Int
  itemID : String
  deriving DecidableEq, Repr

end NovaPuraRouter.ResponsesStream
