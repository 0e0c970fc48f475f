import NovaPuraRouter.ResponsesStream

/-! A stream of chat completion chunks as Responses events. The message, the reasoning and
the tool calls are the rows of one table in the order in which they were opened, the
source's output order; a row's place is its output index. Ids of the message and the
reasoning are made from the response id each time they are written. -/
namespace NovaPuraRouter.ChatResponses
open ResponsesStream List Option Table
open ClaudeStream (ToolCall)

inductive Ref
  | message
  | reasoning
  | tool (index : Int)
  deriving DecidableEq, Repr

def Ref.tool? : Ref → Option Int
  | .tool index => some index
  | _ => none

def Ref.deltaType : Ref → EventType
  | .message => .outputTextDelta
  | .reasoning => .reasoningSummaryDelta
  | .tool _ => .functionArgsDelta

def Ref.doneType : Ref → EventType
  | .message => .other "response.output_text.done"
  | .reasoning => .reasoningSummaryDone
  | .tool _ => .functionArgsDone

structure Piece where
  outputIndex : Nat
  id : String
  name : String
  content : String
  done : Bool
  deriving DecidableEq, Repr

structure State (υ : Type) where
  id : String
  model : String
  created : Int
  usage : Option υ
  status : String
  incompleteReason : Option String
  sentCreated : Bool
  finalized : Bool
  pieces : Table Ref Piece
  sent : List (Event υ)

inductive Act
  | reasoning (delta : String)
  | text (delta : String)
  | toolCall (choice : Int) (call : ToolCall)
  | finish (reason : String)

def acts (c : Choice) : List Act :=
  (if c.delta.getReasoningContent ≠ "" then [.reasoning c.delta.getReasoningContent] else []) ++
  (if c.delta.getContentString ≠ "" then [.text c.delta.getContentString] else []) ++
  c.delta.toolCalls.map (.toolCall c.index) ++
  ((c.finishReason.filter (fun reason => trimSpace reason ≠ "")).map Act.finish).toList

namespace State
variable {υ : Type}

def new (id model : String) (created : Int) (usage : υ) : State υ :=
  ⟨id,model,created,some usage,"completed",none,false,false,.empty,[]⟩

variable (s : State υ) (ref : Ref)

def pieceID (p : Piece) : String :=
  match ref with
  | .message => s.id ++ "_msg_0"
  | .reasoning => s.id ++ "_reasoning_0"
  | .tool _ => p.id

def item (p : Piece) : Item :=
  match ref with
  | .message => ⟨.message,s.pieceID ref p,"","","",[⟨"output_text",p.content⟩]⟩
  | .reasoning => ⟨.reasoning,s.pieceID ref p,"","","",[⟨"summary_text",p.content⟩]⟩
  | .tool _ => ⟨.functionCall,p.id,p.id,p.name,p.content,[]⟩

def newID (id : String) : String :=
  match ref with
  | .tool index => if trimSpace id = "" then s.id ++ "_call_" ++ toString index else trimSpace id
  | _ => ""

def opened (id name : String) : State υ :=
  match s.pieces.get? ref with
  | some _ => s
  | none =>
    let p : Piece := ⟨s.pieces.rows.length,s.newID ref id,trimSpace name,"",false⟩
    { s with
      pieces := s.pieces.put ref p
      sent := s.sent ++ [⟨.outputItemAdded,none,"",some { s.item ref p with content := [] },some p.outputIndex,p.id⟩] }

def renamed (id name : String) : State υ :=
  { s with pieces := s.pieces.modify ref (fun p => { p with
      id := if trimSpace id ≠ "" then trimSpace id else p.id
      name := if trimSpace name ≠ "" then trimSpace name else p.name }) }

def said (delta : String) : State υ :=
  match s.pieces.get? ref with
  | none => s
  | some p => { s with
      pieces := s.pieces.modify ref (fun p => { p with content := p.content ++ delta })
      sent := s.sent ++ [⟨ref.deltaType,none,delta,none,some p.outputIndex,s.pieceID ref p⟩] }

def appendTextDelta (delta : String) : State υ := (s.opened .message "" "").said .message delta

def appendReasoningDelta (delta : String) : State υ := (s.opened .reasoning "" "").said .reasoning delta

def appendToolCallDelta (call : ToolCall) : State υ :=
  let ref := Ref.tool (call.index.getD 0)
  let ready := (s.opened ref call.id call.name).renamed ref call.id call.name
  if call.arguments = "" then ready else ready.said ref call.arguments

def closed : State υ :=
  match s.pieces.get? ref with
  | none => s
  | some p => if p.done then s else { s with
      pieces := s.pieces.modify ref (fun p => { p with done := true })
      sent := s.sent ++ [⟨ref.doneType,none,"",none,some p.outputIndex,s.pieceID ref p⟩,
        ⟨.outputItemDone,none,"",some (s.item ref p),some p.outputIndex,""⟩] }

def closingOrder : List Ref :=
  .message :: .reasoning :: ((s.pieces.keys.filterMap Ref.tool?).insertionSort (· ≤ ·)).map .tool

def doneDeltaEvents : State υ := s.closingOrder.foldl closed s

def applyFinishReason (reason : String) : State υ :=
  if trimSpace reason = "length" then { s with status := "incomplete", incompleteReason := some "max_output_tokens" }
  else if trimSpace reason = "content_filter" then { s with status := "incomplete", incompleteReason := some "content_filter" }
  else { s with status := "completed", incompleteReason := none }

def act : Act → State υ
  | .reasoning delta => s.appendReasoningDelta delta
  | .text delta => s.appendTextDelta delta
  | .toolCall _ call => s.appendToolCallDelta call
  | .finish reason => (s.applyFinishReason reason).doneDeltaEvents

def createdResponse : Response υ := ⟨s.id,s.created,s.model,some "in_progress",none,[],none⟩

def received (chunk : Chunk υ) : State υ :=
  let s := { s with
    id := if s.id = "" then chunk.id else s.id
    model := if s.model = "" then chunk.model else s.model
    created := if s.created = 0 then chunk.created else s.created
    usage := chunk.usage <|> s.usage }
  if s.sentCreated then s
  else { s with sentCreated := true, sent := s.sent ++ [⟨.created,some s.createdResponse,"",none,none,""⟩] }

def chatCompletionsStreamChunkToResponsesEvents (chunk : Chunk υ) : State υ :=
  (chunk.choices.flatMap acts).foldl act (s.received chunk)

def finalResponse : Response υ :=
  ⟨s.id,s.created,s.model,some s.status,s.incompleteReason,s.pieces.rows.map (fun row => s.item row.1 row.2),s.usage⟩

def terminal : Event υ :=
  ⟨if s.status = "incomplete" then .incomplete else .completed,some s.finalResponse,"",none,none,""⟩

def finalizeChatCompletionsStreamToResponses : State υ :=
  if s.finalized then s
  else { s.doneDeltaEvents with finalized := true, sent := s.doneDeltaEvents.sent ++ [s.doneDeltaEvents.terminal] }

end State

section Story
variable {υ : Type}

def about (i : Nat) (sent : List (Event υ)) : List (Event υ) := sent.filter (fun e => e.outputIndex = some (i : Int))

def named (e : Event υ) : String := (e.item.map Item.id).getD e.itemID

def isDelta : EventType → Bool
  | .outputTextDelta | .reasoningSummaryDelta | .functionArgsDelta => true
  | _ => false

/- The events of one output index: one that adds the item, deltas, and when it is done two
more, the last of which says so; all name the same item. -/
def Story (h : List (Event υ)) (id content : String) (done : Bool) : Prop :=
  (∀ e ∈ h, named e = id) ∧ ∃ added deltas tail, h = added :: (deltas ++ tail) ∧ added.type = .outputItemAdded ∧
    (∀ d ∈ deltas, isDelta d.type = true) ∧ String.join (deltas.map Event.delta) = content ∧
    if done then ∃ ref : Ref, tail.map Event.type = [ref.doneType,.outputItemDone] else tail = []

structure Consistent (sent : List (Event υ)) (output : List Item) : Prop where
  items : ∀ i item, output[i]? = some item → Story (about i sent) item.id (item.arguments ++ item.anyText) true
  only : ∀ e ∈ sent, ∀ i ∈ e.outputIndex, ∃ n : Nat, i = n ∧ n < output.length

def Agrees (sent : List (Event υ)) : Prop :=
  ∃ last response, sent.getLast? = some last ∧ last.response = some response ∧ Consistent sent response.output

@[simp] theorem aboutAppend (i : Nat) (a b : List (Event υ)) : about i (a ++ b) = about i a ++ about i b := filter_append ..

variable {es h : List (Event υ)}

theorem aboutHere {i : Nat} (here : ∀ e ∈ es, e.outputIndex = some (i : Int)) : about i es = es :=
  filter_eq_self.mpr (fun e mem => by simpa using here e mem)

theorem aboutElse {i j : Nat} (here : ∀ e ∈ es, e.outputIndex = some (j : Int)) (other : i ≠ j) : about i es = [] := by
  refine filter_eq_nil_iff.mpr (fun e mem => ?_)
  rw [here e mem]
  simp only [decide_eq_true_eq,some.injEq]
  omega

theorem storyDelta {id content} (story : Story h id content false) {e} (delta : isDelta e.type = true)
    (name : named e = id) : Story (h ++ [e]) id (content ++ e.delta) false := by
  obtain ⟨same,added,deltas,tail,rfl,first,all,text,nothing⟩ := story
  have empty : tail = [] := nothing
  subst empty
  refine ⟨?_,added,deltas ++ [e],[],by simp,first,?_,?_,rfl⟩
  · intro x mem
    rcases mem_append.mp mem with old | new
    · exact same x old
    · rw [mem_singleton.mp new]
      exact name
  · intro d mem
    rcases mem_append.mp mem with old | new
    · exact all d old
    · rw [mem_singleton.mp new]
      exact delta
  · rw [map_append,String.join_append,text]
    simp [String.join_cons]

theorem storyDone {id content} (story : Story h id content false) {closing last : Event υ} {ref : Ref}
    (type : closing.type = ref.doneType) (done : last.type = .outputItemDone) (names : named closing = id ∧ named last = id) :
    Story (h ++ [closing,last]) id content true := by
  obtain ⟨same,added,deltas,tail,rfl,first,all,text,nothing⟩ := story
  have empty : tail = [] := nothing
  subst empty
  refine ⟨?_,added,deltas,[closing,last],by simp,first,all,text,ref,by simp [type,done]⟩
  intro x mem
  rcases mem_append.mp mem with old | new
  · exact same x old
  rcases mem_cons.mp new with rfl | more
  · exact names.1
  · rw [mem_singleton.mp more]
    exact names.2

end Story

section Books
variable {υ : Type} {s : State υ}

structure Books (s : State υ) : Prop where
  placed : ∀ (i : Nat) (ref : Ref) (p : Piece), s.pieces.rows[i]? = some (ref,p) → p.outputIndex = i
  told : ∀ ref p, s.pieces.get? ref = some p → Story (about p.outputIndex s.sent) (s.pieceID ref p) p.content p.done
  only : ∀ e ∈ s.sent, ∀ i ∈ e.outputIndex, ∃ n : Nat, i = n ∧ n < s.pieces.rows.length
  open_ : s.finalized = false

variable {ref : Ref} {p : Piece}

theorem booksRow (books : Books s) (found : s.pieces.get? ref = some p) : s.pieces.rows[p.outputIndex]? = some (ref,p) := by
  obtain ⟨i,here⟩ := mem_iff_getElem?.mp (getMem.mp found)
  rw [books.placed i ref p here]
  exact here

theorem booksApart (books : Books s) {ref' p'} (found : s.pieces.get? ref = some p) (found' : s.pieces.get? ref' = some p')
    (same : p.outputIndex = p'.outputIndex) : ref = ref' := by
  have row := booksRow books found
  rw [same,booksRow books found'] at row
  exact (Prod.mk.inj (some.inj row)).1.symm

theorem booksAt (books : Books s) {ref : Ref} {p : Piece} (found : s.pieces.get? ref = some p) {f : Piece → Piece}
    (index : ∀ q, (f q).outputIndex = q.outputIndex) {es : List (Event υ)} (here : ∀ e ∈ es, e.outputIndex = some (p.outputIndex : Int))
    (story : Story (about p.outputIndex s.sent ++ es) (s.pieceID ref (f p)) (f p).content (f p).done) :
    Books { s with pieces := s.pieces.modify ref f, sent := s.sent ++ es } := by
  have size : (s.pieces.modify ref f).rows.length = s.pieces.rows.length := length_map _
  refine ⟨?_,?_,?_,books.open_⟩
  · intro i ref' q row
    obtain ⟨⟨ref₀,q₀⟩,old,same⟩ := map_eq_some_iff.mp ((getElem?_map ..).symm.trans row)
    have place := books.placed i ref₀ q₀ old
    unfold Table.touch at same
    split at same
    · cases same
      exact (index q₀).trans place
    · cases same
      exact place
  · intro ref' q now
    rw [aboutAppend]
    rcases modifyCases now with ⟨old,there,rfl,rfl⟩ | ⟨other,there⟩
    · cases found.symm.trans there
      rw [index,aboutHere here]
      exact story
    · rw [aboutElse here (fun same => other (booksApart books there found same)),append_nil]
      exact books.told ref' q there
  · intro e mem i inside
    rw [size]
    rcases mem_append.mp mem with old | new
    · exact books.only e old i inside
    · rw [here e new] at inside
      exact ⟨p.outputIndex,(some.inj inside).symm,(List.getElem?_eq_some_iff.mp (booksRow books found)).1⟩

theorem putRows {t : Table Ref Piece} (absent : t.get? ref = none) (p) : (t.put ref p).rows = t.rows ++ [(ref,p)] := by
  rw [put,dif_pos (absentKeys.mpr absent)]
  rfl

section
variable (books : Books s)
include books

theorem booksOpened (ref : Ref) (id name : String) : Books (s.opened ref id name) := by
  unfold State.opened
  cases found : s.pieces.get? ref with
  | some => exact books
  | none =>
    have rows := putRows found
    refine ⟨?_,?_,?_,books.open_⟩
    · intro i ref' q row
      rw [rows] at row
      rcases getElem?_append .. ▸ row with row
      by_cases low : i < s.pieces.rows.length
      · rw [if_pos low] at row
        exact books.placed i ref' q row
      rw [if_neg low] at row
      obtain ⟨zero,same⟩ := List.getElem?_eq_some_iff.mp row
      simp only [length_singleton] at zero
      simp only [getElem_singleton] at same
      cases same
      show s.pieces.rows.length = i
      omega
    · intro ref' q now
      rw [getPut] at now
      rw [aboutAppend]
      split at now
      · rename_i here
        subst here
        cases now
        have fresh : about s.pieces.rows.length s.sent = [] := by
          refine filter_eq_nil_iff.mpr (fun e mem hit => ?_)
          obtain ⟨n,same,low⟩ := books.only e mem _ (of_decide_eq_true hit)
          omega
        rw [fresh,aboutHere (by simp)]
        refine ⟨?_,_,[],[],rfl,rfl,fun _ no => absurd no not_mem_nil,rfl,rfl⟩
        intro e mem
        rw [mem_singleton.mp mem]
        cases ref' with
        | message | reasoning | tool => rfl
      · have row := books.told ref' q now
        have place := (List.getElem?_eq_some_iff.mp (booksRow books now)).1
        have silent : ∀ e : Event υ, e.outputIndex = some (s.pieces.rows.length : Int) → about q.outputIndex [e] = [] := by
          intro e there
          refine aboutElse (fun x mem => ?_) (ne_of_lt place)
          rw [mem_singleton.mp mem]
          exact there
        rw [silent _ rfl,append_nil]
        exact row
    · intro e mem i inside
      rw [rows,length_append]
      rcases mem_append.mp mem with old | new
      · obtain ⟨n,same,_⟩ := books.only e old i inside
        exact ⟨n,same,by omega⟩
      · rw [mem_singleton.mp new] at inside
        exact ⟨s.pieces.rows.length,(some.inj inside).symm,by simp⟩

theorem booksAside {later} (pieces : later.pieces = s.pieces) {es} (sent : later.sent = s.sent ++ es)
    (nothing : ∀ e ∈ es, e.outputIndex = none) (ids : ∀ ref p, s.pieces.get? ref = some p → later.pieceID ref p = s.pieceID ref p)
    (open_ : later.finalized = s.finalized) : Books later := by
  have quiet : ∀ i, about i es = [] := fun i => filter_eq_nil_iff.mpr (fun e mem => by simp [nothing e mem])
  refine ⟨?_,?_,?_,open_.trans books.open_⟩
  · rw [pieces]
    exact books.placed
  · intro ref p found
    rw [pieces] at found
    rw [sent,aboutAppend,quiet,append_nil,ids ref p found]
    exact books.told ref p found
  · intro e mem i inside
    rw [pieces]
    rcases mem_append.mp (sent ▸ mem) with old | new
    · exact books.only e old i inside
    · rw [nothing e new] at inside
      cases inside

theorem booksSaid (found : s.pieces.get? ref = some p) (going : p.done = false) (delta) : Books (s.said ref delta) := by
  unfold State.said
  rw [found]
  have story := books.told ref p found
  rw [going] at story
  refine booksAt books found ?_ ?_ ?_
  · exact fun _ => rfl
  · simp
  · rw [going]
    cases ref <;> exact storyDelta story rfl rfl

theorem booksRenamed (found : s.pieces.get? ref = some p) {id}
    (same : trimSpace id = "" ∨ trimSpace id = p.id) (name) : Books (s.renamed ref id name) := by
  have kept : (if trimSpace id ≠ "" then trimSpace id else p.id) = p.id := by
    rcases same with nothing | equal
    · rw [nothing,if_neg (not_not.mpr rfl)]
    · rw [equal,ite_self]
  have story := books.told ref p found
  have result := @booksAt _ s books ref p found (fun q => { q with
    id := if trimSpace id ≠ "" then trimSpace id else q.id
    name := if trimSpace name ≠ "" then trimSpace name else q.name }) (fun _ => rfl) [] (fun _ no => (nomatch no)) (by
      rw [append_nil]
      cases ref with
      | tool => exact kept.symm ▸ story
      | message => exact story
      | reasoning => exact story)
  rw [append_nil] at result
  exact result

theorem booksClosed (ref) : Books (s.closed ref) := by
  unfold State.closed
  cases found : s.pieces.get? ref with
  | none => exact books
  | some p =>
    dsimp only
    split
    · exact books
    rename_i going
    have story := books.told ref p found
    rw [Bool.eq_false_iff.mpr going] at story
    refine booksAt books found ?_ ?_ ?_
    · exact fun _ => rfl
    · simp
    · refine storyDone story rfl rfl ⟨rfl,?_⟩
      cases ref <;> rfl

end

theorem closedGet (s : State υ) (ref ref') :
    (s.closed ref).pieces.get? ref' = (s.pieces.get? ref').map (fun p => if ref' = ref then { p with done := true } else p) := by
  unfold State.closed
  cases found : s.pieces.get? ref with
  | none =>
    by_cases here : ref' = ref
    · rw [here,found]
      rfl
    · simp [here]
  | some =>
    dsimp only
    split
    · rename_i done
      by_cases here : ref' = ref
      · subst here
        rw [found]
        simp only [if_true,map_some,some.injEq]
        rw [← done]
      · simp [here]
    · show (s.pieces.modify ref _).get? ref' = _
      rw [Table.getModify]
      by_cases here : ref' = ref
      · rw [if_pos here,here]
        simp
      · simp [here]

theorem closedAll (refs : List Ref) (s : State υ) (ref) :
    (refs.foldl State.closed s).pieces.get? ref = (s.pieces.get? ref).map (fun p => if ref ∈ refs then { p with done := true } else p) := by
  induction refs generalizing s with
  | nil => simp
  | cons head _ ih =>
    rw [foldl_cons,ih,closedGet,Option.map_map]
    congr 1
    funext p
    by_cases here : ref = head
    · simp [here]
    · simp [here]

theorem closingOrderAll (found : s.pieces.get? ref = some p) : ref ∈ s.closingOrder := by
  unfold State.closingOrder
  cases ref with
  | message | reasoning => simp
  | tool index =>
    refine mem_cons_of_mem _ (mem_cons_of_mem _ (List.mem_map.mpr ⟨index,?_,rfl⟩))
    rw [mem_insertionSort]
    exact mem_filterMap.mpr ⟨.tool index,getKeys.mpr ⟨p,found⟩,rfl⟩

theorem booksDone (books : Books s) : Books s.doneDeltaEvents := by
  unfold State.doneDeltaEvents
  generalize s.closingOrder = refs
  induction refs generalizing s with
  | nil => exact books
  | cons ref _ ih => exact ih (booksClosed books ref)

theorem finalAgrees (books : Books s) : Agrees s.finalizeChatCompletionsStreamToResponses.sent := by
  have done := booksDone books
  unfold State.finalizeChatCompletionsStreamToResponses
  rw [books.open_]
  refine ⟨_,_,getLast?_concat,rfl,?_,?_⟩
  · intro i _ here
    obtain ⟨⟨ref,p⟩,row,rfl⟩ := map_eq_some_iff.mp ((getElem?_map ..).symm.trans here)
    have found := getMem.mpr (mem_of_getElem? row)
    have place := done.placed i ref p row
    have closed : p.done = true := by
      have all := closedAll s.closingOrder s ref
      rw [show (s.closingOrder.foldl State.closed s).pieces.get? ref = some p from found] at all
      obtain ⟨old,there,same⟩ := map_eq_some_iff.mp all.symm
      rw [if_pos (closingOrderAll there)] at same
      rw [← same]
    have story := done.told ref p found
    rw [closed,place] at story
    have quiet : ∀ e : Event υ, e.outputIndex = none → about i [e] = [] := by
      intro e nothing
      simp [about,nothing]
    show Story (about i (s.doneDeltaEvents.sent ++ [_])) _ _ _
    rw [aboutAppend,quiet _ rfl,append_nil]
    cases ref with
    | message | reasoning => simpa [State.item,Item.anyText,String.join_cons] using story
    | tool => simpa [State.item,State.pieceID,Item.anyText] using story
  · intro e mem i inside
    rcases mem_append.mp mem with old | new
    · obtain ⟨n,same,low⟩ := done.only e old i inside
      exact ⟨n,same,by simpa [State.finalResponse] using low⟩
    · rw [mem_singleton.mp new] at inside
      cases inside

end Books

section Watch
variable {υ : Type} {s t u : State υ}

structure Moves (s t : State υ) : Prop where
  more : s.pieces.rows.length ≤ t.pieces.rows.length
  back : ∀ ref p, t.pieces.get? ref = some p → (∃ q, s.pieces.get? ref = some q ∧ q.outputIndex = p.outputIndex) ∨
    s.pieces.rows.length ≤ p.outputIndex

theorem movesSame (same : t.pieces = s.pieces) : Moves s t := by
  refine ⟨by rw [same],fun ref p found => .inl ⟨p,?_,rfl⟩⟩
  rw [← same]
  exact found

theorem movesTrans (first : Moves s t) (second : Moves t u) : Moves s u := by
  refine ⟨first.more.trans second.more,fun ref p found => ?_⟩
  rcases second.back ref p found with ⟨q,there,same⟩ | new
  · rw [← same]
    exact first.back ref q there
  · exact .inr (first.more.trans new)

theorem movesModify {ref f} (same : t.pieces = s.pieces.modify ref f) (index : ∀ q, (f q).outputIndex = q.outputIndex) : Moves s t := by
  refine ⟨?_,fun ref' p found => .inl ?_⟩
  · rw [same]
    exact (length_map _).ge
  · rw [same] at found
    rcases modifyCases found with ⟨old,there,rfl,rfl⟩ | ⟨_,there⟩
    · exact ⟨old,there,(index old).symm⟩
    · exact ⟨p,there,rfl⟩

theorem movesOpened (s : State υ) (ref id name) : Moves s (s.opened ref id name) := by
  unfold State.opened
  cases found : s.pieces.get? ref with
  | some => exact movesSame rfl
  | none =>
    refine ⟨?_,fun ref' p now => ?_⟩
    · show _ ≤ (s.pieces.put ref _).rows.length
      rw [putRows found]
      simp
    · rw [getPut] at now
      split at now
      · cases now
        exact .inr le_rfl
      · exact .inl ⟨p,now,rfl⟩

theorem movesSaid (s : State υ) (ref delta) : Moves s (s.said ref delta) := by
  unfold State.said
  split
  · exact movesSame rfl
  · exact movesModify rfl (fun _ => rfl)

theorem movesDone (s : State υ) : Moves s s.doneDeltaEvents := by
  unfold State.doneDeltaEvents
  generalize s.closingOrder = refs
  induction refs generalizing s with
  | nil => exact movesSame rfl
  | cons ref _ ih =>
    refine movesTrans ?_ (ih (s.closed ref))
    unfold State.closed
    split
    · exact movesSame rfl
    · split
      · exact movesSame rfl
      · exact movesModify rfl (fun _ => rfl)

theorem movesAct (s : State υ) (a) : Moves s (s.act a) := by
  cases a with
  | reasoning delta => exact movesTrans (movesOpened s .reasoning "" "") (movesSaid _ _ delta)
  | text delta => exact movesTrans (movesOpened s .message "" "") (movesSaid _ _ delta)
  | finish =>
    refine movesTrans (movesSame ?_) (movesDone _)
    unfold State.applyFinishReason
    split_ifs <;> rfl
  | toolCall _ call =>
    have ready : Moves s ((s.opened (.tool (call.index.getD 0)) call.id call.name).renamed (.tool (call.index.getD 0)) call.id call.name) :=
      movesTrans (movesOpened s _ call.id call.name) (movesModify rfl (fun _ => rfl))
    refine movesTrans ready ?_
    show Moves _ (if call.arguments = "" then _ else _)
    split_ifs
    · exact movesSame rfl
    · exact movesSaid _ _ _

def Fine (s : State υ) (ref : Ref) (id : String) (more : Bool) : Prop :=
  ∀ p ∈ s.pieces.get? ref, (more = true → p.done = false) ∧ (trimSpace id = "" ∨ trimSpace id = p.id)

instance (s : State υ) (ref : Ref) (id : String) (more : Bool) : Decidable (Fine s ref id more) := by
  unfold Fine
  infer_instance

theorem fineOpened {ref id more} (fine : Fine s ref id more) (name) (tool : ref.tool?.isSome ∨ trimSpace id = "") :
    ∃ p, (s.opened ref id name).pieces.get? ref = some p ∧ (more = true → p.done = false) ∧ (trimSpace id = "" ∨ trimSpace id = p.id) := by
  unfold State.opened
  cases found : s.pieces.get? ref with
  | some p => exact ⟨p,found,fine p found⟩
  | none =>
    refine ⟨_,by rw [getPut,if_pos rfl],fun _ => rfl,?_⟩
    by_cases empty : trimSpace id = ""
    · exact .inl empty
    · cases ref with
      | tool => exact .inr (if_neg empty).symm
      | message | reasoning => exact .inl (tool.resolve_left nofun)

/- Whose call a tool delta is part of: the index in its choice, or the id; a delta with
neither belongs to no new call. -/
def ident (choice : Int) (call : ToolCall) : Option (Int × (Int ⊕ String)) := match call.index with
  | some index => some (choice,.inl index)
  | none => if trimSpace call.id = "" then none else some (choice,.inr (trimSpace call.id))

structure Watch (υ : Type) where
  stream : State υ
  calls : List ((Int × (Int ⊕ String)) × Nat)

variable (w : Watch υ)

def Watch.heard (later : State υ) : Act → List ((Int × (Int ⊕ String)) × Nat)
  | .toolCall choice call => w.calls ++
      ((ident choice call).bind (fun who => (later.pieces.get? (.tool (call.index.getD 0))).map (fun p => (who,p.outputIndex)))).toList
  | _ => w.calls

def Watch.act (a : Act) : Watch υ := ⟨w.stream.act a,w.heard (w.stream.act a) a⟩

def Watch.received (chunk : Chunk υ) : Watch υ := { w with stream := w.stream.received chunk }

open Watch

def Watch.step (chunk : Chunk υ) : Watch υ := run act (w.received chunk) (chunk.choices.flatMap acts)

def Watch.start (id model : String) (created : Int) (usage : υ) : Watch υ := ⟨.new id model created usage,[]⟩

theorem streamStep (chunk) : (w.step chunk).stream = w.stream.chatCompletionsStreamChunkToResponsesEvents chunk := by
  show (run act (w.received chunk) (chunk.choices.flatMap acts)).stream = (chunk.choices.flatMap acts).foldl State.act (w.received chunk).stream
  generalize w.received chunk = w, chunk.choices.flatMap acts = as
  induction as generalizing w with
  | nil => rfl
  | cons a _ ih => exact ih (w.act a)

def Told : Prop :=
  Agrees w.stream.finalizeChatCompletionsStreamToResponses.sent ∧ ∀ k ∈ w.calls, ∀ k' ∈ w.calls, k.1 ≠ k'.1 → k.2 ≠ k'.2

/- A delta may go on with a piece that is not done and keeps its id, and a tool call with
one that no other call was sent under. -/
def Sound : Act → Prop
  | .reasoning _ => Fine w.stream .reasoning "" true
  | .text _ => Fine w.stream .message "" true
  | .toolCall choice call => Fine w.stream (.tool (call.index.getD 0)) call.id (call.arguments ≠ "") ∧
      ∀ p ∈ w.stream.pieces.get? (.tool (call.index.getD 0)), ∀ who ∈ ident choice call, ∀ k ∈ w.calls, k.2 = p.outputIndex → k.1 = who
  | .finish _ => True

instance (w : Watch υ) (a : Act) : Decidable (Sound w a) := by
  cases a <;> unfold Sound <;> infer_instance

/- The response id may come late only while nothing is named by it. -/
def SoundChunk (chunk : Chunk υ) : Prop :=
  (w.stream.id ≠ "" ∨ chunk.id = "" ∨ ∀ ref ∈ w.stream.pieces.keys, ref.tool?.isSome) ∧
  Along act Sound (w.received chunk) (chunk.choices.flatMap acts)

instance (w : Watch υ) (chunk : Chunk υ) : Decidable (SoundChunk w chunk) := by
  unfold SoundChunk
  infer_instance

structure Kept (w : Watch υ) : Prop where
  books : Books w.stream
  low : ∀ k ∈ w.calls, k.2 < w.stream.pieces.rows.length
  apart : ∀ k ∈ w.calls, ∀ k' ∈ w.calls, k.2 = k'.2 → k.1 = k'.1

theorem booksAct {w : Watch υ} (books : Books w.stream) {a} (sound : Sound w a) : Books (w.stream.act a) := by
  have plain : ∀ ref delta, Fine w.stream ref "" true → Books ((w.stream.opened ref "" "").said ref delta) := by
    intro ref delta fine
    obtain ⟨p,found,going,_⟩ := fineOpened fine "" (.inr rfl)
    exact booksSaid (booksOpened books ref "" "") found (going rfl) delta
  cases a with
  | reasoning delta => exact plain .reasoning delta sound
  | text delta => exact plain .message delta sound
  | finish reason =>
    have set : Books (w.stream.applyFinishReason reason) := by
      unfold State.applyFinishReason
      split_ifs <;> exact { books with }
    exact booksDone set
  | toolCall _ call =>
    obtain ⟨p,found,going,same⟩ := fineOpened sound.1 call.name (.inl rfl)
    have ready := booksRenamed (booksOpened books (.tool (call.index.getD 0)) call.id call.name) found same call.name
    show Books (if call.arguments = "" then _ else _)
    split_ifs with silent
    · exact ready
    have renamed : ∃ q, ((w.stream.opened (.tool (call.index.getD 0)) call.id call.name).renamed
      (.tool (call.index.getD 0)) call.id call.name).pieces.get?
        (.tool (call.index.getD 0)) = some q ∧ q.done = p.done := ⟨_,(getModifySelf _ _ _).trans (congrArg (Option.map _) found),rfl⟩
    obtain ⟨q,there,done⟩ := renamed
    exact booksSaid ready there (done.trans (going (decide_eq_true silent))) call.arguments

theorem keptAct (a) (kept : Kept w) (sound : Sound w a) : Kept (w.act a) := by
  have moves := movesAct w.stream a
  have books := booksAct kept.books sound
  have low : ∀ k ∈ w.calls, k.2 < (w.stream.act a).pieces.rows.length := fun k mem => (kept.low k mem).trans_le moves.more
  have heard : w.heard (w.stream.act a) a = w.calls ∨ ∃ k, w.heard (w.stream.act a) a = w.calls ++ [k] ∧
      k.2 < (w.stream.act a).pieces.rows.length ∧ ∀ k' ∈ w.calls, k'.2 = k.2 → k'.1 = k.1 := by
    cases a with
    | toolCall choice call =>
      dsimp only [heard]
      cases named : ident choice call with
      | none => exact .inl (append_nil _)
      | some who =>
        cases found : (w.stream.act (.toolCall choice call)).pieces.get? (.tool (call.index.getD 0)) with
        | none => exact .inl (append_nil _)
        | some p =>
          refine .inr ⟨(who,p.outputIndex),rfl,(List.getElem?_eq_some_iff.mp (booksRow books found)).1,fun k old same => ?_⟩
          rcases moves.back _ p found with ⟨q,there,place⟩ | high
          · exact sound.2 q there who named k old (same.trans place.symm)
          · exact absurd (kept.low k old) (not_lt.mpr (same ▸ high))
    | reasoning | text | finish => exact .inl rfl
  unfold act
  rcases heard with same | ⟨new,more,high,own⟩
  · rw [same]
    exact ⟨books,low,kept.apart⟩
  rw [more]
  refine ⟨books,fun k mem => ?_,fun k mem k' mem' same => ?_⟩
  · rcases mem_append.mp mem with old | last
    · exact low k old
    · rw [mem_singleton.mp last]
      exact high
  · rcases mem_append.mp mem with old | last <;> rcases mem_append.mp mem' with old' | last'
    · exact kept.apart k old k' old' same
    · rw [mem_singleton.mp last'] at same ⊢
      exact own k old same
    · rw [mem_singleton.mp last] at same ⊢
      exact (own k' old' same.symm).symm
    · rw [mem_singleton.mp last,mem_singleton.mp last']

theorem receivedKeeps (s : State υ) (chunk) : (s.received chunk).pieces = s.pieces ∧ (s.received chunk).finalized = s.finalized ∧
    (s.received chunk).id = (if s.id = "" then chunk.id else s.id) ∧ ∃ es, (s.received chunk).sent = s.sent ++ es ∧
      ∀ e ∈ es, e.outputIndex = none := by
  unfold State.received
  by_cases created : s.sentCreated = true
  · rw [if_pos created]
    exact ⟨rfl,rfl,rfl,[],(append_nil _).symm,fun _ no => absurd no not_mem_nil⟩
  · rw [if_neg created]
    exact ⟨rfl,rfl,rfl,[_],rfl,fun e mem => by rw [mem_singleton.mp mem]⟩

theorem keptReceived (chunk : Chunk υ) (kept : Kept w)
    (late : w.stream.id ≠ "" ∨ chunk.id = "" ∨ ∀ ref ∈ w.stream.pieces.keys, ref.tool?.isSome) : Kept (w.received chunk) := by
  obtain ⟨pieces,open_,id,_,sent,nothing⟩ := receivedKeeps w.stream chunk
  have ids : ∀ ref p, w.stream.pieces.get? ref = some p → (w.stream.received chunk).pieceID ref p = w.stream.pieceID ref p := by
    intro ref p found
    have same : (w.stream.received chunk).id = w.stream.id ∨ ref.tool?.isSome := by
      rw [id]
      rcases late with set | empty | tools
      · exact .inl (if_neg set)
      · rw [empty]
        by_cases unset : w.stream.id = ""
        · exact .inl ((if_pos unset).trans unset.symm)
        · exact .inl (if_neg unset)
      · exact .inr (tools ref (getKeys.mpr ⟨p,found⟩))
    cases ref with
    | tool => rfl
    | message => exact congrArg (· ++ "_msg_0") (same.resolve_right nofun)
    | reasoning => exact congrArg (· ++ "_reasoning_0") (same.resolve_right nofun)
  refine ⟨booksAside kept.books pieces sent nothing ids open_,?_,kept.apart⟩
  show ∀ k ∈ w.calls, k.2 < (w.stream.received chunk).pieces.rows.length
  rw [pieces]
  exact kept.low

theorem keptStep (chunk) (kept : Kept w) (sound : SoundChunk w chunk) : Kept (w.step chunk) := by
  have always := alwaysKept keptAct (keptReceived w chunk kept sound.1) sound.2
  exact alwaysLast always

theorem keptStart (id model created) (usage : υ) : Kept (start id model created usage) :=
  ⟨⟨fun i ref p row => absurd row (by simp [start,State.new,empty]),fun ref p found => absurd found (by simp [start,State.new]),
    fun _ no => absurd no not_mem_nil,rfl⟩,fun _ no => absurd no not_mem_nil,fun _ no => absurd no not_mem_nil⟩

/-- A stream whose pieces are not gone on with once they are done, keep their ids, and are
one call's each: wherever it ends, the events agree with the final response. -/
theorem soundChunksAgree (id model : String) (created : Int) (usage : υ) (chunks : List (Chunk υ))
    (sound : Along step SoundChunk (start id model created usage) chunks) :
    Always step Told (start id model created usage) chunks := by
  have always := alwaysKept keptStep (keptStart id model created usage) sound
  exact alwaysMono (fun w kept => ⟨finalAgrees kept.books,fun k mem k' mem' other same => other (kept.apart k mem k' mem' same)⟩) always

def chunk (text : String) (calls : List ToolCall) (finish : Option String) : Chunk Unit :=
  ⟨"r",1,"m",[⟨0,⟨⟨some text,none,none,calls⟩,"assistant"⟩,finish⟩],none⟩

def sample : List (Chunk Unit) :=
  [chunk "a" [⟨some 0,"c","f","x"⟩] none,chunk "b" [⟨some 0,"","","y"⟩,⟨some 1,"d","g","z"⟩] none,chunk "" [] (some "tool_calls")]

theorem sampleAgrees : Always step Told (start "" "" 0 ()) sample :=
  soundChunksAgree "" "" 0 () sample (by decide +kernel)

theorem agreesEnds {sent : List (Event υ)} (agrees : Agrees sent) : ∀ response ∈ sent.getLast?.bind Event.response, ∀ i < response.output.length,
    (about i sent).getLast?.map Event.type = some .outputItemDone ∧ ∀ e ∈ about i sent, ∀ e' ∈ about i sent, named e = named e' := by
  obtain ⟨_,_,ends,final,same⟩ := agrees
  intro _ here i low
  rw [ends,bind_some,final] at here
  cases here
  obtain ⟨names,_,_,_,shape,_,_,_,_,closing⟩ := same.items i _ (getElem?_eq_getElem low)
  refine ⟨?_,fun e mem e' mem' => (names e mem).trans (names e' mem').symm⟩
  rw [← getLast?_map,shape,map_cons,map_append,closing,← cons_append,getLast?_append]
  rfl

/-- Text after the finish reason, an id that comes after the call it names, two calls
without an index. -/
theorem lateDeltasDisagree : ¬ Always step Told (start "" "" 0 ()) [chunk "a" [] (some "stop"),chunk "b" [] none] ∧
    ¬ Always step Told (start "" "" 0 ()) [chunk "" [⟨some 0,"","f","x"⟩] none,chunk "" [⟨some 0,"c","","y"⟩] none] ∧
    ¬ Always step Told (start "" "" 0 ()) [chunk "" [⟨none,"c","f","x"⟩,⟨none,"d","g","y"⟩] none] := by
  refine ⟨fun always => ?_,fun always => ?_,fun always => ?_⟩
  · have ends := agreesEnds (alwaysLast always).1
    revert ends
    decide +kernel
  · have ends := agreesEnds (alwaysLast always).1
    revert ends
    decide +kernel
  · have apart := (alwaysLast always).2
    revert apart
    decide +kernel

end Watch

end NovaPuraRouter.ChatResponses
