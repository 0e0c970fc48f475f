import NovaPuraRouter.ClaudeStream

/-! The block grammar of a Claude messages stream, which the converted stream keeps to as
long as every tool call opens with its name at the next free index. The open blocks are
those from some index on, all of one kind. -/
namespace NovaPuraRouter.ClaudeStream
open List
variable {υ : Type}

inductive Kind
  | text | thinking | tool
  deriving DecidableEq, Repr

def Block.kind : Block → Kind
  | .text => .text
  | .thinking => .thinking
  | .toolUse _ _ => .tool

def Fragment.kind : Fragment → Kind
  | .text _ => .text
  | .thinking _ => .thinking
  | .inputJson _ => .tool

def Event.opened : Event υ → Option Int
  | .blockStart i _ => some i
  | _ => none

def opens (sent : List (Event υ)) : List Int := sent.filterMap Event.opened

structure Grammatical (sent : List (Event υ)) : Prop where
  begins : ∀ e rest, sent = e :: rest → (∃ id model tokens, e = .messageStart id model tokens) ∧
    ∀ id model tokens, .messageStart id model tokens ∉ rest
  indices : opens sent = (List.range (opens sent).length).map Nat.cast
  deltas : ∀ before i d after, sent = before ++ .blockDelta i d :: after →
    (∃ b, .blockStart i b ∈ before ∧ b.kind = d.kind) ∧ .blockStop i ∉ before
  stops : ∀ before i after, sent = before ++ .blockStop i :: after → (∃ b, .blockStart i b ∈ before) ∧ .blockStop i ∉ before
  ends : ∀ before after, sent = before ++ .messageStop :: after → after = [] ∧ ∀ i b, .blockStart i b ∈ before → .blockStop i ∈ before

theorem grammaticalNil : Grammatical ([] : List (Event υ)) :=
  ⟨fun _ _ same => (nomatch same),rfl,fun before _ _ _ same => absurd same.symm (append_ne_nil_of_right_ne_nil before (cons_ne_nil _ _)),
    fun before _ _ same => absurd same.symm (append_ne_nil_of_right_ne_nil before (cons_ne_nil _ _)),
    fun before _ same => absurd same.symm (append_ne_nil_of_right_ne_nil before (cons_ne_nil _ _))⟩

def Allowed (sent : List (Event υ)) : Event υ → Prop
  | .messageStart _ _ _ => sent = []
  | .blockStart i _ => i = (opens sent).length
  | .blockDelta i d => (∃ b, .blockStart i b ∈ sent ∧ b.kind = d.kind) ∧ .blockStop i ∉ sent
  | .blockStop i => (∃ b, .blockStart i b ∈ sent) ∧ .blockStop i ∉ sent
  | .messageDelta _ _ => True
  | .messageStop => ∀ i b, .blockStart i b ∈ sent → .blockStop i ∈ sent

section Append
variable {sent : List (Event υ)}

theorem splitConcat {α : Type} {l before after : List α} {e x : α} (same : l ++ [e] = before ++ x :: after) :
    (before = l ∧ x = e) ∨ ∃ rest, after = rest ++ [e] ∧ l = before ++ x :: rest := by
  rcases eq_nil_or_concat after with nothing | ⟨rest,last,eq⟩
  · rw [nothing] at same
    obtain ⟨here,one⟩ := append_inj' same rfl
    exact .inl ⟨here.symm,(List.cons.inj one).1.symm⟩
  rw [eq,concat_eq_append,← cons_append,← append_assoc] at same
  obtain ⟨here,one⟩ := append_inj' same rfl
  refine .inr ⟨rest,?_,here⟩
  rw [eq,concat_eq_append,(List.cons.inj one).1]

theorem opensAppend (e) : opens (sent ++ [e]) = opens sent ++ e.opened.toList := by
  unfold opens
  cases opened : e.opened with
  | none | some => simp [opened]

theorem opensMem {i} : i ∈ opens sent ↔ ∃ b, .blockStart i b ∈ sent := by
  unfold opens
  rw [mem_filterMap]
  constructor
  · rintro ⟨e,mem,opened⟩
    cases e with
    | blockStart _ b =>
      cases opened
      exact ⟨b,mem⟩
    | _ => cases opened
  · rintro ⟨b,mem⟩
    exact ⟨_,mem,rfl⟩

theorem grammaticalAppend (g : Grammatical sent) {e : Event υ} (unfinished : .messageStop ∉ sent) 
    (begun : sent ≠ [] ∨ ∃ id model tokens, e = .messageStart id model tokens) (allowed : Allowed sent e) : Grammatical (sent ++ [e]) := by
  refine ⟨?_,?_,?_,?_,?_⟩
  · intro _ rest same
    cases sent with
    | nil =>
      cases same
      exact ⟨begun.resolve_left (fun something => something rfl),fun _ _ _ mem => (nomatch mem)⟩
    | cons =>
      cases same
      obtain ⟨is,nothing⟩ := g.begins _ _ rfl
      refine ⟨is,fun id model tokens mem => ?_⟩
      rcases mem_append.mp mem with old | new
      · exact nothing id model tokens old
      · cases mem_singleton.mp new
        cases allowed
  · rw [opensAppend]
    cases e with
    | blockStart i =>
      have next : i = (opens sent).length := allowed
      have indices := g.indices
      show opens sent ++ [i] = (List.range (opens sent ++ [i]).length).map Nat.cast
      rw [length_append,length_singleton,range_succ,map_append,map_singleton,← indices,next]
    | _ =>
      show opens sent ++ [] = (List.range (opens sent ++ []).length).map Nat.cast
      rw [append_nil]
      exact g.indices
  · intro before i d after same
    rcases splitConcat same with ⟨here,is⟩ | ⟨rest,_,old⟩
    · cases is
      rw [here]
      exact allowed
    · exact g.deltas before i d rest old
  · intro before i after same
    rcases splitConcat same with ⟨here,is⟩ | ⟨rest,_,old⟩
    · cases is
      rw [here]
      exact allowed
    · exact g.stops before i rest old
  · intro before _ same
    rcases splitConcat same with ⟨here,is⟩ | ⟨_,_,old⟩
    · cases is
      rw [here] at same ⊢
      have nothing := append_cancel_left same
      exact ⟨(List.cons.inj nothing).2.symm,allowed⟩
    · exact absurd (old ▸ mem_append_right before mem_cons_self) unfinished

end Append

structure Ready (sent : List (Event υ)) (lo n : Nat) (kind : Kind) : Prop where
  grammatical : Grammatical sent
  begun : sent ≠ []
  unfinished : .messageStop ∉ sent
  count : (opens sent).length = n
  within : lo ≤ n
  closed : ∀ i : Nat, i < lo → .blockStop i ∈ sent
  still : ∀ i : Nat, lo ≤ i → i < n → (∃ b, .blockStart i b ∈ sent ∧ b.kind = kind) ∧ .blockStop i ∉ sent

section Ready
variable {sent : List (Event υ)} {lo n : Nat} {kind : Kind}

theorem Ready.opened (r : Ready sent lo n kind) {i : Int} {b : Block} (mem : .blockStart i b ∈ sent) : ∃ j < n, i = (j : Nat) := by
  have inside := opensMem.mpr ⟨b,mem⟩
  rw [r.grammatical.indices,mem_map] at inside
  obtain ⟨j,low,same⟩ := inside
  exact ⟨j,r.count ▸ mem_range.mp low,same.symm⟩

theorem Ready.fresh (r : Ready sent lo n kind) : .blockStop (n : Int) ∉ sent := by
  intro mem
  obtain ⟨before,after,same⟩ := append_of_mem mem
  obtain ⟨⟨b,start⟩,_⟩ := r.grammatical.stops before n after same
  obtain ⟨j,_⟩ := r.opened (i := n) (b := b) (same ▸ mem_append_left _ start)
  omega

theorem Ready.any (r : Ready sent n n kind) (other) : Ready sent n n other :=
  { r with still := fun _ above below => absurd below (Nat.not_lt.mpr above) }

section
variable (r : Ready sent lo n kind)
include r

theorem Ready.beside (e) (allowed : Allowed sent e) (opens_ : e.opened = none)
    (ends : e ≠ .messageStop) {lo'} (within : lo' ≤ n) (closed : ∀ i : Nat, i < lo' → .blockStop i ∈ sent ++ [e])
    (still : ∀ i : Nat, lo' ≤ i → i < n → lo ≤ i ∧ e ≠ .blockStop i) : Ready (sent ++ [e]) lo' n kind := by
  refine ⟨grammaticalAppend r.grammatical r.unfinished (.inl r.begun) allowed,append_ne_nil_of_left_ne_nil r.begun _,?_,?_,within,closed,?_⟩
  · intro mem
    rcases mem_append.mp mem with old | new
    · exact r.unfinished old
    · exact ends (mem_singleton.mp new).symm
  · rw [opensAppend,opens_]
    exact (congrArg List.length (append_nil _)).trans r.count
  · intro i above below
    obtain ⟨above',other⟩ := still i above below
    obtain ⟨⟨b,start,same⟩,running⟩ := r.still i above' below
    refine ⟨⟨b,mem_append_left _ start,same⟩,fun mem => ?_⟩
    rcases mem_append.mp mem with old | new
    · exact running old
    · exact other (mem_singleton.mp new).symm

theorem Ready.delta {i} (above : lo ≤ i) (below : i < n) {d} (same : d.kind = kind) : Ready (sent ++ [.blockDelta i d]) lo n kind := by
  obtain ⟨⟨b,start,kinds⟩,running⟩ := r.still i above below
  exact r.beside (.blockDelta i d) ⟨⟨b,start,kinds.trans same.symm⟩,running⟩ rfl (fun eq => (nomatch eq)) r.within
    (fun j low => mem_append_left _ (r.closed j low)) (fun _ above' _ => ⟨above',fun eq => (nomatch eq)⟩)

theorem Ready.note (u reason) : Ready (sent ++ [.messageDelta u reason]) lo n kind :=
  r.beside (.messageDelta u reason) trivial rfl (fun eq => (nomatch eq)) r.within
    (fun j low => mem_append_left _ (r.closed j low)) (fun _ above' _ => ⟨above',fun eq => (nomatch eq)⟩)

theorem Ready.close (below : lo < n) : Ready (sent ++ [.blockStop lo]) (lo + 1) n kind := by
  obtain ⟨⟨b,start,_⟩,running⟩ := r.still lo (Nat.le_refl lo) below
  refine r.beside (.blockStop lo) ⟨⟨b,start⟩,running⟩ rfl (fun eq => (nomatch eq)) below ?_ ?_
  · intro i low
    rcases Nat.lt_succ_iff_lt_or_eq.mp low with before | same
    · exact mem_append_left _ (r.closed i before)
    · exact same ▸ mem_append_right _ (mem_singleton_self _)
  · intro i above _
    refine ⟨Nat.le_of_succ_le above,fun eq => ?_⟩
    have same := Event.blockStop.inj eq
    omega

theorem Ready.closeAll {k} (size : lo + k = n) :
    Ready (sent ++ (List.range k).map (fun offset => .blockStop (lo + offset : Nat))) n n kind := by
  have part : ∀ j ≤ k, Ready (sent ++ (List.range j).map (fun offset => .blockStop (lo + offset : Nat))) (lo + j) n kind := by
    intro j
    induction j with
    | zero =>
      intro _
      rw [range_zero,map_nil,append_nil]
      exact r
    | succ _ ih =>
      intro _
      rw [range_succ,map_append,map_singleton,← append_assoc]
      exact (ih (by omega)).close (by omega)
  exact size ▸ part k (Nat.le_refl k)

theorem Ready.start {b} (same : b.kind = kind) : Ready (sent ++ [.blockStart n b]) lo (n + 1) kind := by
  have next : (n : Int) = (opens sent).length := by rw [r.count]
  refine ⟨grammaticalAppend r.grammatical r.unfinished (.inl r.begun) next,append_ne_nil_of_left_ne_nil r.begun _,?_,?_,?_,?_,?_⟩
  · intro mem
    rcases mem_append.mp mem with old | new
    · exact r.unfinished old
    · exact (nomatch mem_singleton.mp new)
  · rw [opensAppend]
    exact length_append.trans (congrArg (· + 1) r.count)
  · exact Nat.le_succ_of_le r.within
  · intro i low
    exact mem_append_left _ (r.closed i low)
  · intro i above below
    have running : ∀ {j : Nat}, .blockStop (j : Int) ∉ sent → .blockStop (j : Int) ∉ sent ++ [.blockStart (n : Int) b] := by
      intro j nothing mem
      rcases mem_append.mp mem with old | new
      · exact nothing old
      · exact (nomatch mem_singleton.mp new)
    rcases Nat.lt_succ_iff_lt_or_eq.mp below with before | last
    · obtain ⟨⟨c,start,kinds⟩,open_⟩ := r.still i above before
      exact ⟨⟨c,mem_append_left _ start,kinds⟩,running open_⟩
    · rw [last]
      exact ⟨⟨b,mem_append_right _ (mem_singleton_self _),same⟩,running r.fresh⟩

end

theorem Ready.finish (r : Ready sent n n kind) : Grammatical (sent ++ [.messageStop]) := by
  refine grammaticalAppend r.grammatical r.unfinished (.inl r.begun) (fun i b mem => ?_)
  obtain ⟨j,low,same⟩ := r.opened mem
  exact same ▸ r.closed j low

end Ready

variable (s : Stream υ)

def Stream.Tracks : Prop := match s.lastMessagesType with
  | .none => ∃ kind, Ready s.sent s.index s.index kind
  | .text => Ready s.sent s.index (s.index + 1) .text
  | .thinking => Ready s.sent s.index (s.index + 1) .thinking
  | .tools => Ready s.sent s.toolCallBaseIndex (s.toolCallBaseIndex + s.toolCallMaxIndexOffset + 1) .tool

def Stream.Keeping : Prop :=
  (s.sendResponseCount = 0 ∧ s.sent = [] ∧ s.lastMessagesType = .none ∧ s.index = 0 ∧ s.done = false) ∨
  (0 < s.sendResponseCount ∧ s.done = true ∧ Grammatical s.sent) ∨
  (0 < s.sendResponseCount ∧ s.done = false ∧ s.Tracks)

/- Each call either opens with its name at the next index or goes on, without its name,
with one that is open. -/
def Orderly (n i : Nat) : List ToolCall → Prop
  | [] => True
  | call :: rest =>
    (call.name ≠ "" ∧ call.index.getD i = n ∧ Orderly (n + 1) (i + 1) rest) ∨
    (call.name = "" ∧ 0 ≤ call.index.getD i ∧ call.index.getD i < n ∧ Orderly n (i + 1) rest)

instance Orderly.decide : (n i : Nat) → (calls : List ToolCall) → Decidable (Orderly n i calls)
  | _,_,[] => .isTrue trivial
  | n,i,_ :: rest =>
    have := Orderly.decide (n + 1) (i + 1) rest
    have := Orderly.decide n (i + 1) rest
    inferInstanceAs (Decidable (_ ∨ _))

def Stream.openCalls : Nat := if s.lastMessagesType = .tools then s.toolCallMaxIndexOffset + 1 else 0

def Choice.converted (choice : Choice) (usage : Option υ) : Bool := choice.finish?.isNone || usage.isSome

def Stream.OrderlyCalls (d : Delivery υ) : Prop :=
  0 < s.sendResponseCount → s.done = false → ∀ choice ∈ d.chunk.choices.head?,
    choice.converted d.chunk.usage = true → Orderly s.openCalls 0 choice.delta.toolCalls

instance (s : Stream υ) (d) : Decidable (s.OrderlyCalls d) := by unfold Stream.OrderlyCalls; infer_instance

section Blocks
variable {s : Stream υ}

section
variable (tracks : s.Tracks)
include tracks

theorem stopTracks : ∃ n kind, Ready s.stopOpenBlocks.sent n n kind := by
  unfold Stream.Tracks at tracks
  unfold Stream.stopOpenBlocks
  cases last : s.lastMessagesType with
  | none =>
    rw [last] at tracks
    exact ⟨_,tracks⟩
  | text | thinking =>
    rw [last] at tracks
    exact ⟨_,_,tracks.close (Nat.lt_succ_self _)⟩
  | tools =>
    rw [last] at tracks
    exact ⟨_,_,tracks.closeAll (Nat.add_assoc _ _ 1).symm⟩

theorem advanceTracks : ∃ kind, Ready s.stopOpenBlocksAndAdvance.sent
    s.stopOpenBlocksAndAdvance.index s.stopOpenBlocksAndAdvance.index kind := by
  unfold Stream.Tracks at tracks
  unfold Stream.stopOpenBlocksAndAdvance Stream.stopOpenBlocks
  cases last : s.lastMessagesType with
  | none =>
    rw [last] at tracks
    exact tracks
  | text | thinking =>
    rw [last] at tracks
    exact ⟨_,tracks.close (Nat.lt_succ_self _)⟩
  | tools =>
    rw [last] at tracks
    exact ⟨_,tracks.closeAll (Nat.add_assoc _ _ 1).symm⟩

theorem finishGrammatical (usage reason) : Grammatical (s.finish usage reason).sent := by
  obtain ⟨n,_,ready⟩ := stopTracks tracks
  cases usage with
  | none => exact ready.finish
  | some u => exact (ready.note u reason).finish

theorem openReady {type} (other : s.lastMessagesType ≠ type) (block) :
    Ready (s.openBlock type block).sent (s.openBlock type block).index ((s.openBlock type block).index + 1) block.kind := by
  obtain ⟨_,ready⟩ := advanceTracks tracks
  unfold Stream.openBlock
  simp only [other,ne_eq,not_false_eq_true,if_true]
  exact (ready.any block.kind).start rfl

theorem enterReady {type block} (here : s.lastMessagesType = type → Ready s.sent s.index (s.index + 1) block.kind) :
    Ready (s.enterBlock type block).sent (s.enterBlock type block).index ((s.enterBlock type block).index + 1) block.kind ∧
      (s.enterBlock type block).lastMessagesType = type := by
  unfold Stream.enterBlock
  split
  · rename_i other
    exact ⟨openReady tracks other block,rfl⟩
  · rename_i same
    exact ⟨here (not_not.mp same),not_not.mp same⟩

end

theorem writeTracks {type kind} (types : type = .text ∧ kind = .text ∨ type = .thinking ∧ kind = .thinking)
    (last : s.lastMessagesType = type) (ready : Ready s.sent s.index (s.index + 1) kind) {d} (same : d.kind = kind) :
    (s.emit (.blockDelta s.index d)).Tracks := by
  have written := ready.delta (Nat.le_refl s.index) (Nat.lt_succ_self _) same
  have after : (s.emit (.blockDelta s.index d)).lastMessagesType = type := last
  unfold Stream.Tracks
  rcases types with ⟨rfl,rfl⟩ | ⟨rfl,rfl⟩
  · rw [after]
    exact written
  · rw [after]
    exact written

theorem tracksText (tracks : s.Tracks) (last : s.lastMessagesType = .text) : Ready s.sent s.index (s.index + 1) .text := by
  unfold Stream.Tracks at tracks
  rw [last] at tracks
  exact tracks

theorem tracksThinking (tracks : s.Tracks) (last : s.lastMessagesType = .thinking) : Ready s.sent s.index (s.index + 1) .thinking := by
  unfold Stream.Tracks at tracks
  rw [last] at tracks
  exact tracks

theorem contentTracks (tracks : s.Tracks) (delta) : (s.contentChunk delta).Tracks := by
  unfold Stream.contentChunk
  split
  · obtain ⟨ready,last⟩ := @enterReady _ s tracks .thinking .thinking (tracksThinking tracks)
    exact writeTracks (.inr ⟨rfl,rfl⟩) last ready rfl
  split
  · obtain ⟨ready,last⟩ := @enterReady _ s tracks .text .text (tracksText tracks)
    exact writeTracks (.inl ⟨rfl,rfl⟩) last ready rfl
  · exact tracks

end Blocks

section Tools
variable {s : Stream υ}

structure Stream.Held (s : Stream υ) (n : Nat) : Prop where
  ready : Ready s.sent s.toolCallBaseIndex (s.toolCallBaseIndex + n) .tool
  greatest : s.toolCallMaxIndexOffset = n - 1

theorem enterToolsHeld (tracks : s.Tracks) : s.enterTools.Held s.openCalls := by
  unfold Stream.enterTools Stream.openCalls
  split
  · obtain ⟨_,ready⟩ := advanceTracks tracks
    exact ⟨ready.any .tool,rfl⟩
  rename_i tools
  unfold Stream.Tracks at tracks
  rw [not_not.mp tools] at tracks
  rw [if_pos (not_not.mp tools)]
  exact ⟨tracks,rfl⟩

variable {n i : Nat}

theorem openCallHeld (held : s.Held n) {call : ToolCall} (named : call.name ≠ "") (next : call.index.getD i = n) :
    (s.toolCallDelta i call).Held (n + 1) := by
  have greatest : (if (n : Int) > s.toolCallMaxIndexOffset then { s with toolCallMaxIndexOffset := (n : Int).toNat }
    else s).toolCallMaxIndexOffset = n := by
    rw [held.greatest]
    split
    · exact Int.toNat_natCast n
    · rename_i low
      rw [held.greatest]
      omega
  have sent : (if (n : Int) > s.toolCallMaxIndexOffset then { s with toolCallMaxIndexOffset := (n : Int).toNat } else s).sent = s.sent := by
    split
    · rfl
    · rfl
  have base : (if (n : Int) > s.toolCallMaxIndexOffset then { s with toolCallMaxIndexOffset := (n : Int).toNat }
    else s).toolCallBaseIndex = s.toolCallBaseIndex := by
    split
    · rfl
    · rfl
  have opened := held.ready.start (b := .toolUse call.id call.name) rfl
  unfold Stream.toolCallDelta
  rw [next]
  dsimp only
  split
  · refine ⟨?_,greatest⟩
    dsimp only [Stream.emit]
    rw [sent,base]
    exact opened.delta (Nat.le_add_right _ _) (Nat.lt_succ_self _) rfl
  · refine ⟨?_,greatest⟩
    dsimp only [Stream.emit]
    rw [sent,base]
    exact opened

theorem goOnHeld (held : s.Held n) {call : ToolCall} (unnamed : call.name = "") (low : 0 ≤ call.index.getD i)
    (below : call.index.getD i < n) : (s.toolCallDelta i call).Held n := by
  obtain ⟨o,same⟩ := Int.eq_ofNat_of_zero_le low
  have small : ¬ ((o : Int) > s.toolCallMaxIndexOffset) := by
    rw [held.greatest]
    omega
  have index : ((s.toolCallBaseIndex : Int) + (o : Int)) = ((s.toolCallBaseIndex + o : Nat) : Int) := (Int.natCast_add _ _).symm
  unfold Stream.toolCallDelta
  rw [same]
  dsimp only
  rw [if_neg small,if_neg (not_not.mpr unnamed),index]
  split
  · exact ⟨held.ready.delta (Nat.le_add_right _ _) (by omega) rfl,held.greatest⟩
  · exact held

theorem toolCallsHeld {calls} (held : s.Held n) (orderly : Orderly n i calls) :
    ∃ m, n ≤ m ∧ (calls ≠ [] → 0 < m) ∧ (s.toolCallDeltas i calls).Held m := by
  induction calls generalizing s n i with
  | nil => exact ⟨n,Nat.le_refl n,fun something => absurd rfl something,held⟩
  | cons _ _ ih =>
    rcases orderly with ⟨named,next,later⟩ | ⟨unnamed,low,below,later⟩
    · obtain ⟨m,more,_,after⟩ := ih (openCallHeld held named next) later
      exact ⟨m,by omega,fun _ => by omega,after⟩
    · obtain ⟨m,more,_,after⟩ := ih (goOnHeld held unnamed low below) later
      exact ⟨m,more,fun _ => by omega,after⟩

theorem toolCallsTracks (tracks : s.Tracks) {calls} (something : calls ≠ []) (orderly : Orderly s.openCalls 0 calls) :
    (s.toolCallsChunk calls).Tracks := by
  obtain ⟨m,_,positive,held⟩ := toolCallsHeld (enterToolsHeld tracks) orderly
  have last : (s.toolCallsChunk calls).lastMessagesType = .tools := (toolCallsFrame s.enterTools 0 calls).last.trans (enterToolsLast s)
  have size : (s.enterTools.toolCallDeltas 0 calls).toolCallMaxIndexOffset + 1 = m := by
    have greatest := held.greatest
    have more := positive something
    omega
  unfold Stream.Tracks
  rw [last]
  have ready := held.ready
  rw [← size] at ready
  exact ready

theorem deltaTracks (tracks : s.Tracks) (delta) (orderly : Orderly s.openCalls 0 delta.toolCalls) : (s.deltaChunk delta).Tracks := by
  unfold Stream.deltaChunk
  split
  · rename_i something
    exact toolCallsTracks tracks something orderly
  · exact contentTracks tracks delta

end Tools

section First
variable {s : Stream υ}

theorem startReady (id model tokens) : Ready ([.messageStart id model tokens] : List (Event υ)) 0 0 .text :=
  ⟨grammaticalAppend grammaticalNil not_mem_nil (.inr ⟨id,model,tokens,rfl⟩) rfl,cons_ne_nil _ _,by simp,rfl,Nat.le_refl 0,
    fun _ low => absurd low (Nat.not_lt_zero _),fun _ _ low => absurd low (Nat.not_lt_zero _)⟩

theorem firstToolTracks (last : s.lastMessagesType = .none) (index : s.index = 0) {kind} (ready : Ready s.sent 0 0 kind)
    (calls) : (s.firstToolCall calls).Tracks ∧
      ((s.firstToolCall calls).lastMessagesType = .none ∨ (s.firstToolCall calls).lastMessagesType = .tools) := by
  unfold Stream.firstToolCall
  split
  · refine ⟨?_,.inl last⟩
    unfold Stream.Tracks
    rw [last,index]
    exact ⟨kind,ready⟩
  · rename_i call _
    have opened := (ready.any .tool).start (b := .toolUse call.id call.name) rfl
    split
    · exact ⟨opened.delta (Nat.le_refl 0) Nat.one_pos rfl,.inr rfl⟩
    · exact ⟨opened,.inr rfl⟩

theorem firstContentTracks (tracks : s.Tracks) (last : s.lastMessagesType = .none ∨ s.lastMessagesType = .tools) (delta) :
    (s.firstContent delta).Tracks := by
  have other : ∀ {type}, type = LastMessageType.text ∨ type = .thinking → s.lastMessagesType ≠ type := by
    rintro _ (rfl | rfl) same
    · rcases last with is | is
      · cases is.symm.trans same
      · cases is.symm.trans same
    · rcases last with is | is
      · cases is.symm.trans same
      · cases is.symm.trans same
  unfold Stream.firstContent
  split
  · exact writeTracks (.inr ⟨rfl,rfl⟩) rfl (openReady tracks (other (.inr rfl)) .thinking) rfl
  · split
    · exact writeTracks (.inl ⟨rfl,rfl⟩) rfl (openReady tracks (other (.inl rfl)) .text) rfl
    · exact tracks

end First

section Step
variable {s : Stream υ}

section
variable (count : 0 < s.sendResponseCount)
include count

theorem finishKeeping (tracks : s.Tracks) (usage reason) : (s.finish usage reason).Keeping := by
  have frame := (stopFrame s).count
  refine .inr (.inl ⟨?_,rfl,finishGrammatical tracks usage reason⟩)
  cases usage with
  | none | some => exact frame.symm ▸ count

theorem firstKeeping (sent : s.sent = []) (last : s.lastMessagesType = .none) (index : s.index = 0)
    (done : s.done = false) (chunk) : (s.firstChunk chunk).Keeping := by
  have ready : Ready (s.emit (.messageStart chunk.id chunk.model s.estimatePromptTokens)).sent 0 0 .text := by
    unfold Stream.emit
    rw [sent]
    exact startReady _ _ _
  unfold Stream.firstChunk
  dsimp only
  split
  · refine .inr (.inr ⟨count,done,?_⟩)
    dsimp only [Stream.emit] at ready ⊢
    rw [last,index]
    exact ⟨_,ready⟩
  · rename_i choice _ _
    obtain ⟨tools,type⟩ := @firstToolTracks _ (s.emit (.messageStart chunk.id chunk.model s.estimatePromptTokens)) last
      index _ ready choice.delta.toolCalls
    have tracks := firstContentTracks tools type choice.delta
    have frame := ((emitFrame s (.messageStart chunk.id chunk.model s.estimatePromptTokens)).trans
      (firstToolFrame _ choice.delta.toolCalls)).trans
      (firstContentFrame _ choice.delta)
    generalize Stream.firstContent _ choice.delta = after at tracks frame ⊢
    split
    · exact .inr (.inr ⟨frame.count.symm ▸ count,frame.done.trans done,tracks⟩)
    · rename_i reason _
      exact @finishKeeping _ { after with finishReason := reason } (frame.count.symm ▸ count) tracks _ _

theorem choiceKeeping (done : s.done = false) (tracks : s.Tracks) (choice usage)
    (orderly : choice.converted usage = true → Orderly s.openCalls 0 choice.delta.toolCalls) : (s.choiceChunk choice usage).Keeping := by
  unfold Stream.choiceChunk
  unfold Choice.converted at orderly
  split
  · rename_i nothing
    have frame := deltaFrame s choice.delta
    exact .inr (.inr ⟨frame.count.symm ▸ count,frame.done.trans done,deltaTracks tracks choice.delta (orderly (by rw [nothing]; rfl))⟩)
  · exact .inr (.inr ⟨count,done,tracks⟩)
  rename_i reason u _
  have frame := deltaFrame { s with finishReason := reason } choice.delta
  have calls := orderly (Bool.or_true _)
  exact finishKeeping (frame.count.symm ▸ count) (@deltaTracks _ { s with finishReason := reason } tracks choice.delta calls) _ _

end

theorem laterKeeping (count : 1 < s.sendResponseCount) (done : s.done = false) (tracks : s.Tracks) (chunk)
    (orderly : ∀ choice ∈ chunk.choices.head?, choice.converted chunk.usage = true → Orderly s.openCalls 0 choice.delta.toolCalls) :
    (s.streamResponseOpenAI2Claude chunk).Keeping := by
  have positive : 0 < s.sendResponseCount := Nat.zero_lt_of_lt count
  unfold Stream.streamResponseOpenAI2Claude
  rw [if_neg (Bool.eq_false_iff.mp done),if_neg (Nat.ne_of_gt count)]
  split
  · unfold Stream.usageChunk
    split
    · exact .inr (.inr ⟨positive,done,tracks⟩)
    · exact finishKeeping positive tracks _ _
  · rename_i choice _ same
    exact choiceKeeping positive done tracks choice chunk.usage (orderly choice (by rw [same]; rfl))

theorem stepKeeping (s : Stream υ) (d) (keeping : s.Keeping) (orderly : s.OrderlyCalls d) : (s.step d).Keeping := by
  rcases keeping with ⟨zero,sent,last,index,done⟩ | ⟨positive,done,grammatical⟩ | ⟨positive,done,tracks⟩
  · have one : (s.receive d).sendResponseCount = 1 := congrArg (· + 1) zero
    have running : ¬ (s.receive d).done = true := Bool.eq_false_iff.mp done
    unfold Stream.step Stream.streamResponseOpenAI2Claude
    rw [if_neg running,if_pos one]
    exact @firstKeeping _ (s.receive d) (one.symm ▸ Nat.one_pos) sent last index done d.chunk
  · have over_ : (s.receive d).done = true := done
    unfold Stream.step Stream.streamResponseOpenAI2Claude
    rw [if_pos over_]
    exact .inr (.inl ⟨Nat.succ_pos _,done,grammatical⟩)
  · exact @laterKeeping _ (s.receive d) (Nat.succ_lt_succ positive) done tracks d.chunk (orderly positive done)

theorem keepingGrammatical (s : Stream υ) (keeping : s.Keeping) : Grammatical s.sent := by
  rcases keeping with ⟨_,sent,_⟩ | ⟨_,_,grammatical⟩ | ⟨_,_,tracks⟩
  · rw [sent]
    exact grammaticalNil
  · exact grammatical
  unfold Stream.Tracks at tracks
  split at tracks
  · obtain ⟨_,ready⟩ := tracks
    exact ready.grammatical
  · exact tracks.grammatical
  · exact tracks.grammatical
  · exact tracks.grammatical

end Step

theorem claudeGrammar (estimatePromptTokens : Int) (deliveries : List (Delivery υ))
    (orderly : Along Stream.step Stream.OrderlyCalls (.start estimatePromptTokens) deliveries) :
    Always Stream.step (fun s => Grammatical s.sent) (.start estimatePromptTokens) deliveries :=
  alwaysMono keepingGrammatical (alwaysKept stepKeeping (.inl ⟨rfl,rfl,rfl,rfl,rfl⟩) orderly)

def textDelta (s : String) : Delta := ⟨some s,none,none,[]⟩

def callsDelta (calls : List ToolCall) : Delta := ⟨none,none,none,calls⟩

def chunkOf (delta : Delta) (finishReason : Option String) (usage : Option Unit) : Delivery Unit :=
  ⟨usage,⟨"c","m",[⟨delta,finishReason⟩],usage⟩⟩

theorem claudeGrammarSample : Always Stream.step (fun s => Grammatical s.sent) (.start 7)
    [chunkOf (textDelta "hi") none none,chunkOf (callsDelta [⟨some 0,"a","f",""⟩,⟨some 1,"b","g",""⟩]) none none,
      chunkOf (callsDelta [⟨some 1,"","","x"⟩]) none none,chunkOf (callsDelta [⟨some 0,"","","y"⟩]) (some "tool_calls") (some ())] :=
  claudeGrammar 7 _ (by decide)

theorem toolOrderBreaksGrammar : ¬ Always Stream.step (fun s => Grammatical s.sent) (.start 7)
    [chunkOf (textDelta "hi") none none,chunkOf (callsDelta [⟨some 1,"b","g",""⟩]) none none,
      chunkOf (callsDelta [⟨some 0,"a","f",""⟩]) none none] := by
  intro always
  have last := alwaysLast always
  have indices := last.indices
  revert indices
  decide

end NovaPuraRouter.ClaudeStream
