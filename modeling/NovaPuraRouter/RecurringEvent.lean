import NovaPuraRouter.Execution
import NovaPuraRouter.Table

/-! The row that keeps a recurring webhook event from being handled twice. Workers claim it
under a lease without an owner, run the handler and write the outcome. Claims and writes are
single statements; between them a worker may be slow or stop. -/
namespace NovaPuraRouter.RecurringEvent
open Option Table

inductive EventStatus
  | processing | processed | manualReview
  deriving DecidableEq, Repr

structure EventRow where
  status : EventStatus
  leaseUntil : Nat
  attempts : Nat
  deriving DecidableEq, Repr

def lease : Nat := 5 * 60

inductive Claim
  | claimed
  | terminal (status : EventStatus)
  deriving DecidableEq, Repr

def claimStripeWebhookEvent (row : Option EventRow) (now : Nat) : Claim × EventRow := match row with
  | none => (.claimed,⟨.processing,now + lease,1⟩)
  | some existing => match existing.status with
    | .processed => (.terminal .processed,existing)
    | .manualReview => (.terminal .manualReview,existing)
    | .processing =>
      if now < existing.leaseUntil then (.terminal .processing,existing)
      else (.claimed,⟨.processing,now + lease,existing.attempts + 1⟩)

def finalizeUpdate (row : Option EventRow) (status : EventStatus) (now : Nat) : Option EventRow := match row with
  | none => none
  | some r => if r.status = .processing ∧ now ≤ r.leaseUntil then some { r with status := status, leaseUntil := 0 } else none

inductive HandlerOutcome
  | ok | mismatch | notHandled | failed
  deriving DecidableEq, Repr

inductive Result
  | ok | pending | mismatch | failed
  deriving DecidableEq, Repr

inductive Phase
  | running
  | handled (outcome : HandlerOutcome)
  | rechecking (status : EventStatus)
  | returned (result : Result)
  | crashed
  deriving DecidableEq, Repr

structure Worker where
  leaseUntil : Nat
  phase : Phase
  deriving DecidableEq, Repr

def finalizedResult : EventStatus → Result
  | .processed => .ok
  | _ => .mismatch

def HandlerOutcome.status : HandlerOutcome → Option EventStatus
  | .ok | .notHandled => some .processed
  | .mismatch => some .manualReview
  | .failed => none

structure Server where
  clock : Nat
  row : Option EventRow
  workers : Table Nat Worker
  succeeded : Bool
  written : List EventStatus

def Server.fresh (clock : Nat) : Server := ⟨clock,none,.empty,false,[]⟩

inductive Act
  | deliver
  | deliverMismatched
  | handle (worker : Nat) (outcome : HandlerOutcome)
  | finalize (worker : Nat)
  | recheck (worker : Nat)
  | crash (worker : Nat)

structure Event where
  elapsed : Nat
  act : Act

def claimedPhase (first : Phase) : Claim → Phase
  | .claimed => first
  | .terminal .manualReview => .returned .mismatch
  | .terminal .processing => .returned .pending
  | .terminal .processed => .returned .ok

def mismatchedPhase : Claim → Phase
  | .claimed => .handled .mismatch
  | .terminal _ => .returned .mismatch

section Step
variable (s : Server) (now : Nat)

def Server.claim (phase : Claim → Phase) : Server :=
  let (claim,row) := claimStripeWebhookEvent s.row now
  { s with row := some row, workers := s.workers.append ⟨now + lease,phase claim⟩ }

variable (id : Nat)

def Server.setPhase (phase : Phase) : Server :=
  { s with workers := s.workers.modify id (fun w => { w with phase := phase }) }

def Server.handle (outcome : HandlerOutcome) : Server := match s.workers.get? id with
  | some ⟨_,.running⟩ => { s.setPhase id (.handled outcome) with succeeded := s.succeeded || decide (outcome = .ok) }
  | _ => s

def Server.finalizeStripeWebhookEvent (status : EventStatus) : Server := match finalizeUpdate s.row status now with
  | some row => { s.setPhase id (.returned (finalizedResult status)) with row := some row, written := status :: s.written }
  | none => s.setPhase id (.rechecking status)

def Server.finalize : Server := match s.workers.get? id with
  | some ⟨_,.handled outcome⟩ => match outcome.status with
    | some status => s.finalizeStripeWebhookEvent now id status
    | none => s.setPhase id (.returned .failed)
  | _ => s

def Server.recheck : Server := match s.workers.get? id with
  | some ⟨_,.rechecking status⟩ =>
    s.setPhase id (.returned (if s.row.map EventRow.status = some status then finalizedResult status else .failed))
  | _ => s

def Server.crash : Server := match s.workers.get? id with
  | some ⟨_,.returned _⟩ => s
  | _ => s.setPhase id .crashed

def Server.perform : Act → Server
  | .deliver => s.claim now (claimedPhase .running)
  | .deliverMismatched => s.claim now mismatchedPhase
  | .handle id outcome => s.handle id outcome
  | .finalize id => s.finalize now id
  | .recheck id => s.recheck id
  | .crash id => s.crash id

def Server.tick (elapsed : Nat) : Server := { s with clock := s.clock + elapsed }

def Server.step (e : Event) : Server := (s.tick e.elapsed).perform (s.clock + e.elapsed) e.act

end Step

def Server.Once (s : Server) : Prop := s.written.length ≤ 1 ∧ ∀ status ∈ s.written, s.row.map EventRow.status = some status

structure Server.Truthful (s : Server) : Prop where
  acknowledged : ∀ id w, s.workers.get? id = some w → w.phase = .returned .ok → s.succeeded = true
  once : s.Once
  reviewed : s.row.map EventRow.status = some .manualReview → s.succeeded = false

inductive Effect (s : Server) (now : Nat) : Act → Server → Prop
  | idle {act : Act} : Effect s now act s
  | claimed {act : Act} {row : EventRow} {first : Phase} (free : ∀ r ∈ s.row, r.status = .processing ∧ r.leaseUntil ≤ now)
      (processing : row.status = .processing) (leased : row.leaseUntil = now + lease)
      (begun : first = .running ∨ first = .handled .mismatch) :
      Effect s now act { s with row := some row, workers := s.workers.append ⟨now + lease,first⟩ }
  | refused {act : Act} {r : EventRow} {result : Result} (row : s.row = some r) (answer : result = .ok → r.status = .processed) :
      Effect s now act { s with workers := s.workers.append ⟨now + lease,.returned result⟩ }
  | handled {id until_ : Nat} {outcome : HandlerOutcome} (found : s.workers.get? id = some ⟨until_,.running⟩) :
      Effect s now (.handle id outcome)
        { s.setPhase id (.handled outcome) with succeeded := s.succeeded || decide (outcome = .ok) }
  | finalized {id until_ : Nat} {outcome : HandlerOutcome} {status : EventStatus} {r row : EventRow}
      (found : s.workers.get? id = some ⟨until_,.handled outcome⟩) (wanted : outcome.status = some status)
      (before : s.row = some r) (processing : r.status = .processing) (after : row.status = status) :
      Effect s now (.finalize id)
        { s.setPhase id (.returned (finalizedResult status)) with row := some row, written := status :: s.written }
  | late {id until_ : Nat} {outcome : HandlerOutcome} {status : EventStatus}
      (found : s.workers.get? id = some ⟨until_,.handled outcome⟩) (wanted : outcome.status = some status)
      (closed : ∀ r ∈ s.row, r.status = .processing → r.leaseUntil < now) : Effect s now (.finalize id) (s.setPhase id (.rechecking status))
  | failed {id until_ : Nat} (found : s.workers.get? id = some ⟨until_,.handled .failed⟩) :
      Effect s now (.finalize id) (s.setPhase id (.returned .failed))
  | rechecked {id until_ : Nat} {status : EventStatus} {result : Result} (found : s.workers.get? id = some ⟨until_,.rechecking status⟩) :
      Effect s now (.recheck id) (s.setPhase id (.returned result))
  | crashed {id : Nat} : Effect s now (.crash id) (s.setPhase id .crashed)

section Effect
variable {s : Server} {now : Nat}

theorem claimEffect {act phase} (begun : phase .claimed = .running ∨ phase .claimed = .handled .mismatch)
    (answer : ∀ status, ∃ result, phase (.terminal status) = .returned result ∧ (result = .ok → status = .processed)) :
    Effect s now act (s.claim now phase) := by
  unfold Server.claim claimStripeWebhookEvent
  have refused : ∀ r, s.row = some r →
      Effect s now act { s with row := some r, workers := s.workers.append ⟨now + lease,phase (.terminal r.status)⟩ } := by
    intro r row
    obtain ⟨_,same,only⟩ := answer r.status
    rw [same,← row]
    exact .refused row only
  cases row : s.row with
  | none =>
    refine .claimed (fun r mem => ?_) rfl rfl begun
    rw [row] at mem
    cases mem
  | some r =>
    have known := refused r row
    dsimp only
    cases status : r.status with
    | processed | manualReview =>
      rw [status] at known
      exact known
    | processing =>
      rw [status] at known
      dsimp only
      split
      · exact known
      rename_i free
      refine .claimed (fun r' mem => ?_) rfl rfl begun
      rw [row] at mem
      cases mem
      exact ⟨status,not_lt.mp free⟩

theorem finalizeEffect (id) : Effect s now (.finalize id) (s.finalize now id) := by
  unfold Server.finalize
  split
  · rename_i until_ outcome found
    cases wanted : outcome.status with
    | none =>
      cases outcome <;> cases wanted
      exact .failed found
    | some =>
      unfold Server.finalizeStripeWebhookEvent finalizeUpdate
      cases row : s.row with
      | none =>
        refine .late found wanted (fun r mem => ?_)
        rw [row] at mem
        cases mem
      | some =>
        dsimp only
        split
        · rename_i update
          obtain ⟨here,same⟩ := ite_none_right_eq_some.mp update
          cases same
          exact .finalized found wanted row here.1 rfl
        · rename_i update
          refine .late found wanted (fun r' mem processing => ?_)
          rw [row] at mem
          cases mem
          by_contra leased
          rw [if_pos ⟨processing,not_lt.mp leased⟩] at update
          cases update
  · exact .idle

theorem performEffect (act) : Effect s now act (s.perform now act) := by
  cases act with
  | deliver =>
    refine claimEffect (.inl rfl) (fun status => ?_)
    cases status with
    | processing => exact ⟨_,rfl,fun same => by cases same⟩
    | processed => exact ⟨_,rfl,fun _ => rfl⟩
    | manualReview => exact ⟨_,rfl,fun same => by cases same⟩
  | deliverMismatched => exact claimEffect (.inr rfl) (fun status => ⟨_,rfl,fun same => by cases same⟩)
  | handle =>
    simp only [Server.perform,Server.handle]
    split
    · rename_i found
      exact .handled found
    · exact .idle
  | finalize id => exact finalizeEffect id
  | recheck =>
    simp only [Server.perform,Server.recheck]
    split
    · rename_i found
      exact .rechecked found
    · exact .idle
  | crash =>
    simp only [Server.perform,Server.crash]
    split
    · exact .idle
    · exact .crashed

theorem setPhaseGet {id j phase w} (found : (s.setPhase id phase).workers.get? j = some w) :
    (j = id ∧ ∃ until_ old, s.workers.get? id = some ⟨until_,old⟩ ∧ w = ⟨until_,phase⟩) ∨ j ≠ id ∧ s.workers.get? j = some w := by
  rcases modifyCases found with ⟨old,row,here,rfl⟩ | other
  · exact .inl ⟨here,old.leaseUntil,old.phase,row,rfl⟩
  · exact .inr other

end Effect

section Once
variable {s s' : Server} {now : Nat} {act : Act}

structure Kept (s : Server) : Prop where
  once : s.Once
  open_ : (∀ r ∈ s.row, r.status = .processing) → s.written = []

theorem outcomeTerminal {outcome : HandlerOutcome} {status} (wanted : outcome.status = some status) : status ≠ .processing := by
  cases outcome <;> cases wanted <;> exact EventStatus.noConfusion

theorem effectKept (kept : Kept s) (effect : Effect s now act s') : Kept s' := by
  cases effect with
  | claimed free =>
    have nothing := kept.open_ (fun r mem => (free r mem).1)
    refine ⟨⟨kept.once.1,fun status mem => ?_⟩,fun _ => nothing⟩
    simp only [nothing] at mem
    cases mem
  | finalized _ wanted before processing after =>
    have nothing := kept.open_ (fun r mem => by cases before.symm.trans mem; exact processing)
    refine ⟨⟨?_,fun status mem => ?_⟩,fun still => ?_⟩
    · simp only [nothing,List.length_singleton,le_refl]
    · simp only [nothing,List.mem_singleton] at mem
      rw [mem]
      exact congrArg some after
    · exact absurd (after.symm.trans (still _ rfl)) (outcomeTerminal wanted)
  | idle => exact kept
  | refused | handled | late | failed | rechecked | crashed => exact { kept with }

theorem stepKept (s e) (kept : Kept s) : Kept (s.step e) := by
  have ticked : Kept (s.tick e.elapsed) := { kept with }
  exact effectKept ticked (performEffect e.act)

theorem freshKept (clock) : Kept (.fresh clock) := by
  refine ⟨⟨Nat.zero_le 1,fun _ mem => ?_⟩,fun _ => rfl⟩
  cases mem

end Once

theorem writtenOnce (clock events) : Always Server.step Server.Once (.fresh clock) events :=
  alwaysOfKeeps stepKept (fun _ kept => kept.once) events (freshKept clock)

def Phase.active : Phase → Bool
  | .running | .handled _ => true
  | _ => false

/- Of the active workers only the last claimant can be within its lease, and a success
that is not written yet is within it. -/
structure Orderly (s : Server) : Prop where
  bound : ∀ id w, s.workers.get? id = some w → w.phase.active = true →
    ∃ r, s.row = some r ∧ (r.status = .processing → w.leaseUntil ≤ r.leaseUntil)
  owner : ∀ id w, s.workers.get? id = some w → w.phase.active = true → s.clock < w.leaseUntil →
    ∃ r, s.row = some r ∧ r.status = .processing ∧ r.leaseUntil = w.leaseUntil
  alone : ∀ id w id' w', s.workers.get? id = some w → s.workers.get? id' = some w' → w.phase.active = true →
    w'.phase.active = true → w.leaseUntil = w'.leaseUntil → id = id'
  unwritten : ∀ id w, s.workers.get? id = some w → w.phase = .handled .ok → s.clock < w.leaseUntil ∧ s.succeeded = true
  handled : ∀ id w, s.workers.get? id = some w → w.phase ≠ .handled .notHandled ∧ ∀ status, w.phase ≠ .rechecking status
  success : s.succeeded = true → (∃ id w, s.workers.get? id = some w ∧ w.phase = .handled .ok) ∨
    ∃ r, s.row = some r ∧ r.status = .processed
  processed : ∀ r, s.row = some r → r.status = .processed → s.succeeded = true
  reviewed : ∀ r, s.row = some r → r.status = .manualReview → s.succeeded = false
  acknowledged : ∀ id w, s.workers.get? id = some w → w.phase = .returned .ok → s.succeeded = true

/- The condition on a worker: the handler's work counts only within the lease, and what was
done is written within it. -/
def Act.Timely (s : Server) (now : Nat) : Act → Prop
  | .handle id outcome => outcome ≠ .notHandled ∧ (outcome = .ok → (s.workers.get? id).all (fun w => now < w.leaseUntil) = true)
  | .finalize id => (s.workers.get? id).all (fun w => now < w.leaseUntil) = true
  | .crash id => (s.workers.get? id).all (fun w => w.phase ≠ .handled .ok) = true
  | _ => True

instance (s now act) : Decidable (Act.Timely s now act) := by
  cases act <;> unfold Act.Timely <;> infer_instance

def Server.Timely (s : Server) (e : Event) : Prop :=
  (∀ r ∈ s.workers.rows, r.2.phase = .handled .ok → s.clock + e.elapsed < r.2.leaseUntil) ∧ e.act.Timely s (s.clock + e.elapsed)

instance (s e) : Decidable (Server.Timely s e) := by unfold Server.Timely; infer_instance

section Orderly
variable {s s' : Server} {act : Act}

theorem tickOrderly (orderly : Orderly s) {elapsed}
    (timely : ∀ r ∈ s.workers.rows, r.2.phase = .handled .ok → s.clock + elapsed < r.2.leaseUntil) : Orderly (s.tick elapsed) where
  bound := orderly.bound
  owner id w found active fresh := orderly.owner id w found active (lt_of_le_of_lt (Nat.le_add_right _ _) fresh)
  alone := orderly.alone
  unwritten id w found ok := ⟨timely (id,w) (getMem.mp found) ok,(orderly.unwritten id w found ok).2⟩
  handled := orderly.handled
  success := orderly.success
  processed := orderly.processed
  reviewed := orderly.reviewed
  acknowledged := orderly.acknowledged

/- What a worker says of the event, and where the active workers of a step come from. -/
structure Noted (clock : Nat) (succeeded : Bool) (w : Worker) : Prop where
  unwritten : w.phase = .handled .ok → clock < w.leaseUntil ∧ succeeded = true
  handled : w.phase ≠ .handled .notHandled ∧ ∀ status, w.phase ≠ .rechecking status
  acknowledged : w.phase = .returned .ok → succeeded = true

def From (s s' : Server) : Prop := ∀ id w, s'.workers.get? id = some w → w.phase.active = true →
  ∃ old, s.workers.get? id = some old ∧ old.phase.active = true ∧ old.leaseUntil = w.leaseUntil

theorem Orderly.noted (orderly : Orderly s) {id w} (found : s.workers.get? id = some w) : Noted s.clock s.succeeded w :=
  ⟨orderly.unwritten id w found,orderly.handled id w found,orderly.acknowledged id w found⟩

theorem returnedNoted {clock succeeded until_ result} (answer : result = .ok → succeeded = true) :
    Noted clock succeeded ⟨until_,.returned result⟩ where
  unwritten same := by cases same
  handled := ⟨Phase.noConfusion,fun _ => Phase.noConfusion⟩
  acknowledged same := answer (Phase.returned.inj same)

section
variable (orderly : Orderly s)
include orderly

theorem fromAlone (kept : From s s') : ∀ id w id' w', s'.workers.get? id = some w → s'.workers.get? id' = some w' →
    w.phase.active = true → w'.phase.active = true → w.leaseUntil = w'.leaseUntil → id = id' := by
  intro id w id' w' found found' active active' same
  obtain ⟨old,row,was,lease⟩ := kept id w found active
  obtain ⟨old',row',was',lease'⟩ := kept id' w' found' active'
  exact orderly.alone id old id' old' row row' was was' (lease.trans (same.trans lease'.symm))

theorem fromOrderly (row : s'.row = s.row) (clock : s'.clock = s.clock) (kept : From s s')
    (noted : ∀ id w, s'.workers.get? id = some w → Noted s'.clock s'.succeeded w)
    (success : s'.succeeded = true → (∃ id w, s'.workers.get? id = some w ∧ w.phase = .handled .ok) ∨
      ∃ r, s.row = some r ∧ r.status = .processed)
    (processed : ∀ r, s.row = some r → r.status = .processed → s'.succeeded = true)
    (reviewed : ∀ r, s.row = some r → r.status = .manualReview → s'.succeeded = false) : Orderly s' where
  bound id w found active := by
    obtain ⟨old,there,was,same⟩ := kept id w found active
    rw [row,← same]
    exact orderly.bound id old there was
  owner id w found active fresh := by
    obtain ⟨old,there,was,same⟩ := kept id w found active
    rw [clock,← same] at fresh
    rw [row,← same]
    exact orderly.owner id old there was fresh
  alone := fromAlone orderly kept
  unwritten id w found := (noted id w found).unwritten
  handled id w found := (noted id w found).handled
  success := row ▸ success
  processed := row ▸ processed
  reviewed := row ▸ reviewed
  acknowledged id w found := (noted id w found).acknowledged

theorem claimedNone (free : ∀ r ∈ s.row, r.status = .processing ∧ r.leaseUntil ≤ s.clock) {id w}
    (found : s.workers.get? id = some w) (active : w.phase.active = true) : w.leaseUntil ≤ s.clock := by
  obtain ⟨r,row,within⟩ := orderly.bound id w found active
  obtain ⟨processing,past⟩ := free r row
  exact le_trans (within processing) past

theorem claimedOrderly (free : ∀ r ∈ s.row, r.status = .processing ∧ r.leaseUntil ≤ s.clock) {row}
    {first} (processing : row.status = .processing) (leased : row.leaseUntil = s.clock + lease)
    (begun : first = .running ∨ first = .handled .mismatch) :
    Orderly { s with row := some row, workers := s.workers.append ⟨s.clock + lease,first⟩ } := by
  have long : 0 < lease := by decide
  have quiet : s.succeeded = false := by
    refine Bool.eq_false_iff.mpr (fun done => ?_)
    rcases orderly.success done with ⟨id,w,found,ok⟩ | ⟨r,here,written⟩
    · have past := claimedNone orderly free found (by rw [ok]; rfl)
      have fresh := (orderly.unwritten id w found ok).1
      omega
    · rw [(free r here).1] at written
      cases written
  have old := @claimedNone s orderly free
  have noted : ∀ id w, (s.workers.append ⟨s.clock + lease,first⟩).get? id = some w → Noted s.clock s.succeeded w := by
    intro id w found
    rcases appendCases found with ⟨_,rfl⟩ | before
    · rcases begun with rfl | rfl
      · exact ⟨Phase.noConfusion,⟨Phase.noConfusion,fun _ => Phase.noConfusion⟩,Phase.noConfusion⟩
      · exact ⟨fun same => (by cases same),⟨fun same => (by cases same),fun _ => Phase.noConfusion⟩,Phase.noConfusion⟩
    · exact orderly.noted before
  refine ⟨?_,?_,?_,fun id w found => (noted id w found).unwritten,fun id w found => (noted id w found).handled,?_,?_,fun _ _ _ => quiet,
    fun id w found => (noted id w found).acknowledged⟩
  · intro id w found active
    refine ⟨row,rfl,fun _ => ?_⟩
    rcases appendCases found with ⟨_,rfl⟩ | before
    · exact le_of_eq leased.symm
    · have past := old before active
      omega
  · intro id w found active fresh
    refine ⟨row,rfl,processing,?_⟩
    rcases appendCases found with ⟨_,rfl⟩ | before
    · exact leased
    · have past := old before active
      exact absurd fresh (not_lt.mpr past)
  · intro id w id' w' found found' active active' same
    rcases appendCases found with ⟨here,rfl⟩ | before
    · rcases appendCases found' with ⟨here',rfl⟩ | before'
      · exact here.trans here'.symm
      · have past := old before' active'
        dsimp only at same
        omega
    · rcases appendCases found' with ⟨_,rfl⟩ | before'
      · have past := old before active
        dsimp only at same
        omega
      · exact orderly.alone id w id' w' before before' active active' same
  · intro done
    rw [quiet] at done
    cases done
  · intro r here done
    cases here
    rw [processing] at done
    cases done

end

variable {until_ id : Nat} {outcome : HandlerOutcome}

theorem refusedOrderly (orderly : Orderly s) {r result} (row : s.row = some r) (answer : result = .ok → r.status = .processed) :
    Orderly { s with workers := s.workers.append ⟨until_,.returned result⟩ } := by
  refine fromOrderly orderly rfl rfl ?_ ?_ ?_ orderly.processed orderly.reviewed
  · intro id w found active
    rcases appendCases found with ⟨_,rfl⟩ | before
    · cases active
    · exact ⟨w,before,active,rfl⟩
  · intro id w found
    rcases appendCases found with ⟨_,rfl⟩ | before
    · exact returnedNoted (fun ok => orderly.processed r row (answer ok))
    · exact orderly.noted before
  · intro done
    rcases orderly.success done with ⟨id,w,found,ok⟩ | written
    · exact .inl ⟨id,w,getAppendOld found _,ok⟩
    · exact .inr written

theorem setFrom {phase} (was : phase.active = true → ∀ w, s.workers.get? id = some w → w.phase.active = true) :
    From s (s.setPhase id phase) := by
  intro j w found active
  rcases setPhaseGet found with ⟨rfl,_,_,row,rfl⟩ | ⟨_,row⟩
  · exact ⟨_,row,was active _ row,rfl⟩
  · exact ⟨w,row,active,rfl⟩

section
variable (orderly : Orderly s)
include orderly

theorem setNoted {phase} (noted : ∀ until_, Noted s.clock s.succeeded ⟨until_,phase⟩) :
    ∀ j w, (s.setPhase id phase).workers.get? j = some w → Noted s.clock s.succeeded w := by
  intro j w found
  rcases setPhaseGet found with ⟨_,_,_,_,rfl⟩ | ⟨_,before⟩
  · exact noted _
  · exact orderly.noted before

theorem retiredOrderly {phase} (idle : phase.active = false)
    (noted : ∀ until_, Noted s.clock s.succeeded ⟨until_,phase⟩)
    (unsuccessful : ∀ w, s.workers.get? id = some w → w.phase ≠ .handled .ok) : Orderly (s.setPhase id phase) := by
  refine fromOrderly orderly rfl rfl (setFrom (fun active => absurd (active.symm.trans idle) Bool.noConfusion)) (setNoted orderly noted) ?_
    orderly.processed orderly.reviewed
  intro done
  rcases orderly.success done with ⟨j,w,found,ok⟩ | written
  · have other : j ≠ id := fun same => unsuccessful w (same ▸ found) ok
    exact .inl ⟨j,w,(getModifyOther _ other _).trans found,ok⟩
  · exact .inr written

theorem handledOrderly
    (found : s.workers.get? id = some ⟨until_,.running⟩) (known : outcome ≠ .notHandled) (fresh : outcome = .ok → s.clock < until_) :
    Orderly { s.setPhase id (.handled outcome) with succeeded := s.succeeded || decide (outcome = .ok) } := by
  have kept : From s (s.setPhase id (.handled outcome)) := by
    refine setFrom (fun _ w row => ?_)
    cases found.symm.trans row
    rfl
  refine fromOrderly orderly rfl rfl kept ?_ ?_ ?_ ?_
  · intro j w here
    rcases setPhaseGet here with ⟨rfl,_,_,row,rfl⟩ | ⟨_,row⟩
    · cases found.symm.trans row
      refine ⟨fun same => ?_,⟨fun same => known (Phase.handled.inj same),fun _ => Phase.noConfusion⟩,Phase.noConfusion⟩
      cases same
      exact ⟨fresh rfl,Bool.or_true _⟩
    · obtain ⟨unwritten,handled,acknowledged⟩ := orderly.noted row
      have still : ∀ {p : Prop}, (p → s.succeeded = true) → p → (s.succeeded || decide (outcome = .ok)) = true :=
        fun done holds => by rw [done holds]; rfl
      exact ⟨fun ok => ⟨(unwritten ok).1,still (fun ok => (unwritten ok).2) ok⟩,handled,still acknowledged⟩
  · intro done
    by_cases ok : outcome = .ok
    · refine .inl ⟨id,⟨until_,.handled outcome⟩,?_,congrArg Phase.handled ok⟩
      refine (getModifySelf _ _ _).trans ?_
      rw [found]
      rfl
    · simp only [ok,decide_false,Bool.or_false] at done
      rcases orderly.success done with ⟨j,w,row,good⟩ | written
      · have other : j ≠ id := by
          intro same
          rw [same,found] at row
          cases row
          cases good
        exact .inl ⟨j,w,(getModifyOther _ other _).trans row,good⟩
      · exact .inr written
  · intro r row done
    have was := orderly.processed r row done
    simp only [was,Bool.true_or]
  · intro r row review
    have was := orderly.reviewed r row review
    have bad : outcome ≠ .ok := by
      intro ok
      obtain ⟨_,row',processing,_⟩ := orderly.owner id _ found rfl (fresh ok)
      cases row.symm.trans row'
      rw [review] at processing
      cases processing
    simp only [was,bad,decide_false,Bool.or_false]

theorem finalizedOrderly {status} {row : EventRow}
    (found : s.workers.get? id = some ⟨until_,.handled outcome⟩) (wanted : outcome.status = some status) (fresh : s.clock < until_)
    (after : row.status = status) :
    Orderly { s.setPhase id (.returned (finalizedResult status)) with row := some row, written := status :: s.written } := by
  obtain ⟨r,held,processing,leased⟩ := orderly.owner id _ found rfl fresh
  have others : ∀ {j w}, s.workers.get? j = some w → w.phase.active = true → j ≠ id → w.leaseUntil ≤ s.clock := by
    intro j w here active other
    by_contra early
    obtain ⟨r',held',_,leased'⟩ := orderly.owner j w here active (not_le.mp early)
    cases held.symm.trans held'
    exact other (orderly.alone j w id _ here found active rfl (leased'.symm.trans leased))
  have pending : s.succeeded = true → outcome = .ok := by
    intro done
    rcases orderly.success done with ⟨j,w,here,ok⟩ | ⟨r',held',written⟩
    · by_cases same : j = id
      · rw [same,found] at here
        cases here
        exact Phase.handled.inj ok
      · have past := others here (by rw [ok]; rfl) same
        have still := (orderly.unwritten j w here ok).1
        omega
    · cases held.symm.trans held'
      rw [processing] at written
      cases written
  have done : status = .processed → s.succeeded = true := by
    intro processed
    have known := (orderly.handled id _ found).1
    cases outcome with
    | ok => exact (orderly.unwritten id _ found rfl).2
    | mismatch =>
      cases wanted
      cases processed
    | notHandled => exact absurd rfl known
    | failed => cases wanted
  have terminal := outcomeTerminal wanted
  have noted := @setNoted s id orderly (.returned (finalizedResult status)) (fun _ => returnedNoted (fun ok => done (by
    cases status with
    | processed => rfl
    | processing | manualReview => cases ok)))
  refine ⟨?_,?_,fromAlone orderly (setFrom (fun active => by cases active)),fun j w here => (noted j w here).unwritten,
    fun j w here => (noted j w here).handled,?_,?_,?_,fun j w here => (noted j w here).acknowledged⟩
  · intro j w here active
    exact ⟨row,rfl,fun open_ => absurd (after.symm.trans open_) terminal⟩
  · intro j w here active early
    rcases setPhaseGet here with ⟨_,_,_,_,rfl⟩ | ⟨other,before⟩
    · cases active
    · exact absurd early (not_lt.mpr (others before active other))
  · intro succeeded
    refine .inr ⟨row,rfl,?_⟩
    rw [pending succeeded] at wanted
    exact after.trans (some.inj wanted).symm
  · intro r' held' processed
    cases held'
    exact done (after.symm.trans processed)
  · intro _ held' review
    cases held'
    refine Bool.eq_false_iff.mpr (fun succeeded => ?_)
    rw [pending succeeded] at wanted
    cases wanted
    cases after.symm.trans review

theorem effectOrderly (timely : act.Timely s s.clock) (effect : Effect s s.clock act s') : Orderly s' := by
  cases effect with
  | idle => exact orderly
  | claimed free processing leased begun => exact claimedOrderly orderly free processing leased begun
  | refused row answer => exact refusedOrderly orderly row answer
  | handled found =>
    refine handledOrderly orderly found timely.1 (fun ok => ?_)
    have fresh := timely.2 ok
    rw [found,all_some] at fresh
    exact of_decide_eq_true fresh
  | finalized found wanted _ _ after =>
    simp only [Act.Timely] at timely
    rw [found,all_some] at timely
    exact finalizedOrderly orderly found wanted (of_decide_eq_true timely) after
  | late found _ closed =>
    simp only [Act.Timely] at timely
    rw [found,all_some] at timely
    have fresh := of_decide_eq_true timely
    obtain ⟨r,held,processing,_⟩ := orderly.owner _ _ found rfl fresh
    have past := closed r held processing
    omega
  | failed found =>
    refine retiredOrderly orderly rfl (fun _ => returnedNoted (fun same => by cases same)) (fun w here ok => ?_)
    cases found.symm.trans here
    cases ok
  | rechecked found => exact absurd rfl ((orderly.handled _ _ found).2 _)
  | crashed =>
    refine retiredOrderly orderly rfl (fun _ => ⟨Phase.noConfusion,⟨Phase.noConfusion,fun _ => Phase.noConfusion⟩,Phase.noConfusion⟩)
      (fun w here ok => ?_)
    simp only [Act.Timely] at timely
    rw [here,all_some] at timely
    exact of_decide_eq_true timely ok

end

theorem stepOrderly (s e) (orderly : Orderly s) (timely : s.Timely e) : Orderly (s.step e) :=
  effectOrderly (tickOrderly orderly timely.1) timely.2 (performEffect e.act)

theorem freshOrderly (clock) : Orderly (.fresh clock) := by
  refine ⟨?_,?_,?_,?_,?_,?_,?_,?_,?_⟩
  · intro id w found
    cases found
  · intro id w found
    cases found
  · intro id w _ _ found
    cases found
  · intro id w found
    cases found
  · intro id w found
    cases found
  · intro done
    cases done
  · intro r row
    cases row
  · intro r row
    cases row
  · intro _ w found
    cases found

end Orderly

theorem eventTruthful (clock : Nat) (events : List Event) (timely : Along Server.step Server.Timely (.fresh clock) events) :
    Always Server.step Server.Truthful (.fresh clock) events := by
  have kept : ∀ (s : Server) (e : Event), Orderly s ∧ Kept s → s.Timely e → Orderly (s.step e) ∧ Kept (s.step e) :=
    fun s e here timely => ⟨stepOrderly s e here.1 timely,stepKept s e here.2⟩
  refine alwaysMono (fun s here => ?_) (alwaysKept kept ⟨freshOrderly clock,freshKept clock⟩ timely)
  refine ⟨here.1.acknowledged,here.2.once,fun review => ?_⟩
  obtain ⟨r,row,status⟩ := map_eq_some_iff.mp review
  exact here.1.reviewed r row status

theorem eventRetried : Always Server.step Server.Truthful (.fresh 1000)
    [⟨0,.deliver⟩,⟨10,.deliver⟩,⟨20,.handle 1 .failed⟩,⟨0,.finalize 1⟩,⟨280,.deliver⟩,⟨5,.handle 3 .ok⟩,⟨1,.finalize 3⟩,⟨50,.deliver⟩] :=
  eventTruthful 1000 _ (by decide +kernel)

theorem eventReviewed : ¬ Always Server.step Server.Truthful (.fresh 1000)
    [⟨0,.deliver⟩,⟨10,.handle 1 .ok⟩,⟨0,.crash 1⟩,⟨290,.deliver⟩,⟨5,.handle 2 .mismatch⟩,⟨0,.finalize 2⟩] := by
  intro always
  have last := alwaysLast always
  have quiet := last.reviewed (by decide +kernel)
  revert quiet
  decide +kernel

end NovaPuraRouter.RecurringEvent
