import Mathlib
import NovaPuraRouter.PayoutSpec

/-! What every step of the payout system keeps, whatever Stripe answers: one goroutine at
most is between the start of a transfer and its stored answer, rows and calls carry the
keys of their own withdrawal, and each transfer at Stripe belongs to a row that asked for it. -/
namespace NovaPuraRouter.PayoutSound
open Withdrawal WithdrawalSpec PayoutFlow PayoutSpec JobPool List Option Table

def transferring (requestId : Nat) : Job → Nat
  | .createTransfer id _ | .checkBalance id _ _ | .markFailed id .transferCreating _
  | .flip id (.storeTransfer _ _) _ => if id = requestId then 1 else 0
  | _ => 0

structure RowSound (id : Nat) (r : WithdrawalRequest) : Prop where
  own : r.stripeTransferId = "" ∨ r.stripeTransferId = transferIdempotencyKey id
  settled : r.stripeTransferId ≠ "" → r.status ≠ .pending ∧ r.status ≠ .transferCreating ∧ r.status ≠ .rejected
  whole : r.status ≠ .failed → r.stripeTransferAmountReversed = 0

def CallSound (id : Nat) : TransitionCall → Prop
  | .storeTransfer transferId _ => transferId = transferIdempotencyKey id
  | _ => True

def Final (status : WithdrawalStatus) : Prop := status = .paid ∨ status = .rejected ∨ status = .failed ∨ status = .canceled

structure ReversalRow (s : CommissionStore) (v : Reversal) : Prop where
  own : v.req.stripeTransferId = transferIdempotencyKey v.requestId
  settled : v.req.status ≠ .transferCreating
  live : ¬ Final v.req.status
  positive : 0 < v.req.amountCents
  unreversed : v.req.stripeTransferAmountReversed = 0
  stored : ∃ r, s.withdrawals.get? v.requestId = some r ∧ r.amountCents = v.req.amountCents

/- What a job relies on. Rows are neither deleted nor given another amount, so it stays true while the job waits. -/
def JobSound (s : CommissionStore) : Job → Prop
  | .createTransfer id req => ∃ r, s.withdrawals.get? id = some r ∧ r.amountCents = req.amountCents
  | .checkBalance id _ transferId => transferId = transferIdempotencyKey id
  | .flip id call orElse => CallSound id call ∧ ∀ other ∈ orElse, Later other
  | .callReversal v | .closeReversal v _ => ReversalRow s v
  | _ => True

def Staged (sys : PayoutSystem) (id : Nat) : Prop := load (transferring id) sys.pool = 0 ∨
  load (transferring id) sys.pool = 1 ∧ ∃ r, sys.store.withdrawals.get? id = some r ∧ r.status = .transferCreating

structure RemoteSound (sys : PayoutSystem) (key : String) (t : RemoteTransfer) : Prop where
  own : key = transferIdempotencyKey t.withdrawalId
  stored : ∃ r, sys.store.withdrawals.get? t.withdrawalId = some r ∧ r.amountCents = t.amountCents ∧ r.status ≠ .pending
  untouched : t.reversedCents = 0 ∨ ∃ amount, sys.stripe.reversals.get? (reversalIdempotencyKey t.withdrawalId) = some amount

structure Sound (sys : PayoutSystem) : Prop where
  staged : ∀ id, Staged sys id
  rows : ∀ id r, sys.store.withdrawals.get? id = some r → RowSound id r
  remote : ∀ key t, sys.stripe.transfers.get? key = some t → RemoteSound sys key t
  jobs : All (JobSound sys.store) sys.pool

theorem transferKeyInj {a b} (same : transferIdempotencyKey a = transferIdempotencyKey b) : a = b := by
  simp only [transferIdempotencyKey,String.append_left_inj,String.append_right_inj] at same
  exact Nat.repr_inj.mp same

theorem reversalKeyInj {a b} (same : reversalIdempotencyKey a = reversalIdempotencyKey b) : a = b := by
  simp only [reversalIdempotencyKey,String.append_left_inj,String.append_right_inj] at same
  exact Nat.repr_inj.mp same

def Grows (s s' : CommissionStore) : Prop := ∀ id r, s.withdrawals.get? id = some r →
  ∃ r', s'.withdrawals.get? id = some r' ∧ r'.amountCents = r.amountCents ∧ (r.status ≠ .pending → r'.status ≠ .pending)

theorem growsRefl (s) : Grows s s := fun _ r found => ⟨r,found,rfl,fun asked => asked⟩

variable {s s' : CommissionStore} {sys : PayoutSystem} {job : Job} {id requestId i : Nat} {r r' w : WithdrawalRequest} {refund now : Int}

theorem reversalGrows {v} (grows : Grows s s') (sound : ReversalRow s v) : ReversalRow s' v := by
  obtain ⟨r,found,amount⟩ := sound.stored
  obtain ⟨r',kept,same,_⟩ := grows _ r found
  exact { sound with stored := ⟨r',kept,same.trans amount⟩ }

theorem jobGrows (grows : Grows s s') (job) (sound : JobSound s job) : JobSound s' job := by
  cases job with
  | createTransfer id =>
    obtain ⟨r,found,amount⟩ := sound
    obtain ⟨r',kept,same,_⟩ := grows id r found
    exact ⟨r',kept,same.trans amount⟩
  | callReversal | closeReversal => exact reversalGrows grows sound
  | _ => exact sound

theorem remoteGrows {next key t} (grows : Grows sys.store next.store)
    (reversals : next.stripe.reversals = sys.stripe.reversals) (sound : RemoteSound sys key t) : RemoteSound next key t := by
  obtain ⟨r,found,amount,asked⟩ := sound.stored
  obtain ⟨r',kept,same,still⟩ := grows _ r found
  exact ⟨sound.own,⟨r',kept,same.trans amount,still asked⟩,reversals ▸ sound.untouched⟩

section
variable (step : RowStep job id r r' refund)
include step

theorem stepStage (sound : JobSound s job) (creating : r.status = .transferCreating) :
    r'.status = .transferCreating ∨ transferring id job = 1 := by
  cases step with
  | fail source _ same before =>
    subst same
    cases source with
    | pending => exact absurd (before.symm.trans creating) (by simp [FailSource.status])
    | transferCreating => exact .inr (if_pos rfl)
  | pay decision same before | reject decision same before => exact absurd (before.symm.trans creating) (by simp)
  | flip call _ _ same before =>
    subst same
    have source := before.symm.trans creating
    cases call with
    | storeTransfer => exact .inr (if_pos rfl)
    | retryPayout source' | payoutPaid source' | payoutFailed source' => cases source' <;> cases source
    | _ => cases source
  | refresh _ _ after => exact .inl (after.trans creating)
  | reversed _ _ same _ before =>
    subst same
    exact absurd (before.symm.trans creating) sound.settled
  | refused _ _ _ _ _ _ after => exact .inl (after.trans creating)

theorem stepPending (asked : r.status ≠ .pending) : r'.status ≠ .pending := by
  cases step with
  | fail source reason same before after | pay decision same before after | reject decision same before after => simp [after]
  | flip call _ _ _ _ after => exact after ▸ (callTarget call).2.2
  | refresh _ _ after => exact after ▸ asked
  | reversed _ _ _ _ _ after => simp [after]
  | refused _ _ _ _ _ _ after => exact after ▸ asked

end

theorem turnGrows (turn : Turn job s s' id r r' refund) : Grows s s' := by
  intro k old found
  by_cases here : k = id
  · subst here
    cases some.inj (turn.found.symm.trans found)
    exact ⟨r',(turn.rows k).trans (if_pos rfl),turn.amount,stepPending turn.step⟩
  · exact ⟨old,((turn.rows k).trans (if_neg here)).trans found,rfl,fun asked => asked⟩

theorem storeGrows (sys job) : Grows sys.store (storeAfter sys job) := by
  obtain same | ⟨k,old,new,refund,turn⟩ := storeTurn sys job
  · exact same ▸ growsRefl sys.store
  · exact turnGrows turn

theorem turnRow (turn : Turn job s s' id r r' refund) (job' : JobSound s job) (sound : RowSound id r) : RowSound id r' := by
  refine ⟨?_,stepSettled turn.step sound.settled,turnWhole turn sound.whole⟩
  cases turn.step with
  | flip call _ _ same _ _ transfer =>
    subst same
    cases call with
    | storeTransfer => exact .inr (transfer.trans job'.1)
    | _ => exact transfer ▸ sound.own
  | fail _ _ _ _ _ transfer | pay _ _ _ _ transfer | reject _ _ _ _ transfer | refresh _ _ _ transfer
  | reversed _ _ _ _ _ _ transfer | refused _ _ _ _ _ _ _ transfer => exact transfer ▸ sound.own

inductive StripeStep (a : Answer) (job : Job) (before after : StripeSide) : Prop
  | same (transfers : after.transfers = before.transfers) (reversals : after.reversals = before.reversals)
  | created (id : Nat) (req : WithdrawalRequest) (call : job = .createTransfer id req)
      (fresh : before.transfers.get? (transferIdempotencyKey id) = none)
      (transfers : ∀ k, after.transfers.get? k = if k = transferIdempotencyKey id then
        some ⟨id,req.userId,req.amountCents,req.stripeAccountId,0⟩ else before.transfers.get? k)
      (reversals : after.reversals = before.reversals)
  | reversed (v : Reversal) (amount : Int) (call : job = .callReversal v) (carried : a.carried = true)
      (asked : amount = v.amountToReverse - a.shortfall) (fresh : before.reversals.get? (reversalIdempotencyKey v.requestId) = none)
      (transfers : after.transfers = before.transfers.modify v.req.stripeTransferId
        (fun t => { t with reversedCents := t.reversedCents + amount }))
      (reversals : ∀ k, after.reversals.get? k = if k = reversalIdempotencyKey v.requestId then some amount
        else before.reversals.get? k)

theorem stripeStep (sys a job) : StripeStep a job sys.stripe (stripeAfter sys a job) := by
  cases job with
  | createTransfer id req =>
    simp only [stripeAfter,createTransferAt]
    split
    · cases attempt : sys.stripe.transfers.insert? (transferIdempotencyKey id)
          ⟨id,req.userId,req.amountCents,req.stripeAccountId,0⟩ with
      | none => exact .same rfl rfl
      | some transfers =>
        obtain ⟨fresh,rfl⟩ := insertExact attempt
        exact .created id req rfl (getFresh fresh) (fun k => getInsert _ _ k _ fresh) rfl
    · exact .same rfl rfl
  | createPayout =>
    simp only [stripeAfter,createPayoutAt]
    split
    · exact .same rfl rfl
    · exact .same rfl rfl
  | callReversal v =>
    simp only [stripeAfter,reverseTransferAt]
    split
    · rename_i carried
      split
      · rename_i reversals attempt
        obtain ⟨fresh,rfl⟩ := insertExact attempt
        exact .reversed v _ rfl carried rfl (getFresh fresh) rfl (fun k => getInsert _ _ k _ fresh)
      · exact .same rfl rfl
    · exact .same rfl rfl
  | _ => exact .same rfl rfl

theorem turnSilent (turn : Turn job sys.store s' id r r' refund) (a) : stripeAfter sys a job = sys.stripe := by
  cases turn.step <;> rename_i same _ <;> subst_vars <;> rfl

theorem callAmount (call : TransitionCall) (now) (r : WithdrawalRequest) : (call.edit now r).amountCents = r.amountCents := by
  cases call <;> rfl

theorem flippedRow {call} (ok : runTransition s id call now = .ok (w,s')) : ∃ r r', s.withdrawals.get? id = some r ∧ r.status = call.source ∧
      s'.withdrawals.get? id = some r' ∧ r'.status = call.target ∧ r'.amountCents = w.amountCents := by
  simp only [runTransition,transitionWithdrawalStatus,bindOk,requireOk,rowOk,pureOk,Prod.mk.injEq] at ok
  obtain ⟨_,_,r,found,_,status,⟨_,_⟩,⟨rfl,rfl⟩,rfl,rfl⟩ := ok
  refine ⟨r,storeColumns (withStatus call.target (call.edit now r)) r,found,status,?_,rfl,(callAmount call now r).symm⟩
  simp only [getModifySelf,found,map_some]

theorem laterStage {other} (later : Later other) : transferring requestId (.flip id other none) = 0 := by
  cases other with
  | storeTransfer => exact absurd rfl later.2
  | _ => rfl

theorem plainStage (requestId job) (plain : Plain job) : transferring requestId job = 0 := by
  cases job with
  | createTransfer | checkBalance => exact plain.elim
  | markFailed _ source =>
    cases source with
    | pending => rfl
    | transferCreating => exact plain.elim
  | flip _ call =>
    cases call with
    | storeTransfer => exact plain.elim
    | _ => rfl
  | _ => rfl

theorem nextStage (sys a requestId job) (sound : JobSound sys.store job) : ((nextJobs sys a job).map (transferring requestId)).sum = 0 ∨
      ((nextJobs sys a job).map (transferring requestId)).sum = 1 ∧ ( transferring requestId job = 1 ∧ storeAfter sys job = sys.store ∨
        ∃ r r', sys.store.withdrawals.get? requestId = some r ∧ r.status = .pending ∧
          (storeAfter sys job).withdrawals.get? requestId = some r' ∧ r'.status = .transferCreating) := by
  have follows := nextFollows sys a job
  generalize nextJobs sys a job = jobs at follows
  cases follows with
  | plain _ _ all => exact .inl (plainLoad (plainStage requestId) all)
  | started id _ _ _ _ _ ok =>
    by_cases own : id = requestId
    · subst own
      obtain ⟨r,r',found,status,stored,target,_⟩ := flippedRow ok
      refine .inr ⟨by simp [transferring],.inr ⟨r,r',found,status,?_,target⟩⟩
      simpa only [storeAfter,ok,Except.map,commit] using stored
    · exact .inl (by simp [transferring,own])
  | fallback id _ other => exact .inl (by simp [laterStage (sound.2 other rfl)])
  | lost id | sent id | checked id =>
    by_cases own : id = requestId
    · exact .inr (by simp [transferring,own,storeAfter])
    · exact .inl (by simp [transferring,own])
  | counted | opened | answered => exact .inl rfl

theorem stagedJob {a rest} (sound : Sound sys) (found : next sys.pool i = some (job,rest)) (id) : Staged (stepPool sys i a) id := by
  have job' : JobSound sys.store job := allHead sound.jobs found
  have pool := loadStep (transferring id) found (nextJobs sys a job)
  have before := sound.staged id
  unfold Staged at before ⊢
  simp only [stepPool,found]
  obtain nothing | ⟨one,⟨ours,kept⟩ | ⟨r,r',row,pending,row',creating⟩⟩ := nextStage sys a id job job'
  · -- Nothing is added: the stage ends, or another job left the row where it was.
    obtain zero | ⟨held,r,row,creating⟩ := before
    · left
      omega
    obtain same | ⟨k,old,new,refund,turn⟩ := storeTurn sys job
    · rw [same]
      by_cases ours : transferring id job = 0
      · exact .inr ⟨by omega,r,row,creating⟩
      · left
        omega
    · by_cases here : k = id
      · subst here
        cases some.inj (turn.found.symm.trans row)
        obtain still | ours := stepStage turn.step job' creating
        · by_cases weight : transferring k job = 0
          · exact .inr ⟨by omega,new,(turn.rows k).trans (if_pos rfl),still⟩
          · left
            omega
        · left
          omega
      · have other : (storeAfter sys job).withdrawals.get? id = some r :=
          ((turn.rows id).trans (if_neg (Ne.symm here))).trans row
        by_cases weight : transferring id job = 0
        · exact .inr ⟨by omega,r,other,creating⟩
        · left
          omega
  · obtain zero | ⟨held,r,row,creating⟩ := before
    · left
      omega
    · rw [kept]
      exact .inr ⟨by omega,r,row,creating⟩
  · -- The flip out of pending: nobody was in the stage.
    obtain zero | ⟨held,old,row₀,creating₀⟩ := before
    · by_cases weight : transferring id job = 0
      · exact .inr ⟨by omega,r',row',creating⟩
      · left
        omega
    · cases some.inj (row₀.symm.trans row)
      exact absurd (creating₀.symm.trans pending) (by simp)

theorem openReversalRow {reason v}
    (rows : ∀ id r, s.withdrawals.get? id = some r → RowSound id r) (ok : openReversal s requestId reason = .ok (some v)) : ReversalRow s v := by
  simp only [openReversal,bindOk,requireOk,rowOk] at ok
  obtain ⟨_,_,req,found,_,stored,_,live,ok⟩ := ok
  split at ok
  · cases pureOk.mp ok
  cases pureOk.mp ok
  have row := rows requestId req found
  have whole := row.whole (fun failed => live (.inr (.inl failed)))
  have settled := row.settled stored
  refine ⟨row.own.resolve_left stored,settled.2.1,?_,by dsimp only; omega,whole,req,found,rfl⟩
  rintro (paid | rejected | failed | canceled)
  · exact live (.inl paid)
  · exact settled.2.2 rejected
  · exact live (.inr (.inl failed))
  · exact live (.inr (.inr canceled))

theorem laterSound {other} (later : Later other) : JobSound s (.flip id other none) := by
  refine ⟨?_,fun _ nothing => by cases nothing⟩
  cases other with
  | storeTransfer => exact absurd rfl later.2
  | _ => trivial

theorem plainSound (plain : Plain job) : JobSound s job := by
  cases job with
  | createTransfer | checkBalance | callReversal | closeReversal => exact plain.elim
  | flip _ call =>
    cases call with
    | storeTransfer => exact plain.elim
    | _ => exact ⟨trivial,plain⟩
  | _ => trivial

theorem nextSound {a} (rows : ∀ id r, sys.store.withdrawals.get? id = some r → RowSound id r) (sound : JobSound sys.store job) :
    ∀ new ∈ nextJobs sys a job, JobSound (storeAfter sys job) new := by
  have follows := nextFollows sys a job
  generalize nextJobs sys a job = jobs at follows
  cases follows with
  | plain _ _ all => exact fun new mem => plainSound (all new mem)
  | started _ _ _ _ _ _ ok =>
    obtain ⟨_,r',_,_,stored,_,amount⟩ := flippedRow ok
    refine forall_mem_singleton.mpr ⟨r',?_,amount⟩
    simpa only [storeAfter,ok,Except.map,commit] using stored
  | counted | lost => exact forall_mem_singleton.mpr trivial
  | fallback _ _ other => exact forall_mem_singleton.mpr (laterSound (sound.2 other rfl))
  | sent => exact forall_mem_singleton.mpr rfl
  | checked => exact forall_mem_singleton.mpr ⟨sound,fun _ nothing => by cases nothing⟩
  | opened _ _ _ ok => exact forall_mem_singleton.mpr (openReversalRow rows ok)
  | answered => exact forall_mem_singleton.mpr sound

theorem remoteJob {a rest} (sound : Sound sys) (found : next sys.pool i = some (job,rest)) (grows : Grows sys.store (storeAfter sys job)) {key t}
    (held : (stripeAfter sys a job).transfers.get? key = some t) : RemoteSound (stepPool sys i a) key t := by
  have job' : JobSound sys.store job := allHead sound.jobs found
  have grown : Grows sys.store (stepPool sys i a).store := by simpa only [stepPool,found] using grows
  have side : (stepPool sys i a).stripe = stripeAfter sys a job := by simp only [stepPool,found]
  cases stripeStep sys a job with
  | same transfers reversals => exact remoteGrows grown (by rw [side,reversals]) (sound.remote key t (transfers ▸ held))
  | created id req call _ transfers reversals =>
    rw [transfers] at held
    split at held
    · rename_i own
      cases some.inj held
      subst call
      obtain ⟨r,row,amount⟩ := job'
      obtain ⟨r',row',same,asked⟩ := grown id r row
      refine ⟨own,⟨r',row',same.trans amount,asked ?_⟩,.inl rfl⟩
      have weight : transferring id (.createTransfer id req) = 1 := if_pos rfl
      have inPool := mem_of_getElem? (nextExact found)
      have load := loadMem (transferring id) inPool mem_cons_self
      obtain zero | ⟨_,old,row₀,creating⟩ := sound.staged id
      · omega
      · cases some.inj (row₀.symm.trans row)
        simp [creating]
    · exact remoteGrows grown (by rw [side,reversals]) (sound.remote key t held)
  | reversed v amount call _ _ _ transfers reversals =>
    rw [transfers,Table.getModify] at held
    have noted : (stepPool sys i a).stripe.reversals.get? (reversalIdempotencyKey v.requestId) = some amount := by
      rw [side,reversals,if_pos rfl]
    have kept : ∀ k b, sys.stripe.reversals.get? k = some b → ∃ b', (stepPool sys i a).stripe.reversals.get? k = some b' := by
      intro k b here
      rw [side,reversals]
      split
      · exact ⟨_,rfl⟩
      · exact ⟨b,here⟩
    have carry : ∀ old, sys.stripe.transfers.get? key = some old → ∀ t : RemoteTransfer, t.withdrawalId = old.withdrawalId →
        t.amountCents = old.amountCents → (t.reversedCents = old.reversedCents ∨ old.withdrawalId = v.requestId) →
        RemoteSound (stepPool sys i a) key t := by
      intro old here t sameId sameAmount change
      have before := sound.remote key old here
      obtain ⟨r,row,amount',asked⟩ := before.stored
      obtain ⟨r',row',same,still⟩ := grown _ r row
      refine ⟨sameId ▸ before.own,⟨r',sameId ▸ row',(same.trans amount').trans sameAmount.symm,still asked⟩,?_⟩
      obtain unchanged | ours := change
      · obtain zero | ⟨b,there⟩ := before.untouched
        · exact .inl (unchanged.trans zero)
        · exact .inr (sameId ▸ kept _ b there)
      · exact .inr ⟨amount,sameId ▸ ours ▸ noted⟩
    split at held
    · rename_i ours
      obtain ⟨old,here,rfl⟩ := map_eq_some_iff.mp held
      rw [← ours] at here
      subst call
      have own := (sound.remote key old here).own
      exact carry old here _ rfl rfl (.inr (transferKeyInj (own.symm.trans (ours.trans job'.own))))
    · exact carry t held t rfl rfl (.inl rfl)

theorem soundJob {sys i a} (sound : Sound sys) : Sound (stepPool sys i a) := by
  cases found : next sys.pool i with
  | none => simpa only [stepPool,found] using sound
  | some head =>
    obtain ⟨job,_⟩ := head
    have job' : JobSound sys.store job := allHead sound.jobs found
    have grows := storeGrows sys job
    refine ⟨stagedJob sound found,?_,?_,?_⟩
    · intro id r row
      simp only [stepPool,found] at row
      obtain row | ⟨old,_,turn⟩ := rowTurn row
      · exact sound.rows id r row
      · exact turnRow turn job' (sound.rows id old turn.found)
    · intro _ t held
      refine remoteJob sound found grows ?_
      simpa only [stepPool,found] using held
    · simp only [stepPool,found]
      exact allStep (allMono (jobGrows grows) sound.jobs) found (nextSound sound.rows job')

theorem newRow {setting userId amountCents}
    (ok : createWithdrawalRequest setting s userId amountCents now = .ok (w,s')) : ∀ k, s'.withdrawals.get? k =
      if k = s.withdrawals.nextId then some (newRequest userId amountCents now) else s.withdrawals.get? k := by
  simp only [createWithdrawalRequest,bindOk,requireOk,rowOk,pureOk,Prod.mk.injEq] at ok
  obtain ⟨_,_,_,_,_,_,_,_,_,_,_,rfl⟩ := ok
  exact fun k => getAppend _ _ k

theorem soundRequest (setting userId amountCents) (sound : Sound sys) :
    Sound { sys with store := requested sys setting userId amountCents } := by
  obtain ⟨w,s',ok,same⟩ | same := commitPairCases sys.store (createWithdrawalRequest setting sys.store userId amountCents sys.clock)
  · have rows := newRow ok
    have stays : ∀ k r, sys.store.withdrawals.get? k = some r → s'.withdrawals.get? k = some r := fun k r found =>
      ((rows k).trans (if_neg (Nat.ne_of_lt (getLtNextId found)))).trans found
    have grows : Grows sys.store s' := fun k r found => ⟨r,stays k r found,rfl,fun asked => asked⟩
    simp only [requested,same]
    refine ⟨?_,?_,fun key t held => remoteGrows grows rfl (sound.remote key t held),allMono (jobGrows grows) sound.jobs⟩
    · intro id
      obtain zero | ⟨one,r,row,creating⟩ := sound.staged id
      · exact .inl zero
      · exact .inr ⟨one,r,stays id r row,creating⟩
    · intro id r row
      rw [rows] at row
      split at row
      · cases some.inj row
        exact ⟨.inl rfl,fun stored => absurd rfl stored,fun _ => rfl⟩
      · exact sound.rows id r row
  · simpa only [requested,same] using sound

theorem remoteSame {next} (sound : Sound sys) (store : next.store = sys.store)
    (transfers : next.stripe.transfers = sys.stripe.transfers) (reversals : next.stripe.reversals = sys.stripe.reversals) :
    ∀ key t, next.stripe.transfers.get? key = some t → RemoteSound next key t := by
  intro key t held
  exact remoteGrows (store ▸ growsRefl sys.store) reversals (sound.remote key t (transfers ▸ held))

theorem soundStep (sys op) (sound : Sound sys) : Sound (payoutStep sys op) := by
  cases op with
  | elapse | setAccount | settlePayout => exact { sound with remote := remoteSame sound rfl rfl rfl }
  | request setting userId amountCents => exact soundRequest setting userId amountCents sound
  | start entry =>
    refine ⟨?_,sound.rows,remoteSame sound rfl rfl rfl,allPush sound.jobs (fun job mem => plainSound (entryPlain entry job mem))⟩
    intro id
    have before := sound.staged id
    simp only [Staged,payoutStep,loadPush,plainLoad (plainStage id) (entryPlain entry)] at before ⊢
    exact before
  | step => exact soundJob sound
  | crash i =>
    refine ⟨?_,sound.rows,remoteSame sound rfl rfl rfl,allSet sound.jobs (fun _ nothing => by cases nothing)⟩
    intro id
    have fewer := loadCrash (transferring id) sys.pool i
    simp only [Staged,payoutStep]
    obtain zero | ⟨one,row⟩ := sound.staged id
    · left
      omega
    · by_cases nothing : load (transferring id) (sys.pool.set i []) = 0
      · exact .inl nothing
      · exact .inr ⟨by omega,row⟩

theorem soundOpening (users accounts clock) : Sound (payoutOpening users accounts clock) :=
  ⟨fun _ => .inl rfl,fun _ _ row => (by cases row),fun _ _ held => (by cases held),fun _ nothing => (by cases nothing)⟩

theorem payoutConsistent (users accounts clock ops) : Always payoutStep Sound (payoutOpening users accounts clock) ops :=
  alwaysOfKeeps soundStep (fun _ sound => sound) ops (soundOpening users accounts clock)

end NovaPuraRouter.PayoutSound
