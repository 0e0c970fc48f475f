import NovaPuraRouter.PayoutSound
import NovaPuraRouter.PayoutOnce

/-! Refund against transfer. A request is refunded from pending, where no transfer was
asked for; from transfer_creating on any error of the call, where Stripe may have created
the transfer all the same; and by a reversal, which may take back less than was sent. -/
namespace NovaPuraRouter.TransferRefund
open Withdrawal WithdrawalSpec PayoutFlow PayoutSpec PayoutSound JobPool Option

def NoUnreversed (stripe : StripeSide) (requestId : Nat) : Prop :=
  ∀ key t, stripe.transfers.get? key = some t → t.withdrawalId = requestId → t.amountCents ≤ t.reversedCents

variable (sys : PayoutSystem)

def NoRefundWithTransfer : Prop := ∀ id r, sys.store.withdrawals.get? id = some r →
  r.status = .failed ∨ r.status = .rejected → NoUnreversed sys.stripe id

/- How Stripe answers: an error of a transfer means that none was made, and a reversal takes
back all that it was asked for. -/
def TruthfulTo (a : Answer) : Job → Prop
  | .createTransfer _ _ => a.carried = true → a.error = none
  | .callReversal _ => a.carried = true → a.shortfall = 0
  | _ => True

def Truthful : PayoutOp → Prop
  | .step i a => ∀ head ∈ next sys.pool i, TruthfulTo a head.1
  | _ => True

def Sent (stripe : StripeSide) (requestId : Nat) : Prop := ∃ t, stripe.transfers.get? (transferIdempotencyKey requestId) = some t

def TakenBack (stripe : StripeSide) (requestId : Nat) : Prop :=
  ∃ t, stripe.transfers.get? (transferIdempotencyKey requestId) = some t ∧ t.amountCents ≤ t.reversedCents

def Unsent (stripe : StripeSide) (requestId : Nat) : Prop := stripe.transfers.get? (transferIdempotencyKey requestId) = none

/- What Stripe holds while a job waits. -/
def JobBacked (stripe : StripeSide) : Job → Prop
  | .createTransfer id _ | .markFailed id .transferCreating _ => Unsent stripe id
  | .checkBalance id _ _ | .flip id (.storeTransfer _ _) _ => Sent stripe id
  | .callReversal v => Sent stripe v.requestId
  | .closeReversal v (.reversed _) => TakenBack stripe v.requestId
  | _ => True

structure Backed : Prop where
  jobs : All (JobBacked sys.stripe) sys.pool
  rows : ∀ id r, sys.store.withdrawals.get? id = some r → r.stripeTransferId ≠ "" → Sent sys.stripe id
  reversals : ∀ id amount, sys.stripe.reversals.get? (reversalIdempotencyKey id) = some amount → TakenBack sys.stripe id
  refunds : NoRefundWithTransfer sys

variable {sys : PayoutSystem} {id i : Nat} {a : Answer} {job : Job} {rest : List Job}

theorem pendingUnsent (sound : Sound sys) {r}
    (row : sys.store.withdrawals.get? id = some r) (pending : r.status = .pending) : Unsent sys.stripe id := by
  unfold Unsent
  cases held : sys.stripe.transfers.get? (transferIdempotencyKey id) with
  | none => rfl
  | some t =>
    have remote := sound.remote _ t held
    obtain ⟨_,row₀,_,asked⟩ := remote.stored
    rw [← transferKeyInj remote.own,row] at row₀
    cases some.inj row₀
    exact absurd pending asked

theorem unsentClear (sound : Sound sys) (unsent : Unsent sys.stripe id) : NoUnreversed sys.stripe id := by
  intro key t held own
  rw [(sound.remote key t held).own,own,unsent] at held
  cases held

theorem takenBackClear (sound : Sound sys) (taken : TakenBack sys.stripe id) : NoUnreversed sys.stripe id := by
  intro key t held own
  obtain ⟨t',held',back⟩ := taken
  rw [(sound.remote key t held).own,own,held'] at held
  cases some.inj held
  exact back

section Call
variable (sound : Sound sys) (found : next sys.pool i = some (job,rest)) (truthful : Truthful sys (.step i a))

theorem sentStays {k} (sent : Sent sys.stripe k) : Sent (stripeAfter sys a job) k := by
  obtain ⟨t,held⟩ := sent
  unfold Sent
  cases stripeStep sys a job with
  | same transfers => exact ⟨t,transfers ▸ held⟩
  | created _ _ _ _ transfers =>
    rw [transfers]
    split
    · exact ⟨_,rfl⟩
    · exact ⟨t,held⟩
  | reversed _ _ _ _ _ _ transfers =>
    rw [transfers,Table.getModify]
    split
    · rename_i ours
      rw [← ours,held]
      exact ⟨_,rfl⟩
    · exact ⟨t,held⟩

theorem unsentStays {k} (unsent : Unsent sys.stripe k) (other : ∀ req, job ≠ .createTransfer k req) : Unsent (stripeAfter sys a job) k := by
  unfold Unsent at unsent ⊢
  cases stripeStep sys a job with
  | same transfers => exact transfers ▸ unsent
  | created _ req call _ transfers =>
    rw [transfers]
    split
    · rename_i ours
      exact absurd (transferKeyInj ours ▸ call) (other req)
    · exact unsent
  | reversed _ _ _ _ _ _ transfers =>
    rw [transfers,Table.getModify]
    split
    · rename_i ours
      rw [← ours,unsent]
      rfl
    · exact unsent

include sound found truthful

/- A reversal that Stripe carries out takes the whole transfer back. -/
theorem reversedWhole {v t} (call : job = .callReversal v) (carried : a.carried = true)
    (fresh : sys.stripe.reversals.get? (reversalIdempotencyKey v.requestId) = none)
    (held : sys.stripe.transfers.get? (transferIdempotencyKey v.requestId) = some t) :
    t.amountCents ≤ t.reversedCents + (v.amountToReverse - a.shortfall) := by
  subst call
  have row : ReversalRow sys.store v := (allHead sound.jobs found : JobSound sys.store (.callReversal v))
  have whole : a.shortfall = 0 := truthful _ found carried
  have remote := sound.remote _ t held
  have own : v.requestId = t.withdrawalId := transferKeyInj remote.own
  obtain ⟨_,row₀,amount₀,_⟩ := remote.stored
  obtain ⟨_,row₁,amount₁⟩ := row.stored
  rw [← own,row₁] at row₀
  cases some.inj row₀
  obtain zero | ⟨_,used⟩ := remote.untouched
  · have unreversed := row.unreversed
    simp only [Reversal.amountToReverse]
    omega
  · rw [← own,fresh] at used
    cases used

theorem takenBackReversed {v amount} (call : job = .callReversal v) (carried : a.carried = true)
    (asked : amount = v.amountToReverse - a.shortfall)
    (fresh : sys.stripe.reversals.get? (reversalIdempotencyKey v.requestId) = none) (sent : Sent sys.stripe v.requestId)
    (transfers : (stripeAfter sys a job).transfers = sys.stripe.transfers.modify v.req.stripeTransferId
      (fun t => { t with reversedCents := t.reversedCents + amount })) : TakenBack (stripeAfter sys a job) v.requestId := by
  obtain ⟨t,held⟩ := sent
  have own : v.req.stripeTransferId = transferIdempotencyKey v.requestId := by
    subst call
    exact ReversalRow.own (allHead sound.jobs found : JobSound sys.store (.callReversal v))
  refine ⟨{ t with reversedCents := t.reversedCents + amount },?_,?_⟩
  · rw [transfers,own,Table.getModifySelf,held]
    rfl
  · exact asked ▸ reversedWhole sound found truthful call carried fresh held

theorem takenBackStays {k} (taken : TakenBack sys.stripe k) : TakenBack (stripeAfter sys a job) k := by
  obtain ⟨t,held,back⟩ := taken
  cases stripeStep sys a job with
  | same transfers => exact ⟨t,transfers ▸ held,back⟩
  | created requestId _ _ fresh transfers =>
    have other : transferIdempotencyKey k ≠ transferIdempotencyKey requestId := by
      rintro same
      rw [same,fresh] at held
      cases held
    exact ⟨t,((transfers _).trans (if_neg other)).trans held,back⟩
  | reversed v amount call carried asked fresh transfers =>
    by_cases here : k = v.requestId
    · subst here
      exact takenBackReversed sound found truthful call carried asked fresh ⟨t,held⟩ transfers
    · refine ⟨t,?_,back⟩
      have own : v.req.stripeTransferId = transferIdempotencyKey v.requestId := by
        subst call
        exact ReversalRow.own (allHead sound.jobs found : JobSound sys.store (.callReversal v))
      rw [transfers,Table.getModifyOther _ (fun same => here (transferKeyInj (same.trans own)))]
      exact held

theorem reversalsStay (backed : Backed sys) {k amount} (held : (stripeAfter sys a job).reversals.get? (reversalIdempotencyKey k) = some amount) :
    TakenBack (stripeAfter sys a job) k := by
  have stay : ∀ b, sys.stripe.reversals.get? (reversalIdempotencyKey k) = some b → TakenBack (stripeAfter sys a job) k :=
    fun b before => takenBackStays sound found truthful (backed.reversals k b before)
  cases stripeStep sys a job with
  | same _ reversals => exact stay amount (reversals ▸ held)
  | created _ _ _ _ _ reversals => exact stay amount (reversals ▸ held)
  | reversed v _ call carried asked fresh transfers reversals =>
    by_cases here : k = v.requestId
    · subst here
      refine takenBackReversed sound found truthful call carried asked fresh ?_ transfers
      subst call
      exact (allHead backed.jobs found : JobBacked sys.stripe (.callReversal v))
    · rw [reversals,if_neg (fun same => here (reversalKeyInj same))] at held
      exact stay amount held

/- One goroutine at most is in the stage of a transfer, so no other waits for its answer. -/
theorem jobStays {other} (inPool : ∃ jobs ∈ sys.pool.set i rest, other ∈ jobs) (held : JobBacked sys.stripe other) :
    JobBacked (stripeAfter sys a job) other := by
  have unstaged : ∀ k req, job = .createTransfer k req → transferring k other = 0 := by
    rintro k req rfl
    obtain ⟨jobs,mem,here⟩ := inPool
    have left := loadStep (transferring k) found []
    have weight : transferring k (.createTransfer k req) = 1 := if_pos rfl
    have load := loadMem (transferring k) mem here
    have staged := sound.staged k
    unfold Staged at staged
    simp only [List.nil_append,List.map_nil,List.sum_nil] at left
    omega
  have free : ∀ k, transferring k other = 1 → ∀ req, job ≠ .createTransfer k req := by
    intro k one req same
    have zero := unstaged k req same
    omega
  cases other with
  | createTransfer k => exact unsentStays held (free k (if_pos rfl))
  | markFailed k source =>
    cases source with
    | pending => trivial
    | transferCreating => exact unsentStays held (free k (if_pos rfl))
  | checkBalance => exact sentStays held
  | flip _ call =>
    cases call with
    | storeTransfer => exact sentStays held
    | _ => trivial
  | callReversal => exact sentStays held
  | closeReversal _ answer =>
    cases answer with
    | reversed => exact takenBackStays sound found truthful held
    | refused => trivial
  | _ => trivial

end Call

theorem createdSent (stripe id t) : Sent (createTransferAt stripe (transferIdempotencyKey id) t true) id := by
  simp only [Sent,createTransferAt,if_true]
  by_cases used : transferIdempotencyKey id ∈ stripe.transfers.keys
  · simp only [Table.insert?,dif_neg (not_not.mpr used),getD_none]
    exact Table.getKeys.mp used
  · simp only [Table.insert?,dif_pos used,getD_some,Table.getInsert,if_true]
    exact ⟨t,rfl⟩

theorem carriedReversal {v} (carried : a.carried = true) :
    ∃ amount, (stripeAfter sys a (.callReversal v)).reversals.get? (reversalIdempotencyKey v.requestId) = some amount := by
  simp only [stripeAfter,reverseTransferAt,carried,if_true]
  by_cases used : reversalIdempotencyKey v.requestId ∈ sys.stripe.reversals.keys
  · simp only [Table.insert?,dif_neg (not_not.mpr used)]
    exact Table.getKeys.mp used
  · simp only [Table.insert?,dif_pos used,Table.getInsert,if_true]
    exact ⟨_,rfl⟩

theorem openedSent (backed : Backed sys) {requestId reason v} (ok : openReversal sys.store requestId reason = .ok (some v)) :
    Sent sys.stripe v.requestId := by
  simp only [openReversal,bindOk,requireOk,rowOk] at ok
  obtain ⟨_,_,req,row,_,stored,_,_,ok⟩ := ok
  split at ok
  · cases pureOk.mp ok
  · cases pureOk.mp ok
    exact backed.rows requestId req row stored

theorem plainBacked {stripe} (plain : Plain job) : JobBacked stripe job := by
  cases job with
  | createTransfer | checkBalance | callReversal | closeReversal => exact plain.elim
  | markFailed _ source =>
    cases source with
    | pending => trivial
    | transferCreating => exact plain.elim
  | flip _ call =>
    cases call with
    | storeTransfer => exact plain.elim
    | _ => trivial
  | _ => trivial

section
variable (sound : Sound sys) (found : next sys.pool i = some (job,rest)) (truthful : Truthful sys (.step i a)) (backed : Backed sys)
include sound found truthful backed

theorem nextBacked : ∀ new ∈ nextJobs sys a job, JobBacked (stripeAfter sys a job) new := by
  have job' : JobSound sys.store job := allHead sound.jobs found
  have held : JobBacked sys.stripe job := allHead backed.jobs found
  have answer : TruthfulTo a job := truthful _ found
  have follows := nextFollows sys a job
  have seenCarried : a.seen = none → a.carried = true := by
    intro seen
    by_contra lost
    simp [Answer.seen,lost] at seen
  generalize nextJobs sys a job = jobs at follows
  cases follows with
  | plain _ _ all => exact fun new mem => plainBacked (all new mem)
  | started _ _ _ _ _ _ ok =>
    obtain ⟨_,_,row,status,_⟩ := flippedRow ok
    exact List.forall_mem_singleton.mpr (pendingUnsent sound row status)
  | counted => exact List.forall_mem_singleton.mpr trivial
  | fallback _ _ other =>
    have later := job'.2 other rfl
    refine List.forall_mem_singleton.mpr ?_
    cases other with
    | storeTransfer => exact absurd rfl later.2
    | _ => trivial
  | lost _ _ _ seen =>
    have carried : a.carried = false := by
      by_contra sent
      rw [Bool.not_eq_false] at sent
      simp [Answer.seen,sent,answer sent] at seen
    exact List.forall_mem_singleton.mpr (by simpa [stripeAfter,createTransferAt,carried,JobBacked] using held)
  | sent _ _ seen =>
    simp only [stripeAfter,seenCarried seen]
    exact List.forall_mem_singleton.mpr (createdSent _ _ _)
  | checked => exact List.forall_mem_singleton.mpr held
  | opened _ _ _ ok => exact List.forall_mem_singleton.mpr (openedSent backed ok)
  | answered v =>
    refine List.forall_mem_singleton.mpr ?_
    unfold reversalAnswer
    cases seen : a.seen with
    | some => trivial
    | none =>
      obtain ⟨amount,noted⟩ := @carriedReversal sys a v (seenCarried seen)
      exact reversalsStay sound found truthful backed noted

theorem jobsBacked : All (JobBacked (stripeAfter sys a job)) (sys.pool.set i (nextJobs sys a job ++ rest)) := by
  have old : All (JobBacked sys.stripe) (sys.pool.set i rest) := by
    simpa only [List.nil_append] using allStep backed.jobs found (fun _ nothing => absurd nothing List.not_mem_nil)
  have waiting : All (JobBacked (stripeAfter sys a job)) (sys.pool.set i rest) := fun jobs mem other here =>
    jobStays sound found truthful ⟨jobs,mem,here⟩ (old jobs mem other here)
  have inside : rest ∈ sys.pool.set i rest := List.mem_set (List.getElem?_eq_some_iff.mp (nextExact found)).1 rest
  rw [← List.set_set]
  exact allSet waiting (fun other mem => (List.mem_append.mp mem).elim
    (nextBacked sound found truthful backed other) (waiting rest inside other))

end

theorem rowSent {s' r r' refund} (turn : Turn job sys.store s' id r r' refund) (held : JobBacked sys.stripe job) (backed : Backed sys)
    (stored : r'.stripeTransferId ≠ "") : Sent sys.stripe id := by
  have before : r'.stripeTransferId = r.stripeTransferId → Sent sys.stripe id := fun same =>
    backed.rows id r turn.found (same ▸ stored)
  cases turn.step with
  | fail _ _ _ _ _ transfer | pay _ _ _ _ transfer | reject _ _ _ _ transfer | refresh _ _ _ transfer
  | reversed _ _ _ _ _ _ transfer | refused _ _ _ _ _ _ _ transfer => exact before transfer
  | flip call _ _ same _ _ transfer =>
    subst same
    cases call with
    | storeTransfer => exact held
    | _ => exact before transfer

theorem refundedRow {s' r r' refund} (sound : Sound sys) (backed : Backed sys) (held : JobBacked sys.stripe job)
    (turn : Turn job sys.store s' id r r' refund) (refunded : r'.status = .failed ∨ r'.status = .rejected) : NoUnreversed sys.stripe id := by
  have row := turn.found
  cases turn.step with
  | fail source _ same before =>
    subst same
    cases source with
    | pending => exact unsentClear sound (pendingUnsent sound row before)
    | transferCreating => exact unsentClear sound held
  | pay _ _ _ after => simp [after] at refunded
  | reject _ _ before => exact unsentClear sound (pendingUnsent sound row before)
  | flip call _ _ _ _ after =>
    have target := callTarget call
    rw [after] at refunded
    exact absurd refunded (not_or.mpr ⟨target.2.1,target.1⟩)
  | refresh _ _ after => exact backed.refunds id r row (after ▸ refunded)
  | reversed _ _ same own =>
    subst same own
    exact takenBackClear sound held
  | refused _ _ _ _ _ _ after => exact backed.refunds id r row (after ▸ refunded)

/- A call leaves the transfers of refunded withdrawals as they are: they are past their
stage, and what was taken back stays so. -/
theorem refundedCall (sound : Sound sys) (found : next sys.pool i = some (job,rest)) (truthful : Truthful sys (.step i a))
    (backed : Backed sys) {r}
    (row : sys.store.withdrawals.get? id = some r) (refunded : r.status = .failed ∨ r.status = .rejected) :
    NoUnreversed (stripeAfter sys a job) id := by
  have after : Sound (stepPool sys i a) := soundJob sound
  have side : (stepPool sys i a).stripe = stripeAfter sys a job := by simp only [stepPool,found]
  cases held : sys.stripe.transfers.get? (transferIdempotencyKey id) with
  | some t =>
    have own : id = t.withdrawalId := transferKeyInj (sound.remote _ t held).own
    have taken : TakenBack sys.stripe id := ⟨t,held,backed.refunds id r row refunded _ t held own.symm⟩
    exact side ▸ takenBackClear after (side ▸ takenBackStays sound found truthful taken)
  | none =>
    refine side ▸ unsentClear after (side ▸ unsentStays held ?_)
    rintro req rfl
    have weight : transferring id (.createTransfer id req) = 1 := if_pos rfl
    have load := loadMem (transferring id) (List.mem_of_getElem? (nextExact found)) List.mem_cons_self
    obtain zero | ⟨_,_,row₀,creating⟩ := sound.staged id
    · omega
    · cases some.inj (row₀.symm.trans row)
      simp [creating] at refunded

theorem backedJob (sound : Sound sys) (backed : Backed sys) (truthful : Truthful sys (.step i a)) : Backed (stepPool sys i a) := by
  cases found : next sys.pool i with
  | none => simpa only [stepPool,found] using backed
  | some head =>
    obtain ⟨job,rest⟩ := head
    have held : JobBacked sys.stripe job := allHead backed.jobs found
    simp only [stepPool,found]
    refine ⟨jobsBacked sound found truthful backed,fun id r row stored => ?_,
      fun _ _ noted => reversalsStay sound found truthful backed noted,fun id r row refunded => ?_⟩
    · obtain row | ⟨_,_,turn⟩ := rowTurn row
      · exact sentStays (backed.rows id r row stored)
      · exact sentStays (rowSent turn held backed stored)
    · obtain row | ⟨_,_,turn⟩ := rowTurn row
      · exact refundedCall sound found truthful backed row refunded
      · simpa only [turnSilent turn a] using refundedRow sound backed held turn refunded

theorem backedRequest (setting userId amountCents) (backed : Backed sys) :
    Backed { sys with store := requested sys setting userId amountCents } := by
  obtain ⟨w,_,ok,same⟩ | same := commitPairCases sys.store (createWithdrawalRequest setting sys.store userId amountCents sys.clock)
  · simp only [requested,same]
    refine { backed with rows := fun id r row stored => ?_, refunds := fun id r row refunded => ?_ }
    · rw [newRow ok] at row
      split at row
      · cases some.inj row
        exact absurd rfl stored
      · exact backed.rows id r row stored
    · rw [newRow ok] at row
      split at row
      · cases some.inj row
        simp [newRequest] at refunded
      · exact backed.refunds id r row refunded
  · simpa only [requested,same] using backed

theorem backedStep (sys op) (sound : Sound sys) (backed : Backed sys) (truthful : Truthful sys op) : Backed (payoutStep sys op) := by
  cases op with
  | elapse | setAccount | settlePayout => exact { backed with }
  | request setting userId amountCents => exact backedRequest setting userId amountCents backed
  | start entry => exact { backed with jobs := allPush backed.jobs (fun job mem => plainBacked (entryPlain entry job mem)) }
  | step => exact backedJob sound backed truthful
  | crash => exact { backed with jobs := allSet backed.jobs (fun _ nothing => absurd nothing List.not_mem_nil) }

theorem backedOpening (users accounts clock) : Backed (payoutOpening users accounts clock) :=
  ⟨fun _ nothing => (by cases nothing),fun _ _ row => (by cases row),fun _ _ held => (by cases held),fun _ _ row => (by cases row)⟩

/- Where Stripe answers truthfully, no refunded request has money left at the payee. -/
theorem noRefundWithTransfer {users : Table Nat Affiliate} {accounts : Table Nat ConnectAccount} {clock : Int} {ops : List PayoutOp}
    (truthful : Along payoutStep Truthful (payoutOpening users accounts clock) ops) :
    Always payoutStep NoRefundWithTransfer (payoutOpening users accounts clock) ops :=
  alwaysMono (fun _ backed => backed.refunds)
    (alwaysOfAlong soundStep backedStep (soundOpening users accounts clock) (backedOpening users accounts clock) truthful)

def unanswered : Answer := ⟨true,some ⟨"timeout",false⟩,.pending,none,none,0⟩

def refused : Answer := ⟨false,some ⟨"account restricted",false⟩,.pending,none,none,0⟩

open PayoutOnce

def approvedTransfer (answer : Answer) : List PayoutOp :=
  [.request minimumTen 1 2000,.start (.approve 1 9)] ++ List.replicate 3 (.step 0 carriedOut) ++
    [.step 0 answer,.step 0 carriedOut]

instance (stripe requestId) : Decidable (NoUnreversed stripe requestId) :=
  decidable_of_iff (∀ held ∈ stripe.transfers.rows, held.2.withdrawalId = requestId → held.2.amountCents ≤ held.2.reversedCents)
    ⟨fun all key t held => all (key,t) (Table.getMem.mp held),fun none held mem => none held.1 held.2 (Table.getMem.mpr mem)⟩

instance (a job) : Decidable (TruthfulTo a job) := by unfold TruthfulTo; split <;> infer_instance

instance (sys op) : Decidable (Truthful sys op) := by cases op <;> (unfold Truthful; infer_instance)

theorem refusedAndReversed : Always payoutStep NoRefundWithTransfer (payoutOpening payee payeeAccount 0)
    (approvedTransfer refused ++ [.request minimumTen 1 2000,.start (.approve 2 9)] ++
      List.replicate 6 (.step 1 carriedOut) ++ [.crash 1,.start (.reverse 2 "closed")] ++
      List.replicate 3 (.step 2 carriedOut)) :=
  noRefundWithTransfer (by decide)

theorem lostAnswerRefunded : ¬ Always payoutStep NoRefundWithTransfer (payoutOpening payee payeeAccount 0)
    (approvedTransfer unanswered) := by
  intro always
  have last := alwaysLast always 1 _ rfl (.inl (by decide))
  exact absurd last (by decide)

end NovaPuraRouter.TransferRefund
