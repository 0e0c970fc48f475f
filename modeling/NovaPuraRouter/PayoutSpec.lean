import NovaPuraRouter.PayoutFlow
import NovaPuraRouter.WithdrawalSpec

/-! Everything a job can do to the stored requests: one row, found in the status the job
names, its new status, and what its owner's balance gains by it; and the jobs that can follow it. -/
namespace NovaPuraRouter.PayoutSpec
open Withdrawal WithdrawalSpec PayoutFlow

section
variable (job : Job) (id : Nat) (r r' : WithdrawalRequest)

inductive RowStep : Int → Prop
  | fail (source : FailSource) (reason : String) (same : job = .markFailed id source reason) (before : r.status = source.status)
      (after : r'.status = .failed) (transfer : r'.stripeTransferId = r.stripeTransferId) : RowStep (max r.amountCents 0)
  | pay (decision : Review) (same : job = .review id decision) (before : r.status = .pending)
      (after : r'.status = .paid) (transfer : r'.stripeTransferId = r.stripeTransferId) : RowStep 0
  | reject (decision : Review) (same : job = .review id decision) (before : r.status = .pending)
      (after : r'.status = .rejected) (transfer : r'.stripeTransferId = r.stripeTransferId) : RowStep r.amountCents
  | flip (call : TransitionCall) (orElse : Option TransitionCall) (now : Int) (same : job = .flip id call orElse)
      (before : r.status = call.source) (after : r'.status = call.target)
      (transfer : r'.stripeTransferId = (call.edit now r).stripeTransferId) : RowStep 0
  | refresh (payoutStatus : PayoutStatus) (same : job = .refreshPayout id payoutStatus) (after : r'.status = r.status)
      (transfer : r'.stripeTransferId = r.stripeTransferId) : RowStep 0
  | reversed (v : Reversal) (amountReversed : Int) (same : job = .closeReversal v (.reversed amountReversed))
      (own : v.requestId = id) (before : r.status = v.req.status) (after : r'.status = .failed)
      (transfer : r'.stripeTransferId = r.stripeTransferId) : RowStep (max amountReversed 0)
  | refused (v : Reversal) (text : String) (insufficientFunds : Bool) (same : job = .closeReversal v (.refused text insufficientFunds))
      (own : v.requestId = id) (before : r.status = v.req.status) (after : r'.status = r.status)
      (transfer : r'.stripeTransferId = r.stripeTransferId) : RowStep 0

end

def Paid (users users' : Users) (owner : Nat) (cents : Int) : Prop :=
  users' = users ∧ cents = 0 ∨ users' = users.modify owner (addBalance cents)

structure Turn (job : Job) (s s' : CommissionStore) (id : Nat) (r r' : WithdrawalRequest) (refund : Int) : Prop where
  found : s.withdrawals.get? id = some r
  stored : ∃ f, f r = r' ∧ s'.withdrawals = s.withdrawals.modify id f
  commissions : s'.commissions = s.commissions
  owner : r'.userId = r.userId
  amount : r'.amountCents = r.amountCents
  reversed : r'.status ≠ .failed → r'.stripeTransferAmountReversed = r.stripeTransferAmountReversed
  paid : Paid s.users s'.users r.userId refund
  step : RowStep job id r r' refund

theorem refundPaid {users users' owner cents}
    (ok : refundWithdrawalBalance users owner cents = .ok users') : Paid users users' owner (max cents 0) := by
  unfold refundWithdrawalBalance at ok
  split at ok
  · rename_i nothing
    cases pureOk.mp ok
    exact .inl ⟨rfl,max_eq_right nothing⟩
  rename_i something
  simp only [bindOk,rowOk,pureOk] at ok
  obtain ⟨_,_,rfl⟩ := ok
  rw [max_eq_left (le_of_lt (not_le.mp something))]
  exact .inr rfl

variable {s s' : CommissionStore} {id : Nat} {w : WithdrawalRequest}

theorem failTurn {source reason now} (ok : markWithdrawalFailed s id source.status reason now = .ok (w,s')) :
    ∃ r r' refund, Turn (.markFailed id source reason) s s' id r r' refund := by
  obtain ⟨r,_,_,found,status,mutated,rfl⟩ := transitionExact ok
  simp only [failedMutator,bindOk,pureOk,Prod.mk.injEq] at mutated
  obtain ⟨_,refunded,rfl,rfl⟩ := mutated
  exact ⟨r,_,_,found,⟨_,rfl,rfl⟩,rfl,rfl,rfl,fun failed => absurd rfl failed,refundPaid refunded,
    .fail source reason rfl status rfl rfl⟩

theorem flipTurn {call now} (orElse) (ok : runTransition s id call now = .ok (w,s')) :
    ∃ r r' refund, Turn (.flip id call orElse) s s' id r r' refund := by
  obtain ⟨r,_,_,found,status,mutated,rfl⟩ := transitionExact ok
  obtain ⟨rfl,rfl⟩ := Prod.mk.inj (pureOk.mp mutated)
  exact ⟨r,_,_,found,⟨_,rfl,rfl⟩,rfl,rfl,rfl,fun _ => callReversed call now r,.inl ⟨rfl,rfl⟩,
    .flip call orElse now rfl status rfl rfl⟩

theorem reviewTurn {decision now} (ok : adminProcessWithdrawal s id decision now = .ok (w,s')) :
    s' = s ∨ ∃ r r' refund, Turn (.review id decision) s s' id r r' refund := by
  simp only [adminProcessWithdrawal,bindOk,requireOk,rowOk] at ok
  obtain ⟨_,_,_,action,r,found,ok⟩ := ok
  split at ok
  · exact .inl (Prod.mk.inj (pureOk.mp ok)).2.symm
  rename_i waiting
  have status : r.status = .pending := not_not.mp waiting
  simp only [bindOk,pureOk,Prod.mk.injEq] at ok
  obtain ⟨_,refunded,_,rfl⟩ := ok
  unfold refundRejected at refunded
  split at refunded
  · rename_i rejected
    simp only [bindOk,rowOk,pureOk] at refunded
    obtain ⟨_,_,rfl⟩ := refunded
    exact .inr ⟨r,_,_,found,⟨_,rfl,rfl⟩,rfl,rfl,rfl,fun _ => rfl,.inr rfl,
      .reject decision rfl status rejected rfl⟩
  · rename_i kept
    cases pureOk.mp refunded
    exact .inr ⟨r,_,_,found,⟨_,rfl,rfl⟩,rfl,rfl,rfl,fun _ => rfl,.inl ⟨rfl,rfl⟩,
      .pay decision rfl status (action.resolve_right kept) rfl⟩

theorem reversalTurn (s v now answer) : (Withdrawal.closeReversal s v now answer).2 = s ∨
      ∃ r r' refund, Turn (.closeReversal v answer) s (Withdrawal.closeReversal s v now answer).2 v.requestId r r' refund := by
  cases answer with
  | reversed amountReversed =>
    simp only [Withdrawal.closeReversal]
    cases attempt : transitionWithdrawalStatus s v.requestId v.req.status .failed
        (reversedMutator amountReversed v.reason now) with
    | error e => exact .inl rfl
    | ok done =>
      obtain ⟨r,edited,users,found,status,mutated,same⟩ := transitionExact attempt
      simp only [reversedMutator,bindOk,pureOk,Prod.mk.injEq] at mutated
      obtain ⟨_,refunded,rfl,rfl⟩ := mutated
      simp only [same]
      exact .inr ⟨r,_,_,found,⟨_,rfl,rfl⟩,rfl,rfl,rfl,fun failed => absurd rfl failed,refundPaid refunded,
        .reversed v amountReversed rfl rfl status rfl rfl⟩
  | refused text insufficientFunds =>
    simp only [Withdrawal.closeReversal]
    obtain ⟨w,_,attempt,same⟩ | same := commitPairCases s
      (transitionWithdrawalStatus s v.requestId v.req.status v.req.status (refusedMutator text now))
    · obtain ⟨r,_,_,found,status,mutated,rfl⟩ := transitionExact attempt
      obtain ⟨rfl,rfl⟩ := Prod.mk.inj (pureOk.mp mutated)
      rw [same]
      exact .inr ⟨r,_,_,found,⟨_,rfl,rfl⟩,rfl,rfl,rfl,fun _ => rfl,.inl ⟨rfl,rfl⟩,
        .refused v text insufficientFunds rfl rfl status status.symm rfl⟩
    · exact .inl same

theorem storeTurn (sys job) : storeAfter sys job = sys.store ∨
    ∃ id r r' refund, Turn job sys.store (storeAfter sys job) id r r' refund := by
  cases job with
  | markFailed id source reason =>
    obtain ⟨w,s',ok,same⟩ | same := commitPairCases sys.store (markWithdrawalFailed sys.store id source.status reason sys.clock)
    · simp only [storeAfter,same]
      exact .inr ⟨id,failTurn ok⟩
    · exact .inl same
  | flip id call orElse =>
    obtain ⟨w,s',ok,same⟩ | same := commitPairCases sys.store (runTransition sys.store id call sys.clock)
    · simp only [storeAfter,same]
      exact .inr ⟨id,flipTurn orElse ok⟩
    · exact .inl same
  | review id decision =>
    obtain ⟨w,_,ok,same⟩ | same := commitPairCases sys.store (adminProcessWithdrawal sys.store id decision sys.clock)
    · obtain rfl | turn := reviewTurn ok
      · exact .inl same
      · simp only [storeAfter,same]
        exact .inr ⟨id,turn⟩
    · exact .inl same
  | refreshPayout id payoutStatus =>
    cases found : sys.store.withdrawals.get? id with
    | none =>
      left
      simp only [storeAfter,Table.modifyAbsent found]
    | some r =>
      exact .inr ⟨id,r,_,_,found,⟨_,rfl,rfl⟩,rfl,rfl,rfl,fun _ => rfl,.inl ⟨rfl,rfl⟩,.refresh payoutStatus rfl rfl rfl⟩
  | closeReversal v answer =>
    obtain same | turn := reversalTurn sys.store v sys.clock answer
    · exact .inl same
    · exact .inr ⟨v.requestId,turn⟩
  | _ => exact .inl rfl

theorem Turn.rows {job id r r' refund} (turn : Turn job s s' id r r' refund) (k) :
    s'.withdrawals.get? k = if k = id then some r' else s.withdrawals.get? k := by
  obtain ⟨_,rfl,stored⟩ := turn.stored
  rw [stored,Table.getModify,turn.found,Option.map_some]

theorem stepUnfailed {job r r' refund} (step : RowStep job id r r' refund) (unfailed : r'.status ≠ .failed) : r.status ≠ .failed := by
  cases step with
  | fail _ _ _ _ after => exact absurd after unfailed
  | pay decision same before | reject decision same before => simp [before]
  | flip call _ _ _ before => exact before ▸ (callSource call).2
  | refresh _ _ after => exact after ▸ unfailed
  | reversed _ _ _ _ _ after => exact absurd after unfailed
  | refused _ _ _ _ _ _ after => exact after ▸ unfailed

theorem turnWhole {job r r' refund} (turn : Turn job s s' id r r' refund) (whole : r.status ≠ .failed → r.stripeTransferAmountReversed = 0)
    (unfailed : r'.status ≠ .failed) : r'.stripeTransferAmountReversed = 0 :=
  (turn.reversed unfailed).trans (whole (stepUnfailed turn.step unfailed))

theorem stepSettled {job r r' refund} (step : RowStep job id r r' refund)
    (settled : r.stripeTransferId ≠ "" → r.status ≠ .pending ∧ r.status ≠ .transferCreating ∧ r.status ≠ .rejected)
    (stored : r'.stripeTransferId ≠ "") : r'.status ≠ .pending ∧ r'.status ≠ .transferCreating ∧ r'.status ≠ .rejected := by
  cases step with
  | fail _ _ _ _ after | pay _ _ _ after | reversed _ _ _ _ _ after => simp [after]
  | reject _ _ before _ transfer => exact absurd before (settled (transfer ▸ stored)).1
  | flip call _ now _ before after transfer =>
    refine ⟨after ▸ (callTarget call).2.2,?_,after ▸ (callTarget call).1⟩
    intro creating
    obtain ⟨source,kept⟩ := @callTransferring call now r (after.symm.trans creating)
    exact (settled (kept ▸ transfer ▸ stored)).1 (before.trans source)
  | refresh _ _ after transfer | refused _ _ _ _ _ _ after transfer =>
    rw [after]
    exact settled (transfer ▸ stored)

theorem rowTurn {sys job r'} (row : (storeAfter sys job).withdrawals.get? id = some r') :
    sys.store.withdrawals.get? id = some r' ∨ ∃ r refund, Turn job sys.store (storeAfter sys job) id r r' refund := by
  obtain same | ⟨k,r,_,refund,turn⟩ := storeTurn sys job
  · exact .inl (same ▸ row)
  rw [turn.rows] at row
  split at row
  · rename_i here
    cases Option.some.inj row
    exact .inr ⟨r,refund,here ▸ turn⟩
  · exact .inl row

def Later (call : TransitionCall) : Prop := call.source ≠ .pending ∧ call.source ≠ .transferCreating

/- A job that relies on nothing: it is neither part of a remote call nor waits for one. -/
def Plain : Job → Prop
  | .createTransfer _ _ | .checkBalance _ _ _ | .markFailed _ .transferCreating _ | .flip _ (.storeTransfer _ _) _
  | .createPayout _ _ | .callReversal _ | .closeReversal _ _ => False
  | .flip _ _ orElse => ∀ other ∈ orElse, Later other
  | _ => True

inductive Follows (sys : PayoutSystem) (a : Answer) : Job → List Job → Prop
  | plain (job : Job) (jobs : List Job) (all : ∀ new ∈ jobs, Plain new) : Follows sys a job jobs
  | started (id : Nat) (accountId : String) (adminId : Nat) (orElse : Option TransitionCall) (w : WithdrawalRequest) (s' : CommissionStore)
      (ok : runTransition sys.store id (.startTransfer accountId adminId) sys.clock = .ok (w,s')) :
      Follows sys a (.flip id (.startTransfer accountId adminId) orElse) [.createTransfer id w]
  | counted (id : Nat) (orElse : Option TransitionCall) (w : WithdrawalRequest) (s' : CommissionStore)
      (ok : runTransition sys.store id .countAttempt sys.clock = .ok (w,s')) :
      Follows sys a (.flip id .countAttempt orElse) [.createPayout id w]
  | fallback (id : Nat) (call other : TransitionCall) : Follows sys a (.flip id call (some other)) [.flip id other none]
  | lost (id : Nat) (req : WithdrawalRequest) (e : StripeError) (seen : a.seen = some e) (reason : String) :
      Follows sys a (.createTransfer id req) [.markFailed id .transferCreating reason]
  | sent (id : Nat) (req : WithdrawalRequest) (seen : a.seen = none) :
      Follows sys a (.createTransfer id req) [.checkBalance id req (transferIdempotencyKey id)]
  | checked (id : Nat) (req : WithdrawalRequest) (transferId : String) (covered : Bool) :
      Follows sys a (.checkBalance id req transferId) [.flip id (.storeTransfer transferId covered) none]
  | opened (requestId : Nat) (reason : String) (v : Reversal) (ok : openReversal sys.store requestId reason = .ok (some v)) :
      Follows sys a (.reverse requestId reason) [.callReversal v]
  | answered (v : Reversal) : Follows sys a (.callReversal v) [.closeReversal v (reversalAnswer sys a v)]

theorem flipFollows (sys a id call orElse) : Follows sys a (.flip id call orElse) (nextJobs sys a (.flip id call orElse)) := by
  simp only [nextJobs]
  cases ok : runTransition sys.store id call sys.clock with
  | error =>
    cases orElse with
    | none => exact .plain _ _ (by simp [Except.map,afterFlip])
    | some other =>
      simp only [Except.map,afterFlip]
      split
      · exact .fallback id call other
      · exact .plain _ _ (by simp)
  | ok done =>
    obtain ⟨w,s'⟩ := done
    cases call with
    | startTransfer => exact .started id _ _ orElse w s' ok
    | countAttempt => exact .counted id orElse w s' ok
    | storeTransfer _ covered => cases covered <;> exact .plain _ _ (by simp [Except.map,afterFlip,Plain])
    | _ => exact .plain _ _ (by simp [Except.map,afterFlip,Plain])

theorem nextFollows (sys a job) : Follows sys a job (nextJobs sys a job) := by
  cases job with
  | flip id call orElse => exact flipFollows sys a id call orElse
  | createTransfer id req =>
    simp only [nextJobs,afterTransfer]
    split
    · rename_i e seen
      exact .lost id req e seen _
    · rename_i seen
      exact .sent id req seen
  | checkBalance id req transferId => exact .checked id req transferId _
  | reverse requestId reason =>
    simp only [nextJobs]
    split
    · rename_i v ok
      exact .opened requestId reason v ok
    · exact .plain _ _ (by simp)
  | callReversal v => exact .answered v
  | retryAll | reconcileAwaitingFunds | reconcileActionRequired =>
    exact .plain _ _ (List.forall_mem_map.mpr (fun _ _ => by simp [Plain]))
  | reconcileStuckPayoutCreating =>
    refine .plain _ _ (List.forall_mem_map.mpr ?_)
    intro r _
    unfold afterStuck
    split <;> simp [Plain]
  | _ =>
    refine .plain _ _ ?_
    simp only [nextJobs,afterApprove,afterAccount,afterProcess,afterPayout,afterEvent]
    repeat' split
    all_goals simp [Plain,Later,TransitionCall.source,PayoutSource.status]

theorem entryPlain (entry : Entry) : ∀ job ∈ entry.jobs, Plain job := by
  cases entry <;> simp [Entry.jobs,Plain]

theorem plainLoad {w : Job → Nat} {jobs : List Job} (zero : ∀ job, Plain job → w job = 0) (all : ∀ new ∈ jobs, Plain new) :
    (jobs.map w).sum = 0 := by
  refine List.sum_eq_zero ?_
  intro x mem
  obtain ⟨job,inside,rfl⟩ := List.mem_map.mp mem
  exact zero job (all job inside)

end NovaPuraRouter.PayoutSpec
