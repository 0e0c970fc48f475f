import NovaPuraRouter.PayoutSpec

/-! Payouts of one withdrawal at Stripe. The attempt counter in the idempotency key grows
before every call, so a key never protects a retry; what does is that an attempt starts only
when those before it are over. -/
namespace NovaPuraRouter.PayoutOnce
open Withdrawal WithdrawalSpec PayoutFlow PayoutSpec JobPool Table

def livePayouts (stripe : StripeSide) (requestId : Nat) : List (String × RemotePayout) :=
  stripe.payouts.select (fun _ p => decide (p.withdrawalId = requestId ∧ p.status ≠ .failed))

variable (sys : PayoutSystem)

def AtMostOneLive : Prop := ∀ requestId, (livePayouts sys.stripe requestId).length ≤ 1

def unsent (requestId : Nat) : Job → Nat
  | .createPayout id _ => if id = requestId then 1 else 0
  | _ => 0

def attempted (i : Nat) : Option Nat := match next sys.pool i with
  | some (.flip requestId .countAttempt _,_) =>
    if (sys.store.withdrawals.get? requestId).any (fun r => decide (r.status = .payoutCreating)) then some requestId else none
  | _ => none

def AttemptsOver (requestId : Nat) : Prop :=
  livePayouts sys.stripe requestId = [] ∧ load (unsent requestId) sys.pool = 0

def AttemptAlone : PayoutOp → Prop
  | .step i _ => ∀ requestId ∈ attempted sys i, AttemptsOver sys requestId
  | _ => True

def liveCount (stripe : StripeSide) (requestId : Nat) : Int :=
  stripe.payouts.sum (fun _ p => if p.withdrawalId = requestId ∧ p.status ≠ .failed then 1 else 0)

theorem liveLength (stripe requestId) : ((livePayouts stripe requestId).length : Int) = liveCount stripe requestId := by
  have count := sumSelect stripe.payouts (fun _ p => decide (p.withdrawalId = requestId ∧ p.status ≠ .failed)) (fun _ _ => 1)
  simpa [livePayouts,liveCount] using count

def Alone : Prop := ∀ requestId, liveCount sys.stripe requestId + load (unsent requestId) sys.pool ≤ 1

theorem aloneLive {sys} (alone : Alone sys) : AtMostOneLive sys := by
  intro requestId
  have bound := alone requestId
  have length := liveLength sys.stripe requestId
  omega

theorem createdLive (stripe key p carried requestId) : liveCount (createPayoutAt stripe key p carried) requestId ≤
      liveCount stripe requestId + if p.withdrawalId = requestId then 1 else 0 := by
  have grows : liveCount stripe requestId ≤ liveCount stripe requestId + if p.withdrawalId = requestId then 1 else 0 := by
    split <;> omega
  unfold createPayoutAt
  split
  · cases attempt : stripe.payouts.insert? key p with
    | none => exact grows
    | some =>
      obtain ⟨_,rfl⟩ := insertExact attempt
      simp only [liveCount,Option.getD_some,sumInsert]
      split
      · rename_i live
        rw [if_pos live.1]
      · split <;> omega
  · exact grows

theorem settledLive (stripe key status requestId) :
    liveCount (settlePayoutAt stripe key status) requestId ≤ liveCount stripe requestId := by
  refine sumModifyLe ?_
  intro p _
  split
  · exact Int.le_refl _
  rename_i running
  by_cases own : p.withdrawalId = requestId
  · simp only [own,running,true_and,ne_eq,not_false_eq_true,if_true]
    split <;> omega
  · simp [own]

theorem stripeLive (sys a job requestId) :
    liveCount (stripeAfter sys a job) requestId ≤ liveCount sys.stripe requestId + unsent requestId job := by
  cases job with
  | createPayout id req =>
    simpa [unsent,stripeAfter] using createdLive sys.stripe (payoutIdempotencyKey id req.stripePayoutAttempt)
      ⟨id,req.amountCents,req.stripeAccountId,a.payoutStatus⟩ a.carried requestId
  | createTransfer =>
    simp only [stripeAfter,createTransferAt,unsent]
    split <;> simp [liveCount]
  | callReversal =>
    simp only [stripeAfter,reverseTransferAt,unsent]
    split
    · split <;> simp [liveCount]
    · simp
  | _ => simp [stripeAfter,unsent]

theorem plainUnsent (requestId job) (plain : Plain job) : unsent requestId job = 0 := by
  cases job with
  | createPayout => exact plain.elim
  | _ => rfl

theorem nextUnsent (sys a requestId job) :
    ((nextJobs sys a job).map (unsent requestId)).sum = 0 ∨ ∃ orElse r, job = .flip requestId .countAttempt orElse ∧
      sys.store.withdrawals.get? requestId = some r ∧ r.status = .payoutCreating ∧
      ((nextJobs sys a job).map (unsent requestId)).sum = 1 := by
  have follows := nextFollows sys a job
  generalize nextJobs sys a job = jobs at follows
  cases follows with
  | plain _ _ all => exact .inl (plainLoad (plainUnsent requestId) all)
  | counted id orElse _ _ ok =>
    by_cases own : id = requestId
    · subst own
      obtain ⟨r,_,_,found,status,_⟩ := transitionExact ok
      exact .inr ⟨orElse,r,rfl,found,status,by simp [unsent]⟩
    · exact .inl (by simp [unsent,own])
  | _ => exact .inl rfl

theorem aloneJob {sys i a} (alone : Alone sys) (allowed : AttemptAlone sys (.step i a)) : Alone (stepPool sys i a) := by
  intro requestId
  have before := alone requestId
  unfold stepPool
  cases found : next sys.pool i with
  | none => exact before
  | some head =>
    obtain ⟨job,_⟩ := head
    have live := stripeLive sys a job requestId
    have pool := loadStep (unsent requestId) found (nextJobs sys a job)
    obtain zero | ⟨orElse,r,rfl,row,status,one⟩ := nextUnsent sys a requestId job
    · simp only
      omega
    have begins : requestId ∈ attempted sys i := by
      simp [attempted,found,row,status]
    obtain ⟨nothing,_⟩ := allowed requestId begins
    have length := liveLength sys.stripe requestId
    rw [nothing,List.length_nil] at length
    simp only
    omega

theorem aloneStep (sys op) (alone : Alone sys) (allowed : AttemptAlone sys op) : Alone (payoutStep sys op) := by
  cases op with
  | elapse | request | setAccount => exact alone
  | start entry =>
    intro requestId
    have before := alone requestId
    simp only [payoutStep,loadPush,plainLoad (plainUnsent requestId) (entryPlain entry)]
    exact before
  | step => exact aloneJob alone allowed
  | crash i =>
    intro requestId
    have before := alone requestId
    have fewer := loadCrash (unsent requestId) sys.pool i
    simp only [payoutStep]
    omega
  | settlePayout key status =>
    intro requestId
    have before := alone requestId
    have fewer := settledLive sys.stripe key status requestId
    simp only [payoutStep]
    omega

theorem oneLivePayout {users : Table Nat Affiliate} {accounts : Table Nat ConnectAccount} {clock : Int} {ops : List PayoutOp}
    (allowed : Along payoutStep AttemptAlone (payoutOpening users accounts clock) ops) :
    Always payoutStep AtMostOneLive (payoutOpening users accounts clock) ops := by
  have start : Alone (payoutOpening users accounts clock) := fun requestId => by simp [payoutOpening,liveCount,empty,sum]
  have alone : Always payoutStep Alone (payoutOpening users accounts clock) ops := alwaysKept aloneStep start allowed
  exact alwaysMono (fun _ held => aloneLive held) alone

def payee : Table Nat Affiliate := ⟨[(1,⟨0,true,0,5000,5000⟩)],by decide⟩

def payeeAccount : Table Nat ConnectAccount := ⟨[(1,⟨"acct",.enabled⟩)],by decide⟩

theorem quarter : 0 < 4 := by decide

theorem tenDollars : (0 : Int) ≤ 1000 := by decide

def minimumTen : CommissionSetting := ⟨some ⟨1,4,quarter⟩,1000,14,tenDollars⟩

def carriedOut : Answer := ⟨true,none,.pending,some 9000,some true,0⟩

def approvedPayout : List PayoutOp :=
  [.request minimumTen 1 2000,.start (.approve 1 9)] ++ List.replicate 9 (.step 0 carriedOut)

instance (sys op) : Decidable (AttemptAlone sys op) := match op with
  | .step i _ => decidable_of_iff ((attempted sys i).all (fun requestId =>
      decide (livePayouts sys.stripe requestId = []) && decide (load (unsent requestId) sys.pool = 0)) = true)
      (by simp [AttemptAlone,AttemptsOver,Option.all_eq_true])
  | .elapse _ | .request _ _ _ | .setAccount _ _ | .start _ | .crash _ | .settlePayout _ _ => .isTrue trivial

def failedPayout : PayoutPayload := ⟨payoutIdempotencyKey 1 1,.failed,some 1,"account closed",""⟩

theorem failedPayoutRetried : Always payoutStep AtMostOneLive (payoutOpening payee payeeAccount 0)
    (approvedPayout ++ [.step 0 carriedOut,.settlePayout (payoutIdempotencyKey 1 1) .failed,
      .start (.payoutEvent .failed failedPayout),.step 1 carriedOut,.step 1 carriedOut,
      .start (.accountEvent "acct" .actionRequired)] ++ List.replicate 6 (.step 2 carriedOut)) :=
  oneLivePayout (by decide)

theorem crashedPayoutDoubled : ¬ Always payoutStep AtMostOneLive (payoutOpening payee payeeAccount 0)
    (approvedPayout ++ [.crash 0,.elapse 600,.start .reconcile] ++ List.replicate 5 (.step 1 carriedOut)) := by
  intro always
  have last := alwaysLast always 1
  exact absurd last (by decide)

end NovaPuraRouter.PayoutOnce
