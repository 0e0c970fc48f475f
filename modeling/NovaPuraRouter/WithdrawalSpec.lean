import NovaPuraRouter.Withdrawal

/-! What a withdrawal request holds of its owner's commission, and the statuses its
transitions leave and reach. A request with a transfer has left the statuses that a
reviewer can still decide. -/
namespace NovaPuraRouter.WithdrawalSpec
open Withdrawal

def openAmount (r : WithdrawalRequest) : Int := if r.status = .rejected ∨ r.status = .failed then 0 else r.amountCents

structure RequestSound (r : WithdrawalRequest) : Prop where
  amount : 0 ≤ r.amountCents
  transfer : r.stripeTransferId ≠ "" → r.status ≠ .pending ∧ r.status ≠ .transferCreating ∧ r.status ≠ .rejected
  whole : r.status ≠ .failed → r.stripeTransferAmountReversed = 0

def RequestsSound (s : CommissionStore) : Prop := ∀ id r, s.withdrawals.get? id = some r → RequestSound r

variable {r w : WithdrawalRequest} {s s' : CommissionStore} {requestId : Nat} {now : Int} {v : Reversal}

theorem openLive (live : r.status ≠ .rejected ∧ r.status ≠ .failed) : openAmount r = r.amountCents :=
  if_neg (not_or.mpr live)

theorem transitionExact {source target mutator} (ok : transitionWithdrawalStatus s requestId source target mutator = .ok (w,s')) :
    ∃ r edited users, s.withdrawals.get? requestId = some r ∧ r.status = source ∧ mutator s.users r = .ok (edited,users) ∧ s' = { s with
        users := users, withdrawals := s.withdrawals.modify requestId (storeColumns (withStatus target edited)) } := by
  simp only [transitionWithdrawalStatus,bindOk,requireOk,rowOk,pureOk,Prod.mk.injEq] at ok
  obtain ⟨_,_,r,found,_,status,⟨edited,users⟩,mutated,_,rfl⟩ := ok
  exact ⟨r,edited,users,found,status,mutated,rfl⟩

variable (call : TransitionCall)

open TransitionCall

theorem callSource : call.source ≠ .rejected ∧ call.source ≠ .failed := by
  cases call with
  | retryPayout source => cases source <;> simp [source,RetrySource.status]
  | payoutPaid source | payoutFailed source => cases source <;> simp [source,PayoutSource.status]
  | _ => simp [source]

theorem callTarget : call.target ≠ .rejected ∧ call.target ≠ .failed ∧ call.target ≠ .pending := by
  cases call with
  | storeTransfer _ covered => cases covered <;> simp [target]
  | _ => simp [target]

theorem callReversed (now) (r : WithdrawalRequest) :
    (call.edit now r).stripeTransferAmountReversed = r.stripeTransferAmountReversed := by
  cases call <;> rfl

theorem callTransferring {call : TransitionCall} {now} {r : WithdrawalRequest} (target : call.target = .transferCreating) :
    call.source = .pending ∧ (call.edit now r).stripeTransferId = r.stripeTransferId := by
  cases call with
  | startTransfer => exact ⟨rfl,rfl⟩
  | storeTransfer _ covered => cases covered <;> cases target
  | _ => cases target

theorem failSource (source : FailSource) : source.status ≠ .rejected ∧ source.status ≠ .failed := by
  cases source <;> decide

structure ReversalSound (s : CommissionStore) (v : Reversal) : Prop where
  live : v.req.status ≠ .rejected ∧ v.req.status ≠ .failed
  whole : v.req.stripeTransferAmountReversed = 0
  row : ∃ r, s.withdrawals.get? v.requestId = some r ∧ r.amountCents = v.req.amountCents

theorem openReversalSound {reason} (ok : openReversal s requestId reason = .ok (some v)) (sound : RequestsSound s) : ReversalSound s v := by
  simp only [openReversal,bindOk,requireOk,rowOk] at ok
  obtain ⟨_,_,r,found,_,transfer,_,unsettled,ok⟩ := ok
  split at ok
  · cases pureOk.mp ok
  cases pureOk.mp ok
  have request := sound requestId r found
  have unfailed : r.status ≠ .failed := fun failed => unsettled (.inr (.inl failed))
  exact ⟨⟨(request.transfer transfer).2.2,unfailed⟩,request.whole unfailed,r,found,rfl⟩

def ExactAnswer (v : Reversal) (answer : ReversalAnswer) : Prop :=
  ∀ amountReversed, answer = .reversed amountReversed → amountReversed = v.amountToReverse

end NovaPuraRouter.WithdrawalSpec
