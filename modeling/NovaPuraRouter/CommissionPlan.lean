import NovaPuraRouter.TopupOrder

/-! The cash commission of an inviter: its credit for one paid top-up and the release of
matured credits. Its columns are a table of their own. A rate is an exact fraction, absent
where the float is NaN or infinite. -/
namespace NovaPuraRouter

inductive CommissionStatus | pending | available | reverted
  deriving DecidableEq, Repr

inductive WithdrawalStatus
  | pending | paid | rejected
  | transferCreating | awaitingFunds | payoutCreating | processing | actionRequired | failed | canceled
  deriving DecidableEq, Repr

structure Affiliate where
  inviterId : Nat
  commissionApproved : Bool
  pendingCommissionCents : Int
  commissionBalanceCents : Int
  commissionTotalCents : Int
  deriving DecidableEq, Repr

structure Commission where
  inviterId : Nat
  inviteeId : Nat
  topUpId : String
  paidAmountCents : Int
  paidCurrency : String
  rate : Ratio
  commissionCents : Int
  status : CommissionStatus
  availableAt : Int

structure WithdrawalRequest where
  userId : Nat
  amountCents : Int
  status : WithdrawalStatus
  payoutChannel : String
  payoutTxId : String
  adminRemark : String
  reviewedBy : Nat
  requestedAt : Int
  reviewedAt : Int
  stripeAccountId : String
  stripeTransferId : String
  stripeTransferStatus : String
  stripeTransferAmountReversed : Int
  stripePayoutId : String
  stripePayoutStatus : String
  stripePayoutAttempt : Int
  lastReconcileAt : Int
  lastReconcileError : String
  nextActionAt : Int
  deriving DecidableEq, Repr

structure CommissionStore where
  users : Table Nat Affiliate
  commissions : Table Nat Commission
  withdrawals : Table Nat WithdrawalRequest

structure CommissionSetting where
  affCommissionRate : Option Ratio
  minWithdrawalCents : Int
  commissionFreezeDays : Int
  minimum : 0 ≤ minWithdrawalCents

namespace CommissionPlan
open TopupOrder

def zeroRate : Ratio := ⟨0,1,Nat.one_pos⟩
def oneRate : Ratio := ⟨1,1,Nat.one_pos⟩

def clampAffCommissionRate : Option Ratio → Ratio
  | none => zeroRate
  | some rate => if rate.num < 0 then zeroRate else if (rate.den : Int) < rate.num then oneRate else rate

variable (setting : CommissionSetting)

def updateAffCommissionRate (parsed : Option Ratio) : CommissionSetting :=
  { setting with affCommissionRate := some (clampAffCommissionRate parsed) }

def updateMinWithdrawalCents (parsed : Option Int) : CommissionSetting :=
  match parsed with
  | none => setting
  | some v => if nonneg : 0 ≤ v then { setting with minWithdrawalCents := v, minimum := nonneg } else setting

def updateCommissionFreezeDays (parsed : Option Int) : CommissionSetting :=
  { setting with commissionFreezeDays := max (parsed.getD 0) 0 }

structure CommissionSettlement where
  inviterId : Nat
  inviteeId : Nat
  topUpId : String
  commissionCents : Int
  availableAt : Int
  deriving DecidableEq, Repr

def commissionFor (paidAmountCents : Int) : Int :=
  quotaFromRatio (paidAmountCents * (clampAffCommissionRate setting.affCommissionRate).num)
    (clampAffCommissionRate setting.affCommissionRate).den

def freezeSeconds : Int :=
  if setting.commissionFreezeDays < 0 then 0 else setting.commissionFreezeDays * 86400

variable (s : CommissionStore)

def creditPending (c : Commission) : CommissionStore := { s with
  commissions := s.commissions.append c
  users := s.users.modify c.inviterId (fun u => { u with
    pendingCommissionCents := u.pendingCommissionCents + c.commissionCents
    commissionTotalCents := u.commissionTotalCents + c.commissionCents }) }

def settleRechargeCommission (inviteeId : Nat) (topUpId : String)
    (paidAmountCents : Int) (paidCurrency : String) (now : Int) :
    Except Failure (Option CommissionSettlement × CommissionStore) :=
  if paidAmountCents ≤ 0 ∨ inviteeId = 0 ∨ topUpId = "" then pure (none,s)
  else do
    let invitee ← row (s.users.get? inviteeId) .recordNotFound
    if invitee.inviterId = 0 ∨ invitee.inviterId = inviteeId then pure (none,s)
    else do
      let inviter ← row (s.users.get? invitee.inviterId) .recordNotFound
      if inviter.commissionApproved = false then pure (none,s)
      else if s.commissions.select (fun _ c => decide (c.topUpId = topUpId ∧ c.inviterId = invitee.inviterId)) ≠ [] then
        pure (none,s)
      else if commissionFor setting paidAmountCents ≤ 0 then pure (none,s)
      else
        pure (some ⟨invitee.inviterId,inviteeId,topUpId,commissionFor setting paidAmountCents,now + freezeSeconds setting⟩,
          creditPending s {
            inviterId := invitee.inviterId, inviteeId := inviteeId, topUpId := topUpId
            paidAmountCents := paidAmountCents, paidCurrency := paidCurrency
            rate := clampAffCommissionRate setting.affCommissionRate
            commissionCents := commissionFor setting paidAmountCents
            status := .pending, availableAt := now + freezeSeconds setting })

def commissionReleaseBatchSize : Nat := 100

/- One read of the release loop, outside any transaction: copies of the rows. -/
def maturedBatch (now : Int) : List (Nat × Commission) :=
  ((s.commissions.select (fun _ c => decide (c.status = .pending ∧ c.availableAt ≤ now))).insertionSort
    (fun a b => a.1 ≤ b.1)).take commissionReleaseBatchSize

def addCents (sums : Table Nat Int) (inviterId : Nat) (cents : Int) : Table Nat Int :=
  match sums.insert? inviterId cents with
  | some sums' => sums'
  | none => sums.modify inviterId (fun sum => sum + cents)

variable (batch : List (Nat × Commission))

def byInviter : Table Nat Int :=
  batch.foldl (fun sums r => addCents sums r.2.inviterId r.2.commissionCents) Table.empty

def moveCents (sum : Int) (u : Affiliate) : Affiliate := { u with
  pendingCommissionCents := u.pendingCommissionCents - sum
  commissionBalanceCents := u.commissionBalanceCents + sum }

-- An inviter whose pending cents do not cover the sum is dropped from the map.
def debitInviter (state : Table Nat Affiliate × Table Nat Int) (entry : Nat × Int) :
    Except Failure (Table Nat Affiliate × Table Nat Int) := do
  let inviter ← row (state.1.get? entry.1) .recordNotFound
  if inviter.pendingCommissionCents < entry.2 then pure (state.1,state.2.erase entry.1)
  else pure (state.1.modify entry.1 (moveCents entry.2),state.2)

def releaseIds (kept : Table Nat Int) : List Nat :=
  (batch.filter (fun r => decide (r.2.inviterId ∈ kept.keys))).map Prod.fst

def makeAvailable (c : Commission) : Commission := { c with status := .available }

/- The transaction of one batch, with the number of rows it flips. The source ranges over
its map in no fixed order; each inviter is in it once. -/
def releaseBatch : Except Failure (Nat × CommissionStore) := do
  let (users,kept) ← (byInviter batch).rows.foldlM debitInviter (s.users,byInviter batch)
  pure ((releaseIds batch kept).length,{ s with
    users := users
    commissions := s.commissions.update (fun id _ => decide (id ∈ releaseIds batch kept)) makeAvailable })

/- Where a run of the release loop stands: between runs with the last result, about to read
a batch, or holding a batch whose transaction has not run. -/
inductive Releaser
  | returned (released : Nat) (err : Option Failure)
  | reading (now : Int) (released : Nat)
  | holding (now : Int) (released : Nat) (batch : List (Nat × Commission))

def releaseStep (clock : Int) : Releaser → Releaser × CommissionStore
  | .returned _ _ => (.reading clock 0,s)
  | .reading now released =>
    if maturedBatch s now = [] then (.returned released none,s) else (.holding now released (maturedBatch s now),s)
  | .holding now released batch => match releaseBatch s batch with
    | .error e => (.returned released (some e),s)
    | .ok (flipped,s') =>
      if batch.length < commissionReleaseBatchSize then (.returned (released + flipped) none,s')
      else (.reading now (released + flipped),s')

-- A failed read, a failed commit or the end of the process.
def abandon (err : Failure) : Releaser → Releaser
  | .returned released last => .returned released last
  | .reading _ released | .holding _ released _ => .returned released (some err)

end CommissionPlan
end NovaPuraRouter
