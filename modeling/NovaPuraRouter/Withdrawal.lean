import NovaPuraRouter.CommissionPlan

/-! Requests to withdraw cash commission: creation, review, the status flips of the Stripe
Connect payout with what their callers write, and the reversal of a transfer. Stripe is
called outside every transaction: a reversal reads its request, waits, and comes back to one
that may have moved. -/
namespace NovaPuraRouter.Withdrawal

inductive WithdrawalFailure
  | recordNotFound | userIdEmpty | belowMinimum (minimum : Int) | notApproved | balanceTooLow (available : Int)
  | invalidRequestId | invalidAction | requestMissing | statusConflict
  | requestNotFound (requestId : Nat) | noTransferId | reversalAlreadyTerminal | reversalInsufficientFunds
  | reversalRefused (text : String) | conflictAfterReversal (cause : WithdrawalFailure)
  deriving DecidableEq, Repr

def takeBytes : Nat → List Char → List Char
  | _, [] => []
  | room, c :: rest => if c.utf8Size ≤ room then c :: takeBytes (room - c.utf8Size) rest else []

-- The source cuts between bytes; the cut here is at the last whole character before it.
def truncateReason (s : String) (bound : Nat) : String :=
  if s.utf8ByteSize ≤ bound then s else String.ofList (takeBytes bound s.toList)

abbrev Users := Table Nat Affiliate

def addBalance (amountCents : Int) (u : Affiliate) : Affiliate :=
  { u with commissionBalanceCents := u.commissionBalanceCents + amountCents }

def newRequest (userId : Nat) (amountCents now : Int) : WithdrawalRequest where
  userId := userId
  amountCents := amountCents
  status := .pending
  payoutChannel := ""
  payoutTxId := ""
  adminRemark := ""
  reviewedBy := 0
  requestedAt := now
  reviewedAt := 0
  stripeAccountId := ""
  stripeTransferId := ""
  stripeTransferStatus := ""
  stripeTransferAmountReversed := 0
  stripePayoutId := ""
  stripePayoutStatus := ""
  stripePayoutAttempt := 0
  lastReconcileAt := 0
  lastReconcileError := ""
  nextActionAt := 0

def createWithdrawalRequest (setting : CommissionSetting) (s : CommissionStore) (userId : Nat) (amountCents now : Int) :
    Except WithdrawalFailure (WithdrawalRequest × CommissionStore) := do
  require (userId ≠ 0) .userIdEmpty
  require (setting.minWithdrawalCents ≤ amountCents) (.belowMinimum setting.minWithdrawalCents)
  let user ← row (s.users.get? userId) .recordNotFound
  require (user.commissionApproved = true) .notApproved
  require (amountCents ≤ user.commissionBalanceCents) (.balanceTooLow user.commissionBalanceCents)
  pure (newRequest userId amountCents now,{ s with
    users := s.users.modify userId (addBalance (-amountCents))
    withdrawals := s.withdrawals.append (newRequest userId amountCents now) })

structure Review where
  action : WithdrawalStatus
  adminId : Nat
  payoutChannel : String
  payoutTxId : String
  adminRemark : String

def reviewed (review : Review) (now : Int) (r : WithdrawalRequest) : WithdrawalRequest := { r with
  status := review.action
  payoutChannel := review.payoutChannel
  payoutTxId := review.payoutTxId
  adminRemark := review.adminRemark
  reviewedBy := review.adminId
  reviewedAt := now }

def refundRejected (users : Users) (action : WithdrawalStatus) (r : WithdrawalRequest) : Except WithdrawalFailure Users :=
  if action = .rejected then do
    let _ ← row (users.get? r.userId) .recordNotFound
    pure (users.modify r.userId (addBalance r.amountCents))
  else pure users

def adminProcessWithdrawal (s : CommissionStore) (requestId : Nat) (review : Review) (now : Int) :
    Except WithdrawalFailure (WithdrawalRequest × CommissionStore) := do
  require (requestId ≠ 0) .invalidRequestId
  require (review.action = .paid ∨ review.action = .rejected) .invalidAction
  let req ← row (s.withdrawals.get? requestId) .requestMissing
  if req.status ≠ .pending then pure (req,s)
  else do
    let users ← refundRejected s.users review.action req
    pure (reviewed review now req,{ s with
      users := users, withdrawals := s.withdrawals.modify requestId (reviewed review now) })

def storeColumns (result r : WithdrawalRequest) : WithdrawalRequest :=
  { result with userId := r.userId, amountCents := r.amountCents, requestedAt := r.requestedAt }

def withStatus (target : WithdrawalStatus) (r : WithdrawalRequest) : WithdrawalRequest := { r with status := target }

/- A mutator works on the copy it is given and on the users table of the same transaction. -/
abbrev Mutator := Users → WithdrawalRequest → Except WithdrawalFailure (WithdrawalRequest × Users)

def transitionWithdrawalStatus (s : CommissionStore) (requestId : Nat) (source target : WithdrawalStatus) (mutator : Mutator) :
    Except WithdrawalFailure (WithdrawalRequest × CommissionStore) := do
  require (requestId ≠ 0) .invalidRequestId
  let found ← row (s.withdrawals.get? requestId) .statusConflict
  require (found.status = source) .statusConflict
  let (edited,users) ← mutator s.users found
  pure (withStatus target edited,{ s with
    users := users, withdrawals := s.withdrawals.modify requestId (storeColumns (withStatus target edited)) })

def refundWithdrawalBalance (users : Users) (userId : Nat) (amountCents : Int) : Except WithdrawalFailure Users :=
  if amountCents ≤ 0 then pure users
  else do
    let _ ← row (users.get? userId) .recordNotFound
    pure (users.modify userId (addBalance amountCents))

def failedMutator (reason : String) (now : Int) : Mutator := fun users r => do
  let users' ← refundWithdrawalBalance users r.userId r.amountCents
  pure ({ r with adminRemark := truncateReason reason 2000, reviewedAt := now },users')

def markWithdrawalFailed (s : CommissionStore) (requestId : Nat) (source : WithdrawalStatus) (reason : String) (now : Int) :
    Except WithdrawalFailure (WithdrawalRequest × CommissionStore) :=
  transitionWithdrawalStatus s requestId source .failed (failedMutator reason now)

-- The statuses its callers pass: no usable account before the transfer, or a refused transfer.
inductive FailSource | pending | transferCreating
  deriving DecidableEq, Repr

def FailSource.status : FailSource → WithdrawalStatus
  | .pending => .pending
  | .transferCreating => .transferCreating

inductive RetrySource | awaitingFunds | actionRequired
  deriving DecidableEq, Repr

def RetrySource.status : RetrySource → WithdrawalStatus
  | .awaitingFunds => .awaitingFunds
  | .actionRequired => .actionRequired

inductive PayoutSource | processing | payoutCreating
  deriving DecidableEq, Repr

def PayoutSource.status : PayoutSource → WithdrawalStatus
  | .processing => .processing
  | .payoutCreating => .payoutCreating

inductive TransitionCall
  | startTransfer (accountId : String) (adminId : Nat)
  | storeTransfer (transferId : String) (covered : Bool)
  | countAttempt
  | awaitFunds (reason : String)
  | recordPayoutError (reason : String)
  | storePayout (payoutId payoutStatus : String)
  | retryPayout (source : RetrySource)
  | backfillPayout (payoutId payoutStatus : String)
  | payoutPaid (source : PayoutSource) (payoutId : String)
  | payoutFailed (source : PayoutSource) (reason : String)
  | maxAttemptsReached

def TransitionCall.source : TransitionCall → WithdrawalStatus
  | .startTransfer _ _ => .pending
  | .storeTransfer _ _ => .transferCreating
  | .countAttempt | .awaitFunds _ | .recordPayoutError _ | .storePayout _ _ => .payoutCreating
  | .retryPayout source => source.status
  | .backfillPayout _ _ => .processing
  | .payoutPaid source _ | .payoutFailed source _ => source.status
  | .maxAttemptsReached => .payoutCreating

def TransitionCall.target : TransitionCall → WithdrawalStatus
  | .startTransfer _ _ => .transferCreating
  | .storeTransfer _ covered => if covered then .payoutCreating else .awaitingFunds
  | .countAttempt => .payoutCreating
  | .awaitFunds _ => .awaitingFunds
  | .recordPayoutError _ => .payoutCreating
  | .storePayout _ _ => .processing
  | .retryPayout _ => .payoutCreating
  | .backfillPayout _ _ => .processing
  | .payoutPaid _ _ => .paid
  | .payoutFailed _ _ | .maxAttemptsReached => .actionRequired

def TransitionCall.edit (now : Int) (r : WithdrawalRequest) : TransitionCall → WithdrawalRequest
  | .startTransfer accountId adminId =>
      { r with stripeAccountId := accountId, payoutChannel := "stripe_connect", reviewedBy := adminId, reviewedAt := now }
  | .storeTransfer transferId _ =>
      { r with stripeTransferId := transferId, stripeTransferStatus := "created", lastReconcileAt := now }
  | .countAttempt => { r with stripePayoutAttempt := r.stripePayoutAttempt + 1, lastReconcileAt := now }
  | .awaitFunds reason | .recordPayoutError reason => { r with lastReconcileError := truncateReason reason 2000, lastReconcileAt := now }
  | .storePayout payoutId payoutStatus =>
      { r with stripePayoutId := payoutId, stripePayoutStatus := payoutStatus, lastReconcileAt := now, lastReconcileError := "" }
  | .retryPayout _ => { r with lastReconcileError := "", lastReconcileAt := now }
  | .backfillPayout payoutId payoutStatus =>
      { r with stripePayoutId := payoutId, stripePayoutStatus := payoutStatus, lastReconcileAt := now, lastReconcileError := "" }
  | .payoutPaid _ payoutId =>
      { r with stripePayoutId := payoutId, stripePayoutStatus := "paid", lastReconcileError := "", lastReconcileAt := now }
  | .payoutFailed _ reason =>
      { r with lastReconcileError := truncateReason ("payout.failed: " ++ reason) 2000, lastReconcileAt := now }
  | .maxAttemptsReached =>
      { r with lastReconcileError := truncateReason "max payout attempts reached" 2000, lastReconcileAt := now }

def runTransition (s : CommissionStore) (requestId : Nat) (call : TransitionCall) (now : Int) :
    Except WithdrawalFailure (WithdrawalRequest × CommissionStore) :=
  transitionWithdrawalStatus s requestId call.source call.target (fun users r => pure (call.edit now r,users))

def isWithdrawalTerminal (status : WithdrawalStatus) : Prop := status = .paid ∨ status = .failed ∨ status = .canceled
instance (status) : Decidable (isWithdrawalTerminal status) := by unfold isWithdrawalTerminal; infer_instance

structure Reversal where
  requestId : Nat
  req : WithdrawalRequest
  reason : String

def Reversal.amountToReverse (r : Reversal) : Int := r.req.amountCents - r.req.stripeTransferAmountReversed

inductive ReversalAnswer
  | reversed (amountReversed : Int)
  | refused (text : String) (insufficientFunds : Bool)

-- No call to Stripe where everything is reversed already.
def openReversal (s : CommissionStore) (requestId : Nat) (reason : String) : Except WithdrawalFailure (Option Reversal) := do
  require (requestId ≠ 0) .invalidRequestId
  let req ← row (s.withdrawals.get? requestId) (.requestNotFound requestId)
  require (req.stripeTransferId ≠ "") .noTransferId
  require (¬ isWithdrawalTerminal req.status) .reversalAlreadyTerminal
  if req.amountCents - req.stripeTransferAmountReversed ≤ 0 then pure none
  else pure (some ⟨requestId,req,reason⟩)

def reversedMutator (amountReversed : Int) (reason : String) (now : Int) : Mutator := fun users r => do
  let users' ← refundWithdrawalBalance users r.userId amountReversed
  pure ({ r with
    stripeTransferAmountReversed := r.stripeTransferAmountReversed + amountReversed
    adminRemark := truncateReason reason 2000
    reviewedAt := now },users')

def refusedMutator (text : String) (now : Int) : Mutator := fun users r =>
  pure ({ r with lastReconcileError := truncateReason ("reversal failed: " ++ text) 2000, lastReconcileAt := now },users)

/- What follows the answer. A conflict leaves the request as the other worker left it. -/
def closeReversal (s : CommissionStore) (r : Reversal) (now : Int) :
    ReversalAnswer → Except WithdrawalFailure WithdrawalRequest × CommissionStore
  | .reversed amountReversed =>
    match transitionWithdrawalStatus s r.requestId r.req.status .failed (reversedMutator amountReversed r.reason now) with
    | .ok (result,s') => (.ok result,s')
    | .error e => (.error (.conflictAfterReversal e),s)
  | .refused text insufficientFunds =>
    (.error (if insufficientFunds then .reversalInsufficientFunds else .reversalRefused text),
      commit s ((transitionWithdrawalStatus s r.requestId r.req.status r.req.status (refusedMutator text now)).map Prod.snd))

end NovaPuraRouter.Withdrawal
