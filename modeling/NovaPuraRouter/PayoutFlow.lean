import NovaPuraRouter.Withdrawal
import NovaPuraRouter.JobPool

/-! The Stripe Connect payout of a withdrawal, step by step: approval, payout, reversal,
reconciliation pass and webhooks as goroutines that interleave and may crash between any two
steps, against the objects Stripe holds. A step is one read, transaction or call. Stripe
carries out a key once; an error may hide a call that was carried out. -/
namespace NovaPuraRouter.PayoutFlow
open Withdrawal Table

inductive PayoutStatus | pending | inTransit | paid | failed | canceled
  deriving DecidableEq, Repr

def PayoutStatus.text : PayoutStatus → String
  | .pending => "pending"
  | .inTransit => "in_transit"
  | .paid => "paid"
  | .failed => "failed"
  | .canceled => "canceled"

inductive OnboardingState | created | onboarding | enabled | restricted | rejected
  deriving DecidableEq, Repr

def OnboardingState.text : OnboardingState → String
  | .created => "created"
  | .onboarding => "onboarding"
  | .enabled => "enabled"
  | .restricted => "restricted"
  | .rejected => "rejected"

structure ConnectAccount where
  stripeAccountId : String
  onboardingState : OnboardingState
  deriving DecidableEq, Repr

def transferIdempotencyKey (withdrawalId : Nat) : String := "withdrawal:" ++ toString withdrawalId ++ ":transfer"

def payoutIdempotencyKey (withdrawalId : Nat) (attempt : Int) : String :=
  "withdrawal:" ++ toString withdrawalId ++ ":payout:" ++ toString attempt

def reversalIdempotencyKey (withdrawalId : Nat) : String := "withdrawal:" ++ toString withdrawalId ++ ":reversal"

structure RemoteTransfer where
  withdrawalId : Nat
  userId : Nat
  amountCents : Int
  destination : String
  reversedCents : Int
  deriving DecidableEq, Repr

structure RemotePayout where
  withdrawalId : Nat
  amountCents : Int
  accountId : String
  status : PayoutStatus
  deriving DecidableEq, Repr

/- What Stripe holds, under the idempotency keys; an object's id is its key here. -/
structure StripeSide where
  transfers : Table String RemoteTransfer
  payouts : Table String RemotePayout
  reversals : Table String Int

structure StripeError where
  text : String
  insufficientFunds : Bool
  deriving DecidableEq, Repr

/- How Stripe and the network treat one call. Queries answer nothing where they fail. A
reversal is reported at the amount asked for less the shortfall. -/
structure Answer where
  carried : Bool
  error : Option StripeError
  payoutStatus : PayoutStatus
  balance : Option Int
  usable : Option Bool
  shortfall : Nat

def Answer.seen (a : Answer) : Option StripeError :=
  if a.carried then a.error else some (a.error.getD ⟨"",false⟩)

def createTransferAt (stripe : StripeSide) (key : String) (t : RemoteTransfer) (carried : Bool) : StripeSide :=
  if carried then { stripe with transfers := (stripe.transfers.insert? key t).getD stripe.transfers } else stripe

def createPayoutAt (stripe : StripeSide) (key : String) (p : RemotePayout) (carried : Bool) : StripeSide :=
  if carried then { stripe with payouts := (stripe.payouts.insert? key p).getD stripe.payouts } else stripe

def reverseTransferAt (stripe : StripeSide) (transferId key : String) (amount : Int) (carried : Bool) : StripeSide :=
  if carried then
    match stripe.reversals.insert? key amount with
    | some reversals => { stripe with
        reversals := reversals
        transfers := stripe.transfers.modify transferId (fun t => { t with reversedCents := t.reversedCents + amount }) }
    | none => stripe
  else stripe

structure PayoutPayload where
  id : String
  status : PayoutStatus
  withdrawalId : Option Nat
  failureMessage : String
  failureCode : String

inductive PayoutEventKind | created | updated | paid | failed
  deriving DecidableEq, Repr

/- What a goroutine does next. A flip may name another flip to try on a conflict. -/
inductive Job
  | approve (requestId adminId : Nat)
  | checkAccount (requestId : Nat) (req : WithdrawalRequest) (adminId : Nat)
  | markFailed (requestId : Nat) (source : FailSource) (reason : String)
  | flip (requestId : Nat) (call : TransitionCall) (orElse : Option TransitionCall)
  | createTransfer (requestId : Nat) (req : WithdrawalRequest)
  | checkBalance (requestId : Nat) (req : WithdrawalRequest) (transferId : String)
  | process (requestId : Nat)
  | createPayout (requestId : Nat) (req : WithdrawalRequest)
  | retryAll (userId : Nat) (source : RetrySource)
  | reconcileAwaitingFunds
  | reconcileStuckPayoutCreating
  | reconcileActionRequired
  | checkFunds (requestId : Nat) (req : WithdrawalRequest)
  | checkExternal (requestId : Nat) (req : WithdrawalRequest)
  | accountEvent (accountId : String) (source : RetrySource)
  | payoutEvent (kind : PayoutEventKind) (po : PayoutPayload)
  | refreshPayout (requestId : Nat) (payoutStatus : PayoutStatus)
  | review (requestId : Nat) (decision : Review)
  | reverse (requestId : Nat) (reason : String)
  | callReversal (v : Reversal)
  | closeReversal (v : Reversal) (answer : ReversalAnswer)

structure PayoutSystem where
  store : CommissionStore
  accounts : Table Nat ConnectAccount
  stripe : StripeSide
  clock : Int
  pool : List (List Job)
  credits : List (Nat × Int)

def reconcileBatchSize : Nat := 50
def reconcileStuckPayoutCreatingMinutes : Int := 5
def reconcileMaxPayoutAttempts : Int := 5

variable (s : CommissionStore)

def rowsIn (p : WithdrawalRequest → Bool) : List (Nat × WithdrawalRequest) :=
  s.withdrawals.select (fun _ r => p r)

-- The first row by id: rows are appended under growing ids.
def findWithdrawalByPayout (po : PayoutPayload) : Option (Nat × WithdrawalRequest) :=
  let byId := if po.id = "" then none else (rowsIn s (fun r => decide (r.stripePayoutId = po.id))).head?
  match byId with
  | some found => some found
  | none => po.withdrawalId.bind (fun id => (s.withdrawals.get? id).map (fun r => (id,r)))

def userByStripeId (accounts : Table Nat ConnectAccount) (accountId : String) : Option Nat :=
  ((accounts.select (fun _ a => decide (a.stripeAccountId = accountId))).head?).map Prod.fst

def failureReason (po : PayoutPayload) : String :=
  if po.failureMessage ≠ "" then po.failureMessage else if po.failureCode ≠ "" then po.failureCode else "unknown"

/- The jobs that follow each read; none where the source returns or continues its loop. -/
def afterApprove (requestId adminId : Nat) : List Job := match s.withdrawals.get? requestId with
  | none => []
  | some req => if req.status ≠ .pending then [] else [.checkAccount requestId req adminId]

def afterAccount (accounts : Table Nat ConnectAccount) (requestId : Nat) (req : WithdrawalRequest) (adminId : Nat) : List Job :=
  match accounts.get? req.userId with
  | none => [.markFailed requestId .pending ("user " ++ toString req.userId ++ " has no stripe connect account")]
  | some acc =>
    if acc.onboardingState ≠ .enabled then
      [.markFailed requestId .pending
        ("user " ++ toString req.userId ++ " stripe connect account not enabled (state=" ++ acc.onboardingState.text ++ ")")]
    else [.flip requestId (.startTransfer acc.stripeAccountId adminId) none]

def afterProcess (requestId : Nat) : List Job := match s.withdrawals.get? requestId with
  | none => []
  | some req =>
    if req.status ≠ .payoutCreating ∨ req.stripeTransferId = "" ∨ req.stripeAccountId = "" then []
    else [.flip requestId .countAttempt none]

def afterFlip (requestId : Nat) (call : TransitionCall) (orElse : Option TransitionCall) :
    Except WithdrawalFailure WithdrawalRequest → List Job
  | .ok req => match call with
    | .startTransfer _ _ => [.createTransfer requestId req]
    | .storeTransfer _ covered => if covered then [.process requestId] else []
    | .countAttempt => [.createPayout requestId req]
    | .retryPayout _ => [.process requestId]
    | _ => []
  | .error e => match orElse with
    | some other => if e = .statusConflict then [.flip requestId other none] else []
    | none => []

def afterTransfer (requestId : Nat) (req : WithdrawalRequest) (seen : Option StripeError) : List Job := match seen with
  | some err => [.markFailed requestId .transferCreating ("stripe transfer.New: " ++ err.text)]
  | none => [.checkBalance requestId req (transferIdempotencyKey requestId)]

def afterBalance (requestId : Nat) (req : WithdrawalRequest) (transferId : String) (balance : Option Int) : List Job :=
  [.flip requestId (.storeTransfer transferId (decide (¬ balance.getD 0 < req.amountCents))) none]

def payoutFailureReason (req : WithdrawalRequest) (err : StripeError) : String :=
  "stripe payout.New (attempt " ++ toString req.stripePayoutAttempt ++ "): " ++ err.text

def afterPayout (requestId : Nat) (req : WithdrawalRequest) (stripe : StripeSide) (seen : Option StripeError) : List Job :=
  match seen with
  | some err =>
    if err.insufficientFunds then [.flip requestId (.awaitFunds (payoutFailureReason req err)) none]
    else [.flip requestId (.recordPayoutError (payoutFailureReason req err)) none]
  | none => match stripe.payouts.get? (payoutIdempotencyKey requestId req.stripePayoutAttempt) with
    | some po => [.flip requestId
        (.storePayout (payoutIdempotencyKey requestId req.stripePayoutAttempt) po.status.text) none]
    | none => []

def afterStuck (r : Nat × WithdrawalRequest) : Job :=
  if reconcileMaxPayoutAttempts ≤ r.2.stripePayoutAttempt then .flip r.1 .maxAttemptsReached none else .process r.1

def stuckRows (clock : Int) : List (Nat × WithdrawalRequest) :=
  (rowsIn s (fun r => decide (r.status = .payoutCreating ∧
    r.lastReconcileAt < clock - reconcileStuckPayoutCreatingMinutes * 60))).take reconcileBatchSize

def afterEvent (kind : PayoutEventKind) (po : PayoutPayload) : List Job := match findWithdrawalByPayout s po with
  | none => []
  | some (requestId,req) => match kind with
    | .created =>
      if req.stripePayoutId = po.id then
        if req.stripePayoutStatus = po.status.text then [] else [.refreshPayout requestId po.status]
      else [.flip requestId (.storePayout po.id po.status.text) (some (.backfillPayout po.id po.status.text))]
    | .updated => [.refreshPayout requestId po.status]
    | .paid =>
      if req.status = .paid then []
      else [.flip requestId (.payoutPaid .processing po.id) (some (.payoutPaid .payoutCreating po.id))]
    | .failed =>
      if isWithdrawalTerminal req.status then []
      else [.flip requestId (.payoutFailed .processing (failureReason po))
        (some (.payoutFailed .payoutCreating (failureReason po)))]

variable (sys : PayoutSystem)

def storeAfter : Job → CommissionStore
  | .markFailed requestId source reason =>
      commit sys.store ((markWithdrawalFailed sys.store requestId source.status reason sys.clock).map Prod.snd)
  | .flip requestId call _ => commit sys.store ((runTransition sys.store requestId call sys.clock).map Prod.snd)
  | .refreshPayout requestId payoutStatus => { sys.store with
      withdrawals := sys.store.withdrawals.modify requestId (fun r => { r with stripePayoutStatus := payoutStatus.text }) }
  | .review requestId decision => commit sys.store ((adminProcessWithdrawal sys.store requestId decision sys.clock).map Prod.snd)
  | .closeReversal v answer => (Withdrawal.closeReversal sys.store v sys.clock answer).2
  | _ => sys.store

def stripeAfter (a : Answer) : Job → StripeSide
  | .createTransfer requestId req => createTransferAt sys.stripe (transferIdempotencyKey requestId)
      ⟨requestId,req.userId,req.amountCents,req.stripeAccountId,0⟩ a.carried
  | .createPayout requestId req => createPayoutAt sys.stripe (payoutIdempotencyKey requestId req.stripePayoutAttempt)
      ⟨requestId,req.amountCents,req.stripeAccountId,a.payoutStatus⟩ a.carried
  | .callReversal v => reverseTransferAt sys.stripe v.req.stripeTransferId (reversalIdempotencyKey v.requestId)
      (v.amountToReverse - a.shortfall) a.carried
  | _ => sys.stripe

def reversalAnswer (a : Answer) (v : Reversal) : ReversalAnswer := match a.seen with
  | some err => .refused err.text err.insufficientFunds
  | none => .reversed (((stripeAfter sys a (.callReversal v)).reversals.get? (reversalIdempotencyKey v.requestId)).getD 0)

def nextJobs (a : Answer) : Job → List Job
  | .approve requestId adminId => afterApprove sys.store requestId adminId
  | .checkAccount requestId req adminId => afterAccount sys.accounts requestId req adminId
  | .markFailed _ _ _ => []
  | .flip requestId call orElse =>
      afterFlip requestId call orElse ((runTransition sys.store requestId call sys.clock).map Prod.fst)
  | .createTransfer requestId req => afterTransfer requestId req a.seen
  | .checkBalance requestId req transferId => afterBalance requestId req transferId a.balance
  | .process requestId => afterProcess sys.store requestId
  | .createPayout requestId req => afterPayout requestId req (stripeAfter sys a (.createPayout requestId req)) a.seen
  | .retryAll userId source =>
      (rowsIn sys.store (fun r => decide (r.userId = userId ∧ r.status = source.status))).map
        (fun r => .flip r.1 (.retryPayout source) none)
  | .reconcileAwaitingFunds =>
      ((rowsIn sys.store (fun r => decide (r.status = .awaitingFunds))).take reconcileBatchSize).map (fun r => .checkFunds r.1 r.2)
  | .reconcileStuckPayoutCreating => (stuckRows sys.store sys.clock).map afterStuck
  | .reconcileActionRequired =>
      ((rowsIn sys.store (fun r => decide (r.status = .actionRequired))).take reconcileBatchSize).map (fun r => .checkExternal r.1 r.2)
  | .checkFunds requestId req => match a.balance with
    | none => []
    | some balance => if balance < req.amountCents then [] else [.flip requestId (.retryPayout .awaitingFunds) none]
  | .checkExternal requestId req =>
      if req.stripeTransferId = "" then []
      else if a.usable = some true then [.flip requestId (.retryPayout .actionRequired) none] else []
  | .accountEvent accountId source =>
      if accountId = "" then []
      else match userByStripeId sys.accounts accountId with
        | none => []
        | some userId => [.retryAll userId source]
  | .payoutEvent kind po => afterEvent sys.store kind po
  | .refreshPayout _ _ | .review _ _ => []
  | .reverse requestId reason => match openReversal sys.store requestId reason with
    | .ok (some v) => [.callReversal v]
    | _ => []
  | .callReversal v => [.closeReversal v (reversalAnswer sys a v)]
  | .closeReversal _ _ => []

inductive Entry
  | approve (requestId adminId : Nat)
  | review (requestId : Nat) (decision : Review)
  | reverse (requestId : Nat) (reason : String)
  | reconcile
  | accountEvent (accountId : String) (source : RetrySource)
  | payoutEvent (kind : PayoutEventKind) (po : PayoutPayload)

def Entry.jobs : Entry → List Job
  | .approve requestId adminId => [.approve requestId adminId]
  | .review requestId decision => [.review requestId decision]
  | .reverse requestId reason => [.reverse requestId reason]
  | .reconcile => [.reconcileAwaitingFunds,.reconcileStuckPayoutCreating,.reconcileActionRequired]
  | .accountEvent accountId source => [.accountEvent accountId source]
  | .payoutEvent kind po => [.payoutEvent kind po]

-- Payouts move on by themselves at Stripe; a failed one stays failed.
def settlePayoutAt (stripe : StripeSide) (key : String) (status : PayoutStatus) : StripeSide := { stripe with
  payouts := stripe.payouts.modify key (fun p => if p.status = .failed then p else { p with status := status }) }

def Job.requestId : Job → Nat
  | .markFailed requestId _ _ | .flip requestId _ _ | .refreshPayout requestId _ | .review requestId _ => requestId
  | .closeReversal v _ => v.requestId
  | _ => 0

def balanceTotal : Int := s.users.sum (fun _ u => u.commissionBalanceCents)

def creditOf (s s' : CommissionStore) (job : Job) : List (Nat × Int) :=
  if balanceTotal s' = balanceTotal s then [] else [(job.requestId,balanceTotal s' - balanceTotal s)]

inductive PayoutOp
  | elapse (seconds : Nat)
  | request (setting : CommissionSetting) (userId : Nat) (amountCents : Int)
  | setAccount (userId : Nat) (account : ConnectAccount)
  | start (entry : Entry)
  | step (i : Nat) (a : Answer)
  | crash (i : Nat)
  | settlePayout (key : String) (status : PayoutStatus)

def stepPool (i : Nat) (a : Answer) : PayoutSystem := match JobPool.next sys.pool i with
  | none => sys
  | some (job,rest) => { sys with
      store := storeAfter sys job
      stripe := stripeAfter sys a job
      pool := sys.pool.set i (nextJobs sys a job ++ rest)
      credits := sys.credits ++ creditOf sys.store (storeAfter sys job) job }

def requested (setting : CommissionSetting) (userId : Nat) (amountCents : Int) : CommissionStore :=
  commit sys.store ((createWithdrawalRequest setting sys.store userId amountCents sys.clock).map Prod.snd)

def payoutStep : PayoutOp → PayoutSystem
  | .elapse seconds => { sys with clock := sys.clock + seconds }
  | .request setting userId amountCents => { sys with store := requested sys setting userId amountCents }
  | .setAccount userId account => { sys with
      accounts := (sys.accounts.insert? userId account).getD (sys.accounts.modify userId (fun _ => account)) }
  | .start entry => { sys with pool := sys.pool ++ [entry.jobs] }
  | .step i a => stepPool sys i a
  | .crash i => { sys with pool := sys.pool.set i [] }
  | .settlePayout key status => { sys with stripe := settlePayoutAt sys.stripe key status }

def payoutOpening (users : Table Nat Affiliate) (accounts : Table Nat ConnectAccount) (clock : Int) : PayoutSystem :=
  ⟨⟨users,empty,empty⟩,accounts,⟨empty,empty,empty⟩,clock,[],[]⟩

end NovaPuraRouter.PayoutFlow
