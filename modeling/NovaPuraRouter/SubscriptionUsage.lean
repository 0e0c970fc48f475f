import NovaPuraRouter.Schedule
import NovaPuraRouter.Grants

/-! Consumption of a bought subscription: the counter of its used amount, the record of each
request's pre-consume, and the resets of the counter by the clock or by an administrator.
Amounts are 64 bit integers, so Go's sums wrap. -/
namespace NovaPuraRouter.SubscriptionUsage
open Grants (trimSpace)
open Schedule (advance monthStart monthOf)

def int64 (x : Int) : Int := x.bmod 18446744073709551616
def maxInt64 : Int := 9223372036854775807

inductive SubscriptionReset | never | daily | weekly | monthly | custom
  deriving DecidableEq, Repr

inductive UserSubscriptionStatus | active | expired | cancelled
  deriving DecidableEq, Repr

inductive PreConsumeStatus | consumed | refunded
  deriving DecidableEq, Repr

structure QuotaPlan where
  recurring : Bool
  stripeSubscriptionModel : String
  totalAmount : Int
  quotaResetPeriod : String
  quotaResetCustomSeconds : Int
  totalFits : totalAmount ≤ maxInt64
  deriving DecidableEq

structure UserSubscription where
  userId : Nat
  planId : Nat
  amountTotal : Int
  amountUsed : Int
  startTime : Int
  endTime : Int
  status : UserSubscriptionStatus
  lastResetTime : Int
  nextResetTime : Int
  totalFits : amountTotal ≤ maxInt64
  deriving DecidableEq

structure SubscriptionPreConsumeRecord where
  userId : Nat
  userSubscriptionId : Nat
  preConsumed : Int
  status : PreConsumeStatus
  deriving DecidableEq, Repr

structure Store where
  plans : Table Nat QuotaPlan
  subs : Table Nat UserSubscription
  records : Table String SubscriptionPreConsumeRecord

inductive UsageFailure
  | invalidUserId | requestIdEmpty | amountNotPositive | alreadyRefunded | recordNotFound | invalidPlanId
  | noActiveSubscription | quotaInsufficient (need : Int) | usedExceedsTotal (used total : Int)
  | invalidUserSubscriptionId | duplicateKey | statementFailed | resetUnending
  | invalidUserOrPlan | planIdInvalid | noSubscriptionOfPlan
  deriving DecidableEq, Repr

def trimmed (text : String) : String := String.ofList (trimSpace text.toList)

section Calendar

/-- The zone of the process: the day number of an instant and the instant a day starts
at. A zone whose clocks skip a midnight has no such instant and is left out. -/
structure Location where
  dayOf : Int → Int
  midnight : Int → Int
  starts : ∀ day t, midnight day ≤ t ↔ day ≤ dayOf t

def Location.utc : Location where
  dayOf t := t / 86400
  midnight day := day * 86400
  starts day t := (Int.le_ediv_iff_mul_le (by decide)).symm

def normalizeResetPeriod (period : String) : SubscriptionReset :=
  if trimmed period = "daily" then .daily
  else if trimmed period = "weekly" then .weekly
  else if trimmed period = "monthly" then .monthly
  else if trimmed period = "custom" then .custom
  else .never

-- time.Duration counts nanoseconds in 64 bits.
def durationSeconds (seconds : Int) : Int := int64 (seconds * 1000000000) / 1000000000

def cutAtEnd (next endUnix : Int) : Int := if 0 < endUnix ∧ endUnix < next then 0 else next

def calcNextResetTime (loc : Location) (base : Int) (plan : QuotaPlan) (endUnix : Int) : Int :=
  match normalizeResetPeriod plan.quotaResetPeriod with
  | .never => 0
  | .daily => cutAtEnd (loc.midnight (loc.dayOf base + 1)) endUnix
  | .weekly =>
    let sunday := (loc.dayOf base + 4) % 7
    let weekday := if sunday = 0 then 7 else sunday
    cutAtEnd (loc.midnight (loc.dayOf base + (8 - weekday))) endUnix
  | .monthly => cutAtEnd (loc.midnight (monthStart (monthOf (loc.dayOf base) + 1))) endUnix
  | .custom =>
    if plan.quotaResetCustomSeconds ≤ 0 then 0
    else cutAtEnd (base + durationSeconds plan.quotaResetCustomSeconds) endUnix

/-- The row createUserSubscriptionFromPlanAtTx writes for a plan that ends at `endUnix`. -/
def createdSubscription (loc : Location) (userId planId : Nat) (plan : QuotaPlan) (now endUnix : Int) : UserSubscription where
  userId := userId
  planId := planId
  amountTotal := plan.totalAmount
  amountUsed := 0
  startTime := now
  endTime := endUnix
  status := .active
  lastResetTime := if 0 < calcNextResetTime loc now plan endUnix then now else 0
  nextResetTime := calcNextResetTime loc now plan endUnix
  totalFits := plan.totalFits

end Calendar

section Reset
variable (loc : Location) (sub : UserSubscription)

def resetBase : Int := if sub.lastResetTime ≤ 0 then sub.startTime else sub.lastResetTime

-- Enough for every schedule that moves, in either direction.
def resetFuel (base now : Int) : Nat := (now - base).toNat + base.toNat + 2

def maybeResetUserSubscriptionWithPlanTx (plan : QuotaPlan) (now : Int) :
    Except UsageFailure UserSubscription :=
  if 0 < sub.nextResetTime ∧ now < sub.nextResetTime then pure sub
  else if normalizeResetPeriod plan.quotaResetPeriod = .never then pure sub
  else do
    let following (base : Int) := calcNextResetTime loc base plan sub.endTime
    let base := resetBase sub
    let (base,next,advanced) ← row (advance following now (resetFuel base now) base (following base) false) .resetUnending
    if advanced then pure { sub with amountUsed := 0, lastResetTime := base, nextResetTime := next }
    else if sub.nextResetTime = 0 ∧ 0 < next then pure { sub with nextResetTime := next, lastResetTime := base }
    else pure sub

def resetUserSubscriptionTx (plan : QuotaPlan) (now : Int) (advanceResetTime : Bool) :
    UserSubscription :=
  let nextReset := calcNextResetTime loc now plan sub.endTime
  if advanceResetTime then
    { sub with amountUsed := 0, nextResetTime := nextReset, lastResetTime := if 0 < nextReset then now else 0 }
  else { sub with amountUsed := 0 }

end Reset

namespace Store

def save (s : Store) (id : Nat) (sub : UserSubscription) : Store := { s with subs := s.subs.modify id (fun _ => sub) }

def getSubscriptionPlanById (s : Store) (id : Nat) : Except UsageFailure QuotaPlan := do
  require (id ≠ 0) .invalidPlanId
  row (s.plans.get? id) .recordNotFound

end Store

section PreConsume
variable (loc : Location)

structure PreConsume where
  requestId : String
  userId : Nat
  modelName : String
  amount : Int
  deriving DecidableEq, Repr

structure SubscriptionPreConsumeResult where
  userSubscriptionId : Nat
  preConsumed : Int
  amountTotal : Int
  amountUsedBefore : Int
  amountUsedAfter : Int
  deriving DecidableEq, Repr

def subscriptionPlanAppliesToModel (plan : QuotaPlan) (modelName : String) : Bool :=
  plan.recurring || decide (trimmed plan.stripeSubscriptionModel = "") ||
    decide (trimmed modelName = trimmed plan.stripeSubscriptionModel)

def byEndTime (a b : Nat × UserSubscription) : Prop :=
  a.2.endTime < b.2.endTime ∨ a.2.endTime = b.2.endTime ∧ a.1 ≤ b.1

instance : DecidableRel byEndTime := fun a b =>
  inferInstanceAs (Decidable (a.2.endTime < b.2.endTime ∨ a.2.endTime = b.2.endTime ∧ a.1 ≤ b.1))

def liveFor (userId : Nat) (now : Int) (sub : UserSubscription) : Bool :=
  decide (sub.userId = userId ∧ sub.status = .active ∧ now < sub.endTime)

def activeSubscriptions (subs : Table Nat UserSubscription) (userId : Nat) (now : Int) : List (Nat × UserSubscription) :=
  (subs.select (fun _ sub => liveFor userId now sub)).insertionSort byEndTime

def payable (sub : UserSubscription) (amount : Int) : Bool :=
  !decide (0 < sub.amountTotal ∧ int64 (sub.amountTotal - sub.amountUsed) < amount)

def charged (sub : UserSubscription) (amount : Int) : UserSubscription :=
  { sub with amountUsed := int64 (sub.amountUsed + amount) }

def chargeRecord (req : PreConsume) (id : Nat) : SubscriptionPreConsumeRecord := ⟨req.userId,id,req.amount,.consumed⟩

variable (s : Store)

/-- The record of the request and the charge. A request id that got its record after
the check is answered from that record, if the transaction's reads show it (`sees`);
the subscription of the answer is the one at hand. -/
def chargeSubscription (req : PreConsume) (sees : Bool) (id : Nat) (sub : UserSubscription) :
    Except UsageFailure (SubscriptionPreConsumeResult × Store) :=
  match s.records.insert? req.requestId (chargeRecord req id) with
  | some records =>
    let after := charged sub req.amount
    pure (⟨id,req.amount,sub.amountTotal,sub.amountUsed,after.amountUsed⟩,{ s with records := records }.save id after)
  | none => do
    let dup ← row (if sees then s.records.get? req.requestId else none) .duplicateKey
    require (dup.status ≠ .refunded) .alreadyRefunded
    pure (⟨id,dup.preConsumed,sub.amountTotal,sub.amountUsed,sub.amountUsed⟩,s)

def chargeFirst (now : Int) (req : PreConsume) (sees : Bool) :
    Store → Bool → List (Nat × UserSubscription) → Except UsageFailure (SubscriptionPreConsumeResult × Store)
  | _, applicable, [] => .error (if applicable then .quotaInsufficient req.amount else .noActiveSubscription)
  | s, applicable, (id,candidate) :: rest => do
    let plan ← s.getSubscriptionPlanById candidate.planId
    if subscriptionPlanAppliesToModel plan req.modelName then
      let sub ← maybeResetUserSubscriptionWithPlanTx loc candidate plan now
      if payable sub req.amount then chargeSubscription (s.save id sub) req sees id sub
      else chargeFirst now req sees (s.save id sub) true rest
    else chargeFirst now req sees s applicable rest

def preConsumeLocked (now : Int) (req : PreConsume) (sees : Bool) :
    Except UsageFailure (SubscriptionPreConsumeResult × Store) :=
  chargeFirst loc now req sees s false (activeSubscriptions s.subs req.userId now)

def checkPreConsume (req : PreConsume) : Except UsageFailure Unit := do
  require (req.userId ≠ 0) .invalidUserId
  require (trimmed req.requestId ≠ "") .requestIdEmpty
  require (0 < req.amount) .amountNotPositive

def answerExisting (req : PreConsume) (existing : SubscriptionPreConsumeRecord) :
    Except UsageFailure SubscriptionPreConsumeResult := do
  require (existing.status ≠ .refunded) .alreadyRefunded
  let sub ← row (s.subs.get? existing.userSubscriptionId) .recordNotFound
  let plan ← s.getSubscriptionPlanById sub.planId
  require (subscriptionPlanAppliesToModel plan req.modelName = true) .noActiveSubscription
  pure ⟨existing.userSubscriptionId,existing.preConsumed,sub.amountTotal,sub.amountUsed,sub.amountUsed⟩

/-- A call whose check of the record came before another transaction's commit. -/
def preConsumeLate (now : Int) (req : PreConsume) (sees : Bool) :
    Except UsageFailure (SubscriptionPreConsumeResult × Store) := do
  checkPreConsume req
  preConsumeLocked loc s now req sees

def preConsumeUserSubscription (now : Int) (req : PreConsume) :
    Except UsageFailure (SubscriptionPreConsumeResult × Store) := do
  checkPreConsume req
  match s.records.get? req.requestId with
  | some existing =>
    let result ← answerExisting s req existing
    pure (result,s)
  | none => preConsumeLocked loc s now req false

end PreConsume

section Delta

def clampUsed (used delta : Int) : Int := if int64 (used + delta) < 0 then 0 else int64 (used + delta)

def moveUsed (sub : UserSubscription) (delta : Int) : Except UsageFailure UserSubscription := do
  let newUsed := clampUsed sub.amountUsed delta
  require (0 < sub.amountTotal → newUsed ≤ sub.amountTotal) (.usedExceedsTotal newUsed sub.amountTotal)
  pure { sub with amountUsed := newUsed }

variable (s : Store)

def postConsumeUserSubscriptionDelta (id : Nat) (delta : Int) : Except UsageFailure Store := do
  require (id ≠ 0) .invalidUserSubscriptionId
  if delta = 0 then pure s else do
    let sub ← row (s.subs.get? id) .recordNotFound
    let after ← moveUsed sub delta
    pure (s.save id after)

/-- Which statements of one refund call fail. The delta is a transaction of its own on
another connection, begun and committed while the outer one is open. -/
structure RefundFaults where
  readRecord : Bool
  beginDelta : Bool
  readSub : Bool
  saveSub : Bool
  commitDelta : Bool
  saveRecord : Bool
  commitRecord : Bool
  deriving DecidableEq, Repr

def RefundFaults.none : RefundFaults := ⟨false,false,false,false,false,false,false⟩

/-- The delta where statements may fail: before the row is read, or when it is written. -/
def deltaWithFaults (id : Nat) (delta : Int) (f : RefundFaults) : Except UsageFailure Store := do
  require (id ≠ 0) .invalidUserSubscriptionId
  if delta = 0 then pure s else do
    require (f.beginDelta = false ∧ f.readSub = false) .statementFailed
    let s' ← postConsumeUserSubscriptionDelta s id delta
    require (f.saveSub = false ∧ f.commitDelta = false) .statementFailed
    pure s'

def RefundFaults.afterDelta (f : RefundFaults) : Bool := f.saveRecord || f.commitRecord

variable (requestId : String)

def markRefunded : Store :=
  { s with records := s.records.modify requestId (fun r => { r with status := .refunded }) }

def closeRefund (f : RefundFaults) : Except UsageFailure Unit × Store :=
  if f.afterDelta then (.error .statementFailed,s) else (.ok (),markRefunded s requestId)

def refundSubscriptionPreConsume (f : RefundFaults) : Except UsageFailure Unit × Store :=
  if trimmed requestId = "" then (.error .requestIdEmpty,s)
  else if f.readRecord then (.error .statementFailed,s)
  else match s.records.get? requestId with
    | none => (.error .recordNotFound,s)
    | some record =>
      if record.status = .refunded then (if f.commitRecord then .error .statementFailed else .ok (),s)
      else if record.preConsumed ≤ 0 then closeRefund s requestId f
      else match deltaWithFaults s record.userSubscriptionId (-record.preConsumed) f with
        | .error e => (.error e,s)
        | .ok s' => closeRefund s' requestId f

def refundWithRetry (first second third : RefundFaults) : Except UsageFailure Unit × Store :=
  let one := refundSubscriptionPreConsume s requestId first
  if one.1.toBool then one else
  let two := refundSubscriptionPreConsume one.2 requestId second
  if two.1.toBool then two else refundSubscriptionPreConsume two.2 requestId third

end Delta

section Resets
variable (loc : Location) (s : Store)

/-- One row of the periodic job, under the lock; `plan` comes from a cache. -/
def resetDueRow (id : Nat) (plan : QuotaPlan) (now : Int) : Except UsageFailure (Bool × Store) :=
  match s.subs.get? id with
  | some locked =>
    if 0 < locked.nextResetTime ∧ locked.nextResetTime ≤ now then do
      let sub ← maybeResetUserSubscriptionWithPlanTx loc locked plan now
      pure (true,s.save id sub)
    else pure (false,s)
  | none => pure (false,s)

def resetDueRows (now : Int) : Store → Nat → List (Nat × UserSubscription) → Nat × Store
  | s, count, [] => (count,s)
  | s, count, (id,sub) :: rest => match s.getSubscriptionPlanById sub.planId with
    | .error _ => resetDueRows now s count rest
    | .ok plan => match resetDueRow loc s id plan now with
      | .error _ => (count,s)
      | .ok (done,s') => resetDueRows now s' (if done then count + 1 else count) rest

/-- The job as one thread runs it, without another transaction between its rows. -/
def resetDueSubscriptions (now : Int) (limit : Int) : Nat × Store :=
  let limit := if limit ≤ 0 then 200 else limit.toNat
  let due (sub : UserSubscription) := decide (0 < sub.nextResetTime ∧ sub.nextResetTime ≤ now ∧ sub.status = .active)
  let subs := (s.subs.select (fun _ sub => due sub)).insertionSort (fun a b => a.2.nextResetTime ≤ b.2.nextResetTime)
  resetDueRows loc now s 0 (subs.take limit)

structure SubscriptionResetResult where
  planId : Nat
  matchedCount : Nat
  resetCount : Nat
  userCount : Nat
  advanceResetTime : Bool
  affectedUserIds : List Nat
  deriving DecidableEq, Repr

def buildSubscriptionResetResult (planId : Nat) (subs : List (Nat × UserSubscription)) (advanceResetTime : Bool) :
    SubscriptionResetResult :=
  let users := (subs.map (fun r => r.2.userId)).reverse.dedup.reverse
  ⟨planId,subs.length,subs.length,users.length,advanceResetTime,users⟩

def resetAll (plan : QuotaPlan) (now : Int) (advanceResetTime : Bool) (subs : List (Nat × UserSubscription)) : Store :=
  subs.foldl (fun s r => s.save r.1 (resetUserSubscriptionTx loc r.2 plan now advanceResetTime)) s

def byUserAndEndTime (a b : Nat × UserSubscription) : Prop := a.2.userId < b.2.userId ∨ a.2.userId = b.2.userId ∧ byEndTime a b

instance : DecidableRel byUserAndEndTime := fun a b =>
  inferInstanceAs (Decidable (a.2.userId < b.2.userId ∨ a.2.userId = b.2.userId ∧ byEndTime a b))

def adminResetUserSubscriptionsByPlan (userId planId : Nat) (now : Int) (advanceResetTime : Bool) :
    Except UsageFailure (SubscriptionResetResult × Store) := do
  require (userId ≠ 0 ∧ planId ≠ 0) .invalidUserOrPlan
  let plan ← s.getSubscriptionPlanById planId
  let subs := (s.subs.select (fun _ sub => liveFor userId now sub && decide (sub.planId = planId))).insertionSort byEndTime
  require (subs ≠ []) .noSubscriptionOfPlan
  pure (buildSubscriptionResetResult planId subs advanceResetTime,resetAll loc s plan now advanceResetTime subs)

def adminResetPlanSubscriptions (planId : Nat) (now : Int) (advanceResetTime : Bool) :
    Except UsageFailure (SubscriptionResetResult × Store) := do
  require (planId ≠ 0) .planIdInvalid
  let plan ← s.getSubscriptionPlanById planId
  let live (sub : UserSubscription) := decide (sub.planId = planId ∧ sub.status = .active ∧ now < sub.endTime)
  let subs := (s.subs.select (fun _ sub => live sub)).insertionSort byUserAndEndTime
  pure (buildSubscriptionResetResult planId subs advanceResetTime,resetAll loc s plan now advanceResetTime subs)

end Resets
end NovaPuraRouter.SubscriptionUsage
