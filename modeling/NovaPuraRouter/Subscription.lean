import NovaPuraRouter.CreditLot

/-! Purchase of a subscription from the wallet. The price is taken from the total balance
column alone; which of its parts pays is not recorded. -/
namespace NovaPuraRouter.Subscription

-- A recurring plan is sold through Stripe only; from the wallet it is refused
-- before or at the check of the source.
def validatePurchasableSubscriptionPlan (plan : SubscriptionPlan) : Except Failure Unit := do
  require (plan.recurring = false) .planRecurringSource
  require (plan.stripeSubscriptionEnabled = false) .planInvalid

def calcSubscriptionBalanceQuota (cfg : Config) (priceMicro : Int) : Except Failure Int :=
  if priceMicro ≤ 0 then pure 0 else do
    require (0 < cfg.quotaPerUnit.num) .quotaUnitInvalid
    pure (-((-(priceMicro * cfg.quotaPerUnit.num)) / (1000000 * cfg.quotaPerUnit.den)))

def checkPlanEndTime (plan : SubscriptionPlan) : Except Failure Unit := match plan.durationUnit with
  | .custom => require (0 < plan.customSeconds) .customSecondsInvalid
  | _ => require (0 < plan.durationValue) .durationValueInvalid

def createUserSubscriptionFromPlanTx (db : Database) (userId planId : Nat) (plan : SubscriptionPlan) :
    Except Failure Database := do
  validatePurchasableSubscriptionPlan plan
  let bought : Int := (db.subscriptions.filter (fun s => decide (s = (userId,planId)))).length
  require (0 < plan.maxPurchasePerUser → bought < plan.maxPurchasePerUser) .purchaseLimitReached
  checkPlanEndTime plan
  pure { db with subscriptions := db.subscriptions ++ [(userId,planId)] }

def chargeQuota (db : Database) (userId : Nat) (required : Int) : Database :=
  if 0 < required then db.credit userId (-required) 0 else db

def purchaseSubscriptionWithBalance (cfg : Config) (db : Database) (userId planId : Nat) : Except Failure Database := do
  require (userId ≠ 0 ∧ planId ≠ 0) .invalidUserOrPlan
  let plan ← row (db.plans.get? planId) .recordNotFound
  validatePurchasableSubscriptionPlan plan
  require (plan.enabled = true) .planDisabled
  require (0 ≤ plan.priceMicro) .planPriceNegative
  require (plan.allowBalancePay ≠ some false) .planBalancePayDisallowed
  let required ← calcSubscriptionBalanceQuota cfg plan.priceMicro
  let user ← row (db.users.get? userId) .recordNotFound
  require (0 < required → required ≤ user.quota) .balanceTooLow
  createUserSubscriptionFromPlanTx (chargeQuota db userId required) userId planId plan

end NovaPuraRouter.Subscription
