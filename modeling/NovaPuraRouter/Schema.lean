import NovaPuraRouter.Table

/-! The rows the wallet and top-up code reads and writes, with its settings and errors.
Quotas are integers: a value the column type cannot hold fails the statement and with it the
transaction. Columns that no modelled function reads or reports are left out. -/
namespace NovaPuraRouter

inductive BalanceType | paid | promotional
  deriving DecidableEq, Repr

inductive CreditLotStatus | active | exhausted | expired | reversed
  deriving DecidableEq, Repr

inductive LedgerEntryType
  | topupPaidCredit | topupPromotionalBonus | refundPaid | refundPromo
  | apiUsage | expiration | reversal | manualAdjust
  deriving DecidableEq, Repr

inductive StripeOrderStatus
  | pending | checkoutCreated | paid | credited | failed | expired | refundPending | refunded | manualReview
  deriving DecidableEq, Repr

inductive TopupPromoRedemptionStatus | reserved | issued | released | reversed
  deriving DecidableEq, Repr

inductive RedemptionCodeStatus | enabled | disabled | used
  deriving DecidableEq, Repr

inductive SubscriptionDuration | year | month | day | hour | custom
  deriving DecidableEq, Repr

inductive Failure
  | recordNotFound | duplicateKey | invalidUserId | emailAlreadyTaken | negativeQuota
  | insufficientQuota (available need : Int)
  | promotionalBalanceInvariant | creditLotRestoreInvariant | restoreExpiredPromotion
  | restoreLotStatus (status : CreditLotStatus)
  | quotaOverflow | invalidCreditLot
  | missingOrderId | orderNotFound | userNotFound | orderCannotCredit (status : StripeOrderStatus)
  | invalidCreditAmount | topUpNotFound | topUpStatusInvalid | refundQuotaOverflow
  | invalidReservation | reservedWithDifferentTerms | promotionUnavailable | promotionUserLimit
  | promotionBudgetReached | invalidReservedOrder
  | cannotRelease (status : TopupPromoRedemptionStatus)
  | cannotIssue (status : TopupPromoRedemptionStatus)
  | cannotReverse (status : TopupPromoRedemptionStatus)
  | redemptionKeyMissing | redeemFailed | registerPromoFull
  | invalidUserOrPlan | planInvalid | planRecurringSource | planDisabled | planPriceNegative
  | planBalancePayDisallowed | quotaUnitInvalid | balanceTooLow | purchaseLimitReached
  | durationValueInvalid | customSecondsInvalid | tokenQuotaNotEnough
  deriving DecidableEq, Repr

def maxQuota : Int := 2147483647
def minQuota : Int := -2147483648

/-- A setting the source keeps as a float, as an exact fraction. -/
structure Ratio where
  num : Int
  den : Nat
  pos : 0 < den

structure Config where
  quotaPerUnit : Ratio
  quotaForNewUser : Int
  batchUpdateEnabled : Bool
  registerPromoEnabled : Bool
  emailVerificationEnabled : Bool
  registerPromoQuota : Int
  registerPromoMax : Int
  delayedInviteReward : Bool
  inviteRewardQuota : Int
  maxValidInvites : Int

-- The settings as shipped; the two campaign amounts at 7.3 yuan to the dollar.
def Config.shipped : Config where
  quotaPerUnit := ⟨500000,1,by decide⟩
  quotaForNewUser := 0
  batchUpdateEnabled := false
  registerPromoEnabled := true
  emailVerificationEnabled := true
  registerPromoQuota := 1369863
  registerPromoMax := 0
  delayedInviteReward := true
  inviteRewardQuota := 3424657
  maxValidInvites := 10

structure User where
  email : String
  quota : Int
  promoQuota : Int
  usedQuota : Int
  requestCount : Int
  affCount : Int
  rewardedInviteCount : Int
  inviterId : Nat
  inviteRewardPending : Bool
  commissionApproved : Bool
  stripeCustomer : String
  deriving DecidableEq, Repr

structure Token where
  userId : Nat
  remainQuota : Int
  usedQuota : Int
  unlimitedQuota : Bool
  deriving DecidableEq, Repr

structure BalanceCreditLot where
  userId : Nat
  orderId : String
  balanceType : BalanceType
  originalQuota : Int
  remainingQuota : Int
  currency : String
  originalAmountMinor : Int
  expiresAt : Int
  status : CreditLotStatus
  deriving DecidableEq, Repr

structure BalanceLedger where
  userId : Nat
  orderId : String
  lotId : Nat
  balanceType : BalanceType
  entryType : LedgerEntryType
  amountQuota : Int
  amountMicro : Int
  currency : String
  note : String
  createdAt : Int
  deriving DecidableEq, Repr

structure StripeTopupOrder where
  userId : Nat
  stripeCustomerId : String
  stripeCheckoutSessionId : String
  stripePaymentIntentId : String
  status : StripeOrderStatus
  presentmentCurrency : String
  presentmentAmountMinor : Int
  paidCreditAmountMinor : Int
  promoCreditAmountMinor : Int
  paidCreditMicroUSD : Int
  promoCreditMicroUSD : Int
  paidQuota : Int
  promoQuota : Int
  promotionTierId : Nat
  promoExpiryDays : Int
  promoExpiresAt : Int
  failureReason : String
  checkoutExpiresAt : Int
  paidAt : Int
  creditedAt : Int
  refundedAt : Int
  deriving DecidableEq, Repr

structure TopupPromoTier where
  campaignId : Nat
  perUserLimit : Int
  enabled : Bool
  startAt : Int
  endAt : Int
  deriving DecidableEq, Repr

structure TopupPromotionCampaign where
  enabled : Bool
  startAt : Int
  endAt : Int
  globalBudgetMicroUSD : Int
  reservedPromoMicroUSD : Int
  issuedPromoMicroUSD : Int
  perUserLimit : Int
  deriving DecidableEq, Repr

structure TopupPromoRedemption where
  campaignId : Nat
  tierId : Nat
  userId : Nat
  promoMicroUSD : Int
  status : TopupPromoRedemptionStatus
  issuedAt : Int
  releasedAt : Int
  reversedAt : Int
  deriving DecidableEq, Repr

-- A code is created and edited only with a positive price, which converts to a quota.
structure Redemption where
  status : RedemptionCodeStatus
  quota : Nat
  maxRedeems : Int
  redeemedCount : Int
  usedUserId : Nat
  redeemedTime : Int
  expiredTime : Int
  deriving DecidableEq, Repr

inductive CampaignKind | registerPromo | inviteInvitee | inviteInviter (inviteeId : Nat) | share
  deriving DecidableEq, Repr

structure SubscriptionPlan where
  recurring : Bool
  stripeSubscriptionEnabled : Bool
  enabled : Bool
  priceMicro : Int
  allowBalancePay : Option Bool
  durationUnit : SubscriptionDuration
  durationValue : Int
  customSeconds : Int
  maxPurchasePerUser : Int
  deriving DecidableEq, Repr

/-- The tables, and the deltas the batch updater has not written yet: only increases for
users, both directions for tokens. The keys are the row ids or the column, or pair of
columns, under a unique index. -/
structure Database where
  users : Table Nat User
  tokens : Table Nat Token
  lots : Table Nat BalanceCreditLot
  ledger : List BalanceLedger
  orders : Table String StripeTopupOrder
  tiers : Table Nat TopupPromoTier
  campaigns : Table Nat TopupPromotionCampaign
  promoRedemptions : Table String TopupPromoRedemption
  redemptions : Table String Redemption
  usages : Table (String × Nat) Int
  claims : Table (Nat × CampaignKind) Int
  registerPromoCount : Int
  plans : Table Nat SubscriptionPlan
  subscriptions : List (Nat × Nat)
  pendingUserQuota : Table Nat Nat
  pendingTokenQuota : Table Nat Int

namespace Database

def empty : Database where
  users := .empty
  tokens := .empty
  lots := .empty
  ledger := []
  orders := .empty
  tiers := .empty
  campaigns := .empty
  promoRedemptions := .empty
  redemptions := .empty
  usages := .empty
  claims := .empty
  registerPromoCount := 0
  plans := .empty
  subscriptions := []
  pendingUserQuota := .empty
  pendingTokenQuota := .empty

def credit (db : Database) (userId : Nat) (quota promo : Int) : Database :=
  let add (u : User) : User := { u with quota := u.quota + quota, promoQuota := u.promoQuota + promo }
  { db with users := db.users.modify userId add }

end Database
end NovaPuraRouter
