import NovaPuraRouter.CreditLot

/-! One-time top-up orders: the promotion an order reserves, the order rows, the credit of a
paid order and the status marks. A quote carries what quoting checks, so an order without a
positive paid part cannot be placed. -/
namespace NovaPuraRouter.TopupOrder
open CreditLot

def activeAt (enabled : Bool) (startAt endAt now : Int) : Bool :=
  enabled && !(decide (0 < startAt ∧ now < startAt)) && decide (endAt ≤ 0 ∨ now ≤ endAt)

def TopupPromoTier.activeAt (t : TopupPromoTier) (now : Int) : Bool := TopupOrder.activeAt t.enabled t.startAt t.endAt now

def TopupPromotionCampaign.activeAt (c : TopupPromotionCampaign) (now : Int) : Bool :=
  TopupOrder.activeAt c.enabled c.startAt c.endAt now

variable (db : Database) (orderId : String)

def lockTopupRedemptionAndCampaign :
    Option (TopupPromoRedemption × TopupPromotionCampaign) := do
  let redemption ← db.promoRedemptions.get? orderId
  let campaign ← db.campaigns.get? redemption.campaignId
  some (redemption,campaign)

-- Release, issue and reverse differ in the status they start from, the statuses
-- they take for done, and the two rows they write.
def movePromotion (done : List TopupPromoRedemptionStatus)
    (start : TopupPromoRedemptionStatus) (refuse : TopupPromoRedemptionStatus → Failure)
    (charge : Int → TopupPromotionCampaign → TopupPromotionCampaign)
    (mark : TopupPromoRedemption → TopupPromoRedemption) : Except Failure Database :=
  match lockTopupRedemptionAndCampaign db orderId with
  | none => pure db
  | some (redemption,_) =>
    if redemption.status ∈ done then pure db else
    if redemption.status ≠ start then .error (refuse redemption.status) else
      let campaigns := db.campaigns.modify redemption.campaignId (charge redemption.promoMicroUSD)
      pure { db with campaigns := campaigns, promoRedemptions := db.promoRedemptions.modify orderId mark }

def unreserve (n : Int) (c : TopupPromotionCampaign) : TopupPromotionCampaign :=
  { c with reservedPromoMicroUSD := max (c.reservedPromoMicroUSD - n) 0 }

def issueBudget (n : Int) (c : TopupPromotionCampaign) : TopupPromotionCampaign :=
  { unreserve n c with issuedPromoMicroUSD := c.issuedPromoMicroUSD + n }

def unissue (n : Int) (c : TopupPromotionCampaign) : TopupPromotionCampaign :=
  { c with issuedPromoMicroUSD := max (c.issuedPromoMicroUSD - n) 0 }

def releaseTopupPromotionWithTx (now : Int) : Except Failure Database :=
  movePromotion db orderId [.released,.reversed] .reserved .cannotRelease unreserve
    (fun r => { r with status := .released, releasedAt := now })

def issueTopupPromotionWithTx (now : Int) : Except Failure Database :=
  movePromotion db orderId [.issued] .reserved .cannotIssue issueBudget
    (fun r => { r with status := .issued, issuedAt := now })

def reverseTopupPromotionWithTx (now : Int) : Except Failure Database :=
  movePromotion db orderId [.reversed] .issued .cannotReverse unissue
    (fun r => { r with status := .reversed, reversedAt := now })

def usedPromotions (p : TopupPromoRedemption → Bool) : Int :=
  (db.promoRedemptions.select (fun _ r => p r && decide (r.status = .reserved ∨ r.status = .issued))).length

/- The order's redemption, the tier and the counts are plain reads: they come from what the
transaction `seen` at its first read. The campaign is read under its lock, as it is stored. -/
def reserveTopupPromotionWithTx (seen db : Database) (orderId : String) (userId tierId : Nat) (promoMicroUSD now : Int) :
    Except Failure Database := do
  require (orderId ≠ "" ∧ userId ≠ 0 ∧ tierId ≠ 0 ∧ 0 < promoMicroUSD) .invalidReservation
  match seen.promoRedemptions.get? orderId with
  | some old =>
    if old.userId = userId ∧ old.tierId = tierId ∧ old.promoMicroUSD = promoMicroUSD then pure db
    else .error .reservedWithDifferentTerms
  | none => do
    let tier ← row (seen.tiers.get? tierId) .promotionUnavailable
    let campaign ← row (db.campaigns.get? tier.campaignId) .promotionUnavailable
    require (TopupPromotionCampaign.activeAt campaign now ∧ TopupPromoTier.activeAt tier now) .promotionUnavailable
    let byCampaign := usedPromotions seen (fun r => decide (r.campaignId = tier.campaignId ∧ r.userId = userId))
    require (0 < campaign.perUserLimit → byCampaign < campaign.perUserLimit) .promotionUserLimit
    let byTier := usedPromotions seen (fun r => decide (r.tierId = tierId ∧ r.userId = userId))
    require (0 < tier.perUserLimit → byTier < tier.perUserLimit) .promotionUserLimit
    let remaining := campaign.globalBudgetMicroUSD - campaign.reservedPromoMicroUSD - campaign.issuedPromoMicroUSD
    require (0 < campaign.globalBudgetMicroUSD → promoMicroUSD ≤ remaining) .promotionBudgetReached
    let reservation : TopupPromoRedemption := ⟨tier.campaignId,tierId,userId,promoMicroUSD,.reserved,0,0,0⟩
    let redemptions ← row (db.promoRedemptions.insert? orderId reservation) .duplicateKey
    let reserve (c : TopupPromotionCampaign) : TopupPromotionCampaign :=
      { c with reservedPromoMicroUSD := c.reservedPromoMicroUSD + promoMicroUSD }
    pure { db with promoRedemptions := redemptions, campaigns := db.campaigns.modify tier.campaignId reserve }

structure QuoteResult where
  currency : String
  amountMinor : Int
  paidCreditAmountMinor : Int
  promoCreditAmountMinor : Int
  paidCreditMicroUSD : Int
  promoCreditMicroUSD : Int
  paidQuota : Int
  promoQuota : Int
  promotionTierId : Nat
  promoExpiryDays : Int
  paidPositive : 0 < paidQuota
  promoNonneg : 0 ≤ promoQuota

-- Quoting credits the payment and no bonus.
def QuoteResult.ofPayment (currency : String) (paymentMinor paidMicro paidQuota : Int) (pos : 0 < paidQuota) : QuoteResult :=
  ⟨currency,paymentMinor,paymentMinor,0,paidMicro,0,paidQuota,0,0,0,pos,le_refl 0⟩

-- The session column is unique and its default is the empty text, so the empty
-- text is a value like any other.
def sessionFree (orderId sessionId : String) : Prop :=
  db.orders.select (fun k o => decide (k ≠ orderId ∧ o.stripeCheckoutSessionId = sessionId)) = []

instance (db orderId sessionId) : Decidable (sessionFree db orderId sessionId) := by unfold sessionFree; infer_instance

variable (userId : Nat)

def reservedOrder (customer : String) (quote : QuoteResult) : StripeTopupOrder where
  userId := userId
  stripeCustomerId := customer
  stripeCheckoutSessionId := ""
  stripePaymentIntentId := ""
  status := .pending
  presentmentCurrency := quote.currency
  presentmentAmountMinor := quote.amountMinor
  paidCreditAmountMinor := quote.paidCreditAmountMinor
  promoCreditAmountMinor := quote.promoCreditAmountMinor
  paidCreditMicroUSD := quote.paidCreditMicroUSD
  promoCreditMicroUSD := quote.promoCreditMicroUSD
  paidQuota := quote.paidQuota
  promoQuota := quote.promoQuota
  promotionTierId := quote.promotionTierId
  promoExpiryDays := quote.promoExpiryDays
  promoExpiresAt := 0
  failureReason := ""
  checkoutExpiresAt := 0
  paidAt := 0
  creditedAt := 0
  refundedAt := 0

def createReservedOrder (customer : String) (quote : QuoteResult) (orderId : String)
    (now : Int) : Except Failure Database := do
  require (userId ≠ 0 ∧ orderId ≠ "") .invalidReservedOrder
  require (sessionFree db orderId "") .duplicateKey
  let orders ← row (db.orders.insert? orderId (reservedOrder userId customer quote)) .duplicateKey
  let placed : Database := { db with orders := orders }
  if quote.promoCreditMicroUSD ≤ 0 then pure placed
  -- A checkout is one step here: it has seen the database it writes.
  else reserveTopupPromotionWithTx placed placed orderId userId quote.promotionTierId quote.promoCreditMicroUSD now

def setOrder (change : StripeTopupOrder → StripeTopupOrder) : Database :=
  { db with orders := db.orders.modify orderId change }

-- A missing source status stands for the empty text, `any` for "*".
inductive FromStatus | unchecked | any | exactly (status : StripeOrderStatus)
  deriving DecidableEq, Repr

variable (source : FromStatus)

def FromStatus.admits (status : StripeOrderStatus) : Prop := match source with
  | .unchecked | .any => True
  | .exactly s => status = s ∨ status = .pending ∨ status = .checkoutCreated ∨ status = .paid

instance (source status) : Decidable (FromStatus.admits source status) := by
  unfold FromStatus.admits
  cases source <;> infer_instance

def FromStatus.checked (status : StripeOrderStatus) : Prop :=
  source ≠ .unchecked ∧ source ≠ .exactly status

instance (source status) : Decidable (FromStatus.checked source status) := by
  unfold FromStatus.checked; infer_instance

variable (status : StripeOrderStatus)

def releasing : Prop := status = .expired ∨ status = .failed
instance (status) : Decidable (releasing status) := by unfold releasing; infer_instance

def releaseFor (target : StripeOrderStatus) (now : Int) : Except Failure Database :=
  if releasing target then releaseTopupPromotionWithTx db orderId now else pure db

def markStripeTopupOrderStatus (target : StripeOrderStatus)
    (reason : String) (now : Int) : Except Failure Database := do
  let order ← row (db.orders.get? orderId) .topUpNotFound
  if source.checked order.status ∧ order.status = target then pure db else do
    require (source.admits order.status) .topUpStatusInvalid
    require (order.status ≠ .credited ∧ order.status ≠ .refunded) .topUpStatusInvalid
    let released ← releaseFor db orderId target now
    let reasoned := if reason = "" then order.failureReason else reason
    pure (setOrder released orderId (fun o => { o with status := target, failureReason := reasoned }))

inductive SessionOutcome
  | created (sessionId customerId paymentIntentId : String) (expiresAt : Int)
  | refused (reason : String)
  | interrupted
  deriving DecidableEq, Repr

/- The order id leaves this function only when it returns, so the reservation and
what follows the call to Stripe are one step. A crash in between keeps the order pending. -/
def createCheckout (quote : QuoteResult) (orderId : String) (outcome : SessionOutcome)
    (now : Int) : Except Failure Database := do
  let user ← row (db.users.get? userId) .userNotFound
  let placed ← createReservedOrder db userId user.stripeCustomer quote orderId now
  match outcome with
  | .interrupted => pure placed
  | .refused reason => pure (commit placed (markStripeTopupOrderStatus placed orderId (.exactly .pending) .failed reason now))
  | .created sessionId customerId paymentIntentId expiresAt =>
    let save (o : StripeTopupOrder) : StripeTopupOrder := { o with
      status := .checkoutCreated
      stripeCheckoutSessionId := sessionId
      stripeCustomerId := if customerId = "" then o.stripeCustomerId else customerId
      stripePaymentIntentId := paymentIntentId
      checkoutExpiresAt := if 0 < expiresAt then expiresAt else 0 }
    pure (if sessionFree placed orderId sessionId then setOrder placed orderId save else placed)

def payable : Prop := status = .pending ∨ status = .checkoutCreated
instance (status) : Decidable (payable status) := by unfold payable; infer_instance

-- The update of a paid order ignores its own error, a taken session id among them.
def markOrderPaid (orderId customerId sessionId paymentIntentId : String) (now : Int) : Database :=
  match db.orders.get? orderId with
  | none => db
  | some order =>
    if payable order.status ∧ sessionFree db orderId sessionId then
      setOrder db orderId (fun o => { o with
        status := .paid, stripeCustomerId := customerId, stripeCheckoutSessionId := sessionId
        stripePaymentIntentId := paymentIntentId, paidAt := now })
    else db

def quotaFromRatio (num : Int) (den : Nat) : Int := max minQuota (min maxQuota (Int.tdiv num den))

variable (cfg : Config)

-- The paid part as the credit computes it, with the fallback for orders that
-- were stored without it.
def paidPart (o : StripeTopupOrder) : Int :=
  if o.paidQuota ≤ 0 ∧ 0 < o.paidCreditMicroUSD then
    quotaFromRatio (o.paidCreditMicroUSD * cfg.quotaPerUnit.num) (1000000 * cfg.quotaPerUnit.den)
  else o.paidQuota

variable (o : StripeTopupOrder)

def promoPart : Int := max o.promoQuota 0

def creditable : Prop := status = .checkoutCreated ∨ status = .pending ∨ status = .paid
instance (status) : Decidable (creditable status) := by unfold creditable; infer_instance

def creditedOrder (customerId paymentIntentId sessionId : String) (now : Int) (o : StripeTopupOrder) :
    StripeTopupOrder := { o with
  status := .credited
  paidAt := now
  creditedAt := now
  stripeCustomerId := if customerId = "" then o.stripeCustomerId else customerId
  stripePaymentIntentId := if paymentIntentId = "" then o.stripePaymentIntentId else paymentIntentId
  stripeCheckoutSessionId := if sessionId ≠ "" ∧ o.stripeCheckoutSessionId = "" then sessionId else o.stripeCheckoutSessionId
  paidQuota := paidPart cfg o
  promoQuota := promoPart o
  promoExpiresAt := if 0 < promoPart o ∧ 0 < o.promoExpiryDays ∧ o.promoExpiresAt = 0
    then now + o.promoExpiryDays * 24 * 60 * 60 else o.promoExpiresAt }

def topupLot : BalanceType → BalanceCreditLot
  | .paid => ⟨o.userId,orderId,.paid,o.paidQuota,o.paidQuota,o.presentmentCurrency,o.paidCreditAmountMinor,0,.active⟩
  | .promotional => ⟨o.userId,orderId,.promotional,o.promoQuota,o.promoQuota,o.presentmentCurrency,
      o.promoCreditAmountMinor,o.promoExpiresAt,.active⟩

def topupRow (lotId : Nat) (now : Int) : BalanceType → BalanceLedger
  | .paid => ⟨o.userId,orderId,lotId,.paid,.topupPaidCredit,o.paidQuota,o.paidCreditMicroUSD,o.presentmentCurrency,
      "stripe top-up paid credits",now⟩
  | .promotional => ⟨o.userId,orderId,lotId,.promotional,.topupPromotionalBonus,o.promoQuota,o.promoCreditMicroUSD,
      o.presentmentCurrency,"stripe top-up promotional credits",now⟩

def openTopupLot (now : Int) (type : BalanceType) :
    Except Failure Database :=
  if (topupLot orderId o type).originalQuota ≤ 0 then pure db else do
    let opened ← createTopupCreditLotWithTx db.lots (topupLot orderId o type)
    pure { db with lots := opened.2, ledger := db.ledger ++ [topupRow orderId o opened.1 now type] }

def creditUser (user : User) (paidQ promoQ : Int) (customerId : String) : Database :=
  let write (u : User) : User := { u with
    quota := user.quota + (paidQ + promoQ)
    promoQuota := if 0 < promoQ then user.promoQuota + promoQ else u.promoQuota
    stripeCustomer := if customerId = "" then u.stripeCustomer else customerId }
  { db with users := db.users.modify userId write }

def issueFor (promoQ now : Int) : Except Failure Database :=
  if 0 < promoQ then issueTopupPromotionWithTx db orderId now else pure db

def applyCredit (db : Database) (orderId : String) (order : StripeTopupOrder)
    (customerId paymentIntentId sessionId : String) (now : Int) : Except Failure Database := do
  require (creditable order.status) (.orderCannotCredit order.status)
  let user ← row (db.users.get? order.userId) .userNotFound
  let paidQ := paidPart cfg order
  let promoQ := promoPart order
  require (paidQ ≤ maxQuota - promoQ) .quotaOverflow
  require (0 < paidQ + promoQ) .invalidCreditAmount
  require (user.quota ≤ maxQuota - (paidQ + promoQ)) .quotaOverflow
  let credited := creditedOrder cfg customerId paymentIntentId sessionId now order
  require (sessionFree db orderId credited.stripeCheckoutSessionId) .duplicateKey
  let saved := setOrder db orderId (creditedOrder cfg customerId paymentIntentId sessionId now)
  let issued ← issueFor saved orderId promoQ now
  let paid ← openTopupLot (creditUser issued order.userId user paidQ promoQ customerId) orderId credited now .paid
  openTopupLot paid orderId credited now .promotional

def creditStripeTopupOrder (db : Database) (orderId customerId paymentIntentId sessionId : String)
    (now : Int) : Except Failure (Bool × Database) := do
  require (orderId ≠ "") .missingOrderId
  let order ← row (db.orders.get? orderId) .orderNotFound
  if order.status = .credited then pure (true,db) else do
    let credited ← applyCredit cfg db orderId order customerId paymentIntentId sessionId now
    pure (false,credited)

end NovaPuraRouter.TopupOrder
