import NovaPuraRouter.Refund
import NovaPuraRouter.Grants

/-! One delivery of a signature-verified Stripe event, from the guards to the release of its
claim. An event carries the trimmed texts the handlers read out of the payload; the amount
is what parsing its text gives. -/
namespace NovaPuraRouter.Webhook
open TopupOrder Refund

inductive EventType
  | checkoutSessionCompleted | checkoutSessionAsyncPaymentSucceeded | checkoutSessionAsyncPaymentFailed
  | checkoutSessionExpired | paymentIntentPaymentFailed | chargeRefunded | dispute | other
  deriving DecidableEq, Repr

structure Event where
  id : String
  type : EventType
  livemode : Bool
  account : String
  clientReferenceId : String
  metadataOrderId : String
  status : String
  paymentStatus : String
  amountTotal : Option Int
  currency : String
  objectId : String
  customer : String
  paymentIntent : String
  deriving DecidableEq, Repr

structure StripeSetting where
  requireTestKeys : Bool
  accountId : String

structure StripeWebhookEvent where
  eventType : EventType
  livemode : Bool
  accountId : String
  createdAt : Int

structure Endpoint where
  db : Database
  events : Table String StripeWebhookEvent

inductive Mismatch | invalidAmount | missingCurrency | currency | amount | checkoutSession
  deriving DecidableEq, Repr

def Mismatch.text : Mismatch → String
  | .invalidAmount => "invalid amount"
  | .missingCurrency => "missing currency"
  | .currency => "currency mismatch"
  | .amount => "amount mismatch"
  | .checkoutSession => "checkout session mismatch"

-- What the order row is told; it differs from the error in one case.
def Mismatch.reason : Mismatch → String
  | .invalidAmount => "missing or invalid amount"
  | m => m.text

inductive WebhookFailure
  | livemode
  | account (account : String)
  | paymentMismatch (mismatch : Mismatch) (orderId : String)
  | orderNotFound (orderId : String)
  | handler (failure : Failure)
  deriving DecidableEq, Repr

-- Whether delivering the event again cannot help; only then its row is kept.
def WebhookFailure.permanent : WebhookFailure → Bool
  | .livemode | .account _ | .paymentMismatch _ _ => true
  | .orderNotFound _ | .handler _ => false

abbrev Handled := Database × Except WebhookFailure Unit

variable (db : Database)

def handled : Except Failure Database → Handled
  | .ok db' => (db',.ok ())
  | .error failure => (db,.error (.handler failure))

def toLower (text : String) : String := String.ofList (text.toList.map Char.toLower)

variable (e : Event)

def novapuraOrderId : String := if e.clientReferenceId ≠ "" then e.clientReferenceId else e.metadataOrderId

variable (order : StripeTopupOrder)

def currencyMismatch (e : Event) : Option Mismatch :=
  if toLower e.currency = "" then some .missingCurrency else
  if toLower e.currency ≠ toLower order.presentmentCurrency then some .currency else none

def sessionMismatch (e : Event) : Option Mismatch :=
  if e.objectId = "" ∨ (order.stripeCheckoutSessionId ≠ "" ∧ order.stripeCheckoutSessionId ≠ e.objectId) then
    some .checkoutSession
  else none

-- The first of the five checks that the payment fails.
def paymentMismatch (e : Event) : Option Mismatch := match e.amountTotal with
  | none => some .invalidAmount
  | some amountTotal =>
    if amountTotal ≤ 0 then some .invalidAmount else
      match currencyMismatch order e with
      | some mismatch => some mismatch
      | none => if amountTotal ≠ order.presentmentAmountMinor then some .amount else sessionMismatch order e

def awaitsPayment (async : Bool) : Prop :=
  (async = false ∧ e.status ≠ "" ∧ e.status ≠ "complete") ∨
    (e.paymentStatus ≠ "" ∧ e.paymentStatus ≠ "paid" ∧ e.paymentStatus ≠ "no_payment_required")

instance (e async) : Decidable (awaitsPayment e async) := by unfold awaitsPayment; infer_instance

def creditPaid (cfg : Config) (db : Database) (orderId : String) (e : Event) (now : Int) : Handled :=
  let paid := markOrderPaid db orderId e.customer e.objectId e.paymentIntent now
  handled paid ((creditStripeTopupOrder cfg paid orderId e.customer e.paymentIntent e.objectId now).map Prod.snd)

def handleCheckoutPaid (cfg : Config) (db : Database) (e : Event) (async : Bool) (now : Int) : Handled :=
  let orderId := novapuraOrderId e
  if orderId = "" then (db,.ok ()) else
  if awaitsPayment e async then (db,.ok ()) else
    match db.orders.get? orderId with
    | none => (db,.error (.orderNotFound orderId))
    | some order => match paymentMismatch order e with
      | some mismatch =>
        (commit db (markStripeTopupOrderStatus db orderId .any .manualReview mismatch.reason now),
          .error (.paymentMismatch mismatch orderId))
      | none => creditPaid cfg db orderId e now

-- The handlers that only mark the order; they differ in where they look for its id.
def handleMark (orderId : String) (target : StripeOrderStatus) (reason : String) (now : Int) : Handled :=
  if orderId = "" then (db,.ok ()) else handled db (markStripeTopupOrderStatus db orderId .any target reason now)

variable (now : Int)

def handleCheckoutFailed : Handled :=
  handleMark db (novapuraOrderId e) .failed "async_payment_failed" now

def handleCheckoutExpired : Handled :=
  handleMark db e.clientReferenceId .expired "checkout_expired" now

def handlePaymentIntentFailed : Handled :=
  handleMark db e.metadataOrderId .failed "payment_intent_failed" now

def handleDispute : Handled :=
  handleMark db e.metadataOrderId .manualReview "dispute" now

def refundedOrderId : String :=
  if e.metadataOrderId ≠ "" ∨ e.paymentIntent = "" then e.metadataOrderId else
    match db.orders.select (fun _ o => decide (o.stripePaymentIntentId = e.paymentIntent)) with
    | [] => ""
    | found :: _ => found.1

def handleChargeRefunded : Handled :=
  if refundedOrderId db e = "" then (db,.ok ()) else handled db (reconcileRefund db (refundedOrderId db e) now)

def handle (cfg : Config) (db : Database) (e : Event) (now : Int) : Handled := match e.type with
  | .checkoutSessionCompleted => handleCheckoutPaid cfg db e false now
  | .checkoutSessionAsyncPaymentSucceeded => handleCheckoutPaid cfg db e true now
  | .checkoutSessionAsyncPaymentFailed => handleCheckoutFailed db e now
  | .checkoutSessionExpired => handleCheckoutExpired db e now
  | .paymentIntentPaymentFailed => handlePaymentIntentFailed db e now
  | .chargeRefunded => handleChargeRefunded db e now
  | .dispute => handleDispute db e now
  | .other => (db,.ok ())

def admission (setting : StripeSetting) (e : Event) : Option WebhookFailure :=
  if setting.requireTestKeys = true ∧ e.livemode = true then some .livemode else
  if setting.accountId ≠ "" ∧ e.account ≠ "" ∧ e.account ≠ setting.accountId then some (.account e.account) else none

def eventRow : StripeWebhookEvent := ⟨e.type,e.livemode,e.account,now⟩

def release (events : Table String StripeWebhookEvent) (id : String) : Except WebhookFailure Unit → Table String StripeWebhookEvent
  | .ok _ => events
  | .error failure => if failure.permanent then events else events.erase id

def processVerifiedEvent (setting : StripeSetting) (cfg : Config) (s : Endpoint) (e : Event) (now : Int) :
    Endpoint × Except WebhookFailure Unit :=
  match admission setting e with
  | some failure => (s,.error failure)
  | none => match s.events.insert? e.id (eventRow e now) with
    | none => (s,.ok ())
    | some events =>
      let result := handle cfg s.db e now
      (⟨result.1,release events e.id result.2⟩,result.2)

end NovaPuraRouter.Webhook
