import NovaPuraRouter.RecurringEvent
import NovaPuraRouter.StripeSeat

/-! The lifecycle of a recurring subscription over its seat: billing periods, the grace
after a failed payment, the term of the entitlement, and the handlers of Stripe's events.
A handler may commit the binding of a new subscription and fail afterwards. -/
namespace NovaPuraRouter.Recurring
open StripeSeat
open SubscriptionUsage (trimmed)
open RecurringEvent (HandlerOutcome)

structure Period where
  start : Nat
  stop : Nat
  deriving DecidableEq, Repr

def Period.onto (new old : Period) : Period :=
  ⟨if 0 < new.start then new.start else old.start,if 0 < new.stop then new.stop else old.stop⟩

structure Billing where
  period : Period
  graceUntil : Nat
  cancelAtPeriodEnd : Bool
  latestInvoiceId : String
  failureReason : String
  deriving DecidableEq, Repr

structure Book where
  seats : SeatStore
  billing : Nat → Billing
  terms : Nat → Period

def gracePeriod : Nat := 72 * 60 * 60

section Columns
variable (b : Book)

def Book.setSubscription (id : Nat) (f : StripeSubscription → StripeSubscription) : Book :=
  { b with seats := { b.seats with subscriptions := b.seats.subscriptions.modify id f } }

def Book.setBilling (id : Nat) (f : Billing → Billing) : Book :=
  { b with billing := Function.update b.billing id (f (b.billing id)) }

def Book.setTerm (id : Nat) (f : Period → Period) : Book := { b with terms := Function.update b.terms id (f (b.terms id)) }

end Columns

section Entitle
variable (runtime : Option StripeSubscriptionConfig) (planEnd : Nat → Nat) (b : Book)

def Book.createUserSubscriptionFromPlanAtTx (userId planId : Nat) (plan : RecurringPlan) (now : Nat) :
    Except SeatFailure (Nat × Book) := do
  let (id,seats) ← StripeSeat.createUserSubscriptionFromPlanAtTx runtime b.seats userId planId plan
  pure (id,{ b with seats := seats }.setTerm id (fun _ => ⟨now,planEnd now⟩))

def Book.restoreStripeSubscriptionEntitlementTx (entitlementId : Nat) (period : Period) : Except SeatFailure Book :=
  if entitlementId = 0 then .ok b else do
    let seats ← StripeSeat.restoreStripeSubscriptionEntitlementTx b.seats entitlementId
    pure ({ b with seats := seats }.setTerm entitlementId period.onto)

def entitled (entitlementId : Nat) (s : StripeSubscription) : StripeSubscription :=
  { s with userSubscriptionId := entitlementId, status := .active }

def Book.ensureStripeSubscriptionEntitlementTx (id userSubscriptionId : Nat) (r : Reservation) (plan : RecurringPlan)
    (period : Period) (now : Nat) : Except SeatFailure Book :=
  if userSubscriptionId = 0 then do
    let (entitlementId,b) ← b.createUserSubscriptionFromPlanAtTx runtime planEnd r.userId r.planId plan now
    (b.setSubscription id (entitled entitlementId)).restoreStripeSubscriptionEntitlementTx entitlementId period
  else b.restoreStripeSubscriptionEntitlementTx userSubscriptionId period

def settledBilling (period : Period) (x : Billing) : Billing :=
  { x with graceUntil := 0, failureReason := "", period := period.onto x.period }

def Book.attachEntitlement (existing : Option (Nat × StripeSubscription)) (input : ActivationInput) (period : Period)
    (r : Reservation) (plan : RecurringPlan) (now : Nat) : Except SeatFailure Book := match existing with
  | some (id,s) => do
    require (s.stripeSubscriptionId = input.stripeSubscriptionId ∧ s.userId = r.userId ∧ s.planId = r.planId ∧
      s.reservationId = input.reservationId) .planInvalid
    let b := (b.setSubscription id (reactivated input r.tier)).setBilling id (settledBilling period)
    b.ensureStripeSubscriptionEntitlementTx runtime planEnd id s.userSubscriptionId r plan period now
  | none => do
    let (entitlementId,b) ← b.createUserSubscriptionFromPlanAtTx runtime planEnd r.userId r.planId plan now
    let b := b.setTerm entitlementId period.onto
    let seats ← createSubscription b.seats ⟨r.planId,r.userId,input.reservationId,trimmed input.customerId,
      trimmed input.stripeSubscriptionId,trimmed input.checkoutSessionId,trimmed input.stripePriceId,entitlementId,r.tier,.active,0⟩
    pure ({ b with seats := seats }.setBilling b.seats.subscriptions.nextId (fun _ => ⟨period,0,false,"",""⟩))

def Book.activateStripeSubscriptionWithEntitlement (input : ActivationInput) (period : Period) (now : Nat) :
    Except SeatFailure Book := do
  require (input.reservationId ≠ 0 ∧ trimmed input.stripeSubscriptionId ≠ "" ∧ trimmed input.stripePriceId ≠ "") .reservation
  let existing ← lockStripeSubscriptionRowsTx b.seats input.stripeSubscriptionId input.reservationId
  let (r,seats) ← activateStripeSubscriptionReservationTx runtime b.seats input.reservationId input.checkoutSessionId
    input.customerId input.stripeSubscriptionId input.stripePriceId now
  let plan ← recurringLifecyclePlanTx runtime seats r.planId
  Book.attachEntitlement runtime planEnd { b with seats := seats } existing input period r plan now

end Entitle

section Bind
variable (runtime : Option StripeSubscriptionConfig) (b : Book)

def boundId (input : BindingInput) : Nat := match lockStripeSubscriptionRowsTx b.seats input.stripeSubscriptionId input.reservationId with
  | .ok (some (id,_)) => id
  | _ => b.seats.subscriptions.nextId

def Book.bindStripeSubscriptionCheckout (input : BindingInput) : Except SeatFailure (StripeSubscription × Book) := do
  let seats ← StripeSeat.bindStripeSubscriptionCheckout runtime b.seats input
  let s ← row (seats.subscriptions.get? (boundId b input)) .recordNotFound
  let b' : Book := if b.seats.subscriptions.get? (boundId b input) = none then
    b.setBilling (boundId b input) (fun _ => ⟨⟨0,0⟩,0,false,"",""⟩) else b
  pure (s,{ b' with seats := seats })

end Bind

section Paid
variable (runtime : Option StripeSubscriptionConfig) (planEnd : Nat → Nat) (b : Book)

def Book.activateFromInvoice (id : Nat) (s : StripeSubscription) (period : Period) (now : Nat) : Except SeatFailure Book := do
  require (s.reservationId ≠ 0) .reservation
  let r ← row (b.seats.reservations.get? s.reservationId) .recordNotFound
  let (r,seats) ← if r.status = .active then pure (r,b.seats) else
    activateStripeSubscriptionReservationTx runtime b.seats s.reservationId r.checkoutSessionId r.stripeCustomerId
      s.stripeSubscriptionId s.stripePriceId now
  let plan ← recurringLifecyclePlanTx runtime seats r.planId
  Book.ensureStripeSubscriptionEntitlementTx runtime planEnd { b with seats := seats } id s.userSubscriptionId r plan period now

def paidBilling (invoiceId : String) (period : Period) (x : Billing) : Billing :=
  { settledBilling period x with latestInvoiceId := trimmed invoiceId }

def Book.renewed (id : Nat) (invoiceId : String) (period : Period) : Except SeatFailure Book := do
  let s ← row (b.seats.subscriptions.get? id) .recordNotFound
  let b := (b.setSubscription id (fun s => { s with status := .active })).setBilling id (paidBilling invoiceId period)
  b.restoreStripeSubscriptionEntitlementTx s.userSubscriptionId period

def InvoiceInput.completed (input : InvoiceInput) (s : StripeSubscription) : InvoiceInput :=
  { input with
    planId := if input.planId = 0 then s.planId else input.planId
    userId := if input.userId = 0 then s.userId else input.userId }

def Book.applyStripeSubscriptionPaid (input : InvoiceInput) (period : Period) (now : Nat) : Except SeatFailure Book := do
  let (id,s) ← row (findByStripeId b.seats input.stripeSubscriptionId) .recordNotFound
  let input := InvoiceInput.completed input s
  require (input.planId = s.planId ∧ input.userId = s.userId) .planInvalid
  require (s.status ≠ .canceled ∧ s.endedAt = 0) .ended
  let b ← if s.userSubscriptionId = 0 then b.activateFromInvoice runtime planEnd id s period now else pure b
  let (inserted,seats) ← recordStripeSubscriptionInvoiceTx b.seats input
  if inserted then Book.renewed { b with seats := seats } id input.stripeInvoiceId period else pure { b with seats := seats }

end Paid

section Fail
variable (b : Book)

def Book.extendStripeSubscriptionGraceEntitlementTx (entitlementId graceUntil : Nat) : Except SeatFailure Book :=
  if entitlementId = 0 ∨ graceUntil = 0 then .ok b else do
    let e ← row (b.seats.entitlements.get? entitlementId) .recordNotFound
    pure (if e.active = false ∨ graceUntil ≤ (b.terms entitlementId).stop then b
      else b.setTerm entitlementId (fun t => { t with stop := graceUntil }))

def failedBilling (invoiceId reason : String) (graceUntil : Nat) (x : Billing) : Billing :=
  { x with graceUntil := graceUntil, latestInvoiceId := trimmed invoiceId, failureReason := trimmed reason }

def Book.markStripeSubscriptionPaymentFailedWithInvoice (input : InvoiceInput) (reason : String) (now : Nat) :
    Except SeatFailure Book := do
  require (trimmed input.stripeSubscriptionId ≠ "" ∧ trimmed input.stripeInvoiceId ≠ "") .reservation
  let (id,s) ← row (findByStripeId b.seats input.stripeSubscriptionId) .recordNotFound
  let input := InvoiceInput.completed input s
  require (input.planId = s.planId ∧ input.userId = s.userId) .planInvalid
  require (s.status ≠ .canceled ∧ s.endedAt = 0) .ended
  let (inserted,seats) ← recordStripeSubscriptionInvoiceTx b.seats input
  let b : Book := { b with seats := seats }
  if inserted then
    let graceUntil := now + gracePeriod
    ((b.setSubscription id (fun s => { s with status := .pastDue })).setBilling id
      (failedBilling input.stripeInvoiceId reason graceUntil)).extendStripeSubscriptionGraceEntitlementTx s.userSubscriptionId graceUntil
  else pure b

def Book.endStripeSubscriptionTx (id : Nat) (s : StripeSubscription) (now : Nat) : Except SeatFailure Book := do
  let seats ← StripeSeat.endStripeSubscriptionTx b.seats id s now
  let b' : Book := if s.status ≠ .canceled ∨ s.endedAt = 0 then b.setBilling id (fun x => { x with graceUntil := 0 }) else b
  let b' := if (b.seats.entitlements.get? s.userSubscriptionId).any Entitlement.active then
    b'.setTerm s.userSubscriptionId (fun t => { t with stop := now }) else b'
  pure { b' with seats := seats }

def Book.endStripeSubscription (stripeSubscriptionId : String) (now : Nat) : Except SeatFailure Book := do
  require (trimmed stripeSubscriptionId ≠ "") .reservation
  match findByStripeId b.seats stripeSubscriptionId with
  | none => pure b
  | some (id,s) => b.endStripeSubscriptionTx id s now

def updatedGrace (status : RecurringStatus) (now : Nat) (x : Billing) : Nat :=
  if status = .pastDue ∧ x.graceUntil ≤ now then now + gracePeriod else x.graceUntil

def updatedBilling (status : RecurringStatus) (cancelAtPeriodEnd : Bool) (period : Period) (now : Nat) (x : Billing) : Billing :=
  { x with
    cancelAtPeriodEnd := cancelAtPeriodEnd
    period := period.onto x.period
    graceUntil := if status = .active then 0 else updatedGrace status now x
    failureReason := if status = .active then "" else x.failureReason }

def Book.updateStripeSubscriptionState (stripeSubscriptionId : String) (status : RecurringStatus) (cancelAtPeriodEnd : Bool)
    (period : Period) (now : Nat) : Except SeatFailure Book := do
  require (trimmed stripeSubscriptionId ≠ "") .reservation
  let (id,s) ← row (findByStripeId b.seats stripeSubscriptionId) .recordNotFound
  require (s.status ≠ .canceled ∧ s.endedAt = 0) .ended
  let old := b.billing id
  let b := (b.setSubscription id (fun s => { s with status := status })).setBilling id
    (updatedBilling status cancelAtPeriodEnd period now)
  match status with
  | .canceled => b.endStripeSubscriptionTx id s now
  | .active => b.restoreStripeSubscriptionEntitlementTx s.userSubscriptionId period
  | .pastDue => b.extendStripeSubscriptionGraceEntitlementTx s.userSubscriptionId (updatedGrace .pastDue now old)
  | .unpaid => if 0 < old.graceUntil ∧ old.graceUntil ≤ now then b.endStripeSubscriptionTx id s now else pure b
  | _ => pure b

end Fail

section Expire
variable (b : Book)

def Book.due (now id : Nat) (s : StripeSubscription) : Bool :=
  (s.status = .pastDue ∨ s.status = .unpaid) ∧ 0 < (b.billing id).graceUntil ∧ (b.billing id).graceUntil ≤ now

def Book.candidates (now : Nat) : List Nat :=
  ((b.seats.subscriptions.select (b.due now)).map Prod.fst).insertionSort
    (fun i j => (b.billing i).graceUntil < (b.billing j).graceUntil ∨ (b.billing i).graceUntil = (b.billing j).graceUntil ∧ i ≤ j)

def Book.expireOne (now id : Nat) : Except SeatFailure Book := match b.seats.subscriptions.get? id with
  | none => .ok b
  | some s => if b.due now id s then b.endStripeSubscriptionTx id s now else .ok b

def Book.expireEach (now : Nat) : Book → List Nat → Book
  | b,[] => b
  | b,id::rest => match b.expireOne now id with
    | .ok b' => Book.expireEach now b' rest
    | .error _ => b

def passLimit (limit : Nat) : Nat := if limit = 0 then 200 else limit

def Book.expireDueStripeSubscriptions (now limit : Nat) : Book :=
  Book.expireEach now b ((b.candidates now).take (passLimit limit))

end Expire

/- The session that the gateway has opened for a reservation. The mark of a lapsed one is
rolled back with the error. -/
def setStripeSubscriptionCheckoutSessionDetails (db : SeatStore) (id : Nat) (sessionId customerId : String) (now : Nat) :
    Except SeatFailure SeatStore := do
  require (trimmed sessionId ≠ "") .reservation
  let r ← row (db.reservations.get? id) .recordNotFound
  if r.status = .pending ∨ r.status = .reconciliation then do
    require (lapsed now r = false) .reservationExpired
    pure (setReservation db id { r with
      checkoutSessionId := trimmed sessionId
      stripeCustomerId := orTrimmed customerId r.stripeCustomerId })
  else do
    require (r.checkoutSessionId = sessionId) .reservation
    pure db

/- What ties an event to a subscription. Zero stands for a missing id; the last two say
whether the event is marked as ours and whether the rest of its contract with the plan
holds. -/
structure Anchor where
  stripeSubscriptionId : Word
  customerId : Word
  priceId : Word
  reservationId : Nat
  referenceId : Word
  planId : Nat
  marked : Bool
  contract : Bool

structure Checkout where
  complete : Bool
  paid : Bool
  referenceId : Word
  sessionId : Word
  stripeSubscriptionId : Word
  customerId : Word
  priceId : Word
  planId : Nat
  period : Period
  contract : Bool

structure Invoice where
  eventId : Word
  invoiceId : Word
  named : invoiceId.text ≠ ""
  period : Period
  amountExact : Bool

structure Update where
  status : Option RecurringStatus
  cancelAtPeriodEnd : Bool
  period : Period

inductive Notice
  | checkoutCompleted (checkout : Checkout)
  | checkoutExpired (referenceId sessionId : Word) (contract : Bool)
  | invoicePaid (anchor : Anchor) (invoice : Invoice)
  | invoicePaymentFailed (anchor : Anchor) (invoice : Invoice)
  | subscriptionUpdated (anchor : Anchor) (update : Update)
  | subscriptionDeleted (anchor : Anchor)

def asRecurringMismatch : SeatFailure → HandlerOutcome
  | .capacityFull | .alreadyPending | .duplicateKey | .purchaseLimitReached => .failed
  | _ => .mismatch

section Handle
variable (runtime : Option StripeSubscriptionConfig) (planEnd : Nat → Nat) (b : Book) (now : Nat)

def settle (b : Book) (raised : SeatFailure → HandlerOutcome) : Except SeatFailure Book → HandlerOutcome × Book
  | .ok b' => (.ok,b')
  | .error e => (raised e,b)

def Book.handleCheckoutCompleted (c : Checkout) : HandlerOutcome × Book :=
  if c.complete = false then (.ok,b)
  else if c.referenceId.text = "" ∨ c.sessionId.text = "" ∨ c.stripeSubscriptionId.text = "" ∨ c.priceId.text = "" then (.mismatch,b)
  else match reservationByReference b.seats c.referenceId.text with
    | none => (.mismatch,b)
    | some (id,r) => match recurringLifecyclePlanTx runtime b.seats r.planId with
      | .error _ => (.mismatch,b)
      | .ok plan =>
        if ¬ sessionMatches r c.sessionId ∨ c.planId ≠ r.planId ∨ c.contract = false ∨
          r.stripeCustomerId ≠ "" ∧ r.stripeCustomerId ≠ c.customerId.text ∨ c.priceId.text ≠ expectedPrice plan r.tier then (.mismatch,b)
        else if c.paid then
          settle b asRecurringMismatch (b.activateStripeSubscriptionWithEntitlement runtime planEnd
            ⟨id,c.sessionId.text,c.customerId.text,c.stripeSubscriptionId.text,c.priceId.text⟩ c.period now)
        else settle b asRecurringMismatch ((b.bindStripeSubscriptionCheckout runtime
          ⟨id,c.sessionId.text,c.customerId.text,c.stripeSubscriptionId.text,c.priceId.text⟩).map (·.2))

def Book.setSeats (seats : SeatStore) : Book := { b with seats := seats }

def Book.handleCheckoutExpired (referenceId sessionId : Word) (contract : Bool) : HandlerOutcome × Book :=
  if referenceId.text = "" ∨ sessionId.text = "" then (.mismatch,b)
  else match reservationByReference b.seats referenceId.text with
    | none => (.mismatch,b)
    | some (id,r) => match recurringLifecyclePlanTx runtime b.seats r.planId with
      | .error e => (asRecurringMismatch e,b)
      | .ok _ =>
        if ¬ sessionMatches r sessionId ∨ contract = false then (.mismatch,b)
        else if r.status = .active then (.ok,b)
        else settle b asRecurringMismatch ((releasePendingStripeSubscriptionReservation b.seats id).map b.setSeats)

variable (a : Anchor)

def Book.anchored : Option (Nat × Reservation) :=
  match (if a.reservationId = 0 then none else b.seats.reservations.get? a.reservationId) with
  | some r => some (a.reservationId,r)
  | none => reservationByReference b.seats a.referenceId.text

variable (s : StripeSubscription)

def customerMatches : Except HandlerOutcome StripeSubscription :=
  if a.customerId.text = "" ∨ s.stripeCustomerId = "" ∨ a.customerId.text = s.stripeCustomerId then .ok s else .error .mismatch

def Book.bindAnchored (id : Nat) (r : Reservation) : Except HandlerOutcome StripeSubscription × Book :=
  if a.referenceId.text ≠ "" ∧ a.referenceId.text ≠ r.referenceId ∨ a.planId = 0 ∨ a.planId ≠ r.planId then (.error .mismatch,b)
  else if a.priceId.text = "" then (.error .failed,b)
  else match recurringLifecyclePlanTx runtime b.seats r.planId with
    | .error e => (.error (asRecurringMismatch e),b)
    | .ok plan =>
      if a.contract = false ∨ a.priceId.text ≠ plan.founderStripePriceId ∧ a.priceId.text ≠ plan.standardStripePriceId then
        (.error .mismatch,b)
      else match b.bindStripeSubscriptionCheckout runtime
          ⟨id,r.checkoutSessionId,a.customerId.text,a.stripeSubscriptionId.text,a.priceId.text⟩ with
        | .error e => (.error (asRecurringMismatch e),b)
        | .ok (s,b') => (customerMatches a s,b')

def Book.findRecurringSubscriptionFromEvent : Except HandlerOutcome StripeSubscription × Book :=
  if a.stripeSubscriptionId.text = "" then (.error .mismatch,b)
  else match findByStripeId b.seats a.stripeSubscriptionId.text with
    | some (_,s) => match recurringLifecyclePlanTx runtime b.seats s.planId with
      | .error e => (.error (asRecurringMismatch e),b)
      | .ok _ => (customerMatches a s,b)
    | none => match b.anchored a with
      | none => (.error (if a.reservationId ≠ 0 ∨ a.referenceId.text ≠ "" ∨ a.marked then .failed else .notHandled),b)
      | some (id,r) => b.bindAnchored runtime a id r

def Book.withFound (rest : Book → StripeSubscription → HandlerOutcome × Book) : HandlerOutcome × Book :=
  match b.findRecurringSubscriptionFromEvent runtime a with
  | (.error e,b') => (e,b')
  | (.ok s,b') => rest b' s

variable (i : Invoice)

def invoiceInput (status : String) : InvoiceInput :=
  ⟨s.planId,s.userId,s.stripeSubscriptionId,i.invoiceId.text,i.eventId.text,status⟩

def invoiceMatches (s : StripeSubscription) : Prop :=
  a.contract = true ∧ i.amountExact = true ∧ a.priceId.text = s.stripePriceId

instance (a i s) : Decidable (invoiceMatches a i s) := by unfold invoiceMatches; infer_instance

def Book.handleInvoicePaid : HandlerOutcome × Book := b.withFound runtime a fun b s =>
  if invoiceMatches a i s then
    settle b asRecurringMismatch (b.applyStripeSubscriptionPaid runtime planEnd (invoiceInput s i "paid") i.period now)
  else (.mismatch,b)

def Book.handleInvoicePaymentFailed : HandlerOutcome × Book := b.withFound runtime a fun b s =>
  if invoiceMatches a i s then
    settle b asRecurringMismatch (b.markStripeSubscriptionPaymentFailedWithInvoice (invoiceInput s i "payment_failed")
      "invoice payment failed" now)
  else (.mismatch,b)

def endedMismatch : SeatFailure → HandlerOutcome
  | .ended => .mismatch
  | _ => .failed

def priceMatches : Prop :=
  a.contract = true ∧ (a.priceId.text = "" ∨ s.stripePriceId = "" ∨ a.priceId.text = s.stripePriceId)

instance (a s) : Decidable (priceMatches a s) := by unfold priceMatches; infer_instance

def Book.handleSubscriptionUpdated (u : Update) : HandlerOutcome × Book := b.withFound runtime a fun b s =>
  if priceMatches a s then match u.status with
    | none => (.mismatch,b)
    | some status => settle b endedMismatch
      (b.updateStripeSubscriptionState s.stripeSubscriptionId status u.cancelAtPeriodEnd u.period now)
  else (.mismatch,b)

def Book.handleSubscriptionDeleted : HandlerOutcome × Book := b.withFound runtime a fun b s =>
  if priceMatches a s then settle b (fun _ => .failed) (b.endStripeSubscription s.stripeSubscriptionId now) else (.mismatch,b)

def Book.handleRecurringEvent : Notice → HandlerOutcome × Book
  | .checkoutCompleted c => b.handleCheckoutCompleted runtime planEnd now c
  | .checkoutExpired referenceId sessionId contract => b.handleCheckoutExpired runtime referenceId sessionId contract
  | .invoicePaid a i => b.handleInvoicePaid runtime planEnd now a i
  | .invoicePaymentFailed a i => b.handleInvoicePaymentFailed runtime now a i
  | .subscriptionUpdated a u => b.handleSubscriptionUpdated runtime now a u
  | .subscriptionDeleted a => b.handleSubscriptionDeleted runtime now a

end Handle

inductive Happening
  | notice (notice : Notice)
  | reserve (planId userId : Nat) (referenceId : String)
  | openSession (reservationId : Nat) (sessionId customerId : String)
  | releasePending (reservationId : Nat)
  | expireSeats
  | expireDue (limit : Nat)

structure Event where
  elapsed : Nat
  happening : Happening

section Run
variable (runtime : Option StripeSubscriptionConfig) (planEnd : Nat → Nat)

def Book.perform (b : Book) (now : Nat) : Happening → Book
  | .notice n => (b.handleRecurringEvent runtime planEnd now n).2
  | .reserve planId userId referenceId => b.setSeats (commit b.seats (reserveStripeSubscriptionSeatTx b.seats planId userId referenceId now))
  | .openSession id sessionId customerId =>
    b.setSeats (commit b.seats (setStripeSubscriptionCheckoutSessionDetails b.seats id sessionId customerId now))
  | .releasePending id => b.setSeats (commit b.seats (releasePendingStripeSubscriptionReservation b.seats id))
  | .expireSeats => b.setSeats (expireStripeSubscriptionReservationsTx b.seats now)
  | .expireDue limit => b.expireDueStripeSubscriptions now limit

end Run

end NovaPuraRouter.Recurring
