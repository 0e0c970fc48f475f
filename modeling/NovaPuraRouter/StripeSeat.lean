import NovaPuraRouter.SubscriptionUsage

/-! Seats of the recurring Stripe plans: reservations, permanent founder claims, the local
rows of Stripe's subscriptions and their entitlements. Every operation is one transaction
and gets the clock value read before it. Columns that are only written and the user groups
are left out. -/
namespace NovaPuraRouter.StripeSeat
open SubscriptionUsage (trimmed)

inductive ReservationStatus | pending | active | expired | released | reconciliation
  deriving DecidableEq, Repr

inductive Tier | founder | standard
  deriving DecidableEq, Repr

inductive RecurringStatus | incomplete | active | pastDue | canceled | unpaid | trialing
  deriving DecidableEq, Repr

structure Reservation where
  planId : Nat
  userId : Nat
  activeUserId : Option Nat
  referenceId : String
  checkoutSessionId : String
  stripeCustomerId : String
  stripeSubscriptionId : String
  stripePriceId : String
  tier : Tier
  status : ReservationStatus
  expiresAt : Nat
  founderClaimId : Nat
  deriving DecidableEq, Repr

structure FounderClaim where
  planId : Nat
  userId : Nat
  firstReservationId : Nat
  deriving DecidableEq, Repr

structure StripeSubscription where
  planId : Nat
  userId : Nat
  reservationId : Nat
  stripeCustomerId : String
  stripeSubscriptionId : String
  stripeCheckoutSessionId : String
  stripePriceId : String
  userSubscriptionId : Nat
  tier : Tier
  status : RecurringStatus
  endedAt : Nat
  deriving DecidableEq, Repr

structure StripeInvoice where
  eventId : String
  status : String
  deriving DecidableEq, Repr

structure Entitlement where
  userId : Nat
  planId : Nat
  active : Bool
  deriving DecidableEq, Repr

/- The last column says whether the rest of the plan is the catalog's offer. -/
structure RecurringPlan where
  enabled : Bool
  stripeSubscriptionEnabled : Bool
  maxActiveSubscriptions : Int
  maxActivePerUser : Int
  founderPurchaseLimit : Int
  maxPurchasePerUser : Int
  founderStripePriceId : String
  standardStripePriceId : String
  offerExact : Bool
  deriving DecidableEq, Repr

/- The fixed catalog of an environment. Both catalogs have two prices. -/
structure StripeSubscriptionConfig where
  founderPriceId : String
  standardPriceId : String
  maxActiveSeats : Int
  founderPurchaseLimit : Int
  maxActivePerUser : Int
  distinct : founderPriceId ≠ standardPriceId
  founderTrimmed : trimmed founderPriceId = founderPriceId
  standardTrimmed : trimmed standardPriceId = standardPriceId

def sandboxConfig : StripeSubscriptionConfig :=
  ⟨"price_1U77mhPKe8UWYDw1ToMHT22i","price_1U77miPKe8UWYDw1DEov9KXK",20,20,1,by decide,by decide +kernel,by decide +kernel⟩

inductive SeatFailure
  | capacityFull | alreadyActive | alreadyPending | disabled | planInvalid | reservation | reservationExpired
  | founderClaimUsed | founderSoldOut | ended | recordNotFound | duplicateKey | purchaseLimitReached
  deriving DecidableEq, Repr

structure SeatStore where
  plans : Table Nat RecurringPlan
  users : List Nat
  reservations : Table Nat Reservation
  claims : Table Nat FounderClaim
  subscriptions : Table Nat StripeSubscription
  invoices : Table (String × String) StripeInvoice
  entitlements : Table Nat Entitlement

def reservationTTL : Nat := 1800

section Plans
variable (runtime : Option StripeSubscriptionConfig) (db : SeatStore)

def recurringPlanTx (planId : Nat) : Except SeatFailure RecurringPlan := do
  require (planId ≠ 0) .planInvalid
  let plan ← row (db.plans.get? planId) .recordNotFound
  require (plan.enabled = true ∧ plan.stripeSubscriptionEnabled = true) .disabled
  require (0 < plan.maxActiveSubscriptions ∧ 0 < plan.maxActivePerUser) .disabled
  pure plan

def validateStripeSubscriptionPlan (plan : RecurringPlan) (config : StripeSubscriptionConfig) : Except SeatFailure Unit :=
  require (plan.offerExact = true ∧ plan.maxActiveSubscriptions = config.maxActiveSeats ∧
    plan.founderPurchaseLimit = config.founderPurchaseLimit ∧ plan.maxActivePerUser = config.maxActivePerUser ∧
    plan.founderStripePriceId = config.founderPriceId ∧ plan.standardStripePriceId = config.standardPriceId) .planInvalid

-- The sale of new seats may be closed.
def recurringLifecyclePlanTx (planId : Nat) : Except SeatFailure RecurringPlan := do
  require (planId ≠ 0) .planInvalid
  let plan ← row (db.plans.get? planId) .recordNotFound
  let config ← row runtime .planInvalid
  validateStripeSubscriptionPlan plan config
  pure plan

def expectedPrice (plan : RecurringPlan) : Tier → String
  | .founder => plan.founderStripePriceId
  | .standard => plan.standardStripePriceId

end Plans

section Reserve
variable (db : SeatStore) (now : Nat) (r : Reservation)

def unexpired : Bool := r.expiresAt = 0 ∨ now < r.expiresAt

def waiting : Bool :=
  r.status = .pending ∧ unexpired now r = true ∨ r.status = .reconciliation

def live : Bool := r.status = .active ∨ waiting now r = true

def withdraw (status : ReservationStatus) (r : Reservation) : Reservation := { r with status := status, activeUserId := none }

def lapsed : Bool := r.status = .pending ∧ 0 < r.expiresAt ∧ r.expiresAt ≤ now

def expireStripeSubscriptionReservationsTx : SeatStore :=
  { db with reservations := db.reservations.update (fun _ r => lapsed now r) (withdraw .expired) }

def existingRecurring (userId : Nat) : Bool :=
  (db.subscriptions.select (fun _ s => s.userId = userId && s.status ∈ [.incomplete,.active,.pastDue,.unpaid])).length ≠ 0

def heldUserSeat (userId : Nat) : Option (Nat × Reservation) :=
  (db.reservations.select (fun _ r => r.activeUserId = some userId)).getLast?

-- A seat that has lapsed is taken from the user before the new one.
def reclaimSeat (userId now : Nat) : Except SeatFailure SeatStore := match heldUserSeat db userId with
  | none => .ok db
  | some (id,held) => match held.status with
    | .pending => if unexpired now held then .error .alreadyPending else
      .ok { db with reservations := db.reservations.modify id (withdraw .expired) }
    | .active => .error .alreadyActive
    | .reconciliation => .error .alreadyPending
    | .released => .ok { db with reservations := db.reservations.modify id (withdraw .released) }
    | .expired => .ok { db with reservations := db.reservations.modify id (withdraw .expired) }

def existingReservation (userId now : Nat) : Except SeatFailure Unit :=
  match (db.reservations.select (fun _ r => r.userId = userId && live now r)).getLast? with
  | none => .ok ()
  | some (_,r) => if r.status = .active then .error .alreadyActive else .error .alreadyPending

def activeCount (planId : Nat) : Int := db.reservations.count (fun _ r => r.planId = planId && r.status = .active)

def pendingCount (planId now : Nat) : Int := db.reservations.count (fun _ r => r.planId = planId && waiting now r)

def founderTierReservations (planId now : Nat) : Int :=
  db.reservations.count (fun _ r => r.planId = planId && r.tier = .founder && waiting now r)

def claimCount (planId : Nat) : Int := db.claims.count (fun _ c => c.planId = planId)

variable (planId userId : Nat)

def claimOf : Option (Nat × FounderClaim) :=
  (db.claims.select (fun _ c => c.planId = planId && c.userId = userId)).head?

def tierFor (plan : RecurringPlan) (planId userId now : Nat) : Tier :=
  if claimOf db planId userId = none ∧ 0 < plan.founderPurchaseLimit ∧
    claimCount db planId + founderTierReservations db planId now < plan.founderPurchaseLimit then .founder else .standard

def newReservation (referenceId : String) (tier : Tier) (now : Nat) : Reservation :=
  ⟨planId,userId,some userId,trimmed referenceId,"","","","",tier,.pending,now + reservationTTL,0⟩

-- The unique indexes on the holder and on the reference.
def createReservation : Except SeatFailure SeatStore := do
  require (db.reservations.count (fun _ other => other.activeUserId = r.activeUserId || other.referenceId = r.referenceId) = 0)
    .alreadyPending
  pure { db with reservations := db.reservations.append r }

def reserveStripeSubscriptionSeatTx (referenceId : String) (now : Nat) : Except SeatFailure SeatStore := do
  require (planId ≠ 0 ∧ userId ≠ 0 ∧ trimmed referenceId ≠ "") .reservation
  require (existingRecurring db userId = false) .alreadyActive
  let db ← reclaimSeat db userId now
  existingReservation db userId now
  let plan ← recurringPlanTx db planId
  require (activeCount db planId + pendingCount db planId now < plan.maxActiveSubscriptions) .capacityFull
  createReservation db (newReservation planId userId referenceId (tierFor db plan planId userId now) now)

end Reserve

section Activate
variable (runtime : Option StripeSubscriptionConfig) (db : SeatStore) (plan : RecurringPlan)

def checkPrice (r : Reservation) (priceId : String) : Except SeatFailure Unit :=
  if priceId = expectedPrice plan r.tier then .ok () else
  if priceId = plan.founderStripePriceId ∧ r.tier ≠ .founder ∧ 0 < plan.founderPurchaseLimit ∧
    plan.founderPurchaseLimit ≤ claimCount db r.planId then .error .founderSoldOut else .error .planInvalid

def takeClaim (id : Nat) (r : Reservation) (priceId : String) : Except SeatFailure (Nat × Table Nat FounderClaim) :=
  match claimOf db r.planId r.userId with
  | some (claimId,_) => if priceId = plan.founderStripePriceId then .error .founderClaimUsed else .ok (claimId,db.claims)
  | none => if priceId = plan.founderStripePriceId ∧ 0 < plan.founderPurchaseLimit then
      if claimCount db r.planId < plan.founderPurchaseLimit then .ok (db.claims.nextId,db.claims.append ⟨r.planId,r.userId,id⟩)
      else .error .founderSoldOut
    else .ok (0,db.claims)

def orTrimmed (new old : String) : String := if trimmed new = "" then old else trimmed new

def activated (r : Reservation) (sessionId customerId subscriptionId priceId : String) (claimId : Nat) : Reservation :=
  { r with
    checkoutSessionId := trimmed sessionId
    stripeSubscriptionId := trimmed subscriptionId
    stripePriceId := trimmed priceId
    activeUserId := some r.userId
    tier := if claimId ≠ 0 ∧ priceId = plan.founderStripePriceId then .founder else .standard
    status := .active
    expiresAt := 0
    founderClaimId := claimId
    stripeCustomerId := orTrimmed customerId r.stripeCustomerId }

-- The unique index on the holder, for a row that is there already.
def holderFree (id userId : Nat) : Prop := db.reservations.count (fun k r => k ≠ id && r.activeUserId = some userId) = 0

instance (id userId : Nat) : Decidable (holderFree db id userId) := inferInstanceAs (Decidable (_ = _))

/- A reservation that has lapsed is marked so and the mark is rolled back with the error. -/
def activateStripeSubscriptionReservationTx (id : Nat) (sessionId customerId subscriptionId priceId : String) (now : Nat) :
    Except SeatFailure (Reservation × SeatStore) := do
  require (id ≠ 0 ∧ trimmed subscriptionId ≠ "" ∧ trimmed priceId ≠ "") .reservation
  let r ← row (db.reservations.get? id) .recordNotFound
  if r.status = .active then do
    require (r.stripeSubscriptionId = subscriptionId) .alreadyActive
    pure (r,db)
  else do
    require (r.status = .pending ∨ r.status = .reconciliation) .reservation
    require (lapsed now r = false) .reservationExpired
    let plan ← recurringLifecyclePlanTx runtime db r.planId
    checkPrice db plan r priceId
    let (claimId,claims) ← takeClaim db plan id r priceId
    require (holderFree db id r.userId) .duplicateKey
    let done := activated plan r sessionId customerId subscriptionId priceId claimId
    pure (done,{ db with reservations := db.reservations.modify id (fun _ => done), claims := claims })

def findByStripeId (stripeSubscriptionId : String) : Option (Nat × StripeSubscription) :=
  (db.subscriptions.select (fun _ s => s.stripeSubscriptionId = stripeSubscriptionId)).head?

def findByReservation (reservationId : Nat) : Option (Nat × StripeSubscription) :=
  (db.subscriptions.select (fun _ s => s.reservationId = reservationId)).head?

def lockStripeSubscriptionRowsTx (stripeSubscriptionId : String) (reservationId : Nat) :
    Except SeatFailure (Option (Nat × StripeSubscription)) :=
  let byStripeId := if trimmed stripeSubscriptionId = "" then none else findByStripeId db (trimmed stripeSubscriptionId)
  let byReservationId := if reservationId = 0 then none else findByReservation db reservationId
  match byStripeId,byReservationId with
  | some (i,s),some (j,_) => if i = j then .ok (some (i,s)) else .error .planInvalid
  | some found,none => .ok (some found)
  | none,found => .ok found

def createUserSubscriptionFromPlanAtTx (userId planId : Nat) (plan : RecurringPlan) : Except SeatFailure (Nat × SeatStore) := do
  let config ← row runtime .planInvalid
  validateStripeSubscriptionPlan plan config
  let bought := db.entitlements.count (fun _ e => e.userId = userId && e.planId = planId)
  require (0 < plan.maxPurchasePerUser → bought < plan.maxPurchasePerUser) .purchaseLimitReached
  require (userId ∈ db.users) .recordNotFound
  pure (db.entitlements.nextId,{ db with entitlements := db.entitlements.append ⟨userId,planId,true⟩ })

def restoreStripeSubscriptionEntitlementTx (entitlementId : Nat) : Except SeatFailure SeatStore :=
  if entitlementId = 0 then .ok db else do
    let _ ← row (db.entitlements.get? entitlementId) .recordNotFound
    pure { db with entitlements := db.entitlements.modify entitlementId (fun e => { e with active := true }) }

def ensureStripeSubscriptionEntitlementTx (id : Nat) (userSubscriptionId : Nat) (r : Reservation) (plan : RecurringPlan) :
    Except SeatFailure SeatStore :=
  if userSubscriptionId = 0 then do
    let (entitlementId,db) ← createUserSubscriptionFromPlanAtTx runtime db r.userId r.planId plan
    let entitled := db.subscriptions.modify id (fun s => { s with userSubscriptionId := entitlementId, status := .active })
    restoreStripeSubscriptionEntitlementTx { db with subscriptions := entitled } entitlementId
  else restoreStripeSubscriptionEntitlementTx db userSubscriptionId

structure ActivationInput where
  reservationId : Nat
  checkoutSessionId : String
  customerId : String
  stripeSubscriptionId : String
  stripePriceId : String
  deriving DecidableEq, Repr

def reactivated (input : ActivationInput) (tier : Tier) (s : StripeSubscription) : StripeSubscription :=
  { s with
    stripeCheckoutSessionId := trimmed input.checkoutSessionId
    stripePriceId := trimmed input.stripePriceId
    tier := tier
    status := .active
    endedAt := 0
    stripeCustomerId := orTrimmed input.customerId s.stripeCustomerId }

-- The unique indexes on the reservation and on Stripe's id.
def createSubscription (s : StripeSubscription) : Except SeatFailure SeatStore := do
  require (db.subscriptions.count (fun _ other => other.reservationId = s.reservationId ||
    other.stripeSubscriptionId = s.stripeSubscriptionId) = 0) .alreadyActive
  pure { db with subscriptions := db.subscriptions.append s }

def attachEntitlement (existing : Option (Nat × StripeSubscription)) (input : ActivationInput) (r : Reservation) (plan : RecurringPlan) :
    Except SeatFailure SeatStore := match existing with
  | some (id,s) => do
    require (s.stripeSubscriptionId = input.stripeSubscriptionId ∧ s.userId = r.userId ∧ s.planId = r.planId ∧
      s.reservationId = input.reservationId) .planInvalid
    ensureStripeSubscriptionEntitlementTx runtime
      { db with subscriptions := db.subscriptions.modify id (reactivated input r.tier) } id s.userSubscriptionId r plan
  | none => do
    let (entitlementId,db) ← createUserSubscriptionFromPlanAtTx runtime db r.userId r.planId plan
    createSubscription db ⟨r.planId,r.userId,input.reservationId,trimmed input.customerId,trimmed input.stripeSubscriptionId,
      trimmed input.checkoutSessionId,trimmed input.stripePriceId,entitlementId,r.tier,.active,0⟩

def activateStripeSubscriptionWithEntitlement (input : ActivationInput) (now : Nat) : Except SeatFailure SeatStore := do
  require (input.reservationId ≠ 0 ∧ trimmed input.stripeSubscriptionId ≠ "" ∧ trimmed input.stripePriceId ≠ "") .reservation
  let existing ← lockStripeSubscriptionRowsTx db input.stripeSubscriptionId input.reservationId
  let (r,db) ← activateStripeSubscriptionReservationTx runtime db input.reservationId input.checkoutSessionId input.customerId
    input.stripeSubscriptionId input.stripePriceId now
  let plan ← recurringLifecyclePlanTx runtime db r.planId
  attachEntitlement runtime db existing input r plan

end Activate

section Paid
variable (runtime : Option StripeSubscriptionConfig) (db : SeatStore)

structure InvoiceInput where
  planId : Nat
  userId : Nat
  stripeSubscriptionId : String
  stripeInvoiceId : String
  eventId : String
  status : String

variable (key : String × String)

def eventUsed (eventId : String) : Bool :=
  db.invoices.count (fun k i => k ≠ key && i.eventId = eventId) ≠ 0

def folded (text : String) : String := String.ofList (text.toList.map Char.toLower)

-- A failed invoice that is paid after all counts as new.
def settleInvoice (existing : StripeInvoice) (input : InvoiceInput) : Except SeatFailure (Bool × SeatStore) :=
  if folded existing.status = "payment_failed" ∧ folded input.status = "paid" then do
    require (eventUsed db key input.eventId = false) .duplicateKey
    pure (true,{ db with invoices := db.invoices.modify key (fun _ => ⟨input.eventId,input.status⟩) })
  else .ok (false,db)

variable (input : InvoiceInput)

-- An event seen before and an index that refuses the row report the same.
def insertInvoice : Bool × SeatStore :=
  if eventUsed db key input.eventId then (false,db) else
  match db.invoices.insert? key ⟨input.eventId,input.status⟩ with
  | none => (false,db)
  | some invoices => (true,{ db with invoices := invoices })

def recordStripeSubscriptionInvoiceTx : Except SeatFailure (Bool × SeatStore) := do
  require (input.planId ≠ 0 ∧ input.userId ≠ 0 ∧ trimmed input.stripeSubscriptionId ≠ "" ∧ trimmed input.stripeInvoiceId ≠ "")
    .reservation
  let key := (input.stripeSubscriptionId,input.stripeInvoiceId)
  match db.invoices.get? key with
  | some existing => settleInvoice db key existing input
  | none => pure (insertInvoice db key input)

def activateFromInvoice (id : Nat) (s : StripeSubscription) (now : Nat) : Except SeatFailure SeatStore := do
  require (s.reservationId ≠ 0) .reservation
  let r ← row (db.reservations.get? s.reservationId) .recordNotFound
  let (r,db) ← if r.status = .active then pure (r,db) else
    activateStripeSubscriptionReservationTx runtime db s.reservationId r.checkoutSessionId r.stripeCustomerId
      s.stripeSubscriptionId s.stripePriceId now
  let plan ← recurringLifecyclePlanTx runtime db r.planId
  ensureStripeSubscriptionEntitlementTx runtime db id s.userSubscriptionId r plan

def renewed (id : Nat) : Except SeatFailure SeatStore := do
  let s ← row (db.subscriptions.get? id) .recordNotFound
  restoreStripeSubscriptionEntitlementTx { db with subscriptions := db.subscriptions.modify id (fun s => { s with status := .active }) }
    s.userSubscriptionId

def applyStripeSubscriptionPaid (now : Nat) : Except SeatFailure SeatStore := do
  let (id,s) ← row (findByStripeId db input.stripeSubscriptionId) .recordNotFound
  let planId := if input.planId = 0 then s.planId else input.planId
  let userId := if input.userId = 0 then s.userId else input.userId
  require (planId = s.planId ∧ userId = s.userId) .planInvalid
  require (s.status ≠ .canceled ∧ s.endedAt = 0) .ended
  let db ← if s.userSubscriptionId = 0 then activateFromInvoice runtime db id s now else pure db
  let (inserted,db) ← recordStripeSubscriptionInvoiceTx db { input with planId := planId, userId := userId }
  if inserted then renewed db id else pure db

end Paid

section Release
variable (runtime : Option StripeSubscriptionConfig) (db : SeatStore) (id : Nat)

def setReservation (r : Reservation) : SeatStore := { db with reservations := db.reservations.modify id (fun _ => r) }

def releasePendingStripeSubscriptionReservation : Except SeatFailure SeatStore := do
  require (id ≠ 0) .reservation
  let r ← row (db.reservations.get? id) .recordNotFound
  pure (if r.status = .pending ∨ r.status = .reconciliation then setReservation db id (withdraw .released r) else db)

def releaseStripeSubscriptionReservationTx : Except SeatFailure SeatStore := do
  require (id ≠ 0) .reservation
  let r ← row (db.reservations.get? id) .recordNotFound
  pure (if r.status = .released ∨ r.status = .expired then db else setReservation db id (withdraw .released r))

def reconciled (sessionId : String) (r : Reservation) : Reservation :=
  { r with status := .reconciliation, activeUserId := some r.userId, checkoutSessionId := orTrimmed sessionId r.checkoutSessionId }

/- A lapsed reservation is marked so and the caller gets the error all the same. -/
def markStripeSubscriptionCheckoutReconciliation (sessionId : String) (now : Nat) :
    Except SeatFailure (Option SeatFailure × SeatStore) := do
  require (id ≠ 0) .reservation
  let r ← row (db.reservations.get? id) .recordNotFound
  if lapsed now r then pure (some .reservationExpired,setReservation db id (withdraw .expired r)) else
  if r.status = .active ∨ r.status = .released ∨ r.status = .expired then pure (none,db) else do
    require (holderFree db id r.userId) .duplicateKey
    pure (none,setReservation db id (reconciled sessionId r))

-- A reservation that is gone is no error here.
def releaseHeld : Except SeatFailure SeatStore := if id = 0 then .ok db else
  match releaseStripeSubscriptionReservationTx db id with
  | .error .recordNotFound => .ok db
  | result => result

def expireEntitlement (entitlementId : Nat) : Except SeatFailure SeatStore := if entitlementId = 0 then .ok db else do
  let _ ← row (db.entitlements.get? entitlementId) .recordNotFound
  pure { db with entitlements := db.entitlements.modify entitlementId (fun e => { e with active := false }) }

def canceled (now : Nat) (s : StripeSubscription) : StripeSubscription :=
  if s.status ≠ .canceled ∨ s.endedAt = 0 then { s with status := .canceled, endedAt := now } else s

def endStripeSubscriptionTx (s : StripeSubscription) (now : Nat) : Except SeatFailure SeatStore := do
  let db ← releaseHeld { db with subscriptions := db.subscriptions.modify id (canceled now) } s.reservationId
  expireEntitlement db s.userSubscriptionId

def endStripeSubscription (stripeSubscriptionId : String) (now : Nat) : Except SeatFailure SeatStore := do
  require (trimmed stripeSubscriptionId ≠ "") .reservation
  match findByStripeId db stripeSubscriptionId with
  | none => pure db
  | some (id,s) => endStripeSubscriptionTx db id s now

structure BindingInput where
  reservationId : Nat
  checkoutSessionId : String
  customerId : String
  stripeSubscriptionId : String
  stripePriceId : String

def bound (input : BindingInput) (r : Reservation) : Reservation :=
  { r with
    checkoutSessionId := trimmed input.checkoutSessionId
    stripeSubscriptionId := trimmed input.stripeSubscriptionId
    stripePriceId := trimmed input.stripePriceId
    stripeCustomerId := orTrimmed input.customerId r.stripeCustomerId }

def fillBlank (new old : String) : String := if old = "" then orTrimmed new old else old

/- Stripe's subscription gets its local row before anything is paid. -/
def attachSubscription (existing : Option (Nat × StripeSubscription)) (input : BindingInput) (r : Reservation) :
    Except SeatFailure SeatStore := match existing with
  | some (id,s) => do
    require (s.planId = r.planId ∧ s.userId = r.userId ∧ s.reservationId = input.reservationId ∧
      s.stripePriceId = trimmed input.stripePriceId) .planInvalid
    pure { db with subscriptions := db.subscriptions.modify id (fun s => { s with
      stripeCheckoutSessionId := fillBlank input.checkoutSessionId s.stripeCheckoutSessionId
      stripeCustomerId := fillBlank input.customerId s.stripeCustomerId }) }
  | none => createSubscription db ⟨r.planId,r.userId,input.reservationId,orTrimmed input.customerId (trimmed r.stripeCustomerId),
      trimmed input.stripeSubscriptionId,orTrimmed input.checkoutSessionId (trimmed r.checkoutSessionId),
      trimmed input.stripePriceId,0,r.tier,.incomplete,0⟩

def bindStripeSubscriptionCheckout (input : BindingInput) : Except SeatFailure SeatStore := do
  require (input.reservationId ≠ 0 ∧ trimmed input.stripeSubscriptionId ≠ "" ∧ trimmed input.stripePriceId ≠ "") .reservation
  let existing ← lockStripeSubscriptionRowsTx db input.stripeSubscriptionId input.reservationId
  let r ← row (db.reservations.get? input.reservationId) .recordNotFound
  require (r.status = .pending ∨ r.status = .reconciliation ∨ r.status = .active) .reservation
  let plan ← recurringLifecyclePlanTx runtime db r.planId
  require (trimmed input.stripePriceId = expectedPrice plan r.tier) .planInvalid
  require (r.stripeSubscriptionId = "" ∨ r.stripeSubscriptionId = trimmed input.stripeSubscriptionId) .planInvalid
  require (r.stripeCustomerId = "" ∨ trimmed input.customerId = "" ∨ r.stripeCustomerId = trimmed input.customerId) .planInvalid
  attachSubscription (setReservation db input.reservationId (bound input r)) existing input (bound input r)

end Release

/- A text of a Stripe event, which is trimmed when it is read. -/
structure Word where
  text : String
  plain : trimmed text = text

def reservationByReference (db : SeatStore) (referenceId : String) : Option (Nat × Reservation) :=
  if trimmed referenceId = "" then none
  else (db.reservations.select (fun _ r => r.referenceId = trimmed referenceId)).head?

def sessionMatches (r : Reservation) (sessionId : Word) : Prop := r.checkoutSessionId = "" ∨ r.checkoutSessionId = sessionId.text

instance (r sessionId) : Decidable (sessionMatches r sessionId) := by unfold sessionMatches; infer_instance

inductive SeatOp
  | reserve (planId userId : Nat) (referenceId : String)
  | activate (input : ActivationInput)
  | paid (input : InvoiceInput)
  | releasePending (reservationId : Nat)
  | expire
  | reconcile (reservationId : Nat) (sessionId : String)
  | finish (stripeSubscriptionId : String)
  | bind (input : BindingInput)

def perform (runtime : Option StripeSubscriptionConfig) (db : SeatStore) (now : Nat) : SeatOp → Except SeatFailure SeatStore
  | .reserve planId userId referenceId => reserveStripeSubscriptionSeatTx db planId userId referenceId now
  | .activate input => activateStripeSubscriptionWithEntitlement runtime db input now
  | .paid input => applyStripeSubscriptionPaid runtime db input now
  | .releasePending id => releasePendingStripeSubscriptionReservation db id
  | .expire => .ok (expireStripeSubscriptionReservationsTx db now)
  | .reconcile id sessionId => (markStripeSubscriptionCheckoutReconciliation db id sessionId now).map (·.2)
  | .finish stripeSubscriptionId => endStripeSubscription db stripeSubscriptionId now
  | .bind input => bindStripeSubscriptionCheckout runtime db input

end NovaPuraRouter.StripeSeat
