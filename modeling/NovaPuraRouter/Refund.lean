import NovaPuraRouter.TopupOrder

/-! Refund of a top-up order. The lot path takes back what is left of the order's lots; an
order without lots is taken for one from before lots existed and is refunded from the
balance columns. -/
namespace NovaPuraRouter.Refund
open CreditLot TopupOrder

def refundable (status : StripeOrderStatus) : Prop := status = .credited ∨ status = .refundPending ∨ status = .paid
instance (status) : Decidable (refundable status) := by unfold refundable; infer_instance

def orderLots (lots : Lots) (orderId : String) : List LotRow :=
  (lots.select (fun _ l => decide (l.orderId = orderId))).insertionSort byId

def refundLot (r : LotRow) : Bool := decide (0 < r.2.remainingQuota ∧ r.2.status ≠ .reversed)

def addRemoved (total : Int) (r : LotRow) : Except Failure Int := do
  require (total ≤ maxQuota - r.2.remainingQuota) .refundQuotaOverflow
  pure (total + r.2.remainingQuota)

def removeTotal (rows : List LotRow) : Except Failure Int := rows.foldlM addRemoved 0

def removePromo (rows : List LotRow) : Int :=
  ((rows.filter (fun r => decide (r.2.balanceType = .promotional))).map (fun r => r.2.remainingQuota)).sum

def refundRow (userId : Nat) (orderId currency : String) (now : Int) (r : LotRow) : BalanceLedger where
  userId := userId
  orderId := orderId
  lotId := r.1
  balanceType := r.2.balanceType
  entryType := match r.2.balanceType with
    | .promotional => .refundPromo
    | .paid => .refundPaid
  amountQuota := -r.2.remainingQuota
  amountMicro := 0
  currency := currency
  note := "stripe refund source credit reversal"
  createdAt := now

variable (db : Database)

def reviewOrder (orderId reason : String) : Database :=
  setOrder db orderId (fun o => { o with status := .manualReview, failureReason := reason })

def refundedOrder (now : Int) (o : StripeTopupOrder) : StripeTopupOrder :=
  { o with status := .refunded, failureReason := "", refundedAt := now }

variable (orderId : String) (order : StripeTopupOrder)

def reverseLots (rows : List LotRow) (now : Int) : Database :=
  { db with
    lots := closeLots .reversed db.lots rows
    ledger := db.ledger ++ rows.map (refundRow order.userId orderId order.presentmentCurrency now) }

def reconcileLotRefund (user : User) (now : Int) :
    Except Failure Database := do
  let rows := (orderLots db.lots orderId).filter refundLot
  let total ← removeTotal rows
  if user.quota < total ∨ user.promoQuota < removePromo rows then
    pure (reviewOrder db orderId "credit lot balance invariant failed during refund")
  else do
    let debited := setBalance (reverseLots db orderId order rows now) order.userId
      (user.quota - total) (user.promoQuota - removePromo rows)
    let reversed ← reverseTopupPromotionWithTx debited orderId now
    pure (setOrder reversed orderId (refundedOrder now))

def legacyRow (type : BalanceType) (amount now : Int) : List BalanceLedger :=
  if amount ≤ 0 then [] else
    match type with
    | .promotional => [⟨order.userId,orderId,0,.promotional,.refundPromo,-amount,0,order.presentmentCurrency,
        "legacy stripe refund promo reverse",now⟩]
    | .paid => [⟨order.userId,orderId,0,.paid,.refundPaid,-amount,0,order.presentmentCurrency,
        "legacy stripe refund paid reverse",now⟩]

variable (order : StripeTopupOrder)

def reversePromo (user : User) : Int := min order.promoQuota user.promoQuota

def reversePaid (user : User) : Int :=
  min order.paidQuota (max (user.quota - user.promoQuota) 0)

def shortfall (user : User) : Int :=
  (order.promoQuota - reversePromo order user) + (order.paidQuota - reversePaid order user)

def settledLegacy (user : User) (now : Int) (o : StripeTopupOrder) : StripeTopupOrder :=
  if 0 < shortfall order user then
    { o with
      status := .manualReview, refundedAt := now
      failureReason := "legacy refund shortfall quota=" ++ toString (shortfall order user) }
  else refundedOrder now o

def reconcileLegacyRefundWithTx (user : User) (now : Int) :
    Database :=
  let debited := setBalance db order.userId
    (user.quota - reversePromo order user - reversePaid order user) (user.promoQuota - reversePromo order user)
  let booked : Database := { debited with
    ledger := debited.ledger ++ (legacyRow orderId order .promotional (reversePromo order user) now ++
      legacyRow orderId order .paid (reversePaid order user) now) }
  setOrder booked orderId (settledLegacy order user now)

def reconcileRefund (now : Int) : Except Failure Database := do
  require (orderId ≠ "") .missingOrderId
  let order ← row (db.orders.get? orderId) .recordNotFound
  if order.status = .refunded then pure db else
  if ¬ refundable order.status then pure (reviewOrder db orderId "refund on non-credited order") else do
    let user ← row (db.users.get? order.userId) .recordNotFound
    if orderLots db.lots orderId = [] then pure (reconcileLegacyRefundWithTx db orderId order user now)
    else reconcileLotRefund db orderId order user now

end NovaPuraRouter.Refund
