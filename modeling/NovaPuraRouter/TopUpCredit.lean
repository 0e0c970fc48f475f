import NovaPuraRouter.Schema
import NovaPuraRouter.Execution

/-! The five ways a top-up order is completed: the callbacks of the providers and the
administrator. Each computes the credit on its own. Four lock the order in a transaction;
the Epay callback reads, writes the order and adds the quota in three calls. The commission
of the same transactions has its own model. -/
namespace NovaPuraRouter.TopUpCredit

inductive TopUpStatus | pending | success | failed | expired
  deriving DecidableEq, Repr

inductive PaymentProvider | epay | stripe | creem | waffo | waffoPancake | balance | unset
  deriving DecidableEq, Repr

structure TopUp where
  userId : Nat
  amount : Int
  money : Ratio
  paymentMethod : String
  paymentProvider : PaymentProvider
  completeTime : Int
  status : TopUpStatus
  paidAmountCents : Int
  paidCurrency : String

structure Account where
  quota : Int
  email : String
  stripeCustomer : String
  deriving DecidableEq, Repr

structure Ledger where
  topUps : Table String TopUp
  users : Table Nat Account

inductive TopUpFailure
  | tradeNoEmpty | orderNoEmpty | orderNotFound | userNotFound | methodMismatch | statusInvalid | notPending
  | invalidQuota | outOfRange | balanceOutOfRange | settlementFailed | rechargeFailed | topUpNotFound | topUpStatusInvalid
  deriving DecidableEq, Repr

def maxQuota : Int := 2147483647
def minQuota : Int := -2147483648

def Ratio.mul (a b : Ratio) : Ratio := ⟨a.num * b.num,a.den * b.den,Nat.mul_pos a.pos b.pos⟩

-- Toward zero, as the integer part of a decimal.
def Ratio.intPart (a : Ratio) : Int := a.num.tdiv a.den

def ofAmount (amount : Int) : Ratio := ⟨amount,1,Nat.one_pos⟩

section Completion
variable (quotaPerUnit : Ratio)

def amountQuota (t : TopUp) : Int := Ratio.intPart (Ratio.mul (ofAmount t.amount) quotaPerUnit)

def completed (t : TopUp) (now paidAmountCents : Int) (paidCurrency : String) : TopUp :=
  { t with completeTime := now, status := .success, paidAmountCents := paidAmountCents, paidCurrency := paidCurrency }

def addQuota (quota : Int) (u : Account) : Account := { u with quota := u.quota + quota }

/- What a payment-success callback passes on. The commission settled in the transaction may
fail, and the transaction with it. -/
structure Payment where
  tradeNo : String
  paidAmountCents : Int
  paidCurrency : String
  customer : String
  settles : Bool

def lockTopUp (l : Ledger) (tradeNo : String) (provider : PaymentProvider) : Except TopUpFailure TopUp := do
  let topUp ← row (l.topUps.get? tradeNo) .orderNotFound
  require (topUp.paymentProvider = provider) .methodMismatch
  pure topUp

def callback (p : Payment) (transaction : Except TopUpFailure Ledger) : Except TopUpFailure Ledger := do
  require (p.tradeNo ≠ "") .tradeNoEmpty
  transaction.mapError (fun _ => .rechargeFailed)

def credit (l : Ledger) (p : Payment) (topUp : TopUp) (now : Int) (edit : Account → Account) : Ledger where
  topUps := l.topUps.modify p.tradeNo (fun _ => completed topUp now p.paidAmountCents p.paidCurrency)
  users := l.users.modify topUp.userId edit

/- How a fractional sum is stored in the integer column: up to the database. -/
variable (stored : Ratio → Int)

def stripeQuota (t : TopUp) : Int := stored (Ratio.mul t.money quotaPerUnit)

def recharge (l : Ledger) (p : Payment) (now : Int) : Except TopUpFailure Ledger := callback p (do
  let topUp ← lockTopUp l p.tradeNo .stripe
  require (topUp.status = .pending) .statusInvalid
  require (p.settles = true) .settlementFailed
  pure (credit l p topUp now (fun u => { addQuota (stripeQuota quotaPerUnit stored topUp) u with stripeCustomer := p.customer })))

-- The amount of a Creem order is quota already; the email is filled in where there is none.
def rechargeCreem (l : Ledger) (p : Payment) (now : Int) : Except TopUpFailure Ledger := callback p (do
  let topUp ← lockTopUp l p.tradeNo .creem
  require (topUp.status = .pending) .statusInvalid
  require (p.customer = "" ∨ (l.users.get? topUp.userId).isSome) .userNotFound
  require (p.settles = true) .settlementFailed
  pure (credit l p topUp now (fun u => { addQuota topUp.amount u with email := if u.email = "" then p.customer else u.email })))

/- Waffo and Waffo Pancake differ in the provider they expect. A completed order is no error. -/
def rechargeAmount (provider : PaymentProvider) (l : Ledger) (p : Payment) (now : Int) : Except TopUpFailure Ledger := callback p (do
  let topUp ← lockTopUp l p.tradeNo provider
  if topUp.status = .success then pure l
  else do
    require (topUp.status = .pending) .statusInvalid
    require (0 < amountQuota quotaPerUnit topUp) .invalidQuota
    require (p.settles = true) .settlementFailed
    pure (credit l p topUp now (addQuota (amountQuota quotaPerUnit topUp))))

def rechargeWaffo : Ledger → Payment → Int → Except TopUpFailure Ledger := rechargeAmount quotaPerUnit .waffo

def rechargeWaffoPancake : Ledger → Payment → Int → Except TopUpFailure Ledger := rechargeAmount quotaPerUnit .waffoPancake

def manualQuota (t : TopUp) : Int :=
  if t.paymentProvider = .stripe then Ratio.intPart (Ratio.mul t.money quotaPerUnit) else amountQuota quotaPerUnit t

/- What is noted as paid where no callback has noted it, in cents of a dollar. -/
variable (convertAmountToUSDCents : Ratio → String → Int)

def currencyGuessForProvider : PaymentProvider → String
  | .epay => "CNY"
  | _ => "USD"

def manualPayment (tradeNo : String) (t : TopUp) (settles : Bool) : Payment :=
  if t.paidAmountCents ≤ 0 then
    ⟨tradeNo,convertAmountToUSDCents t.money (currencyGuessForProvider t.paymentProvider),currencyGuessForProvider t.paymentProvider,"",settles⟩
  else ⟨tradeNo,t.paidAmountCents,t.paidCurrency,"",settles⟩

def manualCompleteTopUp (l : Ledger) (tradeNo : String) (settles : Bool) (now : Int) : Except TopUpFailure Ledger := do
  require (tradeNo ≠ "") .orderNoEmpty
  let topUp ← row (l.topUps.get? tradeNo) .orderNotFound
  let user ← row (l.users.get? topUp.userId) .userNotFound
  if topUp.status = .success then pure l
  else do
    require (topUp.status = .pending) .notPending
    require (minQuota < manualQuota quotaPerUnit topUp ∧ manualQuota quotaPerUnit topUp < maxQuota) .outOfRange
    require (0 < manualQuota quotaPerUnit topUp) .invalidQuota
    require (user.quota ≤ maxQuota - manualQuota quotaPerUnit topUp) .balanceOutOfRange
    require (settles = true) .settlementFailed
    pure (credit l (manualPayment convertAmountToUSDCents tradeNo topUp settles) topUp now (addQuota (manualQuota quotaPerUnit topUp)))

end Completion

-- Without a provider to expect, the order's own is not compared.
def updatePendingTopUpStatus (l : Ledger) (tradeNo : String) (expected : Option PaymentProvider) (target : TopUpStatus) :
    Except TopUpFailure Ledger := do
  require (tradeNo ≠ "") .tradeNoEmpty
  let topUp ← row (l.topUps.get? tradeNo) .topUpNotFound
  require (∀ provider ∈ expected, topUp.paymentProvider = provider) .methodMismatch
  require (topUp.status = .pending) .topUpStatusInvalid
  pure { l with topUps := l.topUps.modify tradeNo (fun t => { t with status := target }) }

/- The Epay callback, call by call. The copy it writes back is the row it read. -/
def epayRead (l : Ledger) (tradeNo actualType : String) : Option TopUp := match l.topUps.get? tradeNo with
  | none => none
  | some topUp =>
    if topUp.paymentProvider ≠ .epay ∨ topUp.status ≠ .pending then none
    else some { topUp with paymentMethod := actualType, status := .success }

def epaySave (l : Ledger) (tradeNo : String) (copy : TopUp) : Ledger := { l with topUps := l.topUps.modify tradeNo (fun _ => copy) }

-- A negative quota is refused; the order stays completed.
def epayIncrease (quotaPerUnit : Ratio) (l : Ledger) (copy : TopUp) : Ledger :=
  if amountQuota quotaPerUnit copy < 0 then l
  else { l with users := l.users.modify copy.userId (addQuota (amountQuota quotaPerUnit copy)) }

def epayNotify (quotaPerUnit : Ratio) (l : Ledger) (tradeNo actualType : String) : Ledger := match epayRead l tradeNo actualType with
  | none => l
  | some copy => epayIncrease quotaPerUnit (epaySave l tradeNo copy) copy

end NovaPuraRouter.TopUpCredit
