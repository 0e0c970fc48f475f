import NovaPuraRouter.Execution
import NovaPuraRouter.Schema
import Mathlib.Data.List.Sort

/-! Credit lots: promotional credits are spent first, soonest expiry first, then paid
credits, oldest first; a reservation remembers where it took its amount and is restored
there. Every function is one transaction; the user row is read under a lock, so those of one
user are serial. -/
namespace NovaPuraRouter.CreditLot

structure BalanceLotAllocation where
  lotId : Nat
  orderId : String
  balanceType : BalanceType
  amount : Int
  expiresAt : Int
  deriving DecidableEq, Repr

structure QuotaWalletSplit where
  promo : Int
  cash : Int
  allocations : List BalanceLotAllocation
  expired : Int
  deriving DecidableEq, Repr

def QuotaWalletSplit.none : QuotaWalletSplit := ⟨0,0,[],0⟩

abbrev Lots := Table Nat BalanceCreditLot
abbrev LotRow := Nat × BalanceCreditLot

def amounts (allocations : List BalanceLotAllocation) : Int := (allocations.map (·.amount)).sum

variable (db : Database) (userId : Nat)

def setBalance (quota promo : Int) : Database :=
  let write (u : User) : User := { u with quota := quota, promoQuota := promo }
  { db with users := db.users.modify userId write }

def setLot (remaining : Int) (status : CreditLotStatus) (lot : BalanceCreditLot) : BalanceCreditLot :=
  { lot with remainingQuota := remaining, status := status }

variable (lots : Lots)

def createTopupCreditLotWithTx (lot : BalanceCreditLot) : Except Failure (Nat × Lots) := do
  require (lot.userId ≠ 0 ∧ lot.orderId ≠ "" ∧ 0 < lot.originalQuota) .invalidCreditLot
  require (lots.select (fun _ l => decide (l.orderId = lot.orderId ∧ l.balanceType = lot.balanceType)) = []) .duplicateKey
  let expiresAt := if lot.balanceType = .paid then 0 else lot.expiresAt
  pure (lots.nextId, lots.append { setLot lot.originalQuota .active lot with expiresAt := expiresAt })

def dueLot (now : Int) (lot : BalanceCreditLot) : Bool :=
  decide (lot.userId = userId ∧ lot.balanceType = .promotional ∧ lot.status = .active ∧
    0 < lot.remainingQuota ∧ 0 < lot.expiresAt ∧ lot.expiresAt ≤ now)

def byExpiry (a b : LotRow) : Prop := a.2.expiresAt < b.2.expiresAt ∨ (a.2.expiresAt = b.2.expiresAt ∧ a.1 ≤ b.1)
def byId (a b : LotRow) : Prop := a.1 ≤ b.1

-- A lot that never expires stands after every lot that does.
def promoOrder (a b : LotRow) : Prop :=
  if decide (a.2.expiresAt = 0) = decide (b.2.expiresAt = 0) then byExpiry a b else b.2.expiresAt = 0

instance : DecidableRel byExpiry := fun a b => by unfold byExpiry; infer_instance
instance : DecidableRel byId := fun a b => by unfold byId; infer_instance
instance : DecidableRel promoOrder := fun a b => by unfold promoOrder; infer_instance

variable (userId : Nat)

def dueLots (now : Int) : List LotRow :=
  (lots.select (fun _ l => dueLot userId now l)).insertionSort byExpiry

def expirationRow (now : Int) (r : LotRow) : BalanceLedger where
  userId := userId
  orderId := r.2.orderId
  lotId := r.1
  balanceType := .promotional
  entryType := .expiration
  amountQuota := -r.2.remainingQuota
  amountMicro := 0
  currency := r.2.currency
  note := "promotional credits expired"
  createdAt := now

def closeLots (status : CreditLotStatus) (lots : Lots) (rows : List LotRow) : Lots :=
  rows.foldl (fun t r => t.modify r.1 (setLot 0 status)) lots

structure Expiry where
  removed : Int
  user : User
  db : Database

-- The query keeps only lots with something left, so no row of the loop is skipped.
def expireUserPromotionLotsWithTx (user : User) (now : Int) : Expiry :=
  let due := dueLots db.lots userId now
  if due = [] then ⟨0,user,db⟩ else
    let expired := (due.map (fun r => r.2.remainingQuota)).sum
    let remove := min (min expired user.promoQuota) user.quota
    let left : User := { user with promoQuota := user.promoQuota - remove, quota := user.quota - remove }
    let closed : Database := { db with
      lots := closeLots .expired db.lots due, ledger := db.ledger ++ due.map (expirationRow userId now) }
    ⟨remove,left,setBalance closed userId left.quota left.promoQuota⟩

def expireUserPromotionLots (now : Int) : Except Failure (Int × Database) := do
  require (userId ≠ 0) .invalidUserId
  let user ← row (db.users.get? userId) .recordNotFound
  let expiry := expireUserPromotionLotsWithTx db userId user now
  pure (expiry.removed,expiry.db)

variable (type : BalanceType)

def activeLot (lot : BalanceCreditLot) : Bool :=
  decide (lot.userId = userId ∧ lot.balanceType = type ∧ lot.status = .active ∧ 0 < lot.remainingQuota)

def activeCreditLotsWithTx : List LotRow :=
  let found := lots.select (fun _ l => activeLot userId type l)
  match type with
  | .promotional => found.insertionSort promoOrder
  | .paid => found.insertionSort byId

def addRemaining (total : Int) (r : LotRow) : Int :=
  if 0 < r.2.remainingQuota ∧ total ≤ maxQuota - r.2.remainingQuota then total + r.2.remainingQuota else total

def sumRemainingCreditLots (rows : List LotRow) : Int := rows.foldl addRemaining 0

def consumeCreditLotWithTx (r : LotRow) (requested : Int) : Option BalanceLotAllocation × Lots :=
  if requested ≤ 0 ∨ r.2.remainingQuota ≤ 0 then (none,lots) else
    let take := min requested r.2.remainingQuota
    let remaining := r.2.remainingQuota - take
    let status : CreditLotStatus := if remaining = 0 then .exhausted else .active
    (some ⟨r.1,r.2.orderId,r.2.balanceType,take,r.2.expiresAt⟩,lots.modify r.1 (setLot remaining status))

structure Draw where
  lots : Lots
  allocations : List BalanceLotAllocation
  remaining : Int

def consumeCreditLots (lots : Lots) (remaining : Int) : List LotRow → Draw
  | [] => ⟨lots,[],remaining⟩
  | r :: rest =>
    if remaining = 0 then ⟨lots,[],remaining⟩ else
      match consumeCreditLotWithTx lots r remaining with
      | (none,lots') => consumeCreditLots lots' remaining rest
      | (some allocation,lots') =>
        let tail := consumeCreditLots lots' (remaining - allocation.amount) rest
        ⟨tail.lots,allocation :: tail.allocations,tail.remaining⟩

def untracked (amount : Int) : BalanceLotAllocation := ⟨0,"",type,amount,0⟩

def Draw.withUntracked (draw : Draw) (type : BalanceType) (take : Int) : Draw :=
  if 0 < take then ⟨draw.lots,draw.allocations ++ [untracked type take],draw.remaining - take⟩ else draw

def drawPromo (promoQuota amount : Int) : Draw :=
  let promoLots := activeCreditLotsWithTx lots userId .promotional
  let draw := consumeCreditLots lots amount promoLots
  let untrackedPromo := max (promoQuota - sumRemainingCreditLots promoLots) 0
  draw.withUntracked .promotional (min draw.remaining untrackedPromo)

def drawPaid (amount : Int) : Draw :=
  let draw := consumeCreditLots lots amount (activeCreditLotsWithTx lots userId .paid)
  draw.withUntracked .paid draw.remaining

def usageRow (now : Int) (a : BalanceLotAllocation) : BalanceLedger where
  userId := userId
  orderId := a.orderId
  lotId := a.lotId
  balanceType := a.balanceType
  entryType := .apiUsage
  amountQuota := -a.amount
  amountMicro := 0
  currency := ""
  note := "API usage"
  createdAt := now

variable (id : Nat)

def decreaseUserQuotaWithLots (amount now : Int) :
    Except Failure (QuotaWalletSplit × Database) := do
  let found ← row (db.users.get? id) .recordNotFound
  let expiry := expireUserPromotionLotsWithTx db id found now
  require (¬ expiry.user.quota < amount) (.insufficientQuota expiry.user.quota amount)
  let promo := drawPromo expiry.db.lots id expiry.user.promoQuota amount
  let paid := drawPaid promo.lots id promo.remaining
  let split : QuotaWalletSplit :=
    ⟨amounts promo.allocations,amounts paid.allocations,promo.allocations ++ paid.allocations,expiry.removed⟩
  require (¬ expiry.user.promoQuota - split.promo < 0) .promotionalBalanceInvariant
  let spent := setBalance expiry.db id (expiry.user.quota - amount) (expiry.user.promoQuota - split.promo)
  pure (split,{ spent with
    lots := paid.lots, ledger := spent.ledger ++ split.allocations.map (usageRow id now) })

def restoreRow (now : Int) (a : BalanceLotAllocation) : BalanceLedger where
  userId := userId
  orderId := a.orderId
  lotId := a.lotId
  balanceType := a.balanceType
  entryType := .reversal
  amountQuota := a.amount
  amountMicro := 0
  currency := ""
  note := "API usage reservation restored"
  createdAt := now

def restoreLot (now : Int) (a : BalanceLotAllocation) : Except Failure Lots := do
  let lot ← row (lots.get? a.lotId) .recordNotFound
  require (lot.userId = userId ∧ lot.balanceType = a.balanceType ∧
    lot.remainingQuota ≤ lot.originalQuota - a.amount) .creditLotRestoreInvariant
  require (¬ (lot.balanceType = .promotional ∧ 0 < lot.expiresAt ∧ lot.expiresAt ≤ now)) .restoreExpiredPromotion
  require (lot.status ≠ .expired ∧ lot.status ≠ .reversed) (.restoreLotStatus lot.status)
  pure (lots.modify a.lotId (setLot (lot.remainingQuota + a.amount) .active))

def restoreTarget (now : Int) (a : BalanceLotAllocation) : Except Failure Lots :=
  if a.lotId = 0 then pure lots else restoreLot lots userId now a

structure Restored where
  lots : Lots
  rows : List BalanceLedger
  promo : Int
  cash : Int

def restoreAllocations (userId : Nat) (now : Int) : Lots → List BalanceLotAllocation → Except Failure Restored
  | lots, [] => pure ⟨lots,[],0,0⟩
  | lots, a :: rest =>
    if a.amount ≤ 0 then restoreAllocations userId now lots rest else do
      let lots' ← restoreTarget lots userId now a
      let tail ← restoreAllocations userId now lots' rest
      let promo := if a.balanceType = .promotional then a.amount else 0
      pure ⟨tail.lots,restoreRow userId now a :: tail.rows,promo + tail.promo,a.amount - promo + tail.cash⟩

def restoreLegacyQuotaSplitWithTx (user : User) (split : QuotaWalletSplit) :
    Except Failure Database :=
  let total := split.promo + split.cash
  if total ≤ 0 then pure db else do
    require (¬ maxQuota - user.quota < total) .quotaOverflow
    pure (setBalance db id (user.quota + total) (user.promoQuota + split.promo))

def restoreUserQuotaSplitWithLots (split : QuotaWalletSplit) (now : Int) :
    Except Failure Database := do
  let user ← row (db.users.get? id) .recordNotFound
  if split.allocations = [] then restoreLegacyQuotaSplitWithTx db id user split else do
    let restored ← restoreAllocations id now db.lots split.allocations
    let total := restored.promo + restored.cash
    require (¬ maxQuota - user.quota < total) .quotaOverflow
    let credited := setBalance db id (user.quota + total) (user.promoQuota + restored.promo)
    pure { credited with lots := restored.lots, ledger := credited.ledger ++ restored.rows }

def decreaseUserQuotaWithSplit (amount now : Int) :
    Except Failure (QuotaWalletSplit × Database) := do
  require (0 ≤ amount) .negativeQuota
  if amount = 0 then pure (.none,db) else decreaseUserQuotaWithLots db id amount now

def restoreUserQuotaSplit (split : QuotaWalletSplit) (now : Int) :
    Except Failure Database := do
  require (0 ≤ split.promo ∧ 0 ≤ split.cash) .negativeQuota
  if split.promo + split.cash = 0 then pure db else restoreUserQuotaSplitWithLots db id split now

end NovaPuraRouter.CreditLot
