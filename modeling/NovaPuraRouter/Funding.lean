import NovaPuraRouter.DeductSpec

/-! The wallet as the source of funds of one request: what it took, and the split by which
it can be put back. A partial restore goes through the split from its end, cash before
promotional credit. -/
namespace NovaPuraRouter.Funding
open CreditLot List

structure WalletFunding where
  userId : Nat
  consumed : Int
  split : QuotaWalletSplit

def WalletFunding.fresh (userId : Nat) : WalletFunding := ⟨userId,0,.none⟩

structure Taken where
  refunded : List BalanceLotAllocation
  kept : List BalanceLotAllocation
  remaining : Int

-- The list is in the order of the loop, last allocation first.
def takeType (type : BalanceType) (remaining : Int) : List BalanceLotAllocation → Taken
  | [] => ⟨[],[],remaining⟩
  | a :: rest =>
    if remaining ≤ 0 ∨ a.balanceType ≠ type ∨ a.amount ≤ 0 then
      let tail := takeType type remaining rest
      ⟨tail.refunded,a :: tail.kept,tail.remaining⟩
    else
      let take := min a.amount remaining
      let tail := takeType type (remaining - take) rest
      ⟨{ a with amount := take } :: tail.refunded,{ a with amount := a.amount - take } :: tail.kept,tail.remaining⟩

def takeWalletRefund (split : QuotaWalletSplit) (amount : Int) : QuotaWalletSplit × QuotaWalletSplit :=
  if amount ≤ 0 then (.none,split) else
    let paid := takeType .paid amount split.allocations.reverse
    let promo := takeType .promotional paid.remaining paid.kept
    (⟨amounts promo.refunded,amounts paid.refunded,paid.refunded ++ promo.refunded,0⟩,
     ⟨split.promo - amounts promo.refunded,split.cash - amounts paid.refunded,
      promo.kept.reverse.filter (fun a => decide (0 < a.amount)),split.expired⟩)

def preConsume (db : Database) (w : WalletFunding) (amount now : Int) : Except Failure (WalletFunding × Database) :=
  if amount ≤ 0 then pure (w,db) else do
    let taken ← decreaseUserQuotaWithSplit db w.userId amount now
    pure ({ w with consumed := amount, split := taken.1 },taken.2)

def joined (a b : QuotaWalletSplit) : QuotaWalletSplit :=
  ⟨a.promo + b.promo,a.cash + b.cash,a.allocations ++ b.allocations,a.expired⟩

def settle (db : Database) (w : WalletFunding) (delta now : Int) : Except Failure (WalletFunding × Database) :=
  if delta = 0 then pure (w,db) else
  if 0 < delta then do
    let taken ← decreaseUserQuotaWithSplit db w.userId delta now
    pure ({ w with consumed := w.consumed + delta, split := joined w.split taken.1 },taken.2)
  else do
    let refund := min (-delta) w.consumed
    let parts := takeWalletRefund w.split refund
    let restored ← restoreUserQuotaSplit db w.userId parts.1 now
    pure ({ w with consumed := w.consumed - refund, split := parts.2 },restored)

def refund (db : Database) (w : WalletFunding) (now : Int) : Except Failure (WalletFunding × Database) :=
  if w.consumed ≤ 0 then pure (w,db) else do
    let restored ← restoreUserQuotaSplit db w.userId w.split now
    pure ({ w with consumed := 0, split := .none },restored)

def lotIds (allocations : List BalanceLotAllocation) : List Nat := allocations.map (·.lotId)

theorem takeTypeLots (type remaining allocations) : lotIds (takeType type remaining allocations).kept = lotIds allocations ∧
      ∀ id ∈ lotIds (takeType type remaining allocations).refunded, id ∈ lotIds allocations := by
  induction allocations generalizing remaining with
  | nil => exact ⟨rfl,fun _ mem => mem⟩
  | cons a _ ih =>
    unfold takeType
    split
    · have ⟨kept,refunded⟩ := ih remaining
      exact ⟨congrArg (a.lotId :: ·) kept,fun id mem => mem_cons_of_mem _ (refunded id mem)⟩
    have ⟨kept,refunded⟩ := ih (remaining - min a.amount remaining)
    refine ⟨congrArg (a.lotId :: ·) kept,?_⟩
    intro id mem
    rcases mem_cons.mp mem with rfl | mem
    · exact mem_cons_self
    · exact mem_cons_of_mem _ (refunded id mem)

theorem takeWalletRefundLots (split amount) {id} (mem : id ∈ lotIds (takeWalletRefund split amount).1.allocations ∨
      id ∈ lotIds (takeWalletRefund split amount).2.allocations) : id ∈ lotIds split.allocations := by
  unfold takeWalletRefund at mem
  split at mem
  · rcases mem with mem | mem
    · exact absurd mem not_mem_nil
    · exact mem
  have ⟨paidKept,paidRefunded⟩ := takeTypeLots .paid amount split.allocations.reverse
  have ⟨promoKept,promoRefunded⟩ := takeTypeLots .promotional
    (takeType .paid amount split.allocations.reverse).remaining (takeType .paid amount split.allocations.reverse).kept
  have back : ∀ j, j ∈ lotIds split.allocations.reverse → j ∈ lotIds split.allocations := by
    intro j here
    simpa [lotIds] using here
  rcases mem with mem | mem
  · simp only [lotIds,map_append,mem_append] at mem
    rcases mem with mem | mem
    · exact back id (paidRefunded id mem)
    · exact back id (paidKept ▸ promoRefunded id mem)
  · refine back id (paidKept ▸ promoKept ▸ ?_)
    simp only [lotIds,mem_map,mem_filter,mem_reverse] at mem ⊢
    obtain ⟨a,here,same⟩ := mem
    exact ⟨a,here.1,same⟩

end NovaPuraRouter.Funding
