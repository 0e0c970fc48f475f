import NovaPuraRouter.RefundSpec
import NovaPuraRouter.Grants
import NovaPuraRouter.Subscription

/-! The operations that reach the balances, lots and orders, as steps of one system: each is
one transaction, changes nothing where it fails, and reads its own clock. Status marks go to
the three targets the handlers use. -/
namespace NovaPuraRouter.WalletOps
open CreditLot LotSpec TopupOrder

inductive MarkTarget | failed | expired | manualReview
  deriving DecidableEq, Repr

def MarkTarget.status : MarkTarget → StripeOrderStatus
  | .failed => .failed
  | .expired => .expired
  | .manualReview => .manualReview

inductive LotOp
  | insertUser (email : String)
  | bindInviter (userId inviterId : Nat)
  | increaseUserCashQuota (userId : Nat) (quota : Int) (direct : Bool)
  | increaseUserPromoQuota (userId : Nat) (quota : Int)
  | batchUpdate
  | recordUsage (userId : Nat) (quota count : Int)
  | insertToken (token : Token)
  | insertRedemption (key : String) (quota : Nat) (maxRedeems expiredTime : Int)
  | redeem (key : String) (userId : Nat) (now : Int)
  | tryGrantRegisterPromo (userId : Nat)
  | trySettleDelayedInviteReward (inviteeId : Nat)
  | tryGrantShareReward (userId : Nat) (amount : Int)
  | createCheckout (userId : Nat) (quote : QuoteResult) (orderId : String) (outcome : SessionOutcome) (now : Int)
  | markOrderPaid (orderId customerId sessionId paymentIntentId : String) (now : Int)
  | creditStripeTopupOrder (orderId customerId paymentIntentId sessionId : String) (now : Int)
  | markStripeTopupOrderStatus (orderId : String) (source : FromStatus) (target : MarkTarget) (reason : String) (now : Int)
  | reconcileRefund (orderId : String) (now : Int)
  | decreaseUserQuota (userId : Nat) (amount now : Int)
  | restoreUserQuotaSplit (userId : Nat) (split : QuotaWalletSplit) (now : Int)
  | expireUserPromotionLots (userId : Nat) (now : Int)

inductive WalletOp
  | lot (op : LotOp)
  | purchaseSubscriptionWithBalance (userId planId : Nat)

open Grants

def lotStep (cfg : Config) (db : Database) : LotOp → Database
  | .insertUser email => commit db (insertUser cfg db email)
  | .bindInviter userId inviterId => bindInviter db userId inviterId
  | .increaseUserCashQuota userId quota direct => commit db (increaseUserCashQuota cfg db userId quota direct)
  | .increaseUserPromoQuota userId quota => commit db (increaseUserPromoQuota db userId quota)
  | .batchUpdate => batchUpdate db
  | .recordUsage userId quota count => recordUsage db userId quota count
  | .insertToken token => insertToken db token
  | .insertRedemption key quota maxRedeems expiredTime => commit db (insertRedemption db key quota maxRedeems expiredTime)
  | .redeem key userId now => commit db ((redeem db key userId now).map Prod.snd)
  | .tryGrantRegisterPromo userId => commit db (tryGrantRegisterPromo cfg db userId)
  | .trySettleDelayedInviteReward inviteeId => commit db (trySettleDelayedInviteReward cfg db inviteeId)
  | .tryGrantShareReward userId amount => tryGrantShareReward db userId amount
  | .createCheckout userId quote orderId outcome now => commit db (TopupOrder.createCheckout db userId quote orderId outcome now)
  | .markOrderPaid orderId customerId sessionId paymentIntentId now =>
      TopupOrder.markOrderPaid db orderId customerId sessionId paymentIntentId now
  | .creditStripeTopupOrder orderId customerId paymentIntentId sessionId now =>
      commit db ((TopupOrder.creditStripeTopupOrder cfg db orderId customerId paymentIntentId sessionId now).map Prod.snd)
  | .markStripeTopupOrderStatus orderId source target reason now =>
      commit db (TopupOrder.markStripeTopupOrderStatus db orderId source target.status reason now)
  | .reconcileRefund orderId now => commit db (Refund.reconcileRefund db orderId now)
  | .decreaseUserQuota userId amount now => commit db ((CreditLot.decreaseUserQuotaWithSplit db userId amount now).map Prod.snd)
  | .restoreUserQuotaSplit userId split now => commit db (CreditLot.restoreUserQuotaSplit db userId split now)
  | .expireUserPromotionLots userId now => commit db ((CreditLot.expireUserPromotionLots db userId now).map Prod.snd)

def walletStep (cfg : Config) (db : Database) : WalletOp → Database
  | .lot op => lotStep cfg db op
  | .purchaseSubscriptionWithBalance userId planId =>
      commit db (Subscription.purchaseSubscriptionWithBalance cfg db userId planId)

def balances (db : Database) (id : Nat) : Option (Int × Int) :=
  (db.users.get? id).map (fun u => (u.quota,u.promoQuota))

def granted (db db' : Database) : Prop := ∃ cash promo : Nat → Int, (∀ j, 0 ≤ cash j ∧ 0 ≤ promo j) ∧
  ∀ j, balances db' j = (balances db j).map (fun b => (b.1 + (cash j + promo j),b.2 + promo j))

theorem grantedSame {db db'} (same : ∀ j, balances db' j = balances db j) : granted db db' := by
  refine ⟨fun _ => 0,fun _ => 0,fun _ => ⟨le_refl _,le_refl _⟩,?_⟩
  intro j
  rw [same j]
  cases balances db j <;> simp

theorem grantedTrans {a b c} (h : granted a b) (k : granted b c) : granted a c := by
  obtain ⟨cash,promo,nonneg,first⟩ := h
  obtain ⟨cash',promo',nonneg',second⟩ := k
  refine ⟨fun j => cash j + cash' j,fun j => promo j + promo' j,fun j => ⟨add_nonneg (nonneg j).1 (nonneg' j).1,
    add_nonneg (nonneg j).2 (nonneg' j).2⟩,?_⟩
  · intro j
    rw [second j,first j]
    cases balances a j with
    | none => rfl
    | some =>
      simp only [Option.map_some]
      congr 2 <;> omega

theorem grantedCredit (db id) {quota promo} (nonneg : 0 ≤ promo) (within : promo ≤ quota) : granted db (db.credit id quota promo) := by
  refine ⟨fun j => if j = id then quota - promo else 0,fun j => if j = id then promo else 0,?_,?_⟩
  · intro j
    simp only
    split <;> constructor <;> omega
  · intro j
    simp only [balances,Database.credit,Table.getModify]
    by_cases same : j = id
    · subst j
      simp only [if_true,Option.map_map]
      congr 1
      funext u
      simp only [Function.comp_apply]
      congr 1
      omega
    · simp only [same,if_false,add_zero]
      cases db.users.get? j <;> rfl

theorem balancesModify {db db' id change} (users : db'.users = db.users.modify id change)
    (quota : ∀ u, (change u).quota = u.quota) (promo : ∀ u, (change u).promoQuota = u.promoQuota) (j) : balances db' j = balances db j := by
  simp only [balances,users,Table.getModify]
  by_cases same : j = id
  · subst j
    simp only [if_true,Option.map_map,Function.comp_def,quota,promo]
  · simp only [same,if_false]

theorem balancesRewritten {db db' id user} (h : rewritten db.users id user db'.users) (j) :
    balances db' j = if j = id then some (user.quota,user.promoQuota) else balances db j := by
  unfold balances
  rw [h j]
  split <;> rfl

end NovaPuraRouter.WalletOps
