import NovaPuraRouter.LotLedger

/-! The two balance columns: quota is cash and promotional credit together. Three
steps write quota without looking at the promotional column, and the condition on
them is exact; every other step keeps the split by itself, clamps included. -/
namespace NovaPuraRouter.WalletAggregate
open LotBook LotSpec DeductSpec Refund RefundSpec Grants WalletOps WalletEffect WalletSound Option
  LotLedger

def Solvent (db : Database) : Prop := ∀ id user, db.users.get? id = some user → 0 ≤ user.promoQuota ∧ user.promoQuota ≤ user.quota

def solventAt (b : Int × Int) : Prop := 0 ≤ b.2 ∧ b.2 ≤ b.1

theorem solventBalances {db} : Solvent db ↔ ∀ id b, balances db id = some b → solventAt b := by
  constructor
  · intro h id b here
    obtain ⟨user,found,rfl⟩ := map_eq_some_iff.mp here
    exact h id user found
  · intro h id _ found
    exact h id _ (by rw [balances,found]; rfl)

variable {cfg : Config} {db db' : Database}

theorem solventSame (users : db'.users = db.users) : Solvent db' ↔ Solvent db := by
  unfold Solvent
  rw [users]

theorem solventRewritten {id user} (h : Solvent db) (users : rewritten db.users id user db'.users) :
    Solvent db' ↔ solventAt (user.quota,user.promoQuota) := by
  constructor
  · intro later
    exact later id user ((users id).trans (if_pos rfl))
  · intro mine j other found
    rw [users j] at found
    split at found
    · cases some.inj found
      exact mine
    · exact h j other found

theorem solventGranted (h : Solvent db) (grant : granted db db') : Solvent db' := by
  obtain ⟨_,_,nonneg,gets⟩ := grant
  refine solventBalances.mpr ?_
  intro j b here
  rw [gets j] at here
  obtain ⟨old,found,rfl⟩ := map_eq_some_iff.mp here
  have floor := nonneg j
  have before := solventBalances.mp h j old found
  unfold solventAt at before ⊢
  omega

theorem solventExpiry {id user now e} (h : Solvent db) (found : db.users.get? id = some user)
    (expires : Expires db id user now e) : solventAt (e.user.quota,e.user.promoQuota) := by
  have before := h id user found
  have removed := expires.removed
  rw [expires.left]
  unfold solventAt
  split at removed <;> simp only <;> omega

/- Cash is touched only when the promotional column is used up: lots that the sum leaves
out can only make the untracked part larger. -/
theorem solventDeducts {id amount now user e split} (ok : LotsOk db.lots) (h : Solvent db)
    (found : db.users.get? id = some user) (deducts : Deducts db id amount now user e split db') : Solvent db' := by
  refine (solventRewritten h deducts.users).mpr ?_
  have left := solventExpiry h found deducts.expires
  have atMost := trackedAtMost (expiresOk deducts.expires ok) id .promotional
  have promo := deducts.promo
  have covered := deducts.covered
  have enough := deducts.enough
  unfold untrackedPromo at promo
  unfold solventAt at left ⊢
  simp only at left ⊢
  omega

theorem solventEffect (ok : LotsOk db.lots) (h : Solvent db) (effect : Effect db db') : Solvent db' := by
  cases effect with
  | granted grant => exact solventGranted h grant
  | credited credits =>
    obtain ⟨user,found,_,_,users⟩ := credits.user
    have before := h _ user found
    have promo := credits.promoNonneg
    have cash := credits.cashNonneg
    refine (solventRewritten h users).mpr ?_
    unfold solventAt
    simp only
    omega
  | expired found expires => exact (solventRewritten h expires.users).mpr (solventExpiry h found expires)
  | deducted found _ deducts => exact solventDeducts ok h found deducts

open Subscription

def WithinCash (cfg : Config) (db : Database) : WalletOp → Prop
  | .lot (.insertUser email) => (∃ db', Grants.insertUser cfg db email = .ok db') → 0 ≤ cfg.quotaForNewUser
  | .lot (.reconcileRefund orderId now) => ∀ order user, (∃ db', reconcileRefund db orderId now = .ok db') →
      db.orders.get? orderId = some order → refundable order.status → orderLots db.lots orderId ≠ [] →
      db.users.get? order.userId = some user →
      paidLeft db.lots orderId + promoLeft db.lots orderId ≤ user.quota → promoLeft db.lots orderId ≤ user.promoQuota →
      paidLeft db.lots orderId ≤ user.quota - user.promoQuota
  | .lot _ => True
  | .purchaseSubscriptionWithBalance userId planId => ∀ plan required user,
      (∃ db', purchaseSubscriptionWithBalance cfg db userId planId = .ok db') →
      db.plans.get? planId = some plan → calcSubscriptionBalanceQuota cfg plan.priceMicro = .ok required →
      db.users.get? userId = some user → required ≤ user.quota - user.promoQuota

theorem insertExact (h : Solvent db) (email) :
    Solvent (lotStep cfg db (.insertUser email)) ↔ WithinCash cfg db (.lot (.insertUser email)) := by
  simp only [lotStep,WithinCash]
  cases done : Grants.insertUser cfg db email with
  | error => simpa [commit] using h
  | ok =>
    simp only [Grants.insertUser,bindOk,pureOk] at done
    obtain ⟨_,_,rfl⟩ := done
    simp only [commit,Except.ok.injEq,exists_eq',forall_const]
    have users : rewritten db.users db.users.nextId (freshUser cfg (normalizeEmail email))
        (db.users.append (freshUser cfg (normalizeEmail email))) := fun j => db.users.getAppend _ j
    refine (solventRewritten h users).trans ?_
    simp only [solventAt,freshUser]
    omega

theorem legacySolvent {orderId order user} (h : Solvent db) (owner : db.users.get? order.userId = some user)
    (now) : Solvent (reconcileLegacyRefundWithTx db orderId order user now) := by
  refine (solventRewritten h (setBalanceUsers owner _ _)).mpr ?_
  have before := h _ user owner
  unfold solventAt reversePromo reversePaid
  simp only
  omega

theorem reversesExact {orderId order user now} (h : Solvent db) (reverses : Reverses db orderId order user now db') :
    Solvent db' ↔ paidLeft db.lots orderId ≤ user.quota - user.promoQuota := by
  refine (solventRewritten h reverses.users).trans ?_
  have enough := reverses.enough
  unfold solventAt
  simp only
  omega

theorem refundExact (h : Solvent db) (orderId now) :
    Solvent (lotStep cfg db (.reconcileRefund orderId now)) ↔ WithinCash cfg db (.lot (.reconcileRefund orderId now)) := by
  simp only [lotStep,WithinCash]
  cases done : reconcileRefund db orderId now with
  | error => simpa [commit] using h
  | ok db' =>
    simp only [commit,Except.ok.injEq,exists_eq',forall_const]
    obtain ⟨order,found,refunds⟩ := refundSpec done
    have kept (same : Solvent db') (other : ∀ user, refundable order.status → orderLots db.lots orderId ≠ [] →
        db.users.get? order.userId = some user → ¬ (paidLeft db.lots orderId + promoLeft db.lots orderId ≤ user.quota ∧
          promoLeft db.lots orderId ≤ user.promoQuota)) :
        Solvent db' ↔ ∀ order' user, db.orders.get? orderId = some order' → refundable order'.status →
          orderLots db.lots orderId ≠ [] → db.users.get? order'.userId = some user →
          paidLeft db.lots orderId + promoLeft db.lots orderId ≤ user.quota →
          promoLeft db.lots orderId ≤ user.promoQuota → paidLeft db.lots orderId ≤ user.quota - user.promoQuota := by
      refine ⟨fun _ order' user here can lotted owner total promo => ?_,fun _ => same⟩
      cases some.inj (found.symm.trans here)
      exact absurd ⟨total,promo⟩ (other user can lotted owner)
    cases refunds with
    | done settled => exact kept h (fun user can => by simp [refundable,settled] at can)
    | early _ closed => exact kept ((solventSame rfl).mpr h) (fun user can => absurd can closed)
    | @short _ _ _ owner =>
      refine kept ((solventSame rfl).mpr h) (fun other _ _ there => ?_)
      cases some.inj (owner.symm.trans there)
      omega
    | legacy _ lotless owner =>
      exact kept (legacySolvent h owner now) (fun _ _ lotted => absurd lotless lotted)
    | @reversed user _ can lotted owner reverses =>
      refine (reversesExact h reverses).trans ⟨fun cash order' other here _ _ there _ _ => ?_,fun all => ?_⟩
      · cases some.inj (found.symm.trans here)
        cases some.inj (owner.symm.trans there)
        exact cash
      · exact all order user found can lotted owner reverses.enough.1 reverses.enough.2

theorem purchaseExact (h : Solvent db) (userId planId) :
    Solvent (walletStep cfg db (.purchaseSubscriptionWithBalance userId planId)) ↔
      WithinCash cfg db (.purchaseSubscriptionWithBalance userId planId) := by
  simp only [walletStep,WithinCash]
  cases done : purchaseSubscriptionWithBalance cfg db userId planId with
  | error => simpa [commit] using h
  | ok =>
    simp only [commit,Except.ok.injEq,exists_eq',forall_const]
    obtain ⟨plan,required,user,subscriptions,found,price,owner,_,rfl⟩ := purchaseSpec done
    have before := h userId user owner
    have exactly : Solvent { chargeQuota db userId required with subscriptions := subscriptions } ↔
        required ≤ user.quota - user.promoQuota := by
      unfold chargeQuota
      split
      · have users : rewritten db.users userId { user with quota := user.quota + -required, promoQuota := user.promoQuota + 0 }
            (db.credit userId (-required) 0).users := by
          intro j
          simp only [Database.credit,Table.getModify]
          split
          · rw [owner]
            rfl
          · rfl
        refine (solventRewritten h users).trans ?_
        unfold solventAt
        simp only
        omega
      · refine (solventSame rfl).trans ⟨fun _ => by omega,fun _ => h⟩
    refine exactly.trans ⟨fun cash plan' required' user' here price' there => ?_,fun all => all plan required user found price owner⟩
    cases some.inj (found.symm.trans here)
    cases Except.ok.inj (price.symm.trans price')
    cases some.inj (owner.symm.trans there)
    exact cash

theorem stepExact (sound : Sound cfg db) (h : Solvent db) (op) : Solvent (walletStep cfg db op) ↔ WithinCash cfg db op := by
  cases op with
  | purchaseSubscriptionWithBalance userId planId => exact purchaseExact h userId planId
  | lot op =>
    have effect := (lotSteps sound op).effect
    have kept : LotOp.plain op → Solvent (lotStep cfg db op) := fun plain => solventEffect sound.lots h (effect plain)
    cases op with
    | insertUser email => exact insertExact h email
    | reconcileRefund orderId now => exact refundExact h orderId now
    | _ => exact ⟨fun _ => trivial,fun _ => kept trivial⟩

theorem solventIffWithinCash (cfg : Config) (db : Database) (ops : List WalletOp) (start : BeforeLots cfg db)
    (solvent : Solvent db) : Always (walletStep cfg) Solvent db ops ↔ Along (walletStep cfg) (WithinCash cfg) db ops :=
  alwaysIffAlong (fun db op => soundWallet db op) (fun _ _ h => h) (fun _ _ _ _ later => later)
    (fun _ op sound h => stepExact sound h op) (soundBefore start) solvent

def dollarPlan : SubscriptionPlan := ⟨false,false,true,1000000,none,.month,1,0,0⟩

def planOnly : Database := { Database.empty with plans := Table.empty.append dollarPlan }

theorem planOnlyBefore : BeforeLots .shipped planOnly ∧ Solvent planOnly :=
  ⟨⟨fun _ => rfl,fun e mem => absurd mem List.not_mem_nil,fun k o found => by simp [planOnly,Database.empty] at found⟩,
    fun id user found => by simp [planOnly,Database.empty] at found⟩

def cashPurchase : List WalletOp :=
  [.lot (.insertUser "a@example.com"),.lot (.increaseUserPromoQuota 1 200000),.lot (.increaseUserCashQuota 1 800000 true),
   .purchaseSubscriptionWithBalance 1 1]

theorem cashPurchaseSolvent : Always (walletStep .shipped) Solvent planOnly cashPurchase := by
  refine (solventIffWithinCash .shipped planOnly cashPurchase planOnlyBefore.1 planOnlyBefore.2).mpr
    ⟨fun _ => le_refl 0,trivial,trivial,?_,trivial⟩
  intro _ _ _ _ found price owner
  cases some.inj found
  cases Except.ok.inj price
  cases some.inj owner
  decide

def promoPurchase : List WalletOp :=
  [.lot (.insertUser "a@example.com"),.lot (.increaseUserPromoQuota 1 800000),.purchaseSubscriptionWithBalance 1 1]

theorem promoPurchaseInsolvent : ¬ Always (walletStep .shipped) Solvent planOnly promoPurchase := by
  intro solvent
  have last := alwaysLast solvent
  have short : balances (run (walletStep .shipped) planOnly promoPurchase) 1 = some (300000,800000) := by decide
  have within := solventBalances.mp last 1 _ short
  exact absurd within.2 (by decide)

end NovaPuraRouter.WalletAggregate
