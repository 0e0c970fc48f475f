import NovaPuraRouter.WalletSound

/-! Lots and ledger over whole runs, from before the first lot with whatever users, orders
and settings there are; they may mix every operation, restores of splits that no deduction
returned included. -/
namespace NovaPuraRouter.LotLedger
open LotBook TopupOrder WalletOps WalletEffect WalletSound List

structure BeforeLots (cfg : Config) (db : Database) : Prop where
  lotless : ∀ id, db.lots.get? id = none
  unbooked : ∀ e ∈ db.ledger, e.lotId = 0
  orders : ∀ k o, db.orders.get? k = some o → 0 ≤ o.paidQuota ∧ 0 ≤ o.promoQuota ∧ 0 ≤ paidPart cfg o

theorem lotSumFree {ledger} (free : ∀ e ∈ ledger, e.lotId = 0) {id} (real : id ≠ 0) : lotSum id ledger = 0 := by
  induction ledger with
  | nil => rfl
  | cons e _ ih =>
    have here := free e mem_cons_self
    rw [lotSumCons,ih (fun x mem => free x (mem_cons_of_mem e mem)),here,if_neg (Ne.symm real)]
    rfl

theorem soundBefore {cfg db} (start : BeforeLots cfg db) : Sound cfg db := by
  refine ⟨?_,?_,?_,start.orders,?_⟩
  · intro id lot found
    rw [start.lotless id] at found
    contradiction
  · intro id real
    rw [lotSumFree start.unbooked real]
    simp [remainingOf,start.lotless id]
  · intro id lot found
    rw [start.lotless id] at found
    contradiction
  · intro id _ found
    rw [start.lotless id] at found
    contradiction

open Database

theorem emptyBefore (cfg) : BeforeLots cfg empty :=
  ⟨fun _ => rfl,fun e mem => absurd mem (not_mem_nil),fun k o found => by simp [empty] at found⟩

open Subscription

theorem chargeKept (db userId required) : (chargeQuota db userId required).lots = db.lots ∧
      (chargeQuota db userId required).ledger = db.ledger ∧
      (chargeQuota db userId required).orders = db.orders := by
  unfold chargeQuota
  split <;> exact ⟨rfl,rfl,rfl⟩

theorem chargeStay (db userId required) : Stay db (chargeQuota db userId required) := by
  intro j here
  unfold chargeQuota
  split
  · simp only [balances,credit,Table.getModify,Option.isSome_map] at here ⊢
    split
    · rename_i same
      subst j
      rw [Option.isSome_map]
      exact here
    · exact here
  · exact here

theorem purchaseSpec {cfg db userId planId db'} (h : purchaseSubscriptionWithBalance cfg db userId planId = .ok db') :
    ∃ plan required user subscriptions, db.plans.get? planId = some plan ∧
      calcSubscriptionBalanceQuota cfg plan.priceMicro = .ok required ∧ db.users.get? userId = some user ∧
      (0 < required → required ≤ user.quota) ∧
      db' = { chargeQuota db userId required with subscriptions := subscriptions } := by
  simp only [purchaseSubscriptionWithBalance,createUserSubscriptionFromPlanTx,bindOk,rowOk,
    requireOk,pureOk] at h
  obtain ⟨_,_,plan,found,_,_,_,_,_,_,_,_,required,price,user,owner,_,enough,_,_,_,_,_,_,rfl⟩ := h
  exact ⟨plan,required,user,_,found,price,owner,enough,rfl⟩

theorem purchaseCalm {cfg db} (userId planId) : Facts cfg db (walletStep cfg db (.purchaseSubscriptionWithBalance userId planId)) ∧
      Calm db (walletStep cfg db (.purchaseSubscriptionWithBalance userId planId)) ∧
      Spends db (walletStep cfg db (.purchaseSubscriptionWithBalance userId planId)) := by
  obtain ⟨_,done,same⟩ | same := commitCases db (purchaseSubscriptionWithBalance cfg db userId planId)
  · obtain ⟨_,required,_,_,_,_,_,_,rfl⟩ := purchaseSpec done
    simp only [walletStep,same]
    have ⟨lots,ledger,orders⟩ := chargeKept db userId required
    exact ⟨factsQuiet lots ledger orders (chargeStay db userId required),calmQuiet lots ledger (calmKept orders),
      spendsQuiet lots ledger⟩
  · simp only [walletStep,same]
    exact ⟨factsNone cfg db,calmQuiet rfl rfl (calmKept rfl),spendsQuiet rfl rfl⟩

theorem soundWallet {cfg} (db op) (sound : Sound cfg db) : Sound cfg (walletStep cfg db op) := by
  cases op with
  | lot op => exact soundLot db op sound
  | purchaseSubscriptionWithBalance userId planId => exact soundStep sound (purchaseCalm userId planId).1

def ledgerOf (ledger : List BalanceLedger) (lotId : Nat) : Int :=
  ((ledger.filter (fun e => decide (e.lotId = lotId))).map (·.amountQuota)).sum

theorem ledgerOfSum (ledger id) : ledgerOf ledger id = lotSum id ledger := by
  induction ledger with
  | nil => rfl
  | cons e _ ih =>
    rw [lotSumCons,← ih]
    unfold ledgerOf
    by_cases same : e.lotId = id
    · rw [filter_cons_of_pos (by simpa using same)]
      simp [same]
    · rw [filter_cons_of_neg (by simpa using same)]
      simp [same]

structure LotBalanced (db : Database) (id : Nat) (lot : BalanceCreditLot) : Prop where
  ledger : lot.remainingQuota = ledgerOf db.ledger id
  nonneg : 0 ≤ lot.remainingQuota
  within : lot.remainingQuota ≤ lot.originalQuota
  live : lot.status = .active ↔ 0 < lot.remainingQuota

def LotsBalanced (db : Database) : Prop := ∀ id lot, db.lots.get? id = some lot → LotBalanced db id lot

theorem soundBalanced {cfg} (db) (sound : Sound cfg db) : LotsBalanced db := by
  intro id lot found
  obtain ⟨real,ok⟩ := sound.lots id lot found
  have books := sound.books id real
  refine ⟨?_,ok.nonneg,ok.within,ok.live⟩
  rw [ledgerOfSum,← books]
  simp [remainingOf,found]

theorem lotsFollowLedger (cfg : Config) (db : Database) (ops : List WalletOp) (start : BeforeLots cfg db) :
    Always (walletStep cfg) LotsBalanced db ops :=
  alwaysOfKeeps soundWallet (fun s => soundBalanced s) ops (soundBefore start)

theorem hundred : (0 : Int) < 100 := by decide

def firstTopup : List WalletOp :=
  [.lot (.insertUser "a@example.com"),
   .lot (.createCheckout 1 (.ofPayment "usd" 500 5000000 100 hundred) "np_1" (.created "cs_1" "" "" 0) 10),
   .lot (.creditStripeTopupOrder "np_1" "" "" "cs_1" 20),
   .lot (.decreaseUserQuota 1 30 30)]

theorem firstTopupFollowsLedger : ((run (walletStep .shipped) empty firstTopup).lots.get? 1).map (·.remainingQuota) = some 70 ∧
      Always (walletStep .shipped) LotsBalanced empty firstTopup :=
  ⟨by decide,lotsFollowLedger .shipped empty firstTopup (emptyBefore .shipped)⟩

end NovaPuraRouter.LotLedger
