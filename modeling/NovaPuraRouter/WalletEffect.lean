import NovaPuraRouter.WalletOps

/-! What one step can do, said once: the effect on balances and lots, and how order
rows change. Registration and refund are the two steps with an effect of their own;
every other step is one of four. -/
namespace NovaPuraRouter.WalletEffect
open LotBook LotSpec DeductSpec TopupOrder OrderSpec Refund Grants WalletOps Option Table

structure OrderChange (cfg : Config) (o o' : StripeTopupOrder) : Prop where
  user : o'.userId = o.userId
  micro : o'.paidCreditMicroUSD = o.paidCreditMicroUSD
  parts : (o'.paidQuota = o.paidQuota ∧ o'.promoQuota = o.promoQuota) ∨
    (o'.paidQuota = paidPart cfg o ∧ o'.promoQuota = promoPart o)

structure Evolves (cfg : Config) (db db' : Database) : Prop where
  kept : ∀ k o, db.orders.get? k = some o → ∃ o', db'.orders.get? k = some o' ∧ OrderChange cfg o o'
  made : ∀ k o', db'.orders.get? k = some o' → (∃ o, db.orders.get? k = some o ∧ OrderChange cfg o o') ∨
    (db.orders.get? k = none ∧ 0 < o'.paidQuota ∧ 0 ≤ o'.promoQuota)

theorem changeRefl (cfg o) : OrderChange cfg o o := ⟨rfl,rfl,.inl ⟨rfl,rfl⟩⟩

variable {cfg : Config} {db db' : Database}

theorem evolvesSame (same : db'.orders = db.orders) : Evolves cfg db db' := by
  refine ⟨?_,?_⟩
  · intro k o found
    exact ⟨o,same ▸ found,changeRefl cfg o⟩
  · intro k o' found
    exact .inl ⟨o',same ▸ found,changeRefl cfg o'⟩

theorem evolvesModify {k change}
    (orders : db'.orders = db.orders.modify k change) (good : ∀ o, OrderChange cfg o (change o)) : Evolves cfg db db' := by
  refine ⟨?_,?_⟩
  · intro j o found
    rw [orders,Table.getModify]
    split
    · rename_i same
      subst j
      exact ⟨change o,by rw [found]; rfl,good o⟩
    · exact ⟨o,found,changeRefl cfg o⟩
  · intro j o' found
    obtain ⟨o,source,rfl,rfl⟩ | ⟨_,old⟩ := modifyCases (orders ▸ found)
    · exact .inl ⟨o,source,good o⟩
    · exact .inl ⟨o',old,changeRefl cfg o'⟩

theorem evolvesPlaced {k} (fresh : db.orders.get? k = none) (orders : ∀ j, j ≠ k → db'.orders.get? j = db.orders.get? j)
    (parts : ∀ o', db'.orders.get? k = some o' → 0 < o'.paidQuota ∧ 0 ≤ o'.promoQuota) : Evolves cfg db db' := by
  refine ⟨?_,?_⟩
  · intro j o found
    have other : j ≠ k := by
      rintro rfl
      rw [fresh] at found
      contradiction
    exact ⟨o,(orders j other).trans found,changeRefl cfg o⟩
  · intro j o' found
    by_cases same : j = k
    · subst j
      exact .inr ⟨fresh,parts o' found⟩
    · exact .inl ⟨o',(orders j same) ▸ found,changeRefl cfg o'⟩

theorem changeStatus (cfg target reason o) :
    OrderChange cfg o { o with status := target, failureReason := reason } := ⟨rfl,rfl,.inl ⟨rfl,rfl⟩⟩

theorem changeSettled (cfg order user now o) : OrderChange cfg o (settledLegacy order user now o) := by
  unfold settledLegacy
  split <;> exact ⟨rfl,rfl,.inl ⟨rfl,rfl⟩⟩

structure CheckedOut (db : Database) (userId : Nat) (quote : TopupOrder.QuoteResult) (orderId : String) (db' : Database) : Prop where
  frame : orderFrame db db'
  fresh : db.orders.get? orderId = none
  others : ∀ j, j ≠ orderId → db'.orders.get? j = db.orders.get? j
  made : ∀ o', db'.orders.get? orderId = some o' → o'.userId = userId ∧ o'.paidQuota = quote.paidQuota ∧
    o'.promoQuota = quote.promoQuota ∧ (o'.status = .pending ∨ o'.status = .checkoutCreated ∨ o'.status = .failed)

theorem checkoutSpec {userId quote orderId outcome now}
    (h : TopupOrder.createCheckout db userId quote orderId outcome now = .ok db') : CheckedOut db userId quote orderId db' := by
  simp only [TopupOrder.createCheckout,bindOk,rowOk] at h
  obtain ⟨_,_,placed,made,h⟩ := h
  have places := reservedSpec made
  obtain ⟨_,gets⟩ := places.orders
  have here := gets orderId
  rw [if_pos rfl] at here
  have others : ∀ j, j ≠ orderId → placed.orders.get? j = db.orders.get? j := fun j other => by rw [gets j,if_neg other]
  have asPlaced : CheckedOut db userId quote orderId placed := by
    refine ⟨places.frame,places.fresh,others,?_⟩
    intro o' found
    cases some.inj (here.symm.trans found)
    exact ⟨rfl,rfl,rfl,.inl rfl⟩
  cases outcome with
  | interrupted =>
    cases pureOk.mp h
    exact asPlaced
  | refused reason =>
    cases pureOk.mp h
    obtain ⟨_,ok,same⟩ | same := commitCases placed
      (TopupOrder.markStripeTopupOrderStatus placed orderId (.exactly .pending) .failed reason now)
    · rw [same]
      obtain ⟨rfl,_⟩ | ⟨_,marks⟩ := markSpec ok
      · exact asPlaced
      obtain ⟨_,rows⟩ := marksOrders marks
      refine ⟨?_,places.fresh,fun j other => by rw [rows j,if_neg other,others j other],?_⟩
      · unfold orderFrame
        rw [marks.frame,places.frame]
      · intro o' found
        rw [rows orderId,if_pos rfl] at found
        cases some.inj (here.symm.trans marks.found)
        cases some.inj found
        exact ⟨rfl,rfl,rfl,.inr (.inr rfl)⟩
    · rw [same]
      exact asPlaced
  | created =>
    have h := pureOk.mp h
    split at h
    · subst h
      refine ⟨?_,places.fresh,fun j other => ?_,?_⟩
      · unfold orderFrame setOrder
        rw [places.frame]
      · simp only [setOrder,getModifyOther _ other]
        exact others j other
      · intro _ found
        simp only [setOrder,getModifySelf,here,map_some] at found
        cases some.inj found
        exact ⟨rfl,rfl,rfl,.inr (.inl rfl)⟩
    · subst h
      exact asPlaced

def dropped (status : StripeOrderStatus) : Prop := status = .failed ∨ status = .expired ∨ status = .manualReview

structure CalmOrder (o o' : StripeTopupOrder) : Prop where
  user : o'.userId = o.userId
  paid : o'.paidQuota = o.paidQuota
  promo : o'.promoQuota = o.promoQuota
  turn : o'.status = o.status ∨ (payable o.status ∧ o'.status = .paid) ∨
    (o.status ≠ .credited ∧ o.status ≠ .refunded ∧ dropped o'.status)

def CalmOrders (db db' : Database) : Prop := ∀ k o', db'.orders.get? k = some o' →
  (∃ o, db.orders.get? k = some o ∧ CalmOrder o o') ∨
    (db.orders.get? k = none ∧ (o'.status = .pending ∨ o'.status = .checkoutCreated ∨ o'.status = .failed))

structure Calm (db db' : Database) : Prop where
  booked : ∃ rows, db'.ledger = db.ledger ++ rows ∧ Booked db.lots rows db'.lots ∧ ∀ e ∈ rows, ¬ topupEntry e
  orders : CalmOrders db db'

theorem calmKept (orders : db'.orders = db.orders) : CalmOrders db db' :=
  fun _ o' found => .inl ⟨o',orders ▸ found,⟨rfl,rfl,rfl,.inl rfl⟩⟩

theorem calmModify {k change} (orders : db'.orders = db.orders.modify k change)
    (good : ∀ o, db.orders.get? k = some o → CalmOrder o (change o)) : CalmOrders db db' := by
  intro j o' found
  obtain ⟨o,here,rfl,rfl⟩ | ⟨_,old⟩ := modifyCases (orders ▸ found)
  · exact .inl ⟨o,here,good o here⟩
  · exact .inl ⟨o',old,⟨rfl,rfl,rfl,.inl rfl⟩⟩

theorem calmQuiet (lots : db'.lots = db.lots) (ledger : db'.ledger = db.ledger) (orders : CalmOrders db db') : Calm db db' :=
  ⟨⟨[],by simp [ledger],by rw [lots]; exact .nil,fun _ mem => absurd mem List.not_mem_nil⟩,orders⟩

structure Bestows (db db' : Database) : Prop where
  grant : granted db db'
  lots : db'.lots = db.lots
  ledger : db'.ledger = db.ledger
  orders : db'.orders = db.orders

theorem bestowsNone (db) : Bestows db db := ⟨grantedSame fun _ => rfl,rfl,rfl,rfl⟩

theorem bestowsTrans {a b c} (h : Bestows a b) (k : Bestows b c) : Bestows a c :=
  ⟨grantedTrans h.grant k.grant,k.lots.trans h.lots,k.ledger.trans h.ledger,k.orders.trans h.orders⟩

theorem bestowsCredit (db id) {quota promo} (nonneg : 0 ≤ promo) (within : promo ≤ quota) :
    Bestows db (db.credit id quota promo) := ⟨grantedCredit db id nonneg within,rfl,rfl,rfl⟩

theorem batchCredits (rows : List (Nat × Nat)) (db) : Bestows db (rows.foldl (fun d r => d.credit r.1 r.2 0) db) := by
  induction rows generalizing db with
  | nil => exact bestowsNone db
  | cons r _ ih =>
    exact bestowsTrans (bestowsCredit db r.1 (le_refl 0) (Int.natCast_nonneg r.2)) (ih (db.credit r.1 r.2 0))

open Grants

theorem batchBestows (db) : Bestows db (batchUpdate db) := by
  have ⟨grant,lots,ledger,orders⟩ := batchCredits db.pendingUserQuota.rows db
  exact ⟨grant,lots,ledger,orders⟩

theorem cashBestows {id quota direct} (h : increaseUserCashQuota cfg db id quota direct = .ok db') : Bestows db db' := by
  simp only [increaseUserCashQuota,bindOk,requireOk] at h
  obtain ⟨_,nonneg,h⟩ := h
  split at h
  · cases pureOk.mp h
    exact bestowsNone db
  split at h
  · cases pureOk.mp h
    exact ⟨grantedSame fun _ => rfl,rfl,rfl,rfl⟩
  · cases pureOk.mp h
    exact bestowsCredit db id (le_refl 0) nonneg

theorem promoBestows {id quota} (h : increaseUserPromoQuota db id quota = .ok db') : Bestows db db' := by
  simp only [increaseUserPromoQuota,bindOk,requireOk] at h
  obtain ⟨_,nonneg,h⟩ := h
  split at h
  · cases pureOk.mp h
    exact bestowsNone db
  · cases pureOk.mp h
    exact bestowsCredit db id nonneg (le_refl quota)

theorem redeemBestows {key userId now quota} (h : redeem db key userId now = .ok (quota,db')) : Bestows db db' := by
  simp only [redeem,bindOk,rowOk,pureOk] at h
  obtain ⟨_,_,_,_,_,_,_,_,_,_,_,_,last⟩ := h
  obtain ⟨rfl,rfl⟩ := Prod.mk.inj last
  exact ⟨grantedCredit _ userId (Int.natCast_nonneg _) (le_refl _),rfl,rfl,rfl⟩

theorem registerBestows {userId} (h : tryGrantRegisterPromo cfg db userId = .ok db') : Bestows db db' := by
  unfold tryGrantRegisterPromo at h
  split at h
  · cases pureOk.mp h
    exact bestowsNone db
  rename_i on
  simp only [bindOk,rowOk] at h
  obtain ⟨_,_,h⟩ := h
  split at h
  · cases pureOk.mp h
    exact bestowsNone db
  split at h
  · cases pureOk.mp h
    exact bestowsNone db
  rename_i claims _
  simp only [bindOk,pureOk] at h
  obtain ⟨counted,hc,rfl⟩ := h
  have positive : 0 ≤ cfg.registerPromoQuota := by omega
  have kept : ∃ count, counted = { db with claims := claims, registerPromoCount := count } := by
    unfold countRegisterPromo at hc
    split at hc
    · exact ⟨_,(pureOk.mp hc).symm⟩
    · simp only [bindOk,pureOk] at hc
      obtain ⟨_,_,rfl⟩ := hc
      exact ⟨_,rfl⟩
  obtain ⟨_,rfl⟩ := kept
  exact ⟨grantedCredit _ userId positive (le_refl _),rfl,rfl,rfl⟩

theorem shareBestows (db userId amount) : Bestows db (tryGrantShareReward db userId amount) := by
  unfold tryGrantShareReward
  split
  · exact bestowsNone db
  rename_i on
  split
  · exact bestowsNone db
  · exact ⟨grantedCredit _ userId (by omega) (le_refl _),rfl,rfl,rfl⟩

theorem inviterBestows (cfg db inviterId inviteeId inviter)
    (nonneg : 0 ≤ cfg.inviteRewardQuota) : Bestows db (payInviter cfg db inviterId inviteeId inviter) := by
  have counted : granted db { db with
      users := db.users.modify inviterId fun u => { u with affCount := inviter.affCount + 1 } } :=
    grantedSame (balancesModify rfl (fun _ => rfl) (fun _ => rfl))
  unfold payInviter
  simp only
  split
  · split
    · exact ⟨counted,rfl,rfl,rfl⟩
    · refine ⟨grantedTrans counted (grantedTrans (grantedSame ?_) (grantedCredit _ inviterId nonneg (le_refl _))),rfl,rfl,rfl⟩
      exact balancesModify rfl (fun _ => rfl) (fun _ => rfl)
  · exact ⟨counted,rfl,rfl,rfl⟩

theorem settledBestows (db inviteeId) : Bestows db (settleInvite db inviteeId) :=
  ⟨grantedSame (balancesModify rfl (fun _ => rfl) (fun _ => rfl)),rfl,rfl,rfl⟩

theorem inviteBestows {inviteeId} (h : trySettleDelayedInviteReward cfg db inviteeId = .ok db') : Bestows db db' := by
  unfold trySettleDelayedInviteReward at h
  split at h
  · cases pureOk.mp h
    exact bestowsNone db
  rename_i on
  have nonneg : 0 ≤ cfg.inviteRewardQuota := by omega
  simp only [bindOk,rowOk] at h
  obtain ⟨invitee,_,h⟩ := h
  split at h
  · cases pureOk.mp h
    exact bestowsNone db
  simp only [bindOk,rowOk] at h
  obtain ⟨inviter,_,h⟩ := h
  split at h
  · cases pureOk.mp h
    exact settledBestows db inviteeId
  split at h
  · cases pureOk.mp h
    exact settledBestows db inviteeId
  rename_i claims _
  cases pureOk.mp h
  have settled := settledBestows { db with claims := claims } inviteeId
  have invited := bestowsCredit (settleInvite { db with claims := claims } inviteeId) inviteeId nonneg (le_refl _)
  have both := bestowsTrans (bestowsTrans settled invited)
    (inviterBestows cfg _ invitee.inviterId inviteeId inviter nonneg)
  exact { both with }

inductive Effect (db : Database) : Database → Prop
  | granted {db' : Database} (grant : granted db db') (lots : db'.lots = db.lots) : Effect db db'
  | credited {id promo cash rows db'} (credits : Credits db id promo cash rows db') : Effect db db'
  | expired {id user now e} (found : db.users.get? id = some user) (expires : Expires db id user now e) : Effect db e.db
  | deducted {id amount now user e split db'} (found : db.users.get? id = some user) (nonneg : 0 ≤ amount)
      (deducts : Deducts db id amount now user e split db') : Effect db db'

theorem effectOrderFrame (h : orderFrame db db') : Effect db db' := by
  refine .granted (grantedSame ?_) (by rw [h])
  intro j
  rw [h]
  rfl

end NovaPuraRouter.WalletEffect
