import NovaPuraRouter.WalletAggregate

/-! Lots are covered by the balance columns. The refund of an order without lots is the one
step that takes from the columns without looking at the lots of other orders; the condition
on it is exact. Subscription purchases are no part of these runs. -/
namespace NovaPuraRouter.LotCoverage
open CreditLot LotBook LotSpec DeductSpec TopupOrder Refund RefundSpec Grants WalletOps WalletEffect WalletSound Option Table
  LotLedger WalletAggregate

def activeRemaining (lots : Lots) (userId : Nat) (type : BalanceType) : Int :=
  ((lots.select (fun _ l => decide (l.userId = userId ∧ l.balanceType = type ∧ l.status = .active))).map
    (fun r => r.2.remainingQuota)).sum

theorem activeRemainingTracked {lots} (ok : LotsOk lots) (userId type) : activeRemaining lots userId type = tracked lots userId type := by
  refine (sumSelect lots (fun _ l => decide (l.userId = userId ∧ l.balanceType = type ∧ l.status = .active))
    (fun _ l => l.remainingQuota)).trans (sumCongr ?_)
  intro id lot found
  have ⟨nonneg,within,live⟩ := (ok id lot found).2
  simp only [owned,decide_eq_true_eq]
  by_cases active : lot.status = .active
  · simp [active]
  have zero : lot.remainingQuota = 0 := by
    have : ¬ 0 < lot.remainingQuota := fun left => active (live.mpr left)
    omega
  simp [zero]

def refundBlocked (db : Database) (orderId : String) : Prop := ∃ order user total,
  db.orders.get? orderId = some order ∧ orderLots db.lots orderId ≠ [] ∧ db.users.get? order.userId = some user ∧
    removeTotal ((orderLots db.lots orderId).filter refundLot) = .ok total ∧
    (user.quota < total ∨ user.promoQuota < removePromo ((orderLots db.lots orderId).filter refundLot))

structure LotsCovered (db : Database) : Prop where
  promo : ∀ id user, db.users.get? id = some user → activeRemaining db.lots id .promotional ≤ user.promoQuota
  paid : ∀ id user, db.users.get? id = some user → activeRemaining db.lots id .paid ≤ user.quota - user.promoQuota
  deduct : ∀ id amount now, decreaseUserQuotaWithSplit db id amount now ≠ .error .promotionalBalanceInvariant
  refund : ∀ orderId, ¬ refundBlocked db orderId

def coveredBy (lots : Lots) (id : Nat) (b : Int × Int) : Prop :=
  tracked lots id .promotional ≤ b.2 ∧ tracked lots id .paid ≤ b.1 - b.2

def Covered (db : Database) : Prop := ∀ id b, balances db id = some b → coveredBy db.lots id b

def Fits (db : Database) : Prop := ∀ id, tracked db.lots id .promotional ≤ maxQuota

theorem coveredUser {db id user} (h : Covered db) (found : db.users.get? id = some user) :
    coveredBy db.lots id (user.quota,user.promoQuota) := h id _ (by rw [balances,found]; rfl)

variable {cfg : Config} {db db' : Database}

theorem coveredRewritten {id user} (h : Covered db) (users : rewritten db.users id user db'.users)
    (mine : coveredBy db'.lots id (user.quota,user.promoQuota))
    (others : ∀ j b, j ≠ id → tracked db'.lots j b ≤ tracked db.lots j b) : Covered db' := by
  intro j b here
  rw [balancesRewritten users] at here
  split at here
  · rename_i same
    subst j
    cases some.inj here
    exact mine
  · rename_i other
    obtain ⟨_,_⟩ := h j b here
    have lessPromo := others j .promotional other
    have lessPaid := others j .paid other
    exact ⟨by omega,by omega⟩

theorem coveredGranted (h : Covered db) (grant : granted db db') (lots : db'.lots = db.lots) : Covered db' := by
  obtain ⟨_,_,nonneg,gets⟩ := grant
  intro j b here
  rw [gets j] at here
  obtain ⟨old,found,rfl⟩ := map_eq_some_iff.mp here
  obtain ⟨_,_⟩ := h j old found
  have floor := nonneg j
  unfold coveredBy
  rw [lots]
  omega

theorem coveredCredits {id promo cash rows} (ok : LotsOk db.lots) (h : Covered db)
    (credits : Credits db id promo cash rows db') : Covered db' := by
  obtain ⟨_,found,_,_,users⟩ := credits.user
  have share := fun u b => credits.share u b
  have now := fun u b => bookedTracked credits.booked ok u b
  obtain ⟨promoOk,paidOk⟩ := coveredUser h found
  refine coveredRewritten h users ?_ ?_
  · have promoShare := share id .promotional
    have paidShare := share id .paid
    simp only [creditShare,if_true] at promoShare paidShare
    unfold coveredBy
    rw [now id .promotional,now id .paid]
    simp only at promoOk paidOk ⊢
    omega
  · intro j b other
    have mine := share j b
    have nothing : creditShare id promo cash j b = 0 := by cases b <;> simp [creditShare,Ne.symm other]
    rw [now j b]
    omega

section
variable {id user now e} (ok : LotsOk db.lots) (h : Covered db) (found : db.users.get? id = some user) (expires : Expires db id user now e)
include ok h found expires

theorem expiresExact : e.removed = rowsSum (dueLots db.lots id now) := by
  obtain ⟨promoOk,paidOk⟩ := coveredUser h found
  have left := trackedNonneg (expiresOk expires ok) id .promotional
  rw [expires.lots id .promotional,if_pos ⟨rfl,rfl⟩] at left
  have paidFloor := trackedNonneg ok id .paid
  rw [expires.removed]
  split
  · rename_i nothing
    simp [nothing,rowsSum]
  · simp only at promoOk paidOk
    omega

theorem coveredExpires : Covered e.db := by
  obtain ⟨promoOk,paidOk⟩ := coveredUser h found
  have removed := expiresExact ok h found expires
  refine coveredRewritten h expires.users ?_ ?_
  · unfold coveredBy
    rw [expires.left,expires.lots id .promotional,expires.lots id .paid,removed]
    simp only [and_true,if_true,reduceCtorEq,and_false,if_false] at promoOk paidOk ⊢
    omega
  · intro j b other
    rw [expires.lots j b,if_neg (fun both => other both.1.symm)]
    omega

end

theorem fitsExpires {id user now e} (fits : Fits db) (expires : Expires db id user now e) : Fits e.db := by
  intro u
  have here := fits u
  have dueFloor := dueSumNonneg db.lots id now
  rw [expires.lots u .promotional]
  split <;> omega

theorem coveredDeducts {id amount now user e split} (ok : LotsOk db.lots) (h : Covered db) (fits : Fits db)
    (found : db.users.get? id = some user) (deducts : Deducts db id amount now user e split db') : Covered db' := by
  have later := coveredExpires ok h found deducts.expires
  have eFound : e.db.users.get? id = some e.user := by rw [deducts.expires.users id,if_pos rfl]
  obtain ⟨promoOk,paidOk⟩ := coveredUser later eFound
  have exactly := untrackedExact (expiresOk deducts.expires ok) (fitsExpires fits deducts.expires id) promoOk
  have promo := deducts.promo
  rw [exactly] at promo
  have enough := deducts.enough
  have paidFloor := trackedNonneg (expiresOk deducts.expires ok) id .paid
  refine coveredRewritten h deducts.users ?_ ?_
  · unfold coveredBy
    rw [deducts.lots id .promotional,deducts.lots id .paid]
    simp only [spentLots,if_true] at promoOk paidOk ⊢
    omega
  · intro j b other
    rw [deducts.lots j b,deducts.expires.lots j b,if_neg (fun both => other both.1.symm)]
    cases b <;> simp only [spentLots,if_neg (Ne.symm other)] <;> omega

theorem coveredEffect (ok : LotsOk db.lots) (h : Covered db) (fits : Fits db) (effect : Effect db db') : Covered db' := by
  cases effect with
  | granted grant lots => exact coveredGranted h grant lots
  | credited credits => exact coveredCredits ok h credits
  | expired found expires => exact coveredExpires ok h found expires
  | deducted found _ deducts => exact coveredDeducts ok h fits found deducts

theorem fitsEffect (ok : LotsOk db.lots) (later : LotsOk db'.lots) (covered : Covered db') (fits : Fits db)
    (effect : Effect db db') : Fits db' := by
  cases effect with
  | granted _ lots =>
    intro u
    rw [lots]
    exact fits u
  | @credited id _ _ _ _ credits =>
    intro u
    by_cases mine : u = id
    · subst u
      obtain ⟨_,_,_,_,users⟩ := credits.user
      have found : db'.users.get? id = some _ := (users id).trans (if_pos rfl)
      obtain ⟨promoOk,paidOk⟩ := coveredUser covered found
      have paidFloor := trackedNonneg later id .paid
      simp only at promoOk paidOk
      omega
    · have here := fits u
      have share := credits.share u .promotional
      simp only [creditShare,if_neg (Ne.symm mine)] at share
      rw [bookedTracked credits.booked ok]
      omega
  | expired _ expires => exact fitsExpires fits expires
  | @deducted id _ _ _ _ split _ _ _ deducts =>
    intro u
    have here := fitsExpires fits deducts.expires u
    have floor := trackedNonneg (expiresOk deducts.expires ok) id .promotional
    rw [deducts.lots u .promotional]
    simp only [spentLots]
    split <;> omega

theorem deductSafe (ok : LotsOk db.lots) (h : Covered db) (fits : Fits db) (id amount now) :
    decreaseUserQuotaWithSplit db id amount now ≠ .error .promotionalBalanceInvariant := by
  intro failed
  simp only [decreaseUserQuotaWithSplit,bindError,requireError,reduceCtorEq,and_false,false_or,requireOk] at failed
  obtain ⟨_,nonneg,failed⟩ := failed
  split at failed
  · exact pureError failed
  simp only [decreaseUserQuotaWithLots,bindError,rowError,requireError,reduceCtorEq,and_false,false_or,rowOk,requireOk,
    pureError,or_false,and_true,exists_false,not_not] at failed
  obtain ⟨user,found,_⟩ := failed
  have expires := expireSpec now ok found
  generalize expireUserPromotionLotsWithTx db id user now = e at *
  have later := coveredExpires ok h found expires
  have eFound : e.db.users.get? id = some e.user := by rw [expires.users id,if_pos rfl]
  obtain ⟨promoOk,_⟩ := coveredUser later eFound
  obtain ⟨_,taken⟩ := drawPromoSpec (expiresOk expires ok) id now e.user.promoQuota nonneg
  rw [untrackedExact (expiresOk expires ok) (fitsExpires fits expires id) promoOk] at taken
  omega

theorem refundSafe (sound : Sound cfg db) (h : Covered db) (orderId) : ¬ refundBlocked db orderId := by
  rintro ⟨_,_,total,found,_,owner,summed,_⟩
  obtain ⟨_,_⟩ := coveredUser h owner
  obtain ⟨_,_⟩ := leftTracked sound.linked sound.lots found
  have sum : total = paidLeft db.lots orderId + promoLeft db.lots orderId := by
    rw [removeTotalSum summed,Int.zero_add]
    exact (typeSumTotal (refundRows db.lots orderId)).symm
  have promo : removePromo ((orderLots db.lots orderId).filter refundLot) = promoLeft db.lots orderId :=
    removePromoSum (refundRows db.lots orderId)
  omega

theorem coveredGood (sound : Sound cfg db) (h : Covered db) (fits : Fits db) : LotsCovered db := by
  refine ⟨?_,?_,deductSafe sound.lots h fits,refundSafe sound h⟩
  · intro id user found
    rw [activeRemainingTracked sound.lots]
    exact (coveredUser h found).1
  · intro _ _ found
    rw [activeRemainingTracked sound.lots]
    exact (coveredUser h found).2

theorem goodCovered (sound : Sound cfg db) (good : LotsCovered db) : Covered db := by
  intro id b here
  obtain ⟨user,found,rfl⟩ := map_eq_some_iff.mp here
  have promo := good.promo id user found
  have paid := good.paid id user found
  rw [activeRemainingTracked sound.lots] at promo paid
  exact ⟨promo,paid⟩

/- What must be left for other lots when an order without lots is refunded, and that a
registration bonus is not negative. Nothing is asked of any other step. -/
def LeavesLots (cfg : Config) (db : Database) : LotOp → Prop
  | .insertUser email => (∃ db', Grants.insertUser cfg db email = .ok db') → 0 ≤ cfg.quotaForNewUser
  | .reconcileRefund orderId _ => ∀ order user, orderId ≠ "" → db.orders.get? orderId = some order →
      refundable order.status → orderLots db.lots orderId = [] → db.users.get? order.userId = some user →
      reversePromo order user + activeRemaining db.lots order.userId .promotional ≤ user.promoQuota ∧
        reversePaid order user + activeRemaining db.lots order.userId .paid ≤ user.quota - user.promoQuota
  | _ => True

theorem legacyCovered (db orderId order user now) : coveredBy (reconcileLegacyRefundWithTx db orderId order user now).lots order.userId
        (user.quota - reversePromo order user - reversePaid order user,user.promoQuota - reversePromo order user) ↔
      reversePromo order user + tracked db.lots order.userId .promotional ≤ user.promoQuota ∧
        reversePaid order user + tracked db.lots order.userId .paid ≤ user.quota - user.promoQuota := by
  simp only [coveredBy,reconcileLegacyRefundWithTx,setOrder,setBalance]
  omega

theorem coveredReverses {orderId order user now} (sound : Sound cfg db) (h : Covered db)
    (found : db.orders.get? orderId = some order) (owner : db.users.get? order.userId = some user)
    (reverses : Reverses db orderId order user now db') : Covered db' := by
  obtain ⟨promoOk,paidOk⟩ := coveredUser h owner
  have left := fun u b => reversedTracked sound.linked sound.lots found u b
  simp only [← reverses.lots] at left
  refine coveredRewritten h reverses.users ?_ ?_
  · unfold coveredBy
    rw [left order.userId .promotional,left order.userId .paid]
    simp only [leftShare,if_true] at promoOk paidOk ⊢
    omega
  · intro j b other
    rw [left j b]
    cases b <;> simp only [leftShare,if_neg (Ne.symm other)] <;> omega

theorem coveredSame (h : Covered db) (users : db'.users = db.users) (lots : db'.lots = db.lots) : Covered db' := by
  intro id b here
  rw [lots]
  refine h id b ?_
  rw [balances,← users]
  exact here

theorem refundCovers (sound : Sound cfg db) (h : Covered db) (orderId now) :
    Covered (lotStep cfg db (.reconcileRefund orderId now)) ↔ LeavesLots cfg db (.reconcileRefund orderId now) := by
  simp only [lotStep,LeavesLots,activeRemainingTracked sound.lots]
  constructor
  · intro covered order user named found can lotless owner
    rw [legacyRuns now named found can lotless owner] at covered
    have users := setBalanceUsers owner (user.quota - reversePromo order user - reversePaid order user)
      (user.promoQuota - reversePromo order user)
    refine (legacyCovered db orderId order user now).mp (covered order.userId _ ?_)
    exact (balancesRewritten users order.userId).trans (if_pos rfl)
  · intro leaves
    obtain ⟨_,done,same⟩ | same := commitCases db (reconcileRefund db orderId now)
    · rw [same]
      obtain ⟨order,found,refunds⟩ := refundSpec done
      cases refunds with
      | done => exact h
      | early | short => exact coveredSame h rfl rfl
      | @legacy user can lotless owner =>
        simp only [reconcileRefund,bindOk,requireOk] at done
        obtain ⟨_,named,_⟩ := done
        exact coveredRewritten h (setBalanceUsers owner _ _)
          ((legacyCovered db orderId order user now).mpr (leaves order user named found can lotless owner)) (fun _ _ _ => le_refl _)
      | reversed _ _ owner reverses => exact coveredReverses sound h found owner reverses
    · rw [same]
      exact h

theorem freshTracked (sound : Sound cfg db) (type) : tracked db.lots db.users.nextId type = 0 := by
  refine sumZero ?_
  intro id lot found
  have there := sound.owners id lot found
  have other : lot.userId ≠ db.users.nextId := by
    intro same
    rw [balances,same,getNextId] at there
    contradiction
  simp [owned,other]

theorem insertCovers (sound : Sound cfg db) (h : Covered db) (email) :
    Covered (lotStep cfg db (.insertUser email)) ↔ LeavesLots cfg db (.insertUser email) := by
  simp only [lotStep,LeavesLots]
  have promo := freshTracked sound .promotional
  have paid := freshTracked sound .paid
  cases done : Grants.insertUser cfg db email with
  | error => simpa [commit] using h
  | ok =>
    simp only [Grants.insertUser,bindOk,pureOk] at done
    obtain ⟨_,_,rfl⟩ := done
    simp only [commit,Except.ok.injEq,exists_eq',forall_const]
    constructor
    · intro covered
      have here := covered db.users.nextId (cfg.quotaForNewUser,cfg.quotaForNewUser)
        (by rw [balances,getAppend,if_pos rfl]; rfl)
      simp only [coveredBy,promo] at here
      exact here.1
    · intro _ id b here
      simp only [balances,getAppend] at here
      split at here
      · rename_i same
        subst id
        cases some.inj here
        simp only [coveredBy,promo,paid,freshUser]
        omega
      · exact h id b here

theorem fitsLess (fits : Fits db) (less : ∀ id, tracked db'.lots id .promotional ≤ tracked db.lots id .promotional) : Fits db' :=
  fun id => (less id).trans (fits id)

theorem fitsRefunds {orderId order now} (sound : Sound cfg db) (fits : Fits db)
    (found : db.orders.get? orderId = some order) (h : Refunds db orderId order now db') : Fits db' := by
  cases h with
  | done | early | short | legacy => exact fits
  | reversed _ _ _ reverses =>
    refine fitsLess fits ?_
    intro _
    have floor : 0 ≤ promoLeft db.lots orderId := by
      refine List.sum_nonneg ?_
      intro x mem
      obtain ⟨r,here,rfl⟩ := List.mem_map.mp mem
      have pos := (refundMem.mp here).2.2.1
      split <;> omega
    rw [reverses.lots,reversedTracked sound.linked sound.lots found]
    simp only [leftShare]
    split <;> omega

theorem fitsStep (sound : Sound cfg db) (fits : Fits db) (op) (later : Covered (lotStep cfg db op)) :
    Fits (lotStep cfg db op) := by
  have effect := (lotSteps sound op).effect
  have kept : LotOp.plain op → Fits (lotStep cfg db op) :=
    fun plain => fitsEffect sound.lots (soundLot db op sound).lots later fits (effect plain)
  cases op with
  | insertUser email =>
    refine fitsLess fits (fun id => le_of_eq ?_)
    obtain ⟨db',done,same⟩ | same := commitCases db (Grants.insertUser cfg db email)
    · simp only [Grants.insertUser,bindOk,pureOk] at done
      obtain ⟨_,_,rfl⟩ := done
      simp only [lotStep,same]
    · simp only [lotStep,same]
  | reconcileRefund orderId now =>
    obtain ⟨_,done,same⟩ | same := commitCases db (reconcileRefund db orderId now)
    · simp only [lotStep,same]
      obtain ⟨_,found,refunds⟩ := refundSpec done
      exact fitsRefunds sound fits found refunds
    · simp only [lotStep,same]
      exact fits
  | _ => exact kept trivial

theorem stepCovers (sound : Sound cfg db) (strong : Covered db ∧ Fits db) (op) :
    Covered (lotStep cfg db op) ↔ LeavesLots cfg db op := by
  have effect := (lotSteps sound op).effect
  have kept : LotOp.plain op → Covered (lotStep cfg db op) :=
    fun plain => coveredEffect sound.lots strong.1 strong.2 (effect plain)
  cases op with
  | insertUser email => exact insertCovers sound strong.1 email
  | reconcileRefund orderId now => exact refundCovers sound strong.1 orderId now
  | _ => exact ⟨fun _ => trivial,fun _ => kept trivial⟩

theorem lotlessTracked (start : BeforeLots cfg db) (id type) : tracked db.lots id type = 0 := by
  refine sumZero ?_
  intro lotId _ found
  rw [start.lotless lotId] at found
  contradiction

theorem coveredBefore (start : BeforeLots cfg db) (solvent : Solvent db) : Covered db ∧ Fits db := by
  refine ⟨?_,?_⟩
  · intro id b here
    obtain ⟨user,found,rfl⟩ := map_eq_some_iff.mp here
    obtain ⟨_,_⟩ := solvent id user found
    simp only [coveredBy,lotlessTracked start]
    omega
  · intro _
    rw [lotlessTracked start]
    decide

theorem coveredIffLeavesLots (cfg : Config) (db : Database) (ops : List LotOp) (start : BeforeLots cfg db) (solvent : Solvent db) :
    Always (lotStep cfg) LotsCovered db ops ↔ Along (lotStep cfg) (LeavesLots cfg) db ops := by
  have good : ∀ db op, Sound cfg db → Covered db ∧ Fits db →
      (LotsCovered (lotStep cfg db op) ↔ Covered (lotStep cfg db op)) := by
    intro db op sound strong
    have later := soundLot db op sound
    exact ⟨goodCovered later,fun covered => coveredGood later covered (fitsStep sound strong.2 op covered)⟩
  refine alwaysIffAlong (fun db op => soundLot db op) (fun db sound (strong : Covered db ∧ Fits db) => coveredGood sound strong.1 strong.2) ?_ ?_
    (soundBefore start) (coveredBefore start solvent)
  · intro db op sound strong covered
    have next := (good db op sound strong).mp covered
    exact ⟨next,fitsStep sound strong.2 op next⟩
  · intro db op sound strong
    exact (good db op sound strong).trans (stepCovers sound strong op)

def order (orderId sessionId : String) : LotOp :=
  .createCheckout 1 (.ofPayment "usd" 500 5000000 100 LotLedger.hundred) orderId (.created sessionId "" "" 0) 10

def topupRefund : List LotOp :=
  [.insertUser "a@example.com",order "np_1" "cs_1",.creditStripeTopupOrder "np_1" "" "" "cs_1" 20,
   .decreaseUserQuota 1 30 30,.reconcileRefund "np_1" 40]

theorem topupRefundCovered : Always (lotStep .shipped) LotsCovered Database.empty topupRefund := by
  refine (coveredIffLeavesLots .shipped Database.empty topupRefund (emptyBefore .shipped)
    (fun id user found => absurd found (by simp [Database.empty]))).mpr ⟨fun _ => le_refl 0,trivial,trivial,trivial,?_,trivial⟩
  intro _ _ _ _ _ lotless _
  exact absurd lotless (by decide)

def uncreditedRefund : List LotOp :=
  [.insertUser "a@example.com",order "np_1" "cs_1",.creditStripeTopupOrder "np_1" "" "" "cs_1" 20,
   order "np_2" "cs_2",.markOrderPaid "np_2" "" "cs_2" "" 30,.reconcileRefund "np_2" 40]

theorem uncreditedRefundUncovers : ¬ Always (lotStep .shipped) LotsCovered Database.empty uncreditedRefund := by
  intro covered
  have last := alwaysLast covered
  have cash : ((run (lotStep .shipped) Database.empty uncreditedRefund).users.get? 1).map
      (fun u => u.quota - u.promoQuota) = some 0 := by decide
  have lot : activeRemaining (run (lotStep .shipped) Database.empty uncreditedRefund).lots 1 .paid = 100 := by decide
  obtain ⟨user,found,_⟩ := map_eq_some_iff.mp cash
  have enough := last.paid 1 user found
  omega

end NovaPuraRouter.LotCoverage
