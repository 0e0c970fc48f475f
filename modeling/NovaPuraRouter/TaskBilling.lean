import NovaPuraRouter.RefundParts

/-! The bill of an asynchronous task on wallet funds: reserved before the submission,
settled after it, and paid back from the task row if the task fails later. The row carries
the settled amount and nothing of the split, so cash comes back. -/
namespace NovaPuraRouter.TaskBilling
open CreditLot LotBook LotSpec DeductSpec Grants Billing BillingSpec BillingExact BillingReturn RefundParts List
open Funding hiding preConsume settle refund

structure Task where
  userId : Nat
  tokenId : Nat
  quota : Int

inductive BillingFailure
  | negativePreConsume (quota : Int)
  | userQuotaSpent (left : Int)
  | userQuotaShort (left need : Int)
  | session (failure : Failure)

-- The user quota of the request is what the look-up before the session found.
def newBillingSession (cfg : Config) (db : Database) (info : RelayInfo) (quota : Int) (seen : Option Int) (now : Int) :
    Database × Except BillingFailure BillingSession :=
  if info.userQuota ≤ 0 then (db,.error (.userQuotaSpent info.userQuota)) else
  if info.userQuota - quota < 0 then (db,.error (.userQuotaShort info.userQuota quota)) else
    let started := preConsume cfg db info quota seen now
    (started.1,started.2.mapError .session)

def preConsumeBilling (cfg : Config) (db : Database) (info : RelayInfo) (quota : Int) (seen : Option Int) (now : Int) :
    Database × Except BillingFailure BillingSession :=
  if quota < 0 then (db,.error (.negativePreConsume quota)) else newBillingSession cfg db info quota seen now

-- A settlement that fails is logged, and the task carries the adjusted price all the same.
def relayTask (cfg : Config) (db : Database) (info : RelayInfo) (quota : Int) (actual : Nat) (seen : Option Int) (now later : Int) :
    Database × Except BillingFailure Task :=
  match preConsumeBilling cfg db { info with forcePreConsume := true } quota seen now with
  | (db',.error e) => (db',.error e)
  | (db',.ok s) => ((settle cfg db' s actual later).1,.ok ⟨info.userId,info.tokenId,actual⟩)

def taskAdjustFunding (cfg : Config) (db : Database) (task : Task) (delta now : Int) : Except Failure Database :=
  if 0 < delta then (decreaseUserQuotaWithSplit db task.userId delta now).map (·.2)
  else increaseUserCashQuota cfg db task.userId (-delta) false

def taskAdjustTokenQuota (cfg : Config) (db : Database) (task : Task) (delta : Int) : Database :=
  if task.tokenId = 0 ∨ delta = 0 ∨ db.tokens.get? task.tokenId = none then db else
    commit db (if 0 < delta then decreaseTokenQuota cfg db task.tokenId delta else increaseTokenQuota cfg db task.tokenId (-delta))

def refundTaskQuota (cfg : Config) (db : Database) (task : Task) (now : Int) : Database :=
  if task.quota = 0 then db else match taskAdjustFunding cfg db task (-task.quota) now with
    | .error _ => db
    | .ok db' => taskAdjustTokenQuota cfg db' task (-task.quota)

structure WalletRestored (userId : Nat) (db db' : Database) : Prop where
  quota : observedQuota db' userId = observedQuota db userId
  promo : promoOf db' userId = promoOf db userId
  lots : ∀ id, id ≠ 0 → remainingOf db'.lots id = remainingOf db.lots id

/- The price was taken from untracked cash alone, and the settlement of a changed price
went through: the wallet held a higher one, or the rest of a lower one fits into it. -/
structure Repayable (db : Database) (userId : Nat) (user : User) (quota actual : Int) : Prop where
  untracked : 0 < actual → Bare db userId
  held : quota < actual → actual ≤ user.quota ∧ 0 ≤ user.promoQuota
  room : actual < quota → user.quota - actual ≤ maxQuota

structure Missing (userId : Nat) (db db' : Database) (quota promo : Int) (lotted : Nat → Int) : Prop where
  quota : observedQuota db' userId = (observedQuota db userId).map (· + -quota)
  promo : promoOf db' userId = (promoOf db userId).map (· + -promo)
  lots : ∀ id, id ≠ 0 → remainingOf db'.lots id = remainingOf db.lots id - lotted id

theorem missingRestored {userId db db' user quota promo lotted} (owner : db.users.get? userId = some user)
    (h : Missing userId db db' quota promo lotted) :
    WalletRestored userId db db' ↔ quota = 0 ∧ promo = 0 ∧ ∀ id, id ≠ 0 → lotted id = 0 := by
  have something : observedQuota db userId = some (user.quota + pendingUser db userId) := by rw [observedQuota,owner]; rfl
  have promoSome : promoOf db userId = .some user.promoQuota := by rw [promoOf,owner]; rfl
  constructor
  · intro back
    have nothing := h.quota.symm.trans back.quota
    have nonePromo := h.promo.symm.trans back.promo
    rw [something] at nothing
    rw [promoSome] at nonePromo
    simp only [Option.map_some,Option.some.injEq] at nothing nonePromo
    refine ⟨by omega,by omega,?_⟩
    intro id real
    have left := (h.lots id real).symm.trans (back.lots id real)
    omega
  · rintro ⟨rfl,rfl,free⟩
    refine ⟨?_,?_,?_⟩
    · rw [h.quota,neg_zero,mapAddZero]
    · rw [h.promo,neg_zero,mapAddZero]
    · intro id real
      rw [h.lots id real,free id real,sub_zero]

theorem missingTrans {userId a b c q p l q' p' l'} (h : Missing userId a b q p l) (k : Missing userId b c q' p' l') :
    Missing userId a c (q + q') (p + p') (fun id => l id + l' id) := by
  refine ⟨by rw [k.quota,h.quota,mapAddAdd,← Int.neg_add],by rw [k.promo,h.promo,mapAddAdd,← Int.neg_add],?_⟩
  intro id real
  rw [k.lots id real,h.lots id real]
  omega

theorem missingNone (userId db) : Missing userId db db 0 0 (fun _ => 0) :=
  ⟨by rw [neg_zero,mapAddZero],by rw [neg_zero,mapAddZero],fun _ _ => (sub_zero _).symm⟩

theorem missingCast {userId db db' q p l q' p' l'} (h : Missing userId db db' q p l) (quota : q = q') (promo : p = p')
    (lots : ∀ id, l id = l' id) : Missing userId db db' q' p' l' := by
  have same : l = l' := funext lots
  subst quota promo same
  exact h

theorem missingToken (cfg) (info : RelayInfo) (db n) : Missing info.userId db (moveToken cfg db info.tokenId n) 0 0 (fun _ => 0) := by
  have ⟨users,lots⟩ := tokenKept cfg db info.tokenId n
  refine ⟨(tokenCharged cfg info db n).quota,?_,?_⟩
  · rw [neg_zero,mapAddZero,promoOf,users]
    rfl
  · intro _ _
    rw [lots,sub_zero]

variable {info : RelayInfo} {db db' : Database} {cfg : Config} {split : QuotaWalletSplit}

theorem missingHeld {held n} (hold : TokenHeld info db held n) : Missing info.userId db held 0 0 (fun _ => 0) := by
  refine ⟨hold.charged.quota,?_,?_⟩
  · rw [neg_zero,mapAddZero,promoOf,hold.users]
    rfl
  · intro _ _
    rw [hold.lots,sub_zero]

theorem missingPaid {delta paid} (h : (if 0 < delta then
    decreaseTokenQuota cfg db info.tokenId delta else increaseTokenQuota cfg db info.tokenId (-delta)) = .ok paid) :
    Missing info.userId db paid 0 0 (fun _ => 0) := by
  split at h
  · simp only [decreaseTokenQuota,bindOk,pureOk] at h
    obtain ⟨_,_,rfl⟩ := h
    exact missingToken cfg info db (-delta)
  · simp only [increaseTokenQuota,bindOk,pureOk] at h
    obtain ⟨_,_,rfl⟩ := h
    exact missingToken cfg info db (-delta)

theorem missingSettled {delta paid} (h : settleToken cfg db info delta = .ok paid) : Missing info.userId db paid 0 0 (fun _ => 0) := by
  unfold settleToken at h
  split at h
  · cases pureOk.mp h
    exact missingNone info.userId _
  · exact missingPaid h

theorem missingAdjusted (cfg) (info : RelayInfo) (db quota delta) :
    Missing info.userId db (taskAdjustTokenQuota cfg db ⟨info.userId,info.tokenId,quota⟩ delta) 0 0 (fun _ => 0) := by
  unfold taskAdjustTokenQuota
  split
  · exact missingNone info.userId db
  obtain ⟨_,done,same⟩ | same := commitCases db (if 0 < delta then decreaseTokenQuota cfg db info.tokenId delta
    else increaseTokenQuota cfg db info.tokenId (-delta))
  · rw [same]
    exact missingPaid done
  · rw [same]
    exact missingNone info.userId db

theorem missingRefunded {cfg} {info : RelayInfo} {db charged quota promo lotted} (actual : Nat) (now : Int)
    (h : Missing info.userId db charged quota promo lotted) :
    Missing info.userId db (refundTaskQuota cfg charged ⟨info.userId,info.tokenId,actual⟩ now) (quota - actual) promo lotted := by
  unfold refundTaskQuota
  split
  · rename_i zero
    exact missingCast h (by simp only at zero; omega) rfl (fun _ => rfl)
  obtain ⟨paid,gave⟩ := cashAlways cfg charged info.userId (Int.natCast_nonneg actual)
  simp only [taskAdjustFunding,if_neg (by omega : ¬ 0 < -(actual : Int)),neg_neg,gave]
  have ⟨cash,lots⟩ := cashCharged info gave
  have given : Missing info.userId charged paid (-actual) 0 (fun _ => 0) := by
    refine ⟨by rw [neg_neg]; exact cash.quota,?_,?_⟩
    · rw [neg_zero,mapAddZero,cashPromo gave]
    · intro id _
      rw [lots,sub_zero]
  refine missingCast (missingTrans h (missingTrans given (missingAdjusted cfg info paid actual _))) ?_ ?_ ?_
  · omega
  · omega
  · intro _
    omega

theorem bareSame {db db' userId} (users : db'.users = db.users) (lots : db'.lots = db.lots) : Bare db' userId ↔ Bare db userId :=
  ⟨fun h => ⟨users ▸ h.promo,lots ▸ h.lots⟩,fun h => ⟨users ▸ h.promo,lots ▸ h.lots⟩⟩

section Deduction
variable {db db' : Database} {info : RelayInfo} {user : User} {split : QuotaWalletSplit} {amount now : Int}

section
variable (ok : LotsOk db.lots) (pos : 0 < amount) (found : db.users.get? info.userId = some user)
  (unexpired : Unexpired db.lots info.userId now) (h : decreaseUserQuotaWithSplit db info.userId amount now = .ok (split,db'))
include ok pos found unexpired h

theorem deductRow :
    (amount ≤ user.quota ∧ split.promo ≤ user.promoQuota) ∧ WellSplit split ∧ split.promo + split.cash = amount ∧
      ∃ row, db'.users.get? info.userId = some row ∧ row.quota = user.quota - amount ∧ row.promoQuota = user.promoQuota - split.promo := by
  obtain ⟨_,_⟩ | ⟨_,_,there,deducts⟩ := deductCases ok h
  · omega
  cases found.symm.trans there
  rw [noneDue unexpired] at deducts
  have cash := deducts.cash
  exact ⟨⟨deducts.enough,deducts.covered⟩,deductsWell deducts,by omega,_,by rw [deducts.users info.userId,if_pos rfl],rfl,rfl⟩

theorem deductMissing :
    Missing info.userId db db' amount split.promo (fun id => lotAmounts id split.allocations) := by
  have only := deductOnly ok pos found unexpired h
  have charged := deductCharged ok h
  obtain ⟨_,there,promo⟩ := only.user
  rw [only.expired,add_zero] at charged
  refine ⟨charged.quota,?_,fun id real => takesRemaining only real⟩
  rw [promoOf,promoOf,there,found]
  exact congrArg some promo

end

theorem bareDeducts (ok : LotsOk db.lots) (nonneg : 0 < amount) (found : db.users.get? info.userId = some user)
    (unexpired : Unexpired db.lots info.userId now) (bare : Bare db info.userId) (enough : amount ≤ user.quota)
    (promo : 0 ≤ user.promoQuota) : ∃ r, decreaseUserQuotaWithSplit db info.userId amount now = .ok r := by
  refine coveredDeduct ok nonneg ?_
  simp only [WalletCovers,found,noneDue unexpired,bare.lots]
  exact ⟨enough,promo,by decide⟩

end Deduction

structure Reserved (s : BillingSession) (info : RelayInfo) (quota : Int) : Prop where
  live : s.settled = false ∧ s.fundingSettled = false
  who : s.info = info ∧ s.funding.userId = info.userId
  quota : s.preConsumedQuota = quota ∧ s.funding.consumed = quota

structure Started (db : Database) (info : RelayInfo) (user : User) (quota : Int) (db' : Database) (s : BillingSession) : Prop where
  session : Reserved s info quota
  lots : LotsOk db'.lots
  well : WellSplit s.funding.split
  whole : s.funding.split.promo + s.funding.split.cash = quota
  row : ∃ row, db'.users.get? info.userId = some row ∧ row.quota = user.quota - quota ∧
    row.promoQuota = user.promoQuota - s.funding.split.promo
  missing : Missing info.userId db db' quota s.funding.split.promo (fun id => lotAmounts id s.funding.split.allocations)
  spent : 0 < quota → (OnlyCash s.funding.split ↔ Bare db info.userId)
  bare : OnlyCash s.funding.split ∧ Bare db' info.userId ↔ Bare db info.userId
  listed : ∃ promos paids, Listed s.funding.split promos paids
  unexpired : ∀ {t}, Unexpired db.lots info.userId t → Unexpired db'.lots info.userId t
  back : ∀ {t}, Unexpired db.lots info.userId t → ∀ a ∈ s.funding.split.allocations, a.lotId ≠ 0 →
    ∃ lot, Takesback db'.lots info.userId t s.funding.split.allocations a lot

theorem stillBare {id now user} (ok : LotsOk db.lots)
    (found : db.users.get? id = some user) (only : TakesOnly db id now user split db') (bare : Bare db id) : Bare db' id := by
  have ⟨unspent,free⟩ := only.bare.mpr bare
  obtain ⟨_,there,_⟩ := only.user
  have nothing := bare.promo user found
  refine ⟨?_,?_⟩
  · intro _ here
    cases there.symm.trans here
    omega
  · intro type
    rw [bookedTracked only.booked ok,(usageTracked id now only.positive).2.mpr free type,bare.lots type]
    rfl

theorem startedOf {cfg db db' user info quota now seen s} (ok : LotsOk db.lots)
    (found : db.users.get? info.userId = some user) (unexpired : Unexpired db.lots info.userId now) (nonneg : 0 ≤ quota)
    (forced : effectiveQuota cfg info quota = quota) (h : preConsume cfg db info quota seen now = (db',.ok s)) :
    Started db info user quota db' s := by
  have running := runningStart ok h
  have lessened := (levelStart ok found unexpired h).1
  have still := fun {t} => @unexpiredStill db user info _ _ t ok running lessened
  have back := fun {t} (due : Unexpired db.lots info.userId t) a mem real =>
    @splitBack db user info _ _ t ok running lessened due a mem real
  obtain ⟨held,holds,_,rfl,start⟩ := preConsumeCases h
  rw [forced] at running start holds
  have hold := holdTokenSpec holds
  have whole := running.whole
  have part : tokenPart quota = quota := by
    unfold tokenPart
    split <;> omega
  simp only [begun,part] at whole
  have heldOk : LotsOk held.lots := hold.lots ▸ ok
  have heldFound : held.users.get? info.userId = some user := hold.users ▸ found
  have same := @bareSame db held info.userId hold.users hold.lots
  have kept := missingHeld hold
  obtain ⟨_,rfl,rfl⟩ | ⟨large,split,deducted,rfl⟩ := start
  · have zero : quota = 0 := by omega
    subst zero
    exact ⟨⟨⟨rfl,rfl⟩,⟨rfl,rfl⟩,⟨forced,rfl⟩⟩,running.lots,running.split,whole,⟨user,heldFound,by omega,(sub_zero _).symm⟩,kept,
      fun pos => absurd pos (lt_irrefl 0),
      ⟨fun h => same.mp h.2,fun h => ⟨⟨rfl,forall_mem_nil _⟩,same.mpr h⟩⟩,
      ⟨[],[],rfl,rfl,forall_mem_nil _,List.Pairwise.nil⟩,still,back⟩
  · have heldUnexpired : Unexpired held.lots info.userId now := hold.lots ▸ unexpired
    have only := deductOnly heldOk large heldFound heldUnexpired deducted
    obtain ⟨_,_,_,row⟩ := deductRow heldOk large heldFound heldUnexpired deducted
    have spent : OnlyCash split ↔ Bare db info.userId := only.bare.trans same
    refine ⟨⟨⟨rfl,rfl⟩,⟨rfl,rfl⟩,⟨forced,rfl⟩⟩,running.lots,running.split,whole,row,?_,fun _ => spent,?_,
      deductListed heldOk large deducted,still,back⟩
    · exact missingCast (missingTrans kept (deductMissing heldOk large heldFound heldUnexpired deducted)) (zero_add _)
        (zero_add _) (fun _ => zero_add _)
    · exact ⟨fun h => spent.mp h.1,fun h => ⟨spent.mpr h,stillBare heldOk heldFound only (same.mpr h)⟩⟩

theorem restoreMissing {row now} (well : WellSplit split)
    (found : db.users.get? info.userId = some row) (h : restoreUserQuotaSplit db info.userId split now = .ok db') :
    Missing info.userId db db' (-(split.promo + split.cash)) (-split.promo) (fun id => -lotAmounts id split.allocations) := by
  have returns := restoreExact well h
  refine ⟨?_,?_,?_⟩
  · rw [neg_neg]
    exact (restoreCharged well found h).quota
  · rw [promoOf,promoOf,returns.users row found info.userId,if_pos rfl,found,neg_neg]
    rfl
  · intro _ real
    rw [bookedRemaining returns.booked real,restoreLotSum]
    omega

theorem emptyOnlyCash {split} (well : WellSplit split) (zero : split.promo + split.cash = 0) : OnlyCash split := by
  have ⟨_,_⟩ := wellNonneg well
  rw [OnlyCash,wellEmpty well zero]
  exact ⟨by omega,forall_mem_nil _⟩

theorem settleWallet {quota actual later s} (reserved : Reserved s info quota) :
    (∀ e, Funding.settle db' s.funding (actual - quota) later = .error e → (settle cfg db' s actual later).1 = db') ∧
      ∀ f taken, Funding.settle db' s.funding (actual - quota) later = .ok (f,taken) →
        Missing info.userId taken (settle cfg db' s actual later).1 0 0 (fun _ => 0) := by
  unfold settle settleFunding
  simp only [reserved.live.1,reserved.live.2,reserved.quota.1,reserved.who.1,Bool.false_eq_true,if_false]
  split
  · rename_i zero
    rw [zero]
    refine ⟨fun _ _ => rfl,?_⟩
    intro f taken paid
    cases pureOk.mp paid
    exact missingNone info.userId db'
  · refine ⟨?_,?_⟩
    · intro e failed
      rw [failed]
    · intro f taken paid
      rw [paid]
      simp only
      cases token : settleToken cfg taken info (actual - quota) with
      | error => exact missingNone info.userId taken
      | ok => exact missingSettled token

section Settlement
variable {cfg : Config} {db db' : Database} {user : User} {info : RelayInfo} {quota later : Int} {actual : Nat} {s : BillingSession}

def UndoneIff (db : Database) (info : RelayInfo) (charged : Database) (actual : Int) (condition : Prop) : Prop :=
  ∃ quota promo lotted, Missing info.userId db charged quota promo lotted ∧
    (quota = actual ∧ promo = 0 ∧ (∀ id, id ≠ 0 → lotted id = 0) ↔ condition)

theorem failedUndone {e condition} (started : Started db info user quota db' s) (differs : quota ≠ actual)
    (failed : Funding.settle db' s.funding (actual - quota) later = .error e) (unmet : ¬ condition) :
    UndoneIff db info (settle cfg db' s actual later).1 actual condition := by
  rw [(settleWallet started.session).1 e failed]
  exact ⟨quota,_,_,started.missing,fun h => absurd h.1 differs,fun h => absurd h unmet⟩

theorem evenUndone (started : Started db info user actual db' s) :
    UndoneIff db info (settle cfg db' s actual later).1 actual (Repayable db info.userId user actual actual) := by
  have same : (settle cfg db' s actual later).1 = db' := by
    simp only [settle,started.session.live.1,started.session.quota.1,sub_self,Bool.false_eq_true,if_false,if_true]
  rw [same]
  refine ⟨actual,_,_,started.missing,?_⟩
  have spent : OnlyCash s.funding.split ↔ (0 < (actual : Int) → Bare db info.userId) := by
    by_cases pos : 0 < (actual : Int)
    · rw [started.spent pos]
      exact ⟨fun h _ => h,fun h => h pos⟩
    · have whole := started.whole
      exact ⟨fun _ h => absurd h pos,fun _ => emptyOnlyCash started.well (by omega)⟩
  constructor
  · intro h
    exact ⟨spent.mp ((onlyCashIff started.well).mpr h.2),fun more => absurd more (lt_irrefl _),fun less => absurd less (lt_irrefl _)⟩
  · intro h
    exact ⟨rfl,(onlyCashIff started.well).mp (spent.mpr h.untracked)⟩

section
variable (started : Started db info user quota db' s)
include started

section
variable (unexpired : Unexpired db.lots info.userId later)
include unexpired

theorem raisedUndone (more : quota < actual) :
    UndoneIff db info (settle cfg db' s actual later).1 actual (Repayable db info.userId user quota actual) := by
  obtain ⟨_,found,_⟩ := started.row
  have due := started.unexpired unexpired
  obtain ⟨promoFloor,cashFloor⟩ := wellNonneg started.well
  have whole := started.whole
  have pos : 0 < (actual : Int) - quota := by omega
  have above : 0 < (actual : Int) := by omega
  cases result : decreaseUserQuotaWithSplit db' info.userId (actual - quota) later with
  | error e =>
    have failed : Funding.settle db' s.funding (actual - quota) later = .error e := by
      simp only [Funding.settle,if_neg (ne_of_gt pos),if_pos pos,started.session.who.2,result]
      rfl
    refine failedUndone started (ne_of_lt more) failed ?_
    intro repayable
    obtain ⟨⟨unspent,_⟩,bare⟩ := started.bare.mpr (repayable.untracked above)
    obtain ⟨enough,promoHeld⟩ := repayable.held more
    obtain ⟨r,done⟩ := bareDeducts started.lots pos found due bare (by omega) (by omega)
    cases result.symm.trans done
  | ok r =>
    obtain ⟨split,taken⟩ := r
    have paid : ∃ f, Funding.settle db' s.funding (actual - quota) later = .ok (f,taken) := by
      simp only [Funding.settle,if_neg (ne_of_gt pos),if_pos pos,started.session.who.2,result]
      exact ⟨_,rfl⟩
    obtain ⟨f,paid⟩ := paid
    have only := deductOnly started.lots pos found due result
    obtain ⟨⟨enough,covered⟩,well,_,_⟩ := deductRow started.lots pos found due result
    have second := deductMissing started.lots pos found due result
    have both := onlyCashBoth started.well well
    have bare : OnlyCash s.funding.split ∧ OnlyCash split ↔ Bare db info.userId := by
      rw [← started.bare]
      exact and_congr_right (fun _ => only.bare)
    refine ⟨actual,s.funding.split.promo + split.promo,
      fun id => lotAmounts id s.funding.split.allocations + lotAmounts id split.allocations,?_,?_⟩
    · exact missingCast (missingTrans (missingTrans started.missing second) ((settleWallet started.session).2 f taken paid))
        (by omega) (add_zero _) (fun _ => add_zero _)
    · constructor
      · rintro ⟨_,nothing⟩
        obtain ⟨first,last⟩ := both.mp nothing
        exact ⟨fun _ => bare.mp ⟨first,last⟩,fun _ => ⟨by omega,by omega⟩,fun less => by omega⟩
      · intro repayable
        exact ⟨rfl,both.mpr (bare.mpr (repayable.untracked above))⟩

theorem loweredUndone (less : actual < quota) :
    UndoneIff db info (settle cfg db' s actual later).1 actual (Repayable db info.userId user quota actual) := by
  obtain ⟨row,found,_⟩ := started.row
  have whole := started.whole
  have neg : ¬ 0 < (actual : Int) - quota := by omega
  have rest : min (-((actual : Int) - quota)) s.funding.consumed = quota - actual := by
    rw [started.session.quota.2]
    omega
  have pos : 0 < quota - actual := by omega
  have parts := takeWalletRefundParts started.well.summed pos
  have total := (@takeWalletRefundSpec s.funding.split started.well.summed (quota - actual)).2
  have promoSum := parts.promo
  have cashSum := parts.cash
  have runs := @restoreIff db' info.userId _ later row parts.wellGiven (by omega) found
  rw [and_iff_right (partTakesback parts (started.back unexpired))] at runs
  have kept : OnlyCash (takeWalletRefund s.funding.split (quota - actual)).2 ↔ (0 < (actual : Int) → Bare db info.userId) := by
    by_cases something : 0 < (actual : Int)
    · obtain ⟨_,_,listed⟩ := started.listed
      rw [keptOnlyCash started.well listed pos (by omega),started.spent (by omega)]
      exact ⟨fun h _ => h,fun h => h something⟩
    · exact ⟨fun _ h => absurd h something,fun _ => emptyOnlyCash parts.wellKept (by omega)⟩
  cases result : restoreUserQuotaSplit db' info.userId (takeWalletRefund s.funding.split (quota - actual)).1 later with
  | error e =>
    have failed : Funding.settle db' s.funding (actual - quota) later = .error e := by
      simp only [Funding.settle,if_neg (by omega : ¬ (actual : Int) - quota = 0),if_neg neg,started.session.who.2,rest,result]
      rfl
    refine failedUndone started (by omega) failed ?_
    intro repayable
    have room := repayable.room less
    obtain ⟨restored,done⟩ := runs.mpr (by omega)
    cases result.symm.trans done
  | ok restored =>
    have room := runs.mp ⟨restored,result⟩
    have paid : ∃ f, Funding.settle db' s.funding (actual - quota) later = .ok (f,restored) := by
      simp only [Funding.settle,if_neg (by omega : ¬ (actual : Int) - quota = 0),if_neg neg,started.session.who.2,rest,result]
      exact ⟨_,rfl⟩
    obtain ⟨f,paid⟩ := paid
    refine ⟨actual,(takeWalletRefund s.funding.split (quota - actual)).2.promo,
      fun id => lotAmounts id (takeWalletRefund s.funding.split (quota - actual)).2.allocations,?_,?_⟩
    · refine missingCast (missingTrans (missingTrans started.missing (restoreMissing parts.wellGiven found result))
        ((settleWallet started.session).2 f restored paid)) ?_ ?_ ?_
      · omega
      · omega
      · intro id
        have lots := parts.lots id
        omega
    · rw [← onlyCashIff parts.wellKept,kept]
      exact ⟨fun h => ⟨h.2,fun more => by omega,fun _ => by omega⟩,fun h => ⟨rfl,h.untracked⟩⟩

theorem settledUndone :
    UndoneIff db info (settle cfg db' s actual later).1 actual (Repayable db info.userId user quota actual) := by
  rcases lt_trichotomy quota actual with more | rfl | less
  · exact raisedUndone started unexpired more
  · exact evenUndone started
  · exact loweredUndone started unexpired less

end

end

end Settlement

theorem relayTaskOk {cfg db info quota actual seen now later charged task}
    (h : relayTask cfg db info quota actual seen now later = (charged,.ok task)) :
    0 ≤ quota ∧ task = ⟨info.userId,info.tokenId,actual⟩ ∧ ∃ db' s,
      preConsume cfg db { info with forcePreConsume := true } quota seen now = (db',.ok s) ∧ charged = (settle cfg db' s actual later).1 := by
  unfold relayTask at h
  split at h
  · cases (Prod.mk.inj h).2
  rename_i db' s started
  obtain ⟨same,row⟩ := Prod.mk.inj h
  unfold preConsumeBilling newBillingSession at started
  split at started
  · cases (Prod.mk.inj started).2
  rename_i nonneg
  split at started
  · cases (Prod.mk.inj started).2
  split at started
  · cases (Prod.mk.inj started).2
  cases result : preConsume cfg db { info with forcePreConsume := true } quota seen now with
  | mk first outcome =>
    rw [result] at started
    cases outcome with
    | error => cases (Prod.mk.inj started).2
    | ok =>
      obtain ⟨rfl,sameSession⟩ := Prod.mk.inj started
      cases sameSession
      exact ⟨by omega,(Except.ok.inj row).symm,first,s,rfl,same.symm⟩

/- A task charged to the wallet that fails gets its price back as cash. The wallet is what
it was before the charge, promotional credit and lots included, if and only if the price was
settled and had been taken from untracked cash alone. -/
theorem failedTaskRestored (cfg : Config) (db : Database) (info : RelayInfo) (quota : Int) (actual : Nat) (seen : Option Int)
    (now later failed : Int) {user charged task} (ok : LotsOk db.lots) (owner : db.users.get? info.userId = some user)
    (unexpired : Unexpired db.lots info.userId now ∧ Unexpired db.lots info.userId later)
    (submitted : relayTask cfg db info quota actual seen now later = (charged,.ok task)) :
    WalletRestored info.userId db (refundTaskQuota cfg charged task failed) ↔ Repayable db info.userId user quota actual := by
  obtain ⟨nonneg,rfl,db',s,reserved,rfl⟩ := relayTaskOk submitted
  have forced : effectiveQuota cfg { info with forcePreConsume := true } quota = quota := by simp [effectiveQuota,shouldTrust]
  have started := @startedOf cfg db db' user { info with forcePreConsume := true } quota now seen s ok owner unexpired.1 nonneg
    forced reserved
  obtain ⟨_,_,_,missing,condition⟩ := @settledUndone cfg db db' user _ quota later actual s started unexpired.2
  have refunded := @missingRefunded cfg _ db _ _ _ _ actual failed missing
  refine (missingRestored owner refunded).trans (Iff.trans ?_ condition)
  rw [Int.sub_eq_zero]

theorem loweredTaskRestored : ∃ charged task, relayTask .shipped funded caller 10 7 (some 500) 10 20 = (charged,.ok task) ∧
    WalletRestored 1 funded (refundTaskQuota .shipped charged task 30) := by
  refine ⟨_,_,rfl,?_⟩
  refine (failedTaskRestored .shipped funded caller 10 7 (some 500) 10 20 30 fundedOk rfl
    ⟨fundedUnexpired 10,fundedUnexpired 20⟩ rfl).mpr ⟨fun _ => ⟨?_,?_⟩,by decide,by decide⟩
  · intro _ found
    cases found
    decide
  · intro type
    cases type <;> rfl

theorem hundred : (0 : Int) < 100 := by decide

def gifted : Database := run (WalletOps.lotStep .shipped) Database.empty
  [.insertUser "a@example.com",.increaseUserPromoQuota 1 800,.insertToken ⟨1,2000,0,false⟩,
   .createCheckout 1 (.ofPayment "usd" 500 5000000 100 hundred) "np_1" (.created "cs_1" "" "" 0) 10,
   .creditStripeTopupOrder "np_1" "" "" "cs_1" 20]

def giftedCaller : RelayInfo := ⟨1,1,false,false,false,900,2000⟩

theorem giftedLots {id lot} (found : gifted.lots.get? id = some lot) : id = 1 ∧ lot = ⟨1,"np_1",.paid,100,100,"usd",500,0,.active⟩ := by
  have mem := Table.getMem.mp found
  cases mem_singleton.mp mem
  exact ⟨rfl,rfl⟩

theorem giftTurnedIntoCash : LotsOk gifted.lots ∧ (∀ t, Unexpired gifted.lots 1 t) ∧
    ∃ charged task, relayTask .shipped gifted giftedCaller 850 850 (some 2000) 30 40 = (charged,.ok task) ∧
      (observedQuota gifted 1,promoOf gifted 1,remainingOf gifted.lots 1) = (some 900,some 800,100) ∧
      (observedQuota (refundTaskQuota .shipped charged task 50) 1,promoOf (refundTaskQuota .shipped charged task 50) 1,
        remainingOf (refundTaskQuota .shipped charged task 50).lots 1) = (some 900,some 0,50) ∧
      ¬ WalletRestored 1 gifted (refundTaskQuota .shipped charged task 50) := by
  refine ⟨?_,?_,_,_,rfl,by decide,by decide,?_⟩
  · intro id lot found
    obtain ⟨rfl,rfl⟩ := giftedLots found
    exact ⟨by decide,by decide,by decide,by decide⟩
  · intro t _ _ found _ promotional
    obtain ⟨rfl,rfl⟩ := giftedLots found
    cases promotional
  · intro restored
    exact absurd restored.promo (by decide)

end NovaPuraRouter.TaskBilling
