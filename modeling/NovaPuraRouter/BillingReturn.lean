import NovaPuraRouter.BillingExact

/-! A billed request that is given back. The session restores the split of its first
reservation; whatever a later call took, and cash in place of promotional credit,
stays. Only lots that the user can lose by expiry are kept out by hypothesis. -/
namespace NovaPuraRouter.BillingReturn
open CreditLot LotBook LotSpec DeductSpec Grants Billing BillingSpec BillingExact List Option
open Funding hiding preConsume settle refund

def promoOf (db : Database) (id : Nat) : Option Int := (db.users.get? id).map (·.promoQuota)

structure BackAsBefore (info : RelayInfo) (db db' : Database) : Prop where
  quota : observedQuota db' info.userId = observedQuota db info.userId
  promo : promoOf db' info.userId = promoOf db info.userId
  lots : ∀ id, id ≠ 0 → remainingOf db'.lots id = remainingOf db.lots id
  token : observedToken db' info.tokenId = observedToken db info.tokenId

def Unexpired (lots : Lots) (userId : Nat) (now : Int) : Prop := ∀ id lot, lots.get? id = some lot → lot.userId = userId →
  lot.balanceType = .promotional → 0 < lot.remainingQuota → 0 < lot.expiresAt → now < lot.expiresAt

structure Bare (db : Database) (userId : Nat) : Prop where
  promo : ∀ user, db.users.get? userId = some user → user.promoQuota ≤ 0
  lots : ∀ type, tracked db.lots userId type = 0

/- A raise of the reservation is harmless only where the wallet refuses, or where the token
refuses and the wallet took nothing but untracked cash. -/
def Harmless (cfg : Config) (c : Course) (call : ReserveCall) : Prop :=
  let delta := call.target - c.session.preConsumedQuota
  c.session.raises call.target → ∀ split taken,
    decreaseUserQuotaWithSplit c.db c.session.funding.userId delta call.now = .ok (split,taken) →
    (∃ e, reserveToken cfg taken c.session.info delta call.seen = .error e) ∧ Bare c.db c.session.funding.userId

def Room (info : RelayInfo) (e : Int) (c : Course) : Prop := ∀ user, c.db.users.get? info.userId = some user →
  0 < e → user.quota + e ≤ maxQuota

def lotAmounts (id : Nat) (allocations : List BalanceLotAllocation) : Int :=
  (allocations.map (fun a => if a.lotId = id then a.amount else 0)).sum

@[simp] theorem lotAmountsCons (id a rest) : lotAmounts id (a :: rest) = (if a.lotId = id then a.amount else 0) + lotAmounts id rest := rfl

theorem lotAmountsNonneg {allocations} (positive : ∀ a ∈ allocations, 0 < a.amount) (id) : 0 ≤ lotAmounts id allocations := by
  refine sum_nonneg ?_
  intro x mem
  obtain ⟨a,here,rfl⟩ := List.mem_map.mp mem
  have := positive a here
  split <;> omega

theorem lotAmountsMem {allocations a} (positive : ∀ a ∈ allocations, 0 < a.amount) (mem : a ∈ allocations) :
    a.amount ≤ lotAmounts a.lotId allocations := by
  induction allocations with
  | nil => cases mem
  | cons b _ ih =>
    have later := fun x here => positive x (mem_cons_of_mem b here)
    have here := positive b mem_cons_self
    rw [lotAmountsCons]
    rcases mem_cons.mp mem with rfl | mem
    · have := lotAmountsNonneg later a.lotId
      omega
    · have := ih later mem
      split <;> omega

theorem usageLotSum (userId now id allocations) : lotSum id (allocations.map (usageRow userId now)) = -lotAmounts id allocations := by
  induction allocations with
  | nil => rfl
  | cons _ _ ih =>
    rw [map_cons,lotSumCons,ih,lotAmountsCons]
    simp only [usageRow]
    split <;> omega

theorem restoreLotSum (userId now id allocations) : lotSum id (allocations.map (restoreRow userId now)) = lotAmounts id allocations := by
  induction allocations with
  | nil => rfl
  | cons _ _ ih =>
    rw [map_cons,lotSumCons,ih,lotAmountsCons]
    rfl

def unlotted (allocations : List BalanceLotAllocation) : Prop := ∀ a ∈ allocations, a.lotId = 0

theorem unlottedIff {allocations} (positive : ∀ a ∈ allocations, 0 < a.amount) :
    unlotted allocations ↔ ∀ id, id ≠ 0 → lotAmounts id allocations = 0 := by
  constructor
  · intro nothing _ real
    induction allocations with
    | nil => rfl
    | cons a _ ih =>
      have free := nothing a mem_cons_self
      rw [lotAmountsCons,ih (fun x mem => positive x (mem_cons_of_mem a mem)) (fun x mem => nothing x (mem_cons_of_mem a mem)),
        if_neg (fun same => real (same.symm.trans free))]
      rfl
  · intro nothing a mem
    by_contra real
    have most := lotAmountsMem positive mem
    have pos := positive a mem
    rw [nothing a.lotId real] at most
    omega

theorem usageTracked (userId now) {allocations} (positive : ∀ a ∈ allocations, 0 < a.amount) :
    (∀ type, trackedSum userId type (allocations.map (usageRow userId now)) ≤ 0) ∧
      ((∀ type, trackedSum userId type (allocations.map (usageRow userId now)) = 0) ↔ unlotted allocations) := by
  induction allocations with
  | nil => exact ⟨fun _ => le_refl 0,fun _ _ mem => absurd mem not_mem_nil,fun _ _ => rfl⟩
  | cons a rest ih =>
    have here := positive a mem_cons_self
    obtain ⟨atMost,nothing⟩ := ih (fun x mem => positive x (mem_cons_of_mem a mem))
    have cons : ∀ type, trackedSum userId type ((a :: rest).map (usageRow userId now)) =
        (if a.lotId ≠ 0 ∧ a.balanceType = type then -a.amount else 0) +
          trackedSum userId type (rest.map (usageRow userId now)) := by
      intro type
      rw [map_cons,trackedSumCons]
      simp [usageRow]
    refine ⟨?_,?_,?_⟩
    · intro type
      have := atMost type
      rw [cons]
      split <;> omega
    · intro zero
      have free : a.lotId = 0 := by
        by_contra real
        have mine := zero a.balanceType
        rw [cons,if_pos ⟨real,rfl⟩] at mine
        have := atMost a.balanceType
        omega
      have later : unlotted rest := nothing.mp (fun type => by
        have mine := zero type
        rw [cons,if_neg (fun h => h.1 free)] at mine
        omega)
      intro x mem
      rcases mem_cons.mp mem with rfl | mem
      · exact free
      · exact later x mem
    · intro free _
      rw [cons,if_neg (fun h => h.1 (free a mem_cons_self)),
        nothing.mpr (fun x mem => free x (mem_cons_of_mem a mem))]
      rfl

theorem noneDue {db userId now} (unexpired : Unexpired db.lots userId now) (user) :
    expireUserPromotionLotsWithTx db userId user now = ⟨0,user,db⟩ := by
  have nothing : dueLots db.lots userId now = [] := by
    refine eq_nil_iff_forall_not_mem.mpr ?_
    intro r mem
    obtain ⟨found,due⟩ := dueMem mem
    simp only [dueLot,decide_eq_true_eq] at due
    have := unexpired r.1 r.2 found due.1 due.2.1
    omega
  simp only [expireUserPromotionLotsWithTx,nothing,if_true]

structure TakesOnly (db : Database) (id : Nat) (now : Int) (user : User) (split : QuotaWalletSplit) (db' : Database) : Prop where
  expired : split.expired = 0
  positive : ∀ a ∈ split.allocations, 0 < a.amount
  promo : 0 ≤ split.promo
  user : ∃ user', db'.users.get? id = some user' ∧ user'.promoQuota = user.promoQuota - split.promo
  booked : Booked db.lots (split.allocations.map (usageRow id now)) db'.lots
  owned : ∀ a ∈ split.allocations, a.lotId ≠ 0 → ∃ lot, db.lots.get? a.lotId = some lot ∧ lot.userId = id ∧ lot.balanceType = a.balanceType
  bare : split.promo = 0 ∧ unlotted split.allocations ↔ Bare db id

theorem deductsOnly {db id amount now user split db'} (ok : LotsOk db.lots) (pos : 0 < amount)
    (found : db.users.get? id = some user) (h : Deducts db id amount now user ⟨0,user,db⟩ split db') :
    TakesOnly db id now user split db' := by
  have positive := fun a mem => (h.each a mem).1
  have promo := h.promo
  have promoFloor := trackedNonneg ok id .promotional
  have sumMost := trackedAtMost ok id .promotional
  obtain ⟨_,nothing⟩ := usageTracked id now positive
  have moved : ∀ type, trackedSum id type (split.allocations.map (usageRow id now)) = -spentLots db.lots id amount split.promo id type := by
    intro type
    have booked := bookedTracked h.spent ok id type
    have lots := h.lots id type
    simp only at booked lots
    omega
  have promoMoved := moved .promotional
  have paidMoved := moved .paid
  simp only [spentLots,if_true] at promoMoved paidMoved
  have floor : 0 ≤ split.promo := by
    simp only [untrackedPromo] at promo
    omega
  refine ⟨h.expired,positive,floor,⟨_,by rw [h.users id,if_pos rfl],rfl⟩,h.spent,?_,?_⟩
  · intro a mem real
    obtain ⟨lot,there,owner,type,_⟩ := (h.each a mem).2 real
    exact ⟨lot,there,owner,type⟩
  · rw [← nothing]
    simp only [untrackedPromo] at promo
    constructor
    · rintro ⟨unspent,still⟩
      have paidStill := still .paid
      refine ⟨fun other there => ?_,fun type => ?_⟩
      · cases some.inj (found.symm.trans there)
        omega
      · cases type with
        | promotional | paid => omega
    · intro bare
      have noPromo := bare.promo user found
      have promoLots := bare.lots .promotional
      have paidLots := bare.lots .paid
      have exactly := trackedExact ok id .promotional (by rw [promoLots]; decide)
      refine ⟨by omega,fun type => ?_⟩
      cases type with
      | promotional | paid => omega

theorem deductOnly {db id amount now user split db'} (ok : LotsOk db.lots) (pos : 0 < amount)
    (found : db.users.get? id = some user) (unexpired : Unexpired db.lots id now)
    (h : decreaseUserQuotaWithSplit db id amount now = .ok (split,db')) : TakesOnly db id now user split db' := by
  obtain ⟨_,_⟩ | ⟨_,other,there,deducts⟩ := deductCases ok h
  · omega
  have same : user = other := some.inj (found.symm.trans there)
  subst other
  rw [noneDue unexpired] at deducts
  exact deductsOnly ok pos found deducts

structure Lessened (db : Database) (user : User) (info : RelayInfo) (c : Course) : Prop where
  calm : c.expired = 0
  promo : ∃ row, c.db.users.get? info.userId = some row ∧ row.promoQuota + c.session.funding.split.promo ≤ user.promoQuota
  lots : ∀ id, id ≠ 0 → remainingOf c.db.lots id + lotAmounts id c.session.funding.split.allocations ≤ remainingOf db.lots id
  booked : ∃ rows, Booked db.lots rows c.db.lots ∧ ∀ e ∈ rows, e.entryType = .apiUsage
  owned : ∀ a ∈ c.session.funding.split.allocations, a.lotId ≠ 0 →
    ∃ lot, db.lots.get? a.lotId = some lot ∧ lot.userId = info.userId ∧ lot.balanceType = a.balanceType

structure Even (db : Database) (user : User) (info : RelayInfo) (c : Course) : Prop where
  promo : ∃ row, c.db.users.get? info.userId = some row ∧ row.promoQuota + c.session.funding.split.promo = user.promoQuota
  lots : ∀ id, id ≠ 0 → remainingOf c.db.lots id + lotAmounts id c.session.funding.split.allocations = remainingOf db.lots id

def Level (db : Database) (user : User) (info : RelayInfo) (c : Course) : Prop :=
  c.session.extraReserved = 0 ∧ Even db user info c

theorem remainingFound {lots id lot} (found : lots.get? id = some lot) : remainingOf lots id = lot.remainingQuota := by
  simp [remainingOf,found]

theorem usageSource {lots rows lots'} (booked : Booked lots rows lots') (usage : ∀ e ∈ rows, e.entryType = .apiUsage) {id lot'}
    (found : lots'.get? id = some lot') : ∃ lot, lots.get? id = some lot ∧ SameLot lot lot' := by
  obtain old | ⟨entry,mem,topup,_⟩ := bookedSource booked found
  · exact old
  · simp [topupEntry,usage entry mem] at topup

variable {db user info e c now}

theorem unexpiredStill (ok : LotsOk db.lots) (running : Running db info e c) (lessened : Lessened db user info c)
    (unexpired : Unexpired db.lots info.userId now) : Unexpired c.db.lots info.userId now := by
  intro id _ found owner type _ expires
  obtain ⟨_,booked,usage⟩ := lessened.booked
  obtain ⟨source,there,same⟩ := usageSource booked usage found
  have real := (ok id source there).1
  have less := lessened.lots id real
  have floor := lotAmountsNonneg running.split.positive id
  rw [remainingFound found,remainingFound there] at less
  rw [same.expiry] at expires ⊢
  exact unexpired id source there (same.user.symm.trans owner) (same.type.symm.trans type) (by omega) expires

theorem takesRemaining {db id now user split db'} (h : TakesOnly db id now user split db') {lot} (real : lot ≠ 0) :
    remainingOf db'.lots lot = remainingOf db.lots lot - lotAmounts lot split.allocations := by
  rw [bookedRemaining h.booked real,usageLotSum]
  omega

theorem levelStart {cfg db user info quota seen now db' s} (ok : LotsOk db.lots) (found : db.users.get? info.userId = some user)
    (unexpired : Unexpired db.lots info.userId now) (h : preConsume cfg db info quota seen now = (db',.ok s)) :
    Lessened db user info (begun db' s) ∧ Level db user info (begun db' s) := by
  obtain ⟨_,holds,_,rfl,start⟩ := preConsumeCases h
  have hold := holdTokenSpec holds
  rw [← hold.users] at found
  rw [← hold.lots] at ok unexpired
  obtain ⟨_,rfl,rfl⟩ | ⟨large,split,deducted,rfl⟩ := start
  · have even : Even db user info (begun db' ⟨info,.fresh info.userId,effectiveQuota cfg info quota,
        tokenPart (effectiveQuota cfg info quota),0,shouldTrust cfg info,false,false,false⟩) :=
      ⟨⟨user,found,add_zero _⟩,fun id _ => by simp [begun,WalletFunding.fresh,QuotaWalletSplit.none,lotAmounts,hold.lots]⟩
    refine ⟨⟨rfl,⟨user,found,?_⟩,fun id real => le_of_eq (even.lots id real),⟨[],?_,by simp⟩,?_⟩,rfl,even⟩
    · exact le_of_eq (add_zero _)
    · simp only [begun,hold.lots]
      exact .nil
    · intro a mem
      exact absurd mem not_mem_nil
  · have only := deductOnly ok large found unexpired deducted
    obtain ⟨row,there,_⟩ := only.user
    have lots : ∀ id, id ≠ 0 → remainingOf db'.lots id + lotAmounts id split.allocations = remainingOf db.lots id := by
      intro id real
      rw [takesRemaining only real,hold.lots]
      omega
    refine ⟨⟨only.expired,⟨row,there,?_⟩,fun id real => le_of_eq (lots id real),⟨_,hold.lots ▸ only.booked,?_⟩,
      hold.lots ▸ only.owned⟩,rfl,⟨row,there,?_⟩,lots⟩
    · simp only [begun]
      omega
    · intro x mem
      obtain ⟨a,_,rfl⟩ := List.mem_map.mp mem
      rfl
    · simp only [begun]
      omega

section Taking
variable {db : Database} {user row : User} {info : RelayInfo} {c c' : Course} {split : QuotaWalletSplit} {taken : Database} {now : Int}

structure Takes (info : RelayInfo) (c : Course) (row : User) (now : Int) (split : QuotaWalletSplit) (taken : Database) (c' : Course) : Prop where
  only : TakesOnly c.db info.userId now row split taken
  found : c.db.users.get? info.userId = some row
  split : c'.session.funding.split = c.session.funding.split
  calm : c'.expired = c.expired
  lots : c'.db.lots = taken.lots
  promo : promoOf c'.db info.userId = promoOf taken info.userId

theorem takesRow (h : Takes info c row now split taken c') :
    ∃ row', c'.db.users.get? info.userId = some row' ∧ row'.promoQuota = row.promoQuota - split.promo := by
  obtain ⟨_,there,left⟩ := h.only.user
  have promo := h.promo
  simp only [promoOf,there,map_some,map_eq_some_iff] at promo
  obtain ⟨row',found,same⟩ := promo
  exact ⟨row',found,same.trans left⟩

theorem takesLots (h : Takes info c row now split taken c') {id} (real : id ≠ 0) :
    remainingOf c'.db.lots id = remainingOf c.db.lots id - lotAmounts id split.allocations := by
  rw [h.lots]
  exact takesRemaining h.only real

theorem lessenedTakes (lessened : Lessened db user info c) (h : Takes info c row now split taken c') : Lessened db user info c' := by
  obtain ⟨row',there,_⟩ := takesRow h
  obtain ⟨other,found,_⟩ := lessened.promo
  have same : row = other := some.inj (h.found.symm.trans found)
  subst other
  have floor := h.only.promo
  obtain ⟨_,booked,usage⟩ := lessened.booked
  refine ⟨h.calm.trans lessened.calm,⟨row',there,?_⟩,?_,⟨_,bookedTrans booked (h.lots ▸ h.only.booked),?_⟩,?_⟩
  · rw [h.split]
    omega
  · intro id real
    have less := lessened.lots id real
    have taken := takesLots h real
    have something := lotAmountsNonneg h.only.positive id
    rw [h.split]
    omega
  · intro x mem
    rcases mem_append.mp mem with mem | mem
    · exact usage x mem
    · obtain ⟨a,_,rfl⟩ := List.mem_map.mp mem
      rfl
  · rw [h.split]
    exact lessened.owned

theorem evenTakes (lessened : Lessened db user info c) (h : Takes info c row now split taken c') :
    Even db user info c' ↔ Even db user info c ∧ Bare c.db info.userId := by
  obtain ⟨row',there,_⟩ := takesRow h
  obtain ⟨other,found,_⟩ := lessened.promo
  have same : row = other := some.inj (h.found.symm.trans found)
  subst other
  have floor := h.only.promo
  rw [← h.only.bare,unlottedIff h.only.positive]
  constructor
  · intro even
    obtain ⟨last,here,exactly⟩ := even.promo
    have same : row' = last := some.inj (there.symm.trans here)
    subst last
    rw [h.split] at exactly
    have lots : ∀ id, id ≠ 0 → lotAmounts id split.allocations = 0 ∧
        remainingOf c.db.lots id + lotAmounts id c.session.funding.split.allocations = remainingOf db.lots id := by
      intro id real
      have level := even.lots id real
      have less := lessened.lots id real
      have taken := takesLots h real
      have something := lotAmountsNonneg h.only.positive id
      rw [h.split] at level
      omega
    exact ⟨⟨⟨row,found,by omega⟩,fun id real => (lots id real).2⟩,by omega,fun id real => (lots id real).1⟩
  · rintro ⟨even,_,unlotted⟩
    obtain ⟨last,here,_⟩ := even.promo
    have same : row = last := some.inj (found.symm.trans here)
    subst last
    refine ⟨⟨row',there,by rw [h.split]; omega⟩,?_⟩
    intro id real
    have level := even.lots id real
    have taken := takesLots h real
    have free := unlotted id real
    rw [h.split]
    omega

end Taking

theorem cashPromo {cfg db id n db'} (h : increaseUserCashQuota cfg db id n false = .ok db') : promoOf db' id = promoOf db id := by
  simp only [increaseUserCashQuota,bindOk,requireOk] at h
  obtain ⟨_,_,h⟩ := h
  split at h
  · cases pureOk.mp h
    rfl
  split at h
  · cases pureOk.mp h
    rfl
  cases pureOk.mp h
  simp only [promoOf,Database.credit,Table.getModifySelf]
  cases db.users.get? id with
  | none => rfl
  | some => simp

theorem levelStep {cfg db user info e} (ok : LotsOk db.lots) (c call)
    (unexpired : Unexpired db.lots info.userId call.now) (running : Running db info e c) (lessened : Lessened db user info c) :
    Lessened db user info (reserveCall cfg c call) ∧
      (Level db user info (reserveCall cfg c call) ↔ Level db user info c ∧ Harmless cfg c call) := by
  by_cases raises : c.session.raises call.target
  · have spec := @reserveSpec cfg c.db c.session call.target call.seen call.now raises
    have pos : 0 < call.target - c.session.preConsumedQuota := by
      have := raises.2.2.2
      omega
    have still := unexpiredStill ok running lessened unexpired
    have extra := running.extra
    obtain ⟨sameInfo,sameUser⟩ := running.who
    obtain ⟨row,found,_⟩ := lessened.promo
    simp only [reserveCall,Harmless,raises,forall_const,if_true,Level]
    generalize (reserve cfg c.db c.session call.target call.seen call.now).1 = after at spec
    generalize (reserve cfg c.db c.session call.target call.seen call.now).2.1 = session at spec
    cases spec with
    | refused failed =>
      have calm : c.expired + expiredBy c.db c.session.funding.userId (call.target - c.session.preConsumedQuota) call.now = 0 := by
        simp only [expiredBy,failed,lessened.calm,add_zero]
      refine ⟨{ lessened with calm },?_,?_⟩
      · rintro ⟨raised,even⟩
        refine ⟨⟨raised,even.promo,even.lots⟩,?_⟩
        intro _ _ took
        cases failed.symm.trans took
      · rintro ⟨⟨raised,even⟩,_⟩
        exact ⟨raised,even.promo,even.lots⟩
    | rolledBack took failed gave =>
      have calm := expiredTook took
      rw [sameUser] at took gave
      have only := deductOnly running.lots pos found still took
      rw [only.expired] at calm
      have takes : Takes info c row call.now _ _ ⟨after,{ c.session with funding := { c.session.funding with
          consumed := c.session.funding.consumed + (call.target - c.session.preConsumedQuota) -
            (call.target - c.session.preConsumedQuota) } },c.expired +
          expiredBy c.db c.session.funding.userId (call.target - c.session.preConsumedQuota) call.now⟩ :=
        ⟨only,found,rfl,by simp only [calm,add_zero],(cashCharged info gave).2,cashPromo gave⟩
      refine ⟨lessenedTakes lessened takes,?_⟩
      rw [evenTakes lessened takes,sameUser]
      constructor
      · rintro ⟨raised,even,bare⟩
        refine ⟨⟨raised,even⟩,?_⟩
        intro _ _ again
        cases took.symm.trans again
        exact ⟨⟨_,failed⟩,bare⟩
      · rintro ⟨⟨raised,even⟩,harmless⟩
        exact ⟨raised,even,(harmless _ _ took).2⟩
    | reserved took holds =>
      have calm := expiredTook took
      have took' := took
      rw [sameUser] at took'
      rw [sameInfo] at holds
      have only := deductOnly running.lots pos found still took'
      have held := reserveTokenSpec pos holds
      rw [only.expired] at calm
      refine ⟨lessenedTakes lessened ⟨only,found,rfl,by simp only [calm,add_zero],held.lots,by simp only [promoOf,held.users]⟩,?_,?_⟩
      · rintro ⟨raised,_⟩
        simp only at raised
        omega
      · rintro ⟨_,harmless⟩
        obtain ⟨⟨_,failed⟩,_⟩ := harmless _ _ took
        rw [sameInfo,holds] at failed
        cases failed
  · rw [reserveIdle raises]
    exact ⟨lessened,fun level => ⟨level,fun raised => absurd raised raises⟩,fun h => h.1⟩

structure Takesback (lots : Lots) (id : Nat) (now : Int) (allocations : List BalanceLotAllocation) (a : BalanceLotAllocation)
    (lot : BalanceCreditLot) : Prop where
  found : lots.get? a.lotId = some lot
  owner : lot.userId = id
  type : lot.balanceType = a.balanceType
  alive : lot.status ≠ .expired ∧ lot.status ≠ .reversed
  unexpired : ¬ (lot.balanceType = .promotional ∧ 0 < lot.expiresAt ∧ lot.expiresAt ≤ now)
  room : lot.remainingQuota + lotAmounts a.lotId allocations ≤ lot.originalQuota

def Returnable (lots : Lots) (id : Nat) (now : Int) (allocations : List BalanceLotAllocation) : Prop :=
  ∀ a ∈ allocations, a.lotId ≠ 0 → ∃ lot, Takesback lots id now allocations a lot

section Returning
variable {id : Nat} {now : Int} {lots : Lots} {a x : BalanceLotAllocation} {rest : List BalanceLotAllocation} {lot : BalanceCreditLot}

theorem takesbackLater (found : lots.get? a.lotId = some lot) (alive : lot.status ≠ .expired ∧ lot.status ≠ .reversed) :
    (∃ lot', Takesback (lots.modify a.lotId (setLot (lot.remainingQuota + a.amount) .active)) id now rest x lot') ↔
      ∃ lot', Takesback lots id now (a :: rest) x lot' := by
  by_cases same : x.lotId = a.lotId
  · have after : (lots.modify a.lotId (setLot (lot.remainingQuota + a.amount) .active)).get? x.lotId =
        some (setLot (lot.remainingQuota + a.amount) .active lot) := by
      rw [same,Table.getModifySelf,found]
      rfl
    have sum : lotAmounts x.lotId (a :: rest) = a.amount + lotAmounts x.lotId rest := by rw [lotAmountsCons,if_pos same.symm]
    constructor
    · rintro ⟨_,back⟩
      cases after.symm.trans back.found
      exact ⟨lot,same ▸ found,back.owner,back.type,alive,back.unexpired,by have := back.room; simp only [setLot] at this; omega⟩
    · rintro ⟨_,back⟩
      cases found.symm.trans (same ▸ back.found)
      exact ⟨_,after,back.owner,back.type,by simp [setLot],back.unexpired,by have := back.room; simp only [setLot]; omega⟩
  · have sum : lotAmounts x.lotId (a :: rest) = lotAmounts x.lotId rest := by
      rw [lotAmountsCons,if_neg (Ne.symm same),zero_add]
    have get := Table.getModifyOther lots same (setLot (lot.remainingQuota + a.amount) .active)
    exact exists_congr (fun lot' => ⟨fun back => { back with found := get ▸ back.found, room := sum ▸ back.room },
      fun back => { back with found := get.trans back.found, room := sum ▸ back.room }⟩)

theorem lotAmountsElse (id allocations) : lotAmounts id allocations = 0 ∨ ∃ a ∈ allocations, a.lotId = id := by
  by_cases named : ∃ a ∈ allocations, a.lotId = id
  · exact .inr named
  refine .inl (sum_eq_zero (fun n mem => ?_))
  obtain ⟨a,here,rfl⟩ := List.mem_map.mp mem
  exact if_neg (fun same => named ⟨a,here,same⟩)

theorem returnableCons (pos : 0 < a.amount) (nonneg : 0 ≤ lotAmounts a.lotId rest) :
    Returnable lots id now (a :: rest) ↔ ∃ lots', restoreTarget lots id now a = .ok lots' ∧ Returnable lots' id now rest := by
  unfold restoreTarget
  by_cases free : a.lotId = 0
  · simp only [free,if_true,pureOk,exists_eq_left']
    have same : ∀ x : BalanceLotAllocation, x.lotId ≠ 0 → lotAmounts x.lotId (a :: rest) = lotAmounts x.lotId rest := by
      intro x real
      rw [lotAmountsCons,if_neg (fun eq => real (eq.symm.trans free)),zero_add]
    constructor
    · intro all x mem real
      obtain ⟨lot,back⟩ := all x (mem_cons_of_mem a mem) real
      exact ⟨lot,{ back with room := same x real ▸ back.room }⟩
    · intro all x mem real
      rcases mem_cons.mp mem with rfl | mem
      · exact absurd free real
      obtain ⟨lot,back⟩ := all x mem real
      exact ⟨lot,{ back with room := same x real ▸ back.room }⟩
  simp only [if_neg free,restoreLot,bindOk,rowOk,requireOk,pureOk]
  constructor
  · intro all
    obtain ⟨lot,back⟩ := all a mem_cons_self free
    have room := back.room
    rw [lotAmountsCons,if_pos rfl] at room
    exact ⟨_,⟨lot,back.found,(),⟨back.owner,back.type,by omega⟩,(),back.unexpired,(),back.alive,rfl⟩,
      fun x mem real => (takesbackLater back.found back.alive).mpr (all x (mem_cons_of_mem a mem) real)⟩
  · rintro ⟨_,⟨lot,found,_,⟨owner,type,_⟩,_,unexpired,_,alive,rfl⟩,all⟩
    have later := fun x mem real => (takesbackLater found alive).mp (all x mem real)
    have whole : lot.remainingQuota + lotAmounts a.lotId (a :: rest) ≤ lot.originalQuota := by
      obtain nothing | ⟨x,mem,same⟩ := lotAmountsElse a.lotId rest
      · rw [lotAmountsCons,if_pos rfl]
        omega
      · obtain ⟨_,back⟩ := later x mem (same ▸ free)
        cases found.symm.trans (same ▸ back.found)
        exact same ▸ back.room
    intro x mem real
    rcases mem_cons.mp mem with rfl | mem
    · exact ⟨lot,found,owner,type,alive,unexpired,whole⟩
    · exact later x mem real

theorem restoreRuns {lots allocations} (positive : ∀ a ∈ allocations, 0 < a.amount) :
    (∃ r, restoreAllocations id now lots allocations = .ok r) ↔ Returnable lots id now allocations := by
  induction allocations generalizing lots with
  | nil => exact iff_of_true ⟨_,rfl⟩ (forall_mem_nil _)
  | cons a _ ih =>
    have here := positive a mem_cons_self
    have later := fun x mem => positive x (mem_cons_of_mem a mem)
    rw [returnableCons here (lotAmountsNonneg later a.lotId)]
    simp only [restoreAllocations,if_neg (by omega : ¬ a.amount ≤ 0),bindOk,pureOk,← ih later]
    constructor
    · rintro ⟨_,lots',target,tail,done,_⟩
      exact ⟨lots',target,tail,done⟩
    · rintro ⟨lots',target,tail,done⟩
      exact ⟨_,lots',target,tail,done,rfl⟩

end Returning
theorem splitBack (ok : LotsOk db.lots) (running : Running db info e c) (lessened : Lessened db user info c)
    (unexpired : Unexpired db.lots info.userId now) : Returnable c.db.lots info.userId now c.session.funding.split.allocations := by
  intro a mem real
  obtain ⟨_,booked,usage⟩ := lessened.booked
  obtain ⟨source,there,owner,type⟩ := lessened.owned a mem real
  obtain ⟨lot,found,same⟩ := bookedKeeps booked there
  have less := lessened.lots a.lotId real
  have something := lotAmountsMem running.split.positive mem
  have pos := running.split.positive a mem
  have nonneg := (running.lots a.lotId lot found).2.nonneg
  have ⟨_,within,live⟩ := (ok a.lotId source there).2
  rw [remainingFound found,remainingFound there] at less
  -- the lot had something left before the request, so it was active and not yet due
  have left : 0 < source.remainingQuota := by omega
  refine ⟨lot,found,same.user.trans owner,same.type.trans type,?_,?_,by rw [same.original]; omega⟩
  · exact bookedOpen booked usage there (by simp [live.mpr left]) found
  · rintro ⟨promo,expires,due⟩
    rw [same.expiry] at expires due
    have := unexpired a.lotId source there owner (same.type.symm.trans promo) left expires
    omega

theorem restoreIff {db id split now row} (well : WellSplit split) (pos : 0 < split.promo + split.cash) (found : db.users.get? id = some row) :
    (∃ db', restoreUserQuotaSplit db id split now = .ok db') ↔
      Returnable db.lots id now split.allocations ∧ row.quota + (split.promo + split.cash) ≤ maxQuota := by
  have nonneg := wellNonneg well
  have named : split.allocations ≠ [] := by
    intro empty
    have promo := well.promo
    have cash := well.cash
    rw [empty] at promo cash
    simp only [typeAmounts,map_nil,sum_nil] at promo cash
    omega
  simp only [restoreUserQuotaSplit,restoreUserQuotaSplitWithLots,bindOk,requireOk,if_neg (by omega : ¬ split.promo + split.cash = 0),
    rowOk,named,if_false,pureOk]
  constructor
  · rintro ⟨_,_,_,_,there,r,restored,_⟩
    obtain ⟨_,promo,cash⟩ := restoredAmounts well restored
    cases found.symm.trans there
    exact ⟨(restoreRuns well.positive).mp ⟨r,restored⟩,by omega⟩
  · rintro ⟨returnable,_⟩
    obtain ⟨r,restored⟩ := (restoreRuns well.positive).mpr returnable
    obtain ⟨_,promo,cash⟩ := restoredAmounts well restored
    exact ⟨_,(),nonneg,row,found,r,restored,(),by omega,rfl⟩

theorem refundRuns (ok : LotsOk db.lots) (running : Running db info e c) (lessened : Lessened db user info c)
    (unexpired : Unexpired db.lots info.userId now) (large : 0 < e) :
    (∃ db', restoreUserQuotaSplit c.db info.userId c.session.funding.split now = .ok db') ↔ Room info e c := by
  obtain ⟨row,found,_⟩ := lessened.promo
  have whole := running.whole
  rw [tokenPart,if_pos large] at whole
  rw [restoreIff running.split (by omega) found,and_iff_right (splitBack ok running lessened unexpired),whole]
  constructor
  · intro fits _ here _
    cases found.symm.trans here
    exact fits
  · intro room
    exact room row found large

theorem giveBackHeld (cfg db info) {n} (nonneg : 0 ≤ n) : TokenHeld info db (giveBackToken cfg db info n) (-n) := by
  unfold giveBackToken
  split
  · rename_i something
    have done : increaseTokenQuota cfg db info.tokenId n = .ok (moveToken cfg db info.tokenId n) := by
      simp only [increaseTokenQuota,bindOk,requireOk]
      exact ⟨(),nonneg,rfl⟩
    obtain ⟨users,lots⟩ := tokenKept cfg db info.tokenId n
    rw [done]
    refine ⟨?_,users,lots⟩
    rw [tokenShare,something.2,neg_neg]
    exact tokenCharged cfg info db n
  · rename_i idle
    refine ⟨chargedCast (chargedNone info db) rfl ?_,rfl,rfl⟩
    unfold tokenShare
    split
    · rfl
    · rename_i billed
      have : ¬ 0 < n := fun pos => idle ⟨pos,by simpa using billed⟩
      omega

/- The state after a session has ended: the split was put back and `missing` was not. -/
structure Ended (db : Database) (info : RelayInfo) (c : Course) (row : User) (missing : Int) (db' : Database) : Prop where
  charged : Charged info db db' (-missing) 0
  promo : promoOf db' info.userId = some (row.promoQuota + c.session.funding.split.promo)
  lots : ∀ id, id ≠ 0 → remainingOf db'.lots id = remainingOf c.db.lots id + lotAmounts id c.session.funding.split.allocations

theorem endedBack {db user row info c missing db'} (owner : db.users.get? info.userId = some user)
    (found : c.db.users.get? info.userId = some row) (h : Ended db info c row missing db') :
    BackAsBefore info db db' ↔ missing = 0 ∧ Even db user info c := by
  have quota := h.charged.quota
  have token := h.charged.token
  rw [mapAddZero] at token
  constructor
  · intro back
    have nothing := back.quota.symm.trans quota
    have promo := h.promo.symm.trans back.promo
    simp only [observedQuota,promoOf,owner,map_some,some.injEq] at nothing promo
    exact ⟨by omega,⟨row,found,promo⟩,fun id real => (h.lots id real).symm.trans (back.lots id real)⟩
  · rintro ⟨rfl,even⟩
    obtain ⟨other,there,promo⟩ := even.promo
    have same : row = other := some.inj (found.symm.trans there)
    subst other
    refine ⟨?_,?_,fun id real => (h.lots id real).trans (even.lots id real),token⟩
    · rw [quota,neg_zero,mapAddZero]
    · rw [h.promo,promo,promoOf,owner]
      rfl

section Ending
variable {cfg : Config} {db : Database} {user : User} {info : RelayInfo} {e : Int} {c : Course} {now : Int}

theorem idleEnded {row} (running : Running db info e c) (lessened : Lessened db user info c)
    (found : c.db.users.get? info.userId = some row) (idle : ¬ needsRefundLocked c.session) : Ended db info c row 0 c.db := by
  obtain ⟨open',fresh,unsettled⟩ := running.live
  have token := running.token
  have extra := running.extra
  have part : 0 ≤ tokenPart e := by
    unfold tokenPart
    split <;> omega
  have consumed : ¬ 0 < c.session.tokenConsumed := fun pos => idle ⟨open',fresh,unsettled,pos⟩
  have whole := running.whole
  have well := running.split
  have empty := wellEmpty well (by omega)
  have promo := well.promo
  rw [empty] at promo
  refine ⟨chargedCast running.charged ?_ ?_,?_,?_⟩
  · rw [lessened.calm]
    omega
  · unfold tokenShare
    split
    · rfl
    · omega
  · rw [promoOf,found,← promo]
    exact congrArg some (add_zero _).symm
  · intro _ _
    rw [empty]
    exact (add_zero _).symm

theorem restoredEnded {row after} (running : Running db info e c) (lessened : Lessened db user info c)
    (found : c.db.users.get? info.userId = some row)
    (restored : restoreUserQuotaSplit c.db info.userId c.session.funding.split now = .ok after) :
    Ended db info c row c.session.extraReserved (giveBackToken cfg after info c.session.tokenConsumed) := by
  have token := running.token
  have extra := running.extra
  have part : 0 ≤ tokenPart e := by
    unfold tokenPart
    split <;> omega
  have returns := restoreExact running.split restored
  have held := giveBackHeld cfg after info (by omega : 0 ≤ c.session.tokenConsumed)
  have charged := chargedTrans running.charged (chargedTrans (restoreCharged running.split found restored) held.charged)
  refine ⟨chargedCast charged ?_ ?_,?_,?_⟩
  · have whole := running.whole
    rw [lessened.calm]
    omega
  · unfold tokenShare
    split
    · rfl
    · omega
  · rw [promoOf,held.users,returns.users row found info.userId,if_pos rfl]
    rfl
  · intro _ real
    rw [held.lots,bookedRemaining returns.booked real,restoreLotSum]

theorem refundBack (ok : LotsOk db.lots) (owner : db.users.get? info.userId = some user) (running : Running db info e c)
    (lessened : Lessened db user info c) (unexpired : Unexpired db.lots info.userId now) :
    BackAsBefore info db (refund cfg c.db c.session now).1 ↔ Level db user info c ∧ Room info e c := by
  obtain ⟨_,found,_⟩ := lessened.promo
  obtain ⟨sameInfo,sameUser⟩ := running.who
  have token := running.token
  have consumed := running.consumed
  have extra := running.extra
  unfold refund
  by_cases needs : needsRefundLocked c.session
  · have pos := needs.2.2.2
    rw [if_neg (not_not_intro needs)]
    simp only [Funding.refund,if_neg (by omega : ¬ c.session.funding.consumed ≤ 0),sameUser,sameInfo]
    cases result : restoreUserQuotaSplit c.db info.userId c.session.funding.split now with
    | error =>
      -- the wallet keeps all that was reserved, and only a lack of room explains it
      have held := giveBackHeld cfg c.db info (by omega : 0 ≤ c.session.tokenConsumed)
      constructor
      · intro back
        have charged := chargedTrans running.charged held.charged
        have nothing := back.quota.symm.trans charged.quota
        simp only [observedQuota,owner,map_some,some.injEq,lessened.calm] at nothing
        omega
      · rintro ⟨⟨_,_⟩,room⟩
        have large : 0 < e := by
          unfold tokenPart at token
          split at token <;> omega
        obtain ⟨_,done⟩ := (refundRuns ok running lessened unexpired large).mpr room
        cases result.symm.trans done
    | ok after =>
      have back := endedBack owner found (@restoredEnded cfg _ _ _ _ _ _ _ _ running lessened found result)
      refine back.trans ⟨fun level => ⟨level,?_⟩,fun h => h.1⟩
      intro other there large
      exact (refundRuns ok running lessened unexpired large).mp ⟨after,result⟩ other there large
  · rw [if_pos needs]
    have back := endedBack owner found (idleEnded running lessened found needs)
    have small : ¬ 0 < e := by
      intro large
      refine needs ⟨running.live.1,running.live.2.1,running.live.2.2,?_⟩
      rw [token,tokenPart,if_pos large]
      omega
    have level : c.session.extraReserved = 0 := by
      have consumed : ¬ 0 < c.session.tokenConsumed := fun pos => needs ⟨running.live.1,running.live.2.1,running.live.2.2,pos⟩
      rw [token,tokenPart,if_neg small] at consumed
      omega
    refine back.trans ⟨?_,?_⟩
    · rintro ⟨_,even⟩
      exact ⟨⟨level,even⟩,fun _ _ large => absurd large small⟩
    · rintro ⟨⟨_,even⟩,_⟩
      exact ⟨rfl,even⟩

end Ending

def clocks (now : Int) (calls : List ReserveCall) (later : Int) : List Int := now :: (calls.map (·.now) ++ [later])

theorem calledBack {cfg db user info quota seen now calls later db' s} (ok : LotsOk db.lots)
    (owner : db.users.get? info.userId = some user) (started : preConsume cfg db info quota seen now = (db',.ok s))
    (unexpired : ∀ t ∈ clocks now calls later, Unexpired db.lots info.userId t) :
    BackAsBefore info db (refund cfg (run (reserveCall cfg) (begun db' s) calls).db
        (run (reserveCall cfg) (begun db' s) calls).session later).1 ↔ Along (reserveCall cfg) (Harmless cfg) (begun db' s) calls ∧
        Room info (effectiveQuota cfg info quota) (run (reserveCall cfg) (begun db' s) calls) := by
  have first := unexpired now mem_cons_self
  have last := unexpired later (mem_cons_of_mem now (mem_append_right _ (mem_singleton.mpr rfl)))
  have allowed : ∀ call ∈ calls, Unexpired db.lots info.userId call.now := fun call mem =>
    unexpired call.now (mem_cons_of_mem now (mem_append_left _ (List.mem_map_of_mem mem)))
  have keeps : ∀ c call, Unexpired db.lots info.userId call.now →
      Running db info (effectiveQuota cfg info quota) c ∧ Lessened db user info c →
      Running db info (effectiveQuota cfg info quota) (reserveCall cfg c call) ∧ Lessened db user info (reserveCall cfg c call) :=
    fun c call due here => ⟨runningStep c call here.1,(levelStep ok c call due here.1 here.2).1⟩
  have exactly : ∀ c call, Unexpired db.lots info.userId call.now →
      Running db info (effectiveQuota cfg info quota) c ∧ Lessened db user info c →
      (Level db user info (reserveCall cfg c call) ↔ Level db user info c ∧ Harmless cfg c call) :=
    fun c call due here => (levelStep ok c call due here.1 here.2).2
  obtain ⟨lessened,level⟩ := levelStart ok owner first started
  have start := And.intro (runningStart ok started) lessened
  have ⟨running,below⟩ := runKeepsAllowed keeps allowed start
  have runs := runIffAlong keeps exactly allowed start
  rw [refundBack ok owner running below last,runs]
  simp only [level,true_and]

/- A request on wallet funds, in any state. Settled, it has cost exactly the actual amount
if and only if its first reservation was not negative and the later calls raised it by no
more. Given back, it leaves no trace if and only if no call raised it, no refused raise cost
promotional credit or a lot, and the restored quota is in range. -/
theorem billedExactly (cfg : Config) (db : Database) (info : RelayInfo) (quota : Int) (seen : Option Int) (now : Int)
    (calls : List ReserveCall) (later : Int) {user db' s c} (ok : LotsOk db.lots) (owner : db.users.get? info.userId = some user)
    (started : preConsume cfg db info quota seen now = (db',.ok s)) (ran : run (reserveCall cfg) (begun db' s) calls = c) :
    (∀ actual paid s', settle cfg c.db c.session actual later = (paid,s',.ok ()) →
      (PaidExactly info db paid actual (c.expired + settleExpired c actual later) ↔
        0 ≤ effectiveQuota cfg info quota ∧ c.session.extraReserved ≤ actual)) ∧
    ((∀ t ∈ clocks now calls later, Unexpired db.lots info.userId t) → (BackAsBefore info db (refund cfg c.db c.session later).1 ↔
        Along (reserveCall cfg) (Harmless cfg) (begun db' s) calls ∧ Room info (effectiveQuota cfg info quota) c)) := by
  subst c
  refine ⟨?_,calledBack ok owner started⟩
  intro _ _ _ settled
  exact settlePaid (runKeeps (fun c call => runningStep c call) calls (runningStart ok started)) owner settled

def funded : Database := run (WalletOps.lotStep .shipped) Database.empty
  [.insertUser "a@example.com",.increaseUserCashQuota 1 1000 true,.insertToken ⟨1,500,0,false⟩]

def caller : RelayInfo := ⟨1,1,false,false,false,1000,500⟩

theorem fundedOk : LotsOk funded.lots := by
  intro _ _ found
  cases found

theorem fundedUnexpired (t) : Unexpired funded.lots caller.userId t := by
  intro _ _ found
  cases found

def refusedRaise : List ReserveCall := [⟨30,some 5,20⟩]

theorem refusedRaiseExact : ∃ db' s paid s', preConsume .shipped funded caller 10 (some 500) 10 = (db',.ok s) ∧
    settle .shipped (run (reserveCall .shipped) (begun db' s) refusedRaise).db
      (run (reserveCall .shipped) (begun db' s) refusedRaise).session 7 30 = (paid,s',.ok ()) ∧ PaidExactly caller funded paid 7 0 ∧
    BackAsBefore caller funded (refund .shipped (run (reserveCall .shipped) (begun db' s) refusedRaise).db
      (run (reserveCall .shipped) (begun db' s) refusedRaise).session 30).1 := by
  refine ⟨_,_,_,_,rfl,rfl,?_,?_⟩
  · exact ((billedExactly .shipped funded caller 10 (some 500) 10 refusedRaise 30 fundedOk rfl rfl rfl).1 7 _ _ rfl).mpr (by decide)
  · refine ((billedExactly .shipped funded caller 10 (some 500) 10 refusedRaise 30 fundedOk rfl rfl rfl).2
      (fun t _ => fundedUnexpired t)).mpr ⟨⟨?_,trivial⟩,?_⟩
    · intro _ _ _ _
      refine ⟨⟨_,rfl⟩,?_,?_⟩
      · intro user found
        cases found
        decide
      · intro type
        cases type <;> rfl
    · intro _ found _
      cases found
      decide

def raise : List ReserveCall := [⟨100,some 490,20⟩]

theorem raiseNotReturned : ∃ db' s paid s', preConsume .shipped funded caller 10 (some 500) 10 = (db',.ok s) ∧
    settle .shipped (run (reserveCall .shipped) (begun db' s) raise).db
      (run (reserveCall .shipped) (begun db' s) raise).session 20 30 = (paid,s',.ok ()) ∧
    (observedQuota funded 1,observedQuota paid 1) = (some 1000,some 910) ∧ ¬ PaidExactly caller funded paid 20 0 ∧
    ¬ BackAsBefore caller funded (refund .shipped (run (reserveCall .shipped) (begun db' s) raise).db
      (run (reserveCall .shipped) (begun db' s) raise).session 30).1 := by
  refine ⟨_,_,_,_,rfl,rfl,by decide,?_,?_⟩
  · intro paid
    exact absurd paid.quota (by decide)
  · intro back
    exact absurd back.quota (by decide)

end NovaPuraRouter.BillingReturn
