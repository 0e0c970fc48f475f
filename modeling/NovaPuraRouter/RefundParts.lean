import NovaPuraRouter.BillingReturn

/-! A split that is given back in part. What is given back and what is kept make up the
split lot by lot, cash goes back before promotional credit, and untracked cash before
the cash of lots. -/
namespace NovaPuraRouter.RefundParts
open CreditLot LotBook LotSpec DeductSpec BillingSpec BillingReturn List
open Funding hiding preConsume settle refund

def OnlyCash (split : QuotaWalletSplit) : Prop := split.promo = 0 ∧ unlotted split.allocations

theorem onlyCashIff {split} (well : WellSplit split) :
    OnlyCash split ↔ split.promo = 0 ∧ ∀ id, id ≠ 0 → lotAmounts id split.allocations = 0 := by
  rw [OnlyCash,unlottedIff well.positive]

theorem onlyCashBoth {a b} (first : WellSplit a) (second : WellSplit b) :
    (a.promo + b.promo = 0 ∧ ∀ id, id ≠ 0 → lotAmounts id a.allocations + lotAmounts id b.allocations = 0) ↔ OnlyCash a ∧ OnlyCash b := by
  have ⟨promo,_⟩ := wellNonneg first
  have ⟨promoLater,_⟩ := wellNonneg second
  have lots := fun id => lotAmountsNonneg first.positive id
  have lotsLater := fun id => lotAmountsNonneg second.positive id
  rw [onlyCashIff first,onlyCashIff second]
  constructor
  · rintro ⟨nothing,free⟩
    have each : ∀ id, id ≠ 0 → lotAmounts id a.allocations = 0 ∧ lotAmounts id b.allocations = 0 := by
      intro id real
      have sum := free id real
      have something := lots id
      have someLater := lotsLater id
      omega
    exact ⟨⟨by omega,fun id real => (each id real).1⟩,by omega,fun id real => (each id real).2⟩
  · rintro ⟨⟨_,free⟩,_,freeLater⟩
    refine ⟨by omega,?_⟩
    intro id real
    rw [free id real,freeLater id real]
    rfl

def amountsIf (p : Nat → BalanceType → Bool) (allocations : List BalanceLotAllocation) : Int :=
  (allocations.map (fun a => if p a.lotId a.balanceType then a.amount else 0)).sum

@[simp] theorem amountsIfCons (p a rest) :
    amountsIf p (a :: rest) = (if p a.lotId a.balanceType then a.amount else 0) + amountsIf p rest := rfl

theorem amountsIfAppend (p a b) : amountsIf p (a ++ b) = amountsIf p a + amountsIf p b := by
  simp [amountsIf]

theorem amountsIfReverse (p a) : amountsIf p a.reverse = amountsIf p a := by
  simp [amountsIf,map_reverse,sum_reverse]

theorem typeAmountsIf (type allocations) : typeAmounts type allocations = amountsIf (fun _ t => decide (t = type)) allocations := by
  simp [typeAmounts,amountsIf]

theorem lotAmountsIf (id allocations) : lotAmounts id allocations = amountsIf (fun lot _ => decide (lot = id)) allocations := by
  simp [lotAmounts,amountsIf]

-- A spent allocation stays in the list with nothing left, and is dropped at the end.
theorem amountsIfSpent (p) {allocations} (nonneg : ∀ a ∈ allocations, 0 ≤ a.amount) :
    amountsIf p (allocations.filter (fun a => decide (0 < a.amount))) = amountsIf p allocations := by
  induction allocations with
  | nil => rfl
  | cons a _ ih =>
    have here := nonneg a mem_cons_self
    have tail := ih (fun x mem => nonneg x (mem_cons_of_mem a mem))
    by_cases pos : 0 < a.amount
    · rw [filter_cons_of_pos (by simpa using pos),amountsIfCons,amountsIfCons,tail]
    · have zero : a.amount = 0 := by omega
      rw [filter_cons_of_neg (by simpa using pos),amountsIfCons,tail,zero]
      simp

theorem takeTypeSum (p type remaining allocations) :
    amountsIf p (takeType type remaining allocations).refunded + amountsIf p (takeType type remaining allocations).kept =
      amountsIf p allocations := by
  induction allocations generalizing remaining with
  | nil => rfl
  | cons a _ ih =>
    unfold takeType
    split
    · have tail := ih remaining
      simp only [amountsIfCons]
      omega
    · have tail := ih (remaining - min a.amount remaining)
      simp only [amountsIfCons]
      split <;> omega

theorem takeTypeNamed (type remaining allocations) {a}
    (mem : a ∈ (takeType type remaining allocations).refunded ∨ a ∈ (takeType type remaining allocations).kept) :
    ∃ b ∈ allocations, b.lotId = a.lotId ∧ b.balanceType = a.balanceType := by
  induction allocations generalizing remaining with
  | nil => exact absurd (mem.elim (fun h => h) (fun h => h)) not_mem_nil
  | cons head rest ih =>
    have later : (∃ b ∈ rest, b.lotId = a.lotId ∧ b.balanceType = a.balanceType) →
        ∃ b ∈ head :: rest, b.lotId = a.lotId ∧ b.balanceType = a.balanceType :=
      fun ⟨b,there,same⟩ => ⟨b,mem_cons_of_mem head there,same⟩
    unfold takeType at mem
    split at mem
    · rcases mem with mem | mem
      · exact later (ih remaining (.inl mem))
      · rcases mem_cons.mp mem with rfl | mem
        · exact ⟨a,mem_cons_self,rfl,rfl⟩
        · exact later (ih remaining (.inr mem))
    · rcases mem with mem | mem
      · rcases mem_cons.mp mem with rfl | mem
        · exact ⟨head,mem_cons_self,rfl,rfl⟩
        · exact later (ih _ (.inl mem))
      · rcases mem_cons.mp mem with rfl | mem
        · exact ⟨head,mem_cons_self,rfl,rfl⟩
        · exact later (ih _ (.inr mem))

variable {allocations : List BalanceLotAllocation} {remaining amount : Int}

theorem takeTypeOther {type} (remaining)
    (other : ∀ a ∈ allocations, a.balanceType ≠ type) : takeType type remaining allocations = ⟨[],allocations,remaining⟩ := by
  induction allocations with
  | nil => rfl
  | cons a _ ih =>
    rw [takeType,if_pos (.inr (.inl (other a mem_cons_self))),ih (fun x mem => other x (mem_cons_of_mem a mem))]

structure Parts (split given kept : QuotaWalletSplit) : Prop where
  wellGiven : WellSplit given
  wellKept : WellSplit kept
  promo : given.promo + kept.promo = split.promo
  cash : given.cash + kept.cash = split.cash
  lots : ∀ id, lotAmounts id given.allocations + lotAmounts id kept.allocations = lotAmounts id split.allocations
  named : ∀ a ∈ given.allocations, ∃ b ∈ split.allocations, b.lotId = a.lotId ∧ b.balanceType = a.balanceType
  cashFirst : given.promo = 0 ∨ kept.cash = 0

section Passes
variable {split : QuotaWalletSplit} (summed : Summed split) {amount : Int} (pos : 0 < amount)
include summed pos

theorem paidPass : TakenOf .paid amount split.allocations.reverse (takeType .paid amount split.allocations.reverse) :=
  takeTypeSpec .paid (le_of_lt pos) (fun a mem => summed.nonneg a (mem_reverse.mp mem))

theorem promoPass : TakenOf .promotional (takeType .paid amount split.allocations.reverse).remaining
    (takeType .paid amount split.allocations.reverse).kept (takeType .promotional
      (takeType .paid amount split.allocations.reverse).remaining (takeType .paid amount split.allocations.reverse).kept) := by
  have paid := paidPass summed pos
  have taken := paid.amount
  have left := paid.left
  exact takeTypeSpec .promotional (by omega) paid.kept

theorem partedSum (p) : amountsIf p (takeWalletRefund split amount).1.allocations +
    amountsIf p (takeWalletRefund split amount).2.allocations = amountsIf p split.allocations := by
  have paid := takeTypeSum p .paid amount split.allocations.reverse
  have promo := takeTypeSum p .promotional (takeType .paid amount split.allocations.reverse).remaining
    (takeType .paid amount split.allocations.reverse).kept
  rw [amountsIfReverse] at paid
  simp only [takeWalletRefund,if_neg (by omega : ¬ amount ≤ 0)]
  rw [amountsIfSpent p (fun a mem => (promoPass summed pos).kept a (mem_reverse.mp mem)),amountsIfReverse,amountsIfAppend]
  omega

theorem partedTypes (type) : typeAmounts type (takeWalletRefund split amount).1.allocations +
    typeAmounts type (takeWalletRefund split amount).2.allocations = typeAmounts type split.allocations := by
  simpa only [typeAmountsIf] using partedSum summed pos (fun _ t => decide (t = type))

omit summed in
theorem partedNamed {a} (mem : a ∈ (takeWalletRefund split amount).1.allocations) :
    ∃ b ∈ split.allocations, b.lotId = a.lotId ∧ b.balanceType = a.balanceType := by
  simp only [takeWalletRefund,if_neg (by omega : ¬ amount ≤ 0)] at mem
  rcases mem_append.mp mem with mem | mem
  · obtain ⟨b,there,same⟩ := takeTypeNamed _ _ _ (.inl mem)
    exact ⟨b,mem_reverse.mp there,same⟩
  · obtain ⟨b,there,lot,type⟩ := takeTypeNamed _ _ _ (.inl mem)
    obtain ⟨c,source,lot',type'⟩ := takeTypeNamed _ _ _ (.inr there)
    exact ⟨c,mem_reverse.mp source,lot'.trans lot,type'.trans type⟩

theorem partedCashFirst : (takeWalletRefund split amount).1.promo = 0 ∨ (takeWalletRefund split amount).2.cash = 0 := by
  have paid := (paidPass summed pos).amount
  have left := (paidPass summed pos).left
  have promo := (promoPass summed pos).amount
  have floor := typeAmountsNonneg .promotional (paidPass summed pos).kept
  rw [typeAmountsReverse,summed.cash] at paid
  simp only [takeWalletRefund,if_neg (by omega : ¬ amount ≤ 0)]
  omega

theorem takeWalletRefundParts : Parts split (takeWalletRefund split amount).1 (takeWalletRefund split amount).2 := by
  have given := (@takeWalletRefundSpec split summed amount).1
  have promoSum := partedTypes summed pos .promotional
  have cashSum := partedTypes summed pos .paid
  rw [given.promo,summed.promo] at promoSum
  rw [given.cash,summed.cash] at cashSum
  have parted : (takeWalletRefund split amount).1.promo + (takeWalletRefund split amount).2.promo = split.promo ∧
      (takeWalletRefund split amount).1.cash + (takeWalletRefund split amount).2.cash = split.cash := by
    simp only [takeWalletRefund,if_neg (by omega : ¬ amount ≤ 0)]
    omega
  refine ⟨given,⟨?_,by omega,by omega⟩,parted.1,parted.2,?_,fun _ mem => partedNamed pos mem,partedCashFirst summed pos⟩
  · intro a mem
    simp only [takeWalletRefund,if_neg (by omega : ¬ amount ≤ 0)] at mem
    simpa using (mem_filter.mp mem).2
  · intro id
    simpa only [lotAmountsIf] using partedSum summed pos (fun lot _ => decide (lot = id))

end Passes

def LotsFirst (allocations : List BalanceLotAllocation) : Prop :=
  allocations.Pairwise (fun a b => b.lotId ≠ 0 → a.lotId ≠ 0)

theorem amountsPos {allocations} (positive : ∀ a ∈ allocations, 0 < a.amount) (something : allocations ≠ []) : 0 < amounts allocations :=
  sum_pos _ (fun x mem => by
    obtain ⟨a,here,rfl⟩ := mem_map.mp mem
    exact positive a here) (by simpa using something)

theorem takePaidLeaves (ask : 0 ≤ remaining) (positive : ∀ a ∈ allocations, 0 < a.amount)
    (left : remaining < amounts allocations) : ∃ a ∈ (takeType .paid remaining allocations).kept, 0 < a.amount := by
  have taken := takeTypeSpec .paid ask (fun a mem => le_of_lt (positive a mem))
  have amount := taken.amount
  have sum := takeTypeSum (fun _ _ => true) .paid remaining allocations
  change amounts _ + amounts _ = amounts _ at sum
  refine exists_lt_of_sum_lt (fun _ => (0 : Int)) BalanceLotAllocation.amount ?_
  have zero : ((takeType .paid remaining allocations).kept.map (fun _ => (0 : Int))).sum = 0 := by simp
  change _ < amounts _
  omega

theorem takePaidUntracked (ask : 0 ≤ remaining) (paid : ∀ a ∈ allocations, a.balanceType = .paid) (positive : ∀ a ∈ allocations, 0 < a.amount)
    (order : allocations.Pairwise (fun a b => a.lotId ≠ 0 → b.lotId ≠ 0)) (left : remaining < amounts allocations)
    (kept : ∀ a ∈ (takeType .paid remaining allocations).kept, 0 < a.amount → a.lotId = 0) : unlotted allocations := by
  induction allocations generalizing remaining with
  | nil => exact forall_mem_nil _
  | cons a rest ih =>
    have here := positive a mem_cons_self
    have later := fun x mem => positive x (mem_cons_of_mem a mem)
    have tailPaid := fun x mem => paid x (mem_cons_of_mem a mem)
    obtain ⟨lotted,tailOrder⟩ := pairwise_cons.mp order
    have free : a.lotId = 0 := by
      by_contra real
      obtain ⟨x,there,pos⟩ := takePaidLeaves ask positive left
      obtain ⟨b,source,lot,_⟩ := takeTypeNamed _ _ _ (.inr there)
      have nothing := lot.trans (kept x there pos)
      rcases mem_cons.mp source with rfl | source
      · exact real nothing
      · exact lotted b source real nothing
    have tail : unlotted rest := by
      by_cases empty : rest = []
      · rw [empty]
        exact forall_mem_nil _
      have something := amountsPos later empty
      rw [amountsCons] at left
      unfold takeType at kept
      split at kept
      · rename_i skip
        have idle : remaining ≤ 0 := skip.resolve_right (by simp [paid a mem_cons_self]; omega)
        exact ih ask tailPaid later tailOrder (by omega) (fun x mem => kept x (mem_cons_of_mem _ mem))
      · exact ih (by omega) tailPaid later tailOrder (by omega) (fun x mem => kept x (mem_cons_of_mem _ mem))
    intro x mem
    rcases mem_cons.mp mem with rfl | mem
    · exact free
    · exact tail x mem

structure Listed (split : QuotaWalletSplit) (promos paids : List BalanceLotAllocation) : Prop where
  all : split.allocations = promos ++ paids
  promo : amounts promos = split.promo
  paid : ∀ a ∈ paids, a.balanceType = .paid
  order : LotsFirst paids

theorem listedPaid {split promos paids} (well : WellSplit split) (listed : Listed split promos paids) (nothing : split.promo = 0) :
    split.allocations = paids := by
  have empty : promos = [] := by
    by_contra some
    have pos := amountsPos (fun a mem => well.positive a (listed.all ▸ mem_append_left paids mem)) some
    rw [listed.promo,nothing] at pos
    omega
  rw [listed.all,empty,nil_append]

theorem keptOnlyCash {split promos paids} (well : WellSplit split) (listed : Listed split promos paids) (pos : 0 < amount)
    (less : amount < split.promo + split.cash) : OnlyCash (takeWalletRefund split amount).2 ↔ OnlyCash split := by
  have parts := takeWalletRefundParts well.summed pos
  have total := (@takeWalletRefundSpec split well.summed amount).2
  have ⟨promoGiven,cashGiven⟩ := wellNonneg parts.wellGiven
  have ⟨promoKept,cashKept⟩ := wellNonneg parts.wellKept
  have promo := parts.promo
  have cash := parts.cash
  constructor
  · rintro ⟨_,free⟩
    have first := parts.cashFirst
    have nothing : split.promo = 0 := by omega
    refine ⟨nothing,?_⟩
    have all := listedPaid well listed nothing
    have paid : ∀ a ∈ split.allocations.reverse, a.balanceType = .paid :=
      fun a mem => listed.paid a (all ▸ mem_reverse.mp mem)
    have positive : ∀ a ∈ split.allocations.reverse, 0 < a.amount := fun a mem => well.positive a (mem_reverse.mp mem)
    have second : takeType .promotional (takeType .paid amount split.allocations.reverse).remaining
        (takeType .paid amount split.allocations.reverse).kept = ⟨[],(takeType .paid amount split.allocations.reverse).kept,
        (takeType .paid amount split.allocations.reverse).remaining⟩ := by
      refine takeTypeOther _ ?_
      intro a mem
      obtain ⟨b,there,_,type⟩ := takeTypeNamed _ _ _ (.inr mem)
      rw [← type,paid b there]
      decide
    simp only [takeWalletRefund,if_neg (by omega : ¬ amount ≤ 0),second] at free
    have reversed : unlotted split.allocations.reverse := by
      refine takePaidUntracked (le_of_lt pos) paid positive ?_ ?_ ?_
      · rw [all]
        exact pairwise_reverse.mpr listed.order
      · rw [← typeAmountsAll paid,typeAmountsReverse,well.cash]
        omega
      · intro a mem something
        exact free a (mem_filter.mpr ⟨mem_reverse.mpr mem,by simpa using something⟩)
    exact fun a mem => reversed a (mem_reverse.mpr mem)
  · intro only
    obtain ⟨_,free⟩ := (onlyCashIff well).mp only
    refine (onlyCashIff parts.wellKept).mpr ⟨by omega,?_⟩
    intro id real
    have whole := parts.lots id
    have given := lotAmountsNonneg parts.wellGiven.positive id
    have kept := lotAmountsNonneg parts.wellKept.positive id
    rw [free id real] at whole
    omega

theorem drawPaidFirst {lots} (ok : LotsOk lots) (id) (nonneg : 0 ≤ amount) : LotsFirst (drawPaid lots id amount).allocations := by
  have drawn := consumeSpec 0 (activeHeld lots id .paid) (fun r mem => activeMem mem) nonneg
  have real : ∀ a ∈ (consumeCreditLots lots amount (activeCreditLotsWithTx lots id .paid)).allocations, a.lotId ≠ 0 := by
    intro a mem
    obtain ⟨_,_,lot,found,_⟩ := drawn.each a mem
    exact (ok a.lotId lot found).1
  have lotted : LotsFirst (consumeCreditLots lots amount (activeCreditLotsWithTx lots id .paid)).allocations :=
    pairwise_of_forall_mem_list (fun a mem _ _ _ => real a mem)
  simp only [drawPaid,Draw.withUntracked]
  split
  · exact pairwise_append.mpr ⟨lotted,pairwise_singleton _ _,fun a mem _ _ _ => real a mem⟩
  · exact lotted

theorem deductListed {db id amount now split db'} (ok : LotsOk db.lots) (pos : 0 < amount)
    (h : decreaseUserQuotaWithSplit db id amount now = .ok (split,db')) : ∃ promos paids, Listed split promos paids := by
  simp only [decreaseUserQuotaWithSplit,bindOk,requireOk,if_neg (by omega : ¬ amount = 0),decreaseUserQuotaWithLots,rowOk,pureOk] at h
  obtain ⟨_,nonneg,user,found,_,_,_,_,last⟩ := h
  have eOk := expiresOk (expireSpec now ok found) ok
  generalize expireUserPromotionLotsWithTx db id user now = e at *
  obtain ⟨draws,_⟩ := drawPromoSpec eOk id now e.user.promoQuota nonneg
  have left := draws.left
  have promoOk := bookedOk draws.booked eOk
  have rest : 0 ≤ (drawPromo e.db.lots id e.user.promoQuota amount).remaining := by omega
  obtain ⟨rfl,rfl⟩ := Prod.mk.inj last
  exact ⟨_,_,rfl,rfl,fun a mem => ((drawPaidSpec promoOk id now rest).1.each a mem).2.1,drawPaidFirst promoOk id rest⟩

theorem partTakesback {db : Database} {id now split given kept} (parts : Parts split given kept)
    (each : Returnable db.lots id now split.allocations) : Returnable db.lots id now given.allocations := by
  intro a mem real
  obtain ⟨b,there,same,type⟩ := parts.named a mem
  obtain ⟨lot,back⟩ := each b there (same ▸ real)
  have room := back.room
  have whole := parts.lots a.lotId
  have kept := lotAmountsNonneg parts.wellKept.positive a.lotId
  rw [same] at room
  exact ⟨lot,same ▸ back.found,back.owner,back.type.trans type,back.alive,back.unexpired,by omega⟩

theorem drawnTyped {lots id type amount} (nonneg : 0 ≤ amount) {take a}
    (mem : a ∈ ((consumeCreditLots lots amount (activeCreditLotsWithTx lots id type)).withUntracked type take).allocations) :
    0 < a.amount ∧ a.balanceType = type := by
  have drawn := consumeSpec 0 (activeHeld lots id type) (fun r mem => activeMem mem) nonneg
  unfold Draw.withUntracked at mem
  split at mem
  · rename_i pos
    rcases mem_append.mp mem with mem | mem
    · exact ⟨(drawn.each a mem).1,(drawn.each a mem).2.1⟩
    · cases mem_singleton.mp mem
      exact ⟨pos,rfl⟩
  · exact ⟨(drawn.each a mem).1,(drawn.each a mem).2.1⟩

theorem drawPromoLeft {lots id promoQuota amount} (nonneg : 0 ≤ amount) : 0 ≤ (drawPromo lots id promoQuota amount).remaining := by
  have drawn := consumeSpec 0 (activeHeld lots id .promotional) (fun r mem => activeMem mem) nonneg
  have taken := drawn.taken
  have left := drawn.left
  simp only [drawPromo,Draw.withUntracked]
  split
  · simp only
    omega
  · omega

theorem deductedWell {db id amount now split db'} (h : decreaseUserQuotaWithSplit db id amount now = .ok (split,db')) : WellSplit split := by
  simp only [decreaseUserQuotaWithSplit,bindOk,requireOk] at h
  obtain ⟨_,nonneg,h⟩ := h
  split at h
  · cases pureOk.mp h
    exact wellNone
  simp only [decreaseUserQuotaWithLots,bindOk,rowOk,requireOk,pureOk] at h
  obtain ⟨_,_,_,_,_,_,last⟩ := h
  obtain ⟨rfl,rfl⟩ := Prod.mk.inj last
  refine wellTyped (fun a mem => ?_) ⟨_,_,rfl,rfl,rfl,fun a mem => (drawnTyped nonneg mem).2,
    fun a mem => (drawnTyped (drawPromoLeft nonneg) mem).2⟩
  rcases mem_append.mp mem with mem | mem
  · exact (drawnTyped nonneg mem).1
  · exact (drawnTyped (drawPromoLeft nonneg) mem).1

def CashBack (user : User) (id : Nat) (given : QuotaWalletSplit) (db' : Database) : Prop :=
  ∃ user', db'.users.get? id = some user' ∧ user.quota + given.cash ≤ user'.quota

theorem cashBackIff {db id given now user} (well : WellSplit given) (found : db.users.get? id = some user) :
    CashBack user id given (commit db (restoreUserQuotaSplit db id given now)) ↔ given.cash = 0 ∨
      Returnable db.lots id now given.allocations ∧ user.quota + (given.promo + given.cash) ≤ maxQuota := by
  have ⟨promo,cash⟩ := wellNonneg well
  have runs := fun pos => @restoreIff db id given now user well pos found
  cases attempt : restoreUserQuotaSplit db id given now with
  | error =>
    constructor
    · rintro ⟨_,there,_⟩
      cases found.symm.trans there
      exact .inl (by omega)
    · intro can
      have nothing : given.cash = 0 := by
        by_contra some
        obtain ⟨_,done⟩ := (runs (by omega)).mpr (can.resolve_left some)
        cases attempt.symm.trans done
      exact ⟨user,found,by omega⟩
  | ok db' =>
    refine iff_of_true ⟨_,((restoreExact well attempt).users user found id).trans (if_pos rfl),?_⟩ ?_
    · simp only
      omega
    · by_cases nothing : given.cash = 0
      · exact .inl nothing
      · exact .inr ((runs (by omega)).mp ⟨db',attempt⟩)

/-- The cash of a refund comes back exactly if every lot the refund names takes its part
back and the quota has room for the whole. -/
theorem cashReturnsIff {db taken later : Database} {id : Nat} {amount now : Int} {split : QuotaWalletSplit} {user : User}
    (deducted : decreaseUserQuotaWithSplit db id amount now = .ok (split,taken)) (found : later.users.get? id = some user) (part t : Int) :
    CashBack user id (takeWalletRefund split part).1 (commit later (restoreUserQuotaSplit later id (takeWalletRefund split part).1 t)) ↔
      (takeWalletRefund split part).1.cash = 0 ∨ Returnable later.lots id t (takeWalletRefund split part).1.allocations ∧
        user.quota + ((takeWalletRefund split part).1.promo + (takeWalletRefund split part).1.cash) ≤ maxQuota := by
  exact cashBackIff (takeWalletRefundSpec (deductedWell deducted).summed).1 found

theorem untrackedComesBack : ∃ split taken user, decreaseUserQuotaWithSplit funded 1 10 10 = .ok (split,taken) ∧
    taken.users.get? 1 = some user ∧
    CashBack user 1 (takeWalletRefund split 4).1 (commit taken (restoreUserQuotaSplit taken 1 (takeWalletRefund split 4).1 20)) := by
  have deducted : decreaseUserQuotaWithSplit funded 1 10 10 = .ok (_,_) := rfl
  refine ⟨_,_,_,deducted,rfl,(cashReturnsIff deducted rfl 4 20).mpr (.inr ⟨?_,by decide⟩)⟩
  intro a mem real
  cases mem_singleton.mp mem
  exact absurd rfl real

def bonus : Database := setBalance { funded with lots := ⟨[(1,⟨1,"order",.promotional,5,5,"USD",500,100,.active⟩)],by decide⟩ } 1 1005 5

theorem expiredLotKeepsCash : ∃ split taken user, decreaseUserQuotaWithSplit bonus 1 10 10 = .ok (split,taken) ∧
    taken.users.get? 1 = some user ∧ (takeWalletRefund split 10).1.cash = 5 ∧
    ¬ CashBack user 1 (takeWalletRefund split 10).1 (commit taken (restoreUserQuotaSplit taken 1 (takeWalletRefund split 10).1 200)) := by
  refine ⟨_,_,_,rfl,rfl,by decide,?_⟩
  rintro ⟨_,found,enough⟩
  cases found
  exact absurd enough (by decide)

end NovaPuraRouter.RefundParts
