import NovaPuraRouter.Billing
import NovaPuraRouter.WalletSound

/-! What the calls of a billed request move: the quota of the user and of the token with the
batch updater's deltas counted in, and the parts of a split. -/
namespace NovaPuraRouter.BillingSpec
open CreditLot LotBook LotSpec DeductSpec Funding Grants Billing List Option Table

def pendingUser (db : Database) (id : Nat) : Int := ((db.pendingUserQuota.get? id).getD 0 : Nat)

def observedQuota (db : Database) (id : Nat) : Option Int := (db.users.get? id).map (fun u => u.quota + pendingUser db id)

def observedToken (db : Database) (id : Nat) : Option Int :=
  (db.tokens.get? id).map (fun t => t.remainQuota + (db.pendingTokenQuota.get? id).getD 0)

structure Charged (info : RelayInfo) (db db' : Database) (quota token : Int) : Prop where
  quota : observedQuota db' info.userId = (observedQuota db info.userId).map (· + quota)
  token : observedToken db' info.tokenId = (observedToken db info.tokenId).map (· + token)

theorem mapAddZero (v : Option Int) : v.map (· + 0) = v := by cases v <;> simp

theorem mapAddAdd (v : Option Int) (m n) : (v.map (· + m)).map (· + n) = v.map (· + (m + n)) := by
  cases v <;> simp [add_assoc]

theorem chargedNone (info db) : Charged info db db 0 0 := ⟨(mapAddZero _).symm,(mapAddZero _).symm⟩

theorem chargedTrans {info a b c q t q' t'} (h : Charged info a b q t) (k : Charged info b c q' t') : Charged info a c (q + q') (t + t') :=
  ⟨by rw [k.quota,h.quota,mapAddAdd],by rw [k.token,h.token,mapAddAdd]⟩

theorem chargedCast {info a b q t q' t'} (h : Charged info a b q t) (quota : q = q') (token : t = t') :
    Charged info a b q' t' := quota ▸ token ▸ h

section Deltas
variable {α : Type} [Add α] [Zero α]

theorem addNewRecordGet (zero : ∀ a : α, 0 + a = a) (store id) (value : α) (j) :
    ((addNewRecord store id value).get? j).getD 0 = if j = id then (store.get? j).getD 0 + value else (store.get? j).getD 0 := by
  unfold addNewRecord
  split
  · rename_i fresh
    have nothing : store.get? id = none := by
      cases found : store.get? id with
      | none => rfl
      | some a => exact absurd (getKeys.mpr ⟨a,found⟩) fresh
    rw [getInsert]
    split
    · rename_i same
      simp [same,nothing,zero]
    · rfl
  · rename_i there
    obtain ⟨a,found⟩ := getKeys.mp (not_not.mp there)
    rw [Table.getModify]
    split
    · rename_i same
      simp [same,found]
    · rfl

end Deltas

theorem tokenCharged (cfg) (info : RelayInfo) (db n) : Charged info db (moveToken cfg db info.tokenId n) 0 n := by
  unfold moveToken
  split
  · refine ⟨(mapAddZero _).symm,?_⟩
    simp only [observedToken]
    rw [addNewRecordGet (fun a => zero_add a),if_pos rfl]
    cases db.tokens.get? info.tokenId with
    | none => rfl
    | some => simp only [map_some,add_assoc]
  · refine ⟨(mapAddZero _).symm,?_⟩
    simp only [observedToken,moveTokenQuota,getModifySelf]
    cases db.tokens.get? info.tokenId with
    | none => rfl
    | some =>
      simp only [map_some]
      congr 1
      omega

theorem tokenKept (cfg db tokenId n) : (moveToken cfg db tokenId n).users = db.users ∧ (moveToken cfg db tokenId n).lots = db.lots := by
  unfold moveToken
  split <;> exact ⟨rfl,rfl⟩

theorem chargedFrame {info db db' user user'} (frame : walletFrame db db')
    (found : db.users.get? info.userId = some user) (users : rewritten db.users info.userId user' db'.users) :
    Charged info db db' (user'.quota - user.quota) 0 := by
  refine ⟨?_,?_⟩
  · have pending : pendingUser db' info.userId = pendingUser db info.userId := by
      unfold pendingUser
      rw [frame]
    simp only [observedQuota,users info.userId,if_true,found,pending,map_some]
    congr 1
    omega
  · rw [mapAddZero]
    unfold observedToken
    rw [frame]

theorem deductCharged {info db amount now split db'} (ok : LotsOk db.lots)
    (h : decreaseUserQuotaWithSplit db info.userId amount now = .ok (split,db')) : Charged info db db' (-(amount + split.expired)) 0 := by
  obtain ⟨rfl,rfl,rfl⟩ | ⟨_,_,found,deducts⟩ := deductCases ok h
  · exact chargedNone info _
  refine chargedCast (chargedFrame deducts.frame found deducts.users) ?_ rfl
  rw [deducts.expired,deducts.expires.left]
  simp only
  omega

theorem cashCharged {cfg db n db'} (info : RelayInfo) (h : increaseUserCashQuota cfg db info.userId n false = .ok db') :
    Charged info db db' n 0 ∧ db'.lots = db.lots := by
  simp only [increaseUserCashQuota,bindOk,requireOk] at h
  obtain ⟨_,_,h⟩ := h
  split at h
  · rename_i zero
    cases pureOk.mp h
    exact ⟨chargedCast (chargedNone info _) zero.symm rfl,rfl⟩
  split at h
  · cases pureOk.mp h
    refine ⟨⟨?_,(mapAddZero _).symm⟩,rfl⟩
    have grown : pendingUser { db with pendingUserQuota := addNewRecord db.pendingUserQuota info.userId n.toNat } info.userId =
        pendingUser db info.userId + n := by
      unfold pendingUser
      simp only [addNewRecordGet (fun a => zero_add a),if_true]
      omega
    simp only [observedQuota,grown]
    cases db.users.get? info.userId with
    | none => rfl
    | some => simp only [map_some,add_assoc]
  · cases pureOk.mp h
    refine ⟨⟨?_,(mapAddZero _).symm⟩,rfl⟩
    simp only [observedQuota,Database.credit,getModifySelf,pendingUser]
    cases db.users.get? info.userId with
    | none => rfl
    | some =>
      simp only [map_some]
      congr 1
      omega

def typeAmounts (type : BalanceType) (allocations : List BalanceLotAllocation) : Int :=
  (allocations.map (fun a => if a.balanceType = type then a.amount else 0)).sum

@[simp] theorem typeAmountsCons (type a rest) : typeAmounts type (a :: rest) =
    (if a.balanceType = type then a.amount else 0) + typeAmounts type rest := rfl

theorem typeAmountsAppend (type a b) : typeAmounts type (a ++ b) = typeAmounts type a + typeAmounts type b := by
  simp [typeAmounts]

theorem typeAmountsReverse (type a) : typeAmounts type a.reverse = typeAmounts type a := by
  simp [typeAmounts,map_reverse,sum_reverse]

theorem typeAmountsAll {type allocations} (all : ∀ a ∈ allocations, a.balanceType = type) :
    typeAmounts type allocations = amounts allocations := by
  induction allocations with
  | nil => rfl
  | cons a _ ih =>
    rw [typeAmountsCons,amountsCons,ih (fun x mem => all x (mem_cons_of_mem a mem)),if_pos (all a mem_cons_self)]

theorem typeAmountsNone {type allocations} (nothing : ∀ a ∈ allocations, a.balanceType ≠ type) : typeAmounts type allocations = 0 := by
  induction allocations with
  | nil => rfl
  | cons a _ ih =>
    rw [typeAmountsCons,ih (fun x mem => nothing x (mem_cons_of_mem a mem)),if_neg (nothing a mem_cons_self)]
    rfl

variable {allocations : List BalanceLotAllocation}

theorem typeAmountsNonneg (type) (nonneg : ∀ a ∈ allocations, 0 ≤ a.amount) : 0 ≤ typeAmounts type allocations := by
  refine sum_nonneg ?_
  intro x mem
  obtain ⟨a,here,rfl⟩ := List.mem_map.mp mem
  have := nonneg a here
  split <;> omega

/- A split as deductions make it: positive allocations that add up to its two parts. -/
structure WellSplit (split : QuotaWalletSplit) : Prop where
  positive : ∀ a ∈ split.allocations, 0 < a.amount
  promo : typeAmounts .promotional split.allocations = split.promo
  cash : typeAmounts .paid split.allocations = split.cash

structure Summed (split : QuotaWalletSplit) : Prop where
  nonneg : ∀ a ∈ split.allocations, 0 ≤ a.amount
  promo : typeAmounts .promotional split.allocations = split.promo
  cash : typeAmounts .paid split.allocations = split.cash

variable {split}

theorem WellSplit.summed (well : WellSplit split) : Summed split :=
  ⟨fun a mem => le_of_lt (well.positive a mem),well.promo,well.cash⟩

theorem wellNone : WellSplit .none := ⟨fun _ mem => absurd mem not_mem_nil,rfl,rfl⟩

theorem summedNonneg (summed : Summed split) : 0 ≤ split.promo ∧ 0 ≤ split.cash :=
  ⟨summed.promo ▸ typeAmountsNonneg .promotional summed.nonneg,summed.cash ▸ typeAmountsNonneg .paid summed.nonneg⟩

theorem wellNonneg (well : WellSplit split) : 0 ≤ split.promo ∧ 0 ≤ split.cash := summedNonneg well.summed

theorem wellTyped (positive : ∀ a ∈ split.allocations, 0 < a.amount) (typed : ∃ promos paids,
    split.allocations = promos ++ paids ∧ amounts promos = split.promo ∧ amounts paids = split.cash ∧
      (∀ a ∈ promos, a.balanceType = .promotional) ∧ ∀ a ∈ paids, a.balanceType = .paid) : WellSplit split := by
  obtain ⟨_,_,all,promo,cash,promoType,paidType⟩ := typed
  refine ⟨positive,?_,?_⟩
  · rw [all,typeAmountsAppend,typeAmountsAll promoType,typeAmountsNone (fun a mem => by rw [paidType a mem]; decide),promo]
    omega
  · rw [all,typeAmountsAppend,typeAmountsAll paidType,typeAmountsNone (fun a mem => by rw [promoType a mem]; decide),cash]
    omega

theorem deductsWell {db id amount now user e split db'} (h : Deducts db id amount now user e split db') : WellSplit split :=
  wellTyped (fun a mem => (h.each a mem).1) h.typed

structure TakenOf (type : BalanceType) (remaining : Int) (allocations : List BalanceLotAllocation) (t : Taken) : Prop where
  amount : amounts t.refunded = min remaining (typeAmounts type allocations)
  left : t.remaining = remaining - amounts t.refunded
  each : ∀ a ∈ t.refunded, 0 < a.amount ∧ a.balanceType = type
  kept : ∀ a ∈ t.kept, 0 ≤ a.amount
  others : ∀ other, other ≠ type → typeAmounts other t.kept = typeAmounts other allocations

theorem takeTypeSpec (type) {remaining} (ask : 0 ≤ remaining)
    (nonneg : ∀ a ∈ allocations, 0 ≤ a.amount) : TakenOf type remaining allocations (takeType type remaining allocations) := by
  induction allocations generalizing remaining with
  | nil =>
    exact ⟨by simp [takeType,amounts,typeAmounts,ask],by simp [takeType,amounts],by simp [takeType],by simp [takeType],
      fun _ _ => rfl⟩
  | cons a rest ih =>
    have here := nonneg a mem_cons_self
    have later := fun x mem => nonneg x (mem_cons_of_mem a mem)
    have floor : 0 ≤ typeAmounts type rest := typeAmountsNonneg type later
    unfold takeType
    split
    · rename_i skip
      have tail := ih ask later
      have amount := tail.amount
      refine ⟨?_,tail.left,tail.each,?_,?_⟩
      · rw [typeAmountsCons]
        simp only
        by_cases mine : a.balanceType = type
        · have skip := skip.imp_right (·.resolve_left (not_not_intro mine))
          omega
        · rw [if_neg mine]
          omega
      · intro x mem
        rcases mem_cons.mp mem with rfl | mem
        · exact here
        · exact tail.kept x mem
      · intro other different
        rw [typeAmountsCons,typeAmountsCons,tail.others other different]
    · rename_i take
      simp only [not_or,not_not] at take
      have tail := ih (by omega : 0 ≤ remaining - min a.amount remaining) later
      have amount := tail.amount
      have left := tail.left
      refine ⟨?_,?_,?_,?_,?_⟩
      · rw [amountsCons,typeAmountsCons,if_pos take.2.1]
        simp only
        omega
      · rw [amountsCons]
        simp only
        omega
      · intro x mem
        rcases mem_cons.mp mem with rfl | mem
        · exact ⟨by simp only; omega,take.2.1⟩
        · exact tail.each x mem
      · intro x mem
        rcases mem_cons.mp mem with rfl | mem
        · simp only
          omega
        · exact tail.kept x mem
      · intro other different
        have apart : a.balanceType ≠ other := fun same => different (same.symm.trans take.2.1)
        rw [typeAmountsCons,typeAmountsCons,tail.others other different,if_neg apart,if_neg apart]

theorem takeWalletRefundSpec (summed : Summed split) {amount} : WellSplit (takeWalletRefund split amount).1 ∧
      (takeWalletRefund split amount).1.promo + (takeWalletRefund split amount).1.cash = max (min amount (split.promo + split.cash)) 0 := by
  have ⟨promoFloor,cashFloor⟩ := summedNonneg summed
  have promoSum := summed.promo
  have cashSum := summed.cash
  unfold takeWalletRefund
  split
  · refine ⟨wellNone,?_⟩
    simp only [QuotaWalletSplit.none]
    omega
  have paid := takeTypeSpec .paid (by omega : 0 ≤ amount) (fun a mem => summed.nonneg a (mem_reverse.mp mem))
  have paidAmount := paid.amount
  have paidLeft := paid.left
  rw [typeAmountsReverse] at paidAmount
  have promo := takeTypeSpec .promotional (by omega : 0 ≤ (takeType .paid amount split.allocations.reverse).remaining) paid.kept
  have promoAmount := promo.amount
  rw [paid.others .promotional (by decide),typeAmountsReverse] at promoAmount
  refine ⟨⟨?_,?_,?_⟩,?_⟩
  · intro a mem
    rcases mem_append.mp mem with mem | mem
    · exact (paid.each a mem).1
    · exact (promo.each a mem).1
  · simp only [typeAmountsAppend]
    rw [typeAmountsAll (fun a mem => (promo.each a mem).2),
      typeAmountsNone (fun a mem => by rw [(paid.each a mem).2]; decide)]
    omega
  · simp only [typeAmountsAppend]
    rw [typeAmountsAll (fun a mem => (paid.each a mem).2),
      typeAmountsNone (fun a mem => by rw [(promo.each a mem).2]; decide)]
    omega
  · simp only
    omega

theorem typeAmountsBoth (allocations) : typeAmounts .promotional allocations + typeAmounts .paid allocations = amounts allocations := by
  induction allocations with
  | nil => rfl
  | cons a _ ih =>
    rw [typeAmountsCons,typeAmountsCons,amountsCons,← ih]
    cases a.balanceType <;> simp <;> omega

theorem wellEmpty (well : WellSplit split) (nothing : split.promo + split.cash = 0) : split.allocations = [] := by
  have total := typeAmountsBoth split.allocations
  rw [well.promo,well.cash,nothing] at total
  have positive := well.positive
  cases all : split.allocations with
  | nil => rfl
  | cons a rest =>
    rw [all] at total positive
    have here := positive a mem_cons_self
    have others : 0 ≤ amounts rest := by
      rw [← typeAmountsBoth]
      have later := fun x mem => le_of_lt (positive x (mem_cons_of_mem a mem))
      have promo := typeAmountsNonneg .promotional later
      have paid := typeAmountsNonneg .paid later
      omega
    rw [amountsCons] at total
    omega

theorem restoreRowSum (id now type allocations) :
    rowSum (fun e => decide (e.balanceType = type)) (allocations.map (restoreRow id now)) = typeAmounts type allocations := by
  induction allocations with
  | nil => rfl
  | cons a _ ih =>
    rw [map_cons,rowSumCons,ih,typeAmountsCons]
    by_cases same : a.balanceType = type <;> simp [restoreRow,same]

structure Returns (db : Database) (id : Nat) (split : QuotaWalletSplit) (now : Int) (db' : Database) : Prop where
  frame : walletFrame db db'
  booked : Booked db.lots (split.allocations.map (restoreRow id now)) db'.lots
  users : ∀ user, db.users.get? id = some user → rewritten db.users id { user with
    quota := user.quota + (split.promo + split.cash), promoQuota := user.promoQuota + split.promo } db'.users

theorem restoredAmounts {id now lots split r} (well : WellSplit split)
    (restored : restoreAllocations id now lots split.allocations = .ok r) :
    r.rows = split.allocations.map (restoreRow id now) ∧ r.promo = split.promo ∧ r.cash = split.cash := by
  have restores := restoreBooked restored
  have rows : r.rows = split.allocations.map (restoreRow id now) := by
    rw [restores.rows,filter_eq_self.mpr (fun a mem => by simpa using well.positive a mem)]
  exact ⟨rows,by rw [restores.promo,rows,restoreRowSum,well.promo],by rw [restores.cash,rows,restoreRowSum,well.cash]⟩

theorem restoreExact {db id split now db'} (well : WellSplit split)
    (h : restoreUserQuotaSplit db id split now = .ok db') : Returns db id split now db' := by
  simp only [restoreUserQuotaSplit,bindOk,requireOk] at h
  obtain ⟨_,⟨_,_⟩,h⟩ := h
  split at h
  · rename_i zero
    cases pureOk.mp h
    have promo : split.promo = 0 := by omega
    refine ⟨rfl,by rw [wellEmpty well zero]; exact .nil,fun user found => ?_⟩
    rw [zero,promo,add_zero,add_zero]
    exact rewrittenSelf found
  · rename_i something
    simp only [restoreUserQuotaSplitWithLots,bindOk,rowOk] at h
    obtain ⟨_,found,h⟩ := h
    split at h
    · rename_i empty
      have promo := well.promo
      have cash := well.cash
      rw [empty] at promo cash
      simp only [typeAmounts,map_nil,sum_nil] at promo cash
      omega
    · simp only [bindOk,requireOk,pureOk] at h
      obtain ⟨r,restored,_,_,rfl⟩ := h
      obtain ⟨rows,promo,cash⟩ := restoredAmounts well restored
      refine ⟨rfl,rows ▸ (restoreBooked restored).booked,fun other there => ?_⟩
      cases Option.some.inj (found.symm.trans there)
      rw [promo,cash]
      exact setBalanceUsers found _ _

theorem restoreCharged {info db split now db' user} (well : WellSplit split) (found : db.users.get? info.userId = some user)
    (h : restoreUserQuotaSplit db info.userId split now = .ok db') : Charged info db db' (split.promo + split.cash) 0 := by
  have returns := restoreExact well h
  refine chargedCast (chargedFrame returns.frame found (returns.users user found)) ?_ rfl
  simp only
  omega

end NovaPuraRouter.BillingSpec
