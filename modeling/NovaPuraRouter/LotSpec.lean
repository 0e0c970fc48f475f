import NovaPuraRouter.LotBook

/-! What each lot transaction that succeeds does: the ledger rows it adds book every change
of a lot, and the two balance columns move by the amounts named here. -/
namespace NovaPuraRouter.LotSpec
open CreditLot LotBook List Table

structure Held (lots : Lots) (rows : List LotRow) : Prop where
  distinct : (rows.map Prod.fst).Nodup
  found : ∀ r ∈ rows, lots.get? r.1 = some r.2

theorem heldSelect (lots p) : Held lots (lots.select p) := by
  refine ⟨lots.selectNodup p,?_⟩
  intro r mem
  exact (memSelect.mp mem).1

theorem heldPerm {lots rows rows'} (h : Held lots rows) (perm : rows'.Perm rows) : Held lots rows' :=
  ⟨(perm.map Prod.fst).nodup_iff.mpr h.distinct,fun r mem => h.found r (perm.mem_iff.mp mem)⟩

theorem heldTail {lots r rows} (h : Held lots (r :: rows)) (change) : Held (lots.modify r.1 change) rows := by
  have distinct := h.distinct
  rw [map_cons,nodup_cons] at distinct
  refine ⟨distinct.2,?_⟩
  intro other mem
  have different : other.1 ≠ r.1 := fun same => distinct.1 (same ▸ List.mem_map_of_mem mem)
  rw [getModifyOther _ different]
  exact h.found other (mem_cons_of_mem r mem)

def rowsSum (rows : List LotRow) : Int := (rows.map (fun r => r.2.remainingQuota)).sum

theorem rowsSumPerm {a b} (perm : a.Perm b) : rowsSum a = rowsSum b := (perm.map _).sum_eq

@[simp] theorem rowsSumCons (r rows) : rowsSum (r :: rows) = r.2.remainingQuota + rowsSum rows := rfl

variable {rows : List LotRow} {lots : Lots} {entry : LotRow → BalanceLedger}

theorem rowsSumNonneg (nonneg : ∀ r ∈ rows, 0 ≤ r.2.remainingQuota) : 0 ≤ rowsSum rows := by
  refine sum_nonneg ?_
  intro x mem
  obtain ⟨r,hr,rfl⟩ := List.mem_map.mp mem
  exact nonneg r hr

theorem closeBooked {status rows} (held : Held lots rows) (final : status = .expired ∨ status = .reversed)
    (pos : ∀ r ∈ rows, 0 < r.2.remainingQuota)
    (names : ∀ r ∈ rows, (entry r).lotId = r.1 ∧ (entry r).amountQuota = -r.2.remainingQuota ∧
      (entry r).userId = r.2.userId ∧ (entry r).balanceType = r.2.balanceType) (unused : ∀ r, (entry r).entryType ≠ .apiUsage) :
    Booked lots (rows.map entry) (closeLots status lots rows) := by
  induction rows generalizing lots with
  | nil => exact .nil
  | cons r _ ih =>
    obtain ⟨lotId,amount,owner,type⟩ := names r mem_cons_self
    have tail := ih (heldTail held (setLot 0 status)) (fun x mem => pos x (mem_cons_of_mem r mem))
      (fun x mem => names x (mem_cons_of_mem r mem))
    refine @Booked.move lots (entry r) r.2 (setLot 0 status) _ _ ?_ ?_ owner type (by rw [lotId]; exact tail)
    · rw [lotId]
      exact held.found r mem_cons_self
    · rw [amount]
      exact .close (pos r mem_cons_self) final (unused r)

theorem trackedClosed {userId type} (names : ∀ r ∈ rows, (entry r).lotId ≠ 0 ∧ (entry r).amountQuota = -r.2.remainingQuota ∧
      (entry r).userId = userId ∧ (entry r).balanceType = type) (u b) :
    trackedSum u b (rows.map entry) = if userId = u ∧ type = b then -rowsSum rows else 0 := by
  induction rows with
  | nil => simp [trackedSum,rowsSum]
  | cons r _ ih =>
    obtain ⟨real,amount,owner,same⟩ := names r mem_cons_self
    rw [map_cons,trackedSumCons,ih (fun x mem => names x (mem_cons_of_mem r mem)),amount,owner,same]
    by_cases mine : userId = u ∧ type = b
    · simp only [real,mine,and_self,ne_eq,not_false_eq_true,if_true,rowsSumCons]
      omega
    · simp only [mine,and_false,if_false,add_zero]

theorem dueHeld (lots userId now) : Held lots (dueLots lots userId now) :=
  heldPerm (heldSelect lots _) (perm_insertionSort _ _)

theorem dueMem {userId now r} (mem : r ∈ dueLots lots userId now) : lots.get? r.1 = some r.2 ∧ dueLot userId now r.2 = true :=
  memSelect.mp ((perm_insertionSort _ _).mem_iff.mp mem)

theorem activeHeld (lots userId type) : Held lots (activeCreditLotsWithTx lots userId type) := by
  cases type with
  | paid | promotional => exact heldPerm (heldSelect lots _) (perm_insertionSort _ _)

theorem activePerm (lots userId type) : (activeCreditLotsWithTx lots userId type).Perm
    (lots.select (fun _ l => activeLot userId type l)) := by
  cases type with
  | paid | promotional => exact perm_insertionSort _ _

theorem activeMem {userId type r} (mem : r ∈ activeCreditLotsWithTx lots userId type) :
    activeLot userId type r.2 = true := (memSelect.mp ((activePerm lots userId type).mem_iff.mp mem)).2

theorem activeSum (ok : LotsOk lots) (userId type) : rowsSum (activeCreditLotsWithTx lots userId type) = tracked lots userId type := by
  rw [rowsSumPerm (activePerm lots userId type)]
  refine (sumSelect lots (fun _ l => activeLot userId type l) (fun _ l => l.remainingQuota)).trans ?_
  refine sumCongr ?_
  intro id lot found
  have ⟨nonneg,within,live⟩ := (ok id lot found).2
  simp only [activeLot,owned,decide_eq_true_eq]
  by_cases mine : lot.userId = userId ∧ lot.balanceType = type
  · by_cases left : 0 < lot.remainingQuota
    · simp [mine,left,live.mpr left]
    · have zero : lot.remainingQuota = 0 := by omega
      simp [mine,zero]
  · have other : ¬ (lot.userId = userId ∧ lot.balanceType = type ∧ lot.status = .active ∧ 0 < lot.remainingQuota) :=
      fun h => mine ⟨h.1,h.2.1⟩
    simp only [mine,other,if_false]

theorem trackedNonneg (ok : LotsOk lots) (userId type) : 0 ≤ tracked lots userId type := by
  refine sumNonneg ?_
  intro id lot found
  have nonneg := (ok id lot found).2.nonneg
  unfold owned
  split <;> omega

def rewritten (users : Table Nat User) (id : Nat) (user : User) (users' : Table Nat User) : Prop :=
  ∀ j, users'.get? j = if j = id then some user else users.get? j

theorem setBalanceUsers {db id user} (found : db.users.get? id = some user) (quota promo) :
    rewritten db.users id { user with quota := quota, promoQuota := promo } (setBalance db id quota promo).users := by
  intro j
  simp only [setBalance,Table.getModify]
  split <;> simp [found]

theorem rewrittenTrans {users id user users' user' users''} (h : rewritten users id user users')
    (k : rewritten users' id user' users'') : rewritten users id user' users'' := by
  intro j
  rw [k j]
  split
  · rfl
  · rename_i other
    rw [h j,if_neg other]

theorem rewrittenSelf {users id user} (found : users.get? id = some user) : rewritten users id user users := by
  intro j
  split
  · rename_i same
    rw [same,found]
  · rfl

structure Expires (db : Database) (id : Nat) (user : User) (now : Int) (e : Expiry) : Prop where
  frame : e.db = { db with users := e.db.users, lots := e.db.lots, ledger := e.db.ledger }
  booked : ∃ rows, e.db.ledger = db.ledger ++ rows ∧ Booked db.lots rows e.db.lots ∧
    ∀ x ∈ rows, ¬ topupEntry x ∧ x.amountQuota ≤ 0
  lots : ∀ u b, tracked e.db.lots u b = tracked db.lots u b -
    if id = u ∧ BalanceType.promotional = b then rowsSum (dueLots db.lots id now) else 0
  users : rewritten db.users id e.user e.db.users
  left : e.user = { user with quota := user.quota - e.removed, promoQuota := user.promoQuota - e.removed }
  removed : e.removed = if dueLots db.lots id now = [] then 0
    else min (min (rowsSum (dueLots db.lots id now)) user.promoQuota) user.quota

theorem dueSumNonneg (lots id now) : 0 ≤ rowsSum (dueLots lots id now) := by
  refine rowsSumNonneg ?_
  intro r mem
  have due := (dueMem mem).2
  simp only [dueLot,decide_eq_true_eq] at due
  omega

theorem expireSpec {db id user} (now) (ok : LotsOk db.lots) (found : db.users.get? id = some user) :
    Expires db id user now (expireUserPromotionLotsWithTx db id user now) := by
  unfold expireUserPromotionLotsWithTx
  by_cases nothing : dueLots db.lots id now = []
  · simp only [nothing,if_true]
    exact ⟨rfl,⟨[],by simp,.nil,by simp⟩,by simp [nothing,rowsSum],rewrittenSelf found,by simp,by simp [nothing]⟩
  simp only [nothing,if_false]
  have names : ∀ r ∈ dueLots db.lots id now, (expirationRow id now r).lotId = r.1 ∧
      (expirationRow id now r).amountQuota = -r.2.remainingQuota ∧
      (expirationRow id now r).userId = r.2.userId ∧ (expirationRow id now r).balanceType = r.2.balanceType := by
    intro r mem
    have due := (dueMem mem).2
    simp only [dueLot,decide_eq_true_eq] at due
    exact ⟨rfl,rfl,due.1.symm,due.2.1.symm⟩
  have booked : Booked db.lots ((dueLots db.lots id now).map (expirationRow id now))
      (closeLots .expired db.lots (dueLots db.lots id now)) := by
    refine closeBooked (dueHeld _ _ _) (.inl rfl) ?_ names (fun _ => by simp [expirationRow])
    intro r mem
    have due := (dueMem mem).2
    simp only [dueLot,decide_eq_true_eq] at due
    exact due.2.2.2.1
  have moved : ∀ u b, trackedSum u b ((dueLots db.lots id now).map (expirationRow id now)) =
      if id = u ∧ BalanceType.promotional = b then -rowsSum (dueLots db.lots id now) else 0 := by
    refine trackedClosed ?_
    intro r mem
    exact ⟨(ok _ _ (dueMem mem).1).1,rfl,rfl,rfl⟩
  have plain : ∀ x ∈ (dueLots db.lots id now).map (expirationRow id now), ¬ topupEntry x ∧ x.amountQuota ≤ 0 := by
    intro x mem
    obtain ⟨r,here,rfl⟩ := List.mem_map.mp mem
    have due := (dueMem here).2
    simp only [dueLot,decide_eq_true_eq] at due
    exact ⟨by simp [topupEntry,expirationRow],by simp only [expirationRow]; omega⟩
  refine ⟨rfl,⟨_,rfl,booked,plain⟩,?_,?_,rfl,by simp [nothing,rowsSum]⟩
  · intro u b
    simp only [setBalance]
    rw [bookedTracked booked ok,moved]
    split <;> omega
  · exact @setBalanceUsers { db with lots := _, ledger := _ } id user found _ _

structure Drawn (lots : Lots) (id : Nat) (type : BalanceType) (now amount total : Int) (draw : Draw) : Prop where
  booked : Booked lots (draw.allocations.map (usageRow id now)) draw.lots
  taken : amounts draw.allocations = min amount total
  left : draw.remaining = amount - amounts draw.allocations
  each : ∀ a ∈ draw.allocations, 0 < a.amount ∧ a.balanceType = type ∧
    ∃ lot, lots.get? a.lotId = some lot ∧ lot.userId = id ∧ lot.balanceType = type ∧ lot.orderId = a.orderId

theorem amountsCons (a rest) : amounts (a :: rest) = a.amount + amounts rest := rfl

theorem amountsAppend (a b) : amounts (a ++ b) = amounts a + amounts b := by simp [amounts]

theorem consumeSpec {id type} (now) {amount rows} (held : Held lots rows)
    (live : ∀ r ∈ rows, activeLot id type r.2 = true) (nonneg : 0 ≤ amount) :
    Drawn lots id type now amount (rowsSum rows) (consumeCreditLots lots amount rows) := by
  induction rows generalizing lots amount with
  | nil => exact ⟨.nil,by simp [consumeCreditLots,amounts,rowsSum,nonneg],by simp [consumeCreditLots,amounts],
      by simp [consumeCreditLots]⟩
  | cons r rest ih =>
    have here := live r mem_cons_self
    simp only [activeLot,decide_eq_true_eq] at here
    obtain ⟨owner,same,active,_⟩ := here
    have others : 0 ≤ rowsSum rest := by
      refine rowsSumNonneg ?_
      intro x mem
      have h := live x (mem_cons_of_mem r mem)
      simp only [activeLot,decide_eq_true_eq] at h
      omega
    by_cases zero : amount = 0
    · subst amount
      refine ⟨?_,?_,?_,?_⟩
      · simpa [consumeCreditLots] using Booked.nil
      · simp only [consumeCreditLots,if_true,amounts,map_nil,sum_nil,rowsSumCons]
        omega
      · simp [consumeCreditLots,amounts]
      · simp [consumeCreditLots]
    · have ask : ¬ (amount ≤ 0 ∨ r.2.remainingQuota ≤ 0) := by omega
      simp only [consumeCreditLots,zero,if_false,consumeCreditLotWithTx,ask]
      have next := heldTail held (setLot (r.2.remainingQuota - min amount r.2.remainingQuota)
        (if r.2.remainingQuota - min amount r.2.remainingQuota = 0 then .exhausted else .active))
      have less : 0 ≤ amount - min amount r.2.remainingQuota := by omega
      have tail := ih next (fun x mem => live x (mem_cons_of_mem r mem)) less
      refine ⟨?_,?_,?_,?_⟩
      · refine .move (held.found r mem_cons_self) ?_ owner.symm rfl tail.booked
        exact @Moved.take r.2 (min amount r.2.remainingQuota) active (by omega) (by omega)
      · rw [amountsCons,tail.taken,rowsSumCons]
        simp only
        omega
      · have := tail.left
        rw [amountsCons]
        simp only
        omega
      · intro a mem
        rcases mem_cons.mp mem with rfl | mem
        · exact ⟨by simp only; omega,same,r.2,held.found r mem_cons_self,owner,same,rfl⟩
        obtain ⟨amountPos,kind,lot,found,mine,sort,order⟩ := tail.each a mem
        obtain ⟨_,there,sameId,rfl⟩ | ⟨_,there⟩ := modifyCases found
        · cases (held.found r mem_cons_self).symm.trans there
          exact ⟨amountPos,kind,r.2,sameId ▸ held.found r mem_cons_self,mine,sort,order⟩
        · exact ⟨amountPos,kind,lot,there,mine,sort,order⟩

theorem drawnTracked {lots id type now amount total draw} (h : Drawn lots id type now amount total draw)
    (ok : LotsOk lots) (u b) : trackedSum u b (draw.allocations.map (usageRow id now)) =
      if id = u ∧ type = b then -amounts draw.allocations else 0 := by
  have each := h.each
  generalize draw.allocations = allocations at each
  induction allocations with
  | nil => simp [trackedSum,amounts]
  | cons a _ ih =>
    obtain ⟨_,kind,_,found,_⟩ := each a mem_cons_self
    have real : (usageRow id now a).lotId ≠ 0 := (ok _ _ found).1
    rw [map_cons,trackedSumCons,ih (fun x mem => each x (mem_cons_of_mem a mem)),amountsCons]
    by_cases mine : id = u ∧ type = b
    · have here : (usageRow id now a).lotId ≠ 0 ∧ (usageRow id now a).userId = u ∧
          (usageRow id now a).balanceType = b := ⟨real,mine.1,kind.trans mine.2⟩
      rw [if_pos here,if_pos mine,if_pos mine]
      simp only [usageRow]
      omega
    · have other : ¬ ((usageRow id now a).lotId ≠ 0 ∧ (usageRow id now a).userId = u ∧
          (usageRow id now a).balanceType = b) := fun h => mine ⟨h.2.1,kind.symm.trans h.2.2⟩
      rw [if_neg other,if_neg mine,if_neg mine]
      rfl

theorem sumRemainingLe (nonneg : ∀ r ∈ rows, 0 ≤ r.2.remainingQuota) (start) : rows.foldl addRemaining start ≤ start + rowsSum rows := by
  induction rows generalizing start with
  | nil => simp [rowsSum]
  | cons r _ ih =>
    have tail := ih (fun x mem => nonneg x (mem_cons_of_mem r mem)) (addRemaining start r)
    have here := nonneg r mem_cons_self
    have step : addRemaining start r ≤ start + r.2.remainingQuota := by
      unfold addRemaining
      split <;> omega
    rw [foldl_cons,rowsSumCons]
    omega

/- The sum leaves out a lot that would carry it past the quota range; below that it is exact. -/
theorem sumRemainingExact (pos : ∀ r ∈ rows, 0 < r.2.remainingQuota) (start)
    (fits : start + rowsSum rows ≤ maxQuota) : rows.foldl addRemaining start = start + rowsSum rows := by
  induction rows generalizing start with
  | nil => simp [rowsSum]
  | cons r rest ih =>
    have here := pos r mem_cons_self
    have others : 0 ≤ rowsSum rest := rowsSumNonneg (fun x mem => by
      have := pos x (mem_cons_of_mem r mem)
      omega)
    rw [rowsSumCons] at fits
    have step : addRemaining start r = start + r.2.remainingQuota := by
      unfold addRemaining
      rw [if_pos ⟨here,by omega⟩]
    rw [foldl_cons,step,ih (fun x mem => pos x (mem_cons_of_mem r mem)) _ (by omega),rowsSumCons]
    omega

theorem activePos {userId type r} (mem : r ∈ activeCreditLotsWithTx lots userId type) : 0 < r.2.remainingQuota := by
  have h := activeMem mem
  simp only [activeLot,decide_eq_true_eq] at h
  exact h.2.2.2

theorem trackedAtMost (ok : LotsOk lots) (id type) : sumRemainingCreditLots (activeCreditLotsWithTx lots id type) ≤ tracked lots id type := by
  have nonneg : ∀ r ∈ activeCreditLotsWithTx lots id type, 0 ≤ r.2.remainingQuota :=
    fun r mem => le_of_lt (activePos mem)
  have h := sumRemainingLe nonneg 0
  rw [activeSum ok] at h
  unfold sumRemainingCreditLots
  omega

theorem trackedExact (ok : LotsOk lots) (id type) (fits : tracked lots id type ≤ maxQuota) :
    sumRemainingCreditLots (activeCreditLotsWithTx lots id type) = tracked lots id type := by
  have sum := activeSum ok id type
  have pos : ∀ r ∈ activeCreditLotsWithTx lots id type, 0 < r.2.remainingQuota := fun r mem => activePos mem
  have h := sumRemainingExact pos 0 (by omega)
  unfold sumRemainingCreditLots
  omega

structure Draws (lots : Lots) (id : Nat) (type : BalanceType) (now amount lotted : Int) (draw : Draw) : Prop where
  booked : Booked lots (draw.allocations.map (usageRow id now)) draw.lots
  left : draw.remaining = amount - amounts draw.allocations
  moved : ∀ u b, trackedSum u b (draw.allocations.map (usageRow id now)) = if id = u ∧ type = b then -lotted else 0
  each : ∀ a ∈ draw.allocations, 0 < a.amount ∧ a.balanceType = type ∧
    (a.lotId ≠ 0 → ∃ lot, lots.get? a.lotId = some lot ∧ lot.userId = id ∧ lot.balanceType = type ∧ lot.orderId = a.orderId)

theorem drawsUntracked {lots id type now amount total draw} (h : Drawn lots id type now amount total draw) (ok : LotsOk lots) (take) :
    Draws lots id type now amount (min amount total) (draw.withUntracked type take) ∧
      amounts (draw.withUntracked type take).allocations = min amount total + max take 0 := by
  have taken := h.taken
  unfold Draw.withUntracked
  split
  · rename_i pos
    refine ⟨⟨?_,?_,?_,?_⟩,?_⟩
    · rw [map_append]
      exact bookedTrans h.booked (.note rfl .nil)
    · have left := h.left
      rw [amountsAppend]
      simp only [amounts,untracked,map_cons,map_nil,sum_cons,sum_nil] at left ⊢
      omega
    · intro u b
      rw [map_append,trackedSumAppend,drawnTracked h ok,taken,map_cons,trackedSumCons]
      simp [usageRow,untracked,trackedSum]
    · intro a mem
      rcases mem_append.mp mem with mem | mem
      · obtain ⟨amountPos,kind,lot⟩ := h.each a mem
        exact ⟨amountPos,kind,fun _ => lot⟩
      · cases mem_singleton.mp mem
        exact ⟨pos,rfl,fun real => absurd rfl real⟩
    · rw [amountsAppend,taken]
      simp only [amounts,untracked,map_cons,map_nil,sum_cons,sum_nil]
      omega
  · rename_i small
    refine ⟨⟨h.booked,h.left,?_,?_⟩,by omega⟩
    · intro u b
      rw [drawnTracked h ok,taken]
    · intro a mem
      obtain ⟨amountPos,kind,lot⟩ := h.each a mem
      exact ⟨amountPos,kind,fun _ => lot⟩

def untrackedPromo (lots : Lots) (id : Nat) (promoQuota : Int) : Int :=
  max (promoQuota - sumRemainingCreditLots (activeCreditLotsWithTx lots id .promotional)) 0

theorem untrackedExact {id promoQuota} (ok : LotsOk lots) (fits : tracked lots id .promotional ≤ maxQuota)
    (covered : tracked lots id .promotional ≤ promoQuota) : tracked lots id .promotional + untrackedPromo lots id promoQuota = promoQuota := by
  unfold untrackedPromo
  rw [trackedExact ok id .promotional fits]
  omega

theorem drawPromoSpec (ok : LotsOk lots) (id now promoQuota) {amount} (nonneg : 0 ≤ amount) :
    Draws lots id .promotional now amount (min amount (tracked lots id .promotional)) (drawPromo lots id promoQuota amount) ∧
      amounts (drawPromo lots id promoQuota amount).allocations =
        min amount (tracked lots id .promotional + untrackedPromo lots id promoQuota) := by
  have drawn := consumeSpec now (activeHeld lots id .promotional) (fun r mem => activeMem mem) nonneg
  rw [activeSum ok] at drawn
  have left := drawn.left
  rw [drawn.taken] at left
  have result := drawsUntracked drawn ok (min (consumeCreditLots lots amount
    (activeCreditLotsWithTx lots id .promotional)).remaining (untrackedPromo lots id promoQuota))
  have floor : 0 ≤ untrackedPromo lots id promoQuota := by unfold untrackedPromo; omega
  refine ⟨result.1,result.2.trans ?_⟩
  omega

theorem drawPaidSpec (ok : LotsOk lots) (id now) {amount} (nonneg : 0 ≤ amount) :
    Draws lots id .paid now amount (min amount (tracked lots id .paid)) (drawPaid lots id amount) ∧
      amounts (drawPaid lots id amount).allocations = amount := by
  have drawn := consumeSpec now (activeHeld lots id .paid) (fun r mem => activeMem mem) nonneg
  rw [activeSum ok] at drawn
  have left := drawn.left
  rw [drawn.taken] at left
  have result := drawsUntracked drawn ok (consumeCreditLots lots amount (activeCreditLotsWithTx lots id .paid)).remaining
  refine ⟨result.1,result.2.trans ?_⟩
  omega

end NovaPuraRouter.LotSpec
