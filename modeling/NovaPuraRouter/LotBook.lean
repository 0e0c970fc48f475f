import NovaPuraRouter.CreditLot

/-! What the lot code can do to a lot, said once: one of three moves or the opening of a new
lot, each with the ledger row that books it. The facts about whole tables follow by
induction; that the transactions stay inside it is proved beside each of them. -/
namespace NovaPuraRouter.LotBook
open CreditLot List Option Table

inductive Moved : LedgerEntryType → BalanceCreditLot → Int → BalanceCreditLot → Prop
  | take {lot n} (live : lot.status = .active) (pos : 0 < n) (le : n ≤ lot.remainingQuota) :
      Moved .apiUsage lot (-n) (setLot (lot.remainingQuota - n)
        (if lot.remainingQuota - n = 0 then .exhausted else .active) lot)
  | give {lot n} (alive : lot.status ≠ .expired ∧ lot.status ≠ .reversed) (pos : 0 < n)
      (le : lot.remainingQuota ≤ lot.originalQuota - n) :
      Moved .reversal lot n (setLot (lot.remainingQuota + n) .active lot)
  | close {kind lot status} (pos : 0 < lot.remainingQuota) (final : status = .expired ∨ status = .reversed)
      (unused : kind ≠ .apiUsage) : Moved kind lot (-lot.remainingQuota) (setLot 0 status lot)

def topupEntry (entry : BalanceLedger) : Prop :=
  entry.entryType = .topupPaidCredit ∨ entry.entryType = .topupPromotionalBonus

inductive Booked : Lots → List BalanceLedger → Lots → Prop
  | nil {lots} : Booked lots [] lots
  | note {lots entry rows lots'} (free : entry.lotId = 0) (rest : Booked lots rows lots') :
      Booked lots (entry :: rows) lots'
  | move {lots entry lot change rows lots'} (found : lots.get? entry.lotId = some lot)
      (moved : Moved entry.entryType lot entry.amountQuota (change lot))
      (owner : entry.userId = lot.userId) (type : entry.balanceType = lot.balanceType)
      (rest : Booked (lots.modify entry.lotId change) rows lots') : Booked lots (entry :: rows) lots'
  | opened {lots entry lot rows lots'} (fresh : entry.lotId = lots.nextId) (live : lot.status = .active)
      (pos : 0 < lot.originalQuota) (full : lot.remainingQuota = lot.originalQuota)
      (amount : entry.amountQuota = lot.originalQuota)
      (owner : entry.userId = lot.userId) (type : entry.balanceType = lot.balanceType)
      (source : topupEntry entry ∧ entry.orderId = lot.orderId)
      (rest : Booked (lots.append lot) rows lots') : Booked lots (entry :: rows) lots'

structure LotOk (lot : BalanceCreditLot) : Prop where
  nonneg : 0 ≤ lot.remainingQuota
  within : lot.remainingQuota ≤ lot.originalQuota
  live : lot.status = .active ↔ 0 < lot.remainingQuota

-- Row ids start at 1: a ledger row of lot 0 belongs to no lot.
def LotsOk (lots : Lots) : Prop := ∀ id lot, lots.get? id = some lot → id ≠ 0 ∧ LotOk lot

def remainingOf (lots : Lots) (id : Nat) : Int := ((lots.get? id).map (·.remainingQuota)).getD 0

def rowSum (p : BalanceLedger → Bool) (rows : List BalanceLedger) : Int :=
  (rows.map (fun e => if p e then e.amountQuota else 0)).sum

def lotSum (id : Nat) (rows : List BalanceLedger) : Int := rowSum (fun e => decide (e.lotId = id)) rows

def owned (userId : Nat) (type : BalanceType) (lot : BalanceCreditLot) : Int :=
  if lot.userId = userId ∧ lot.balanceType = type then lot.remainingQuota else 0

def tracked (lots : Lots) (userId : Nat) (type : BalanceType) : Int := lots.sum (fun _ l => owned userId type l)

def trackedSum (userId : Nat) (type : BalanceType) (rows : List BalanceLedger) : Int :=
  rowSum (fun e => decide (e.lotId ≠ 0 ∧ e.userId = userId ∧ e.balanceType = type)) rows

def Reconciled (lots : Lots) (ledger : List BalanceLedger) : Prop :=
  ∀ id, id ≠ 0 → remainingOf lots id = lotSum id ledger

theorem rowSumCons (p e rows) : rowSum p (e :: rows) = (if p e then e.amountQuota else 0) + rowSum p rows := rfl

@[simp] theorem rowSumNil (p) : rowSum p [] = 0 := rfl

theorem rowSumAppend (p a b) : rowSum p (a ++ b) = rowSum p a + rowSum p b := by
  simp [rowSum]

theorem lotSumCons (id e rows) : lotSum id (e :: rows) = (if e.lotId = id then e.amountQuota else 0) + lotSum id rows := by
  simp only [lotSum,rowSumCons,decide_eq_true_eq]

theorem lotSumAppend (id a b) : lotSum id (a ++ b) = lotSum id a + lotSum id b := rowSumAppend _ a b

theorem trackedSumCons (userId type e rows) : trackedSum userId type (e :: rows) =
    (if e.lotId ≠ 0 ∧ e.userId = userId ∧ e.balanceType = type then e.amountQuota else 0) + trackedSum userId type rows := by
  simp only [trackedSum,rowSumCons,decide_eq_true_eq]

theorem trackedSumAppend (userId type a b) :
    trackedSum userId type (a ++ b) = trackedSum userId type a + trackedSum userId type b := rowSumAppend _ a b

variable {kind lot d lot'}

section
variable (h : Moved kind lot d lot')
include h

theorem movedRemaining : lot'.remainingQuota = lot.remainingQuota + d := by
  cases h with
  | take => simp only [setLot]; omega
  | give => rfl
  | close => simp only [setLot]; omega

theorem movedSame : ∃ remaining status, lot' = setLot remaining status lot := by
  cases h with
  | take | give | close => exact ⟨_,_,rfl⟩

theorem movedOk (ok : LotOk lot) : LotOk lot' := by
  have ⟨nonneg,within,live⟩ := ok
  cases h with
  | take =>
    refine ⟨by simp only [setLot]; omega,by simp only [setLot]; omega,?_⟩
    simp only [setLot]
    split <;> simp <;> omega
  | give =>
    refine ⟨by simp only [setLot]; omega,by simp only [setLot]; omega,?_⟩
    simp only [setLot,true_iff]
    omega
  | close _ final =>
    refine ⟨le_refl _,by simp only [setLot]; omega,?_⟩
    obtain rfl | rfl := final <;> simp [setLot]

theorem closedStays (ok : LotOk lot) : lot.status ≠ .expired ∧ lot.status ≠ .reversed := by
  cases h with
  | take live => simp [live]
  | give alive => exact alive
  | close pos => simp [ok.live.mpr pos]

theorem movedFromEmpty (empty : lot.remainingQuota = 0) : 0 < d := by
  cases h with
  | take => omega
  | give _ pos => exact pos
  | close => omega

end

theorem movedByUse {lot d lot'} (h : Moved .apiUsage lot d lot') : lot'.status = .active ∨ lot'.status = .exhausted := by
  cases h with
  | take =>
    simp only [setLot]
    split <;> simp
  | close _ _ unused => exact absurd rfl unused

theorem bookedTrans {a rows b more c} (h : Booked a rows b) (k : Booked b more c) : Booked a (rows ++ more) c := by
  induction h with
  | nil => exact k
  | note free _ ih => exact .note free (ih k)
  | move found moved owner type _ ih => exact .move found moved owner type (ih k)
  | opened fresh live pos full amount owner type source _ ih =>
    exact .opened fresh live pos full amount owner type source (ih k)

theorem okModify {lots id lot change} (ok : LotsOk lots)
    (found : lots.get? id = some lot) (here : LotOk (change lot)) : LotsOk (lots.modify id change) := by
  intro j lot' h
  obtain ⟨_,there,rfl,rfl⟩ | ⟨_,there⟩ := modifyCases h
  · cases found.symm.trans there
    exact ⟨(ok j lot found).1,here⟩
  · exact ok j lot' there

theorem okAppend {lots lot} (ok : LotsOk lots) (here : LotOk lot) : LotsOk (lots.append lot) := by
  intro j lot' h
  rw [getAppend] at h
  split at h
  · rename_i same
    subst j
    cases some.inj h
    exact ⟨Nat.succ_ne_zero _,here⟩
  · exact ok j lot' h

theorem openedOk {lot} (live : lot.status = .active) (pos : 0 < lot.originalQuota) (full : lot.remainingQuota = lot.originalQuota) : LotOk lot :=
  ⟨by omega,by omega,by simp only [live,true_iff]; omega⟩

variable {lots rows lots'}

theorem bookedOk (h : Booked lots rows lots') (ok : LotsOk lots) : LotsOk lots' := by
  induction h with
  | nil => exact ok
  | note _ _ ih => exact ih ok
  | move found moved _ _ _ ih => exact ih (okModify ok found (movedOk moved (ok _ _ found).2))
  | opened _ live pos full _ _ _ _ _ ih => exact ih (okAppend ok (openedOk live pos full))

theorem bookedRemaining (h : Booked lots rows lots') {id} (real : id ≠ 0) :
    remainingOf lots' id = remainingOf lots id + lotSum id rows := by
  induction h with
  | nil => simp [lotSum]
  | note free _ ih =>
    have other : ¬ 0 = id := fun h => real h.symm
    rw [ih,lotSumCons,free,if_neg other,zero_add]
  | @move lots entry _ change _ _ found moved _ _ _ ih =>
    have here : remainingOf (lots.modify entry.lotId change) id =
        remainingOf lots id + if entry.lotId = id then entry.amountQuota else 0 := by
      unfold remainingOf
      rw [Table.getModify]
      by_cases same : entry.lotId = id
      · subst id
        simp [found,movedRemaining moved]
      · simp [same,Ne.symm same]
    rw [ih,here,lotSumCons]
    omega
  | @opened lots entry lot _ _ fresh _ _ full amount _ _ _ _ ih =>
    have here : remainingOf (lots.append lot) id =
        remainingOf lots id + if entry.lotId = id then entry.amountQuota else 0 := by
      unfold remainingOf
      rw [getAppend,fresh]
      by_cases same : lots.nextId = id
      · subst id
        simp [full,amount]
      · simp [same,Ne.symm same]
    rw [ih,here,lotSumCons]
    omega

theorem bookedReconciled {lots rows lots' ledger} (h : Booked lots rows lots') (books : Reconciled lots ledger) :
    Reconciled lots' (ledger ++ rows) := by
  intro id real
  rw [bookedRemaining h real,books id real,lotSumAppend]

theorem ownedMoved (h : Moved kind lot d lot') (userId type) : owned userId type lot' = owned userId type lot +
      if lot.userId = userId ∧ lot.balanceType = type then d else 0 := by
  have left := movedRemaining h
  obtain ⟨_,_,rfl⟩ := movedSame h
  simp only [owned,setLot] at left ⊢
  by_cases mine : lot.userId = userId ∧ lot.balanceType = type
  · simp only [mine,and_self,if_true]
    exact left
  · simp only [mine,if_false,add_zero]

theorem bookedTracked (h : Booked lots rows lots') (ok : LotsOk lots) (userId type) :
    tracked lots' userId type = tracked lots userId type + trackedSum userId type rows := by
  induction h with
  | nil => simp [trackedSum]
  | note free _ ih =>
    rw [ih ok,trackedSumCons]
    simp [free]
  | @move _ _ _ _ _ _ found moved owner same _ ih =>
    have real := (ok _ _ found).1
    have next := okModify ok found (movedOk moved (ok _ _ found).2)
    rw [ih next,tracked,sumModify found,ownedMoved moved,trackedSumCons]
    simp only [owner,same,real,ne_eq,not_false_eq_true,true_and,tracked]
    omega
  | @opened _ entry _ _ _ fresh live pos full amount owner same _ _ ih =>
    have real : entry.lotId ≠ 0 := by rw [fresh]; exact Nat.succ_ne_zero _
    rw [ih (okAppend ok (openedOk live pos full)),tracked,sumAppend,trackedSumCons]
    simp only [owner,same,real,ne_eq,not_false_eq_true,true_and,tracked,owned,full,amount]
    omega

structure SameLot (lot lot' : BalanceCreditLot) : Prop where
  user : lot'.userId = lot.userId
  order : lot'.orderId = lot.orderId
  type : lot'.balanceType = lot.balanceType
  original : lot'.originalQuota = lot.originalQuota
  expiry : lot'.expiresAt = lot.expiresAt

theorem sameRefl (lot) : SameLot lot lot := ⟨rfl,rfl,rfl,rfl,rfl⟩

theorem sameTrans {a b c} (h : SameLot a b) (k : SameLot b c) : SameLot a c :=
  ⟨k.user.trans h.user,k.order.trans h.order,k.type.trans h.type,k.original.trans h.original,k.expiry.trans h.expiry⟩

theorem sameMoved (h : Moved kind lot d lot') : SameLot lot lot' := by
  obtain ⟨_,_,rfl⟩ := movedSame h
  exact ⟨rfl,rfl,rfl,rfl,rfl⟩

section
variable (h : Booked lots rows lots')
include h

theorem bookedKeeps {id lot} (found : lots.get? id = some lot) :
    ∃ lot', lots'.get? id = some lot' ∧ SameLot lot lot' := by
  induction h generalizing lot with
  | nil => exact ⟨lot,found,sameRefl lot⟩
  | note _ _ ih => exact ih found
  | @move _ entry _ _ _ _ here moved _ _ _ ih =>
    by_cases same : id = entry.lotId
    · subst id
      cases some.inj (here.symm.trans found)
      obtain ⟨lot',last,kept⟩ := ih (by rw [getModifySelf,here]; rfl)
      exact ⟨lot',last,sameTrans (sameMoved moved) kept⟩
    · exact ih (by rw [getModifyOther _ same]; exact found)
  | @opened lots _ _ _ _ _ _ _ _ _ _ _ _ _ ih =>
    have other : id ≠ lots.nextId := ne_of_lt (getLtNextId found)
    exact ih (by rw [getAppend]; simp [other,found])

theorem bookedSource {id lot'} (found : lots'.get? id = some lot') :
    (∃ lot, lots.get? id = some lot ∧ SameLot lot lot') ∨
      ∃ entry ∈ rows, topupEntry entry ∧ entry.orderId = lot'.orderId ∧ entry.userId = lot'.userId := by
  induction h with
  | nil => exact .inl ⟨lot',found,sameRefl lot'⟩
  | note _ _ ih =>
    obtain old | ⟨entry,mem,made⟩ := ih found
    · exact .inl old
    · exact .inr ⟨entry,mem_cons_of_mem _ mem,made⟩
  | move here moved _ _ _ ih =>
    obtain ⟨lot,old,same⟩ | ⟨entry,mem,made⟩ := ih found
    · obtain ⟨_,there,rfl,rfl⟩ | ⟨_,there⟩ := modifyCases old
      · cases here.symm.trans there
        exact .inl ⟨_,here,sameTrans (sameMoved moved) same⟩
      · exact .inl ⟨lot,there,same⟩
    · exact .inr ⟨entry,mem_cons_of_mem _ mem,made⟩
  | opened _ _ _ _ _ owner _ source _ ih =>
    obtain ⟨lot,old,same⟩ | ⟨entry,mem,made⟩ := ih found
    · rw [getAppend] at old
      split at old
      · cases some.inj old
        exact .inr ⟨_,mem_cons_self,source.1,source.2.trans same.order.symm,owner.trans same.user.symm⟩
      · exact .inl ⟨lot,old,same⟩
    · exact .inr ⟨entry,mem_cons_of_mem _ mem,made⟩

theorem bookedOpen (usage : ∀ e ∈ rows, e.entryType = .apiUsage) {id lot lot'}
    (found : lots.get? id = some lot) (alive : lot.status ≠ .expired ∧ lot.status ≠ .reversed)
    (last : lots'.get? id = some lot') : lot'.status ≠ .expired ∧ lot'.status ≠ .reversed := by
  induction h generalizing lot with
  | nil =>
    cases some.inj (found.symm.trans last)
    exact alive
  | note _ _ ih => exact ih (fun e mem => usage e (mem_cons_of_mem _ mem)) found alive last
  | @move _ entry _ _ _ _ here moved _ _ _ ih =>
    have later := fun e mem => usage e (mem_cons_of_mem entry mem)
    by_cases same : id = entry.lotId
    · subst id
      rw [usage entry mem_cons_self] at moved
      refine ih later (by rw [getModifySelf,here]; rfl) ?_ last
      obtain live | out := movedByUse moved
      · simp [live]
      · simp [out]
    · exact ih later (by rw [getModifyOther _ same]; exact found) alive last
  | opened _ _ _ _ _ _ _ source =>
    have topup := source.1
    simp [topupEntry,usage _ mem_cons_self] at topup

end

def orderOriginal (lots : Lots) (orderId : String) : Int :=
  lots.sum (fun _ l => if l.orderId = orderId then l.originalQuota else 0)

instance (entry) : Decidable (topupEntry entry) := by unfold topupEntry; infer_instance

def topupSum (orderId : String) (rows : List BalanceLedger) : Int :=
  (rows.map (fun e => if topupEntry e ∧ e.orderId = orderId then max e.amountQuota 0 else 0)).sum

theorem topupSumCons (orderId e rows) : topupSum orderId (e :: rows) =
    (if topupEntry e ∧ e.orderId = orderId then max e.amountQuota 0 else 0) + topupSum orderId rows := rfl

theorem topupSumAppend (orderId a b) : topupSum orderId (a ++ b) = topupSum orderId a + topupSum orderId b := by
  simp [topupSum]

theorem topupSumPlain {rows} (plain : ∀ e ∈ rows, ¬ topupEntry e) (orderId) : topupSum orderId rows = 0 := by
  induction rows with
  | nil => rfl
  | cons e _ ih =>
    rw [topupSumCons,ih (fun x mem => plain x (mem_cons_of_mem e mem)),if_neg (fun h => plain e mem_cons_self h.1)]
    rfl

section
variable (h : Booked lots rows lots')
include h

theorem bookedOriginal (orderId) :
    orderOriginal lots' orderId ≤ orderOriginal lots orderId + topupSum orderId rows := by
  induction h with
  | nil => simp [topupSum]
  | note =>
    rw [topupSumCons]
    omega
  | @move lots entry _ change _ _ found moved =>
    have same := sameMoved moved
    have kept : orderOriginal (lots.modify entry.lotId change) orderId = orderOriginal lots orderId := by
      rw [orderOriginal,sumModify found,same.order,same.original,orderOriginal]
      omega
    rw [topupSumCons]
    omega
  | @opened lots entry lot _ _ _ _ _ _ amount _ _ source =>
    have here : orderOriginal (lots.append lot) orderId = orderOriginal lots orderId +
        if topupEntry entry ∧ entry.orderId = orderId then max entry.amountQuota 0 else 0 := by
      rw [orderOriginal,sumAppend,source.2,amount,orderOriginal]
      simp only [source.1,true_and]
      split <;> omega
    rw [topupSumCons]
    omega

/- A lot that no row can move stays as it is. -/
theorem bookedStays {id lot} (found : lots.get? id = some lot)
    (fixed : ∀ e ∈ rows, e.lotId = id → ∀ lot', ¬ Moved e.entryType lot e.amountQuota lot') : lots'.get? id = some lot := by
  induction h with
  | nil => exact found
  | note _ _ ih => exact ih found (fun e mem => fixed e (mem_cons_of_mem _ mem))
  | @move _ entry _ _ _ _ here moved _ _ _ ih =>
    have other : id ≠ entry.lotId := by
      intro _
      subst id
      cases some.inj (here.symm.trans found)
      exact fixed entry mem_cons_self rfl _ moved
    exact ih (by rw [getModifyOther _ other]; exact found) (fun e mem => fixed e (mem_cons_of_mem _ mem))
  | @opened lots _ _ _ _ _ _ _ _ _ _ _ _ _ ih =>
    have other : id ≠ lots.nextId := ne_of_lt (getLtNextId found)
    exact ih (by rw [getAppend]; simp [other,found]) (fun e mem => fixed e (mem_cons_of_mem _ mem))

theorem bookedClosed (ok : LotsOk lots) {id lot}
    (found : lots.get? id = some lot) (closed : lot.status = .expired ∨ lot.status = .reversed) : lots'.get? id = some lot := by
  refine bookedStays h found (fun _ _ _ _ moved => ?_)
  have alive := closedStays moved (ok id lot found).2
  exact closed.elim alive.1 alive.2

theorem bookedStill {id lot} (found : lots.get? id = some lot)
    (empty : lot.remainingQuota = 0) (nothing : ∀ e ∈ rows, e.lotId = id → e.amountQuota ≤ 0) : lots'.get? id = some lot :=
  bookedStays h found (fun e mem same _ moved => not_lt.mpr (nothing e mem same) (movedFromEmpty moved empty))

theorem bookedAvoids {id lot} (found : lots.get? id = some lot) (real : id ≠ 0)
    (empty : lot.remainingQuota = 0) (nothing : ∀ e ∈ rows, e.amountQuota ≤ 0) : ∀ e ∈ rows, e.lotId ≠ id := by
  induction h with
  | nil => exact fun _ mem => absurd mem not_mem_nil
  | @note _ _ _ _ free _ ih =>
    intro e mem
    rcases mem_cons.mp mem with rfl | mem
    · exact fun same => real (same.symm.trans free)
    · exact ih found (fun x here => nothing x (mem_cons_of_mem _ here)) e mem
  | @move _ entry _ _ _ _ here moved _ _ _ ih =>
    have other : entry.lotId ≠ id := by
      intro _
      subst id
      cases some.inj (here.symm.trans found)
      have le := nothing entry mem_cons_self
      have gives := movedFromEmpty moved empty
      omega
    intro e mem
    rcases mem_cons.mp mem with rfl | mem
    · exact other
    · exact ih (by rw [getModifyOther _ (Ne.symm other)]; exact found)
        (fun x there => nothing x (mem_cons_of_mem _ there)) e mem
  | @opened _ entry =>
    have le := nothing entry mem_cons_self
    omega

end

end NovaPuraRouter.LotBook
