import NovaPuraRouter.RefundParts

/-! A split as a partition of what was taken. Every partial restore cuts it in two, newest
allocations of a type first, and the restores of one split together give each lot back what
the split names for it. -/
namespace NovaPuraRouter.RefundPartition
open CreditLot LotBook DeductSpec BillingSpec BillingReturn RefundParts Funding List

def ofType (type : BalanceType) (allocations : List BalanceLotAllocation) : List BalanceLotAllocation :=
  allocations.filter (fun a => decide (a.balanceType = type ∧ 0 < a.amount))

/- The allocations from the newest on: the first ones are given back, the last of them perhaps in part. -/
inductive NewestFirst : List BalanceLotAllocation → List BalanceLotAllocation → List BalanceLotAllocation → Prop
  | none (all) : NewestFirst all [] all
  | whole (a) {all given kept} (later : NewestFirst all given kept) : NewestFirst (a :: all) (a :: given) kept
  | part (a : BalanceLotAllocation) (x older) (pos : 0 < x) (less : x < a.amount) :
      NewestFirst (a :: older) [{ a with amount := x }] ({ a with amount := a.amount - x } :: older)

structure Partition (split : QuotaWalletSplit) (amount : Int) (refund rest : QuotaWalletSplit) : Prop where
  total : refund.promo + refund.cash = min amount (split.promo + split.cash)
  lots : ∀ p, amountsIf p refund.allocations + amountsIf p rest.allocations = amountsIf p split.allocations
  given : Summed refund
  kept : Summed rest
  cashFirst : 0 < refund.promo → rest.cash = 0
  newest : ∀ type, NewestFirst (ofType type split.allocations).reverse (ofType type refund.allocations) (ofType type rest.allocations).reverse

section Takes
variable {allocations : List BalanceLotAllocation} {type : BalanceType}

theorem takeTypeIdle {remaining} (spent : remaining ≤ 0) : takeType type remaining allocations = ⟨[],allocations,remaining⟩ := by
  induction allocations with
  | nil => rfl
  | cons a _ ih => rw [takeType,if_pos (.inl spent),ih]

theorem ofTypeMine {a} (rest) (mine : a.balanceType = type ∧ 0 < a.amount) :
    ofType type (a :: rest) = a :: ofType type rest :=
  filter_cons_of_pos (decide_eq_true mine)

theorem ofTypeElse {a} (rest) (other : ¬ (a.balanceType = type ∧ 0 < a.amount)) :
    ofType type (a :: rest) = ofType type rest :=
  filter_cons_of_neg (by simpa using other)

theorem takeTypeApart {other} (apart : other ≠ type) (remaining) :
    ofType other (takeType type remaining allocations).kept = ofType other allocations := by
  induction allocations generalizing remaining with
  | nil => rfl
  | cons a _ ih =>
    unfold takeType
    split
    · by_cases mine : a.balanceType = other ∧ 0 < a.amount
      · rw [ofTypeMine _ mine,ofTypeMine _ mine,ih]
      · rw [ofTypeElse _ mine,ofTypeElse _ mine,ih]
    · rename_i take
      simp only [not_or,not_not] at take
      have away : a.balanceType ≠ other := fun same => apart (same.symm.trans take.2.1)
      simp only
      rw [ofTypeElse _ (by simp [away]),ofTypeElse _ (by simp [away]),ih]

theorem takeTypeNewest (remaining) : NewestFirst (ofType type allocations) (takeType type remaining allocations).refunded
    (ofType type (takeType type remaining allocations).kept) := by
  induction allocations generalizing remaining with
  | nil => exact .none []
  | cons a rest ih =>
    by_cases skip : remaining ≤ 0
    · rw [takeTypeIdle skip]
      exact .none _
    by_cases mine : a.balanceType = type ∧ 0 < a.amount
    · simp only [takeType,if_neg (by simp only [mine.1,ne_eq,not_true_eq_false,false_or]; omega :
        ¬ (remaining ≤ 0 ∨ a.balanceType ≠ type ∨ a.amount ≤ 0))]
      rw [ofTypeMine rest mine]
      by_cases whole : a.amount ≤ remaining
      · rw [min_eq_left whole,ofTypeElse _ (by simp)]
        exact .whole a (ih _)
      · rw [min_eq_right (by omega),sub_self,takeTypeIdle (le_refl 0),ofTypeMine _ (by simp only [mine.1,true_and]; omega)]
        exact .part a remaining _ (by omega) (by omega)
    · rw [takeType,if_pos (.inr (by rw [← not_lt,← not_and_or]; exact mine)),ofTypeElse _ mine,ofTypeElse _ mine]
      exact ih remaining

theorem ofTypeAll (all : ∀ a ∈ allocations, 0 < a.amount ∧ a.balanceType = type) : ofType type allocations = allocations :=
  filter_eq_self.mpr (fun a mem => decide_eq_true (all a mem).symm)

theorem ofTypeNone {other} (apart : other ≠ type) (all : ∀ a ∈ allocations, 0 < a.amount ∧ a.balanceType = other) :
    ofType type allocations = [] :=
  filter_eq_nil_iff.mpr (fun a mem => by simp [(all a mem).2,apart])

theorem ofTypeCompact : (ofType type (allocations.reverse.filter (fun a => decide (0 < a.amount)))).reverse = ofType type allocations := by
  simp [ofType,filter_reverse,filter_filter]

end Takes

theorem refundNewest {split amount} (summed : Summed split) (pos : 0 < amount) (type) :
    NewestFirst (ofType type split.allocations).reverse (ofType type (takeWalletRefund split amount).1.allocations)
      (ofType type (takeWalletRefund split amount).2.allocations).reverse := by
  have paid := (paidPass summed pos).each
  have promo := (promoPass summed pos).each
  simp only [takeWalletRefund,if_neg (by omega : ¬ amount ≤ 0)]
  rw [ofTypeCompact,show ofType type (_ ++ _) = ofType type _ ++ ofType type _ from filter_append ..,
    show (ofType type split.allocations).reverse = ofType type split.allocations.reverse from filter_reverse.symm]
  cases type with
  | paid =>
    rw [ofTypeAll paid,ofTypeNone (by decide) promo,append_nil,takeTypeApart (by decide)]
    exact takeTypeNewest amount
  | promotional =>
    rw [ofTypeNone (by decide) paid,ofTypeAll promo,nil_append]
    have later := @takeTypeNewest (takeType .paid amount split.allocations.reverse).kept .promotional
      (takeType .paid amount split.allocations.reverse).remaining
    rwa [takeTypeApart (by decide)] at later

theorem takeWalletRefundPartition {split amount} (summed : Summed split) (nonneg : 0 ≤ amount) :
    Partition split amount (takeWalletRefund split amount).1 (takeWalletRefund split amount).2 := by
  have given := @takeWalletRefundSpec split summed amount
  have ⟨promo,cash⟩ := summedNonneg summed
  have total := given.2
  by_cases pos : 0 < amount
  · have parts := takeWalletRefundParts summed pos
    exact ⟨by omega,partedSum summed pos,given.1.summed,parts.wellKept.summed,fun something => by have := parts.cashFirst; omega,
      refundNewest summed pos⟩
  · have zero : takeWalletRefund split amount = (.none,split) := if_pos (by omega)
    rw [zero] at total ⊢
    exact ⟨by omega,fun p => zero_add _,wellNone.summed,summed,fun something => absurd something (lt_irrefl 0),fun type => .none _⟩

def gained (id : Nat) (db db' : Database) : Int := remainingOf db'.lots id - remainingOf db.lots id

structure PartialRefund where
  db : Database
  amount : Nat
  now : Int

/- Partial refunds one after the other, each on the store as it then is, and what they give back to a lot. -/
def returned (id : Nat) : WalletFunding → List PartialRefund → WalletFunding × Int
  | w, [] => (w,0)
  | w, p :: rest => match settle p.db w (-p.amount) p.now with
    | .error _ => returned id w rest
    | .ok (w',db') => ((returned id w' rest).1,gained id p.db db' + (returned id w' rest).2)

structure Holds (w : WalletFunding) : Prop where
  split : Summed w.split
  consumed : w.consumed = w.split.promo + w.split.cash

theorem summedCompact {split} (summed : Summed split) :
    WellSplit { split with allocations := split.allocations.filter (fun a => decide (0 < a.amount)) } := by
  refine ⟨fun a mem => of_decide_eq_true (mem_filter.mp mem).2,?_,?_⟩
  · rw [← summed.promo,typeAmountsIf,typeAmountsIf]
    exact amountsIfSpent _ summed.nonneg
  · rw [← summed.cash,typeAmountsIf,typeAmountsIf]
    exact amountsIfSpent _ summed.nonneg

theorem restoreGains {db id split now db' lot} (summed : Summed split) (h : restoreUserQuotaSplit db id split now = .ok db')
    (real : lot ≠ 0) : gained lot db db' = lotAmounts lot split.allocations := by
  rw [gained,lotAmountsIf,← amountsIfSpent _ summed.nonneg,← lotAmountsIf]
  simp only [restoreUserQuotaSplit,bindOk] at h
  obtain ⟨_,_,h⟩ := h
  split at h
  · rename_i zero
    cases pureOk.mp h
    rw [show split.allocations.filter _ = [] from wellEmpty (summedCompact summed) zero]
    exact sub_self _
  simp only [restoreUserQuotaSplitWithLots,bindOk] at h
  obtain ⟨_,_,h⟩ := h
  split at h
  · rename_i empty
    rw [empty]
    simp only [restoreLegacyQuotaSplitWithTx] at h
    split at h
    · cases pureOk.mp h
      exact sub_self _
    · simp only [bindOk,pureOk] at h
      obtain ⟨_,_,rfl⟩ := h
      exact sub_self _
  · simp only [bindOk,pureOk] at h
    obtain ⟨r,restored,_,_,rfl⟩ := h
    have restores := restoreBooked restored
    have booked := bookedRemaining restores.booked real
    rw [restores.rows,restoreLotSum] at booked
    simp only [booked]
    omega

theorem settleHolds {p w w' db' lot} (holds : Holds w) (real : lot ≠ 0)
    (h : settle p.db w (-(p : PartialRefund).amount) p.now = .ok (w',db')) :
    Holds w' ∧ gained lot p.db db' + lotAmounts lot w'.split.allocations = lotAmounts lot w.split.allocations := by
  have ⟨promo,cash⟩ := summedNonneg holds.split
  have consumed := holds.consumed
  simp only [settle,if_neg (by omega : ¬ 0 < -(p.amount : Int))] at h
  split at h
  · cases pureOk.mp h
    exact ⟨holds,by simp [gained]⟩
  simp only [bindOk,pureOk] at h
  obtain ⟨_,restored,last⟩ := h
  cases last
  have parts := takeWalletRefundPartition holds.split (by omega : 0 ≤ min (-(-(p.amount : Int))) w.consumed)
  have total := parts.total
  have promoSum := parts.lots (fun _ t => decide (t = .promotional))
  have cashSum := parts.lots (fun _ t => decide (t = .paid))
  simp only [← typeAmountsIf,parts.given.promo,parts.kept.promo,holds.split.promo] at promoSum
  simp only [← typeAmountsIf,parts.given.cash,parts.kept.cash,holds.split.cash] at cashSum
  refine ⟨⟨parts.kept,by simp only; omega⟩,?_⟩
  rw [restoreGains parts.given restored real]
  simpa only [lotAmountsIf] using parts.lots (fun l _ => decide (l = lot))

theorem returnedHolds {w lot} (holds : Holds w) (real : lot ≠ 0) (parts) : Holds (returned lot w parts).1 ∧
    (returned lot w parts).2 + lotAmounts lot (returned lot w parts).1.split.allocations = lotAmounts lot w.split.allocations := by
  induction parts generalizing w with
  | nil => exact ⟨holds,zero_add _⟩
  | cons _ _ ih =>
    unfold returned
    split
    · exact ih holds
    · rename_i settled
      have ⟨later,step⟩ := settleHolds holds real settled
      have ⟨last,all⟩ := ih later
      exact ⟨last,by simp only; omega⟩

theorem refundGains {db w now w' db' lot} (holds : Holds w) (real : lot ≠ 0) (h : refund db w now = .ok (w',db')) :
    gained lot db db' = lotAmounts lot w.split.allocations := by
  have ⟨promo,cash⟩ := summedNonneg holds.split
  have consumed := holds.consumed
  simp only [refund] at h
  split at h
  · cases pureOk.mp h
    have empty : w.split.allocations.filter _ = [] := wellEmpty (summedCompact holds.split) (by simp only; omega)
    rw [lotAmountsIf,← amountsIfSpent _ holds.split.nonneg,empty]
    exact sub_self _
  · simp only [bindOk,pureOk] at h
    obtain ⟨_,restored,last⟩ := h
    cases last
    exact restoreGains holds.split restored real

theorem refundsPartition {split : QuotaWalletSplit} {amount : Int} (summed : Summed split) (nonneg : 0 ≤ amount) :
    Partition split amount (takeWalletRefund split amount).1 (takeWalletRefund split amount).2 ∧
    ∀ w : WalletFunding, w.split = split → w.consumed = split.promo + split.cash → ∀ lot parts db now w' db', lot ≠ 0 →
      refund db (returned lot w parts).1 now = .ok (w',db') →
        (returned lot w parts).2 + gained lot db db' = lotAmounts lot split.allocations := by
  refine ⟨takeWalletRefundPartition summed nonneg,?_⟩
  rintro w rfl consumed lot parts db now w' db' real last
  have ⟨holds,all⟩ := returnedHolds ⟨summed,consumed⟩ real parts
  rw [refundGains holds real last]
  exact all

def drawn : WalletFunding := ⟨1,10,⟨5,5,[⟨1,"order",.promotional,5,100⟩,⟨0,"",.paid,5,0⟩],0⟩⟩

def afterDraw : Database := commit bonus ((decreaseUserQuotaWithSplit bonus 1 10 10).map (·.2))

theorem drawnInTwoParts : (decreaseUserQuotaWithSplit bonus 1 10 10).map (·.1) = .ok drawn.split ∧
    Partition drawn.split 7 (takeWalletRefund drawn.split 7).1 (takeWalletRefund drawn.split 7).2 ∧
    ∃ w' db', refund afterDraw (returned 1 drawn [⟨afterDraw,7,20⟩]).1 30 = .ok (w',db') ∧
      (returned 1 drawn [⟨afterDraw,7,20⟩]).2 + gained 1 afterDraw db' = 5 := by
  have summed : Summed drawn.split := ⟨by decide,rfl,rfl⟩
  have ⟨parts,all⟩ := refundsPartition summed (by decide : (0 : Int) ≤ 7)
  refine ⟨rfl,parts,_,_,rfl,?_⟩
  exact all drawn rfl rfl 1 _ _ 30 _ _ (by decide) rfl

def lessThanNothing : QuotaWalletSplit := ⟨0,3,[⟨1,"order",.paid,5,0⟩,⟨2,"order",.paid,-2,0⟩],0⟩

theorem lessThanNothingOverpaid : typeAmounts .promotional lessThanNothing.allocations = lessThanNothing.promo ∧
    typeAmounts .paid lessThanNothing.allocations = lessThanNothing.cash ∧
    ¬ Partition lessThanNothing 5 (takeWalletRefund lessThanNothing 5).1 (takeWalletRefund lessThanNothing 5).2 :=
  ⟨rfl,rfl,fun h => absurd h.total (by decide)⟩

end NovaPuraRouter.RefundPartition
