import NovaPuraRouter.CommissionPlan

/-! What one transaction of the release loop does, whatever has happened to the rows of
its batch since they were read. Inviters stand for themselves: each is moved by the
batch's own sum or left alone. -/
namespace NovaPuraRouter.ReleaseSpec
open CommissionPlan List Option Table

def batchSum (batch : List (Nat × Commission)) (inviterId : Nat) : Int :=
  (batch.map (fun r => if r.2.inviterId = inviterId then r.2.commissionCents else 0)).sum

def Covers (u : Affiliate) (sum : Int) : Prop := sum ≤ u.pendingCommissionCents
instance (u sum) : Decidable (Covers u sum) := by unfold Covers; infer_instance

def debited (sum : Int) (u : Affiliate) : Affiliate := if Covers u sum then moveCents sum u else u

def covered (s : CommissionStore) (batch : List (Nat × Commission)) (inviterId : Nat) : Bool :=
  (s.users.get? inviterId).any (fun u => decide (Covers u (batchSum batch inviterId)))

def movedIds (s : CommissionStore) (batch : List (Nat × Commission)) : List Nat :=
  (batch.filter (fun r => covered s batch r.2.inviterId)).map Prod.fst

@[simp] theorem batchSumNil (inviterId) : batchSum [] inviterId = 0 := rfl

@[simp] theorem batchSumCons (r rest inviterId) :
    batchSum (r::rest) inviterId = (if r.2.inviterId = inviterId then r.2.commissionCents else 0) + batchSum rest inviterId := by
  simp [batchSum]

variable {batch : List (Nat × Commission)} {state state' : Table Nat Affiliate × Table Nat Int} {s s' : CommissionStore}

theorem batchSumAbsent {inviterId} (absent : inviterId ∉ batch.map (fun r => r.2.inviterId)) : batchSum batch inviterId = 0 := by
  refine sum_eq_zero ?_
  intro x mem
  obtain ⟨r,hr,rfl⟩ := List.mem_map.mp mem
  refine if_neg ?_
  intro same
  exact absent (List.mem_map.mpr ⟨r,hr,same⟩)

theorem addCentsGet (sums inviterId cents u) : (addCents sums inviterId cents).get? u =
      if u = inviterId then some ((sums.get? inviterId).getD 0 + cents) else sums.get? u := by
  unfold addCents
  cases attempt : sums.insert? inviterId cents with
  | some =>
    obtain ⟨fresh,rfl⟩ := insertExact attempt
    have absent : sums.get? inviterId = none := by
      rw [eq_none_iff_forall_ne_some]
      intro sum found
      exact fresh (getKeys.mpr ⟨sum,found⟩)
    simp only [getInsert,absent,getD_none,zero_add]
  | none =>
    have present : inviterId ∈ sums.keys := by
      unfold insert? at attempt
      split at attempt
      · cases attempt
      · rename_i used
        exact not_not.mp used
    obtain ⟨_,found⟩ := getKeys.mp present
    simp only [Table.getModify,found,map_some,getD_some]

theorem addCentsFold (batch sums u) : (batch.foldl (fun sums r => addCents sums r.2.inviterId r.2.commissionCents) sums).get? u =
      if u ∈ batch.map (fun r => r.2.inviterId) then some ((sums.get? u).getD 0 + batchSum batch u) else sums.get? u := by
  induction batch generalizing sums with
  | nil => simp
  | cons r rest ih =>
    rw [foldl_cons,ih,addCentsGet,map_cons,batchSumCons]
    by_cases here : u = r.2.inviterId
    · subst here
      by_cases later : r.2.inviterId ∈ rest.map (fun r => r.2.inviterId)
      · simp only [if_pos later,if_true,getD_some,add_assoc,mem_cons_self]
      · simp only [if_neg later,if_true,mem_cons_self,batchSumAbsent later,add_zero]
    · simp only [here,Ne.symm here,if_false,mem_cons,false_or,zero_add]

theorem byInviterGet (batch u) :
    (byInviter batch).get? u = if u ∈ batch.map (fun r => r.2.inviterId) then some (batchSum batch u) else none := by
  simp [byInviter,addCentsFold]

theorem debitExact {entry} (ok : debitInviter state entry = .ok state') : ∃ a, state.1.get? entry.1 = some a ∧
      (∀ u, state'.1.get? u = if u = entry.1 then some (debited entry.2 a) else state.1.get? u) ∧
      (∀ u, u ∈ state'.2.keys ↔ u ∈ state.2.keys ∧ (u = entry.1 → Covers a entry.2)) := by
  simp only [debitInviter,bindOk,rowOk] at ok
  obtain ⟨a,found,ok⟩ := ok
  refine ⟨a,found,?_⟩
  split at ok
  · rename_i short
    cases pureOk.mp ok
    have open_ : ¬ Covers a entry.2 := by
      unfold Covers
      omega
    refine ⟨?_,?_⟩
    · intro u
      rw [debited,if_neg open_]
      split
      · rename_i same
        exact same ▸ found
      · rfl
    · intro u
      simp only [getKeys,getErase]
      split
      · rename_i same
        simp [same,open_]
      · rename_i other
        simp [other]
  · rename_i enough
    cases pureOk.mp ok
    have covers : Covers a entry.2 := not_lt.mp enough
    refine ⟨?_,?_⟩
    · intro u
      simp only [Table.getModify,found,map_some,debited,if_pos covers]
    · intro u
      simp [covers]

theorem debitAll {entries : List (Nat × Int)} (unique : (entries.map Prod.fst).Nodup) (ok : entries.foldlM debitInviter state = .ok state') :
    (∀ e ∈ entries, ∃ a, state.1.get? e.1 = some a ∧ state'.1.get? e.1 = some (debited e.2 a) ∧
      (e.1 ∈ state'.2.keys ↔ e.1 ∈ state.2.keys ∧ Covers a e.2)) ∧
    (∀ u, u ∉ entries.map Prod.fst → state'.1.get? u = state.1.get? u ∧ (u ∈ state'.2.keys ↔ u ∈ state.2.keys)) := by
  induction entries generalizing state with
  | nil =>
    cases pureOk.mp ok
    exact ⟨fun e mem => absurd mem not_mem_nil,fun u _ => ⟨rfl,Iff.rfl⟩⟩
  | cons head _ ih =>
    rw [foldlM_cons,bindOk] at ok
    obtain ⟨_,first,rest⟩ := ok
    rw [map_cons,nodup_cons] at unique
    obtain ⟨a,found,users,kept⟩ := debitExact first
    obtain ⟨inside,outside⟩ := ih unique.2 rest
    refine ⟨?_,?_⟩
    · intro e mem
      rcases mem_cons.mp mem with rfl | later
      · obtain ⟨same,keys⟩ := outside e.1 unique.1
        refine ⟨a,found,by rw [same,users,if_pos rfl],keys.trans ?_⟩
        rw [kept]
        exact and_congr_right (fun _ => ⟨fun h => h rfl,fun h _ => h⟩)
      · have other : e.1 ≠ head.1 := by
          intro same
          exact unique.1 (same ▸ List.mem_map_of_mem later)
        obtain ⟨b,before,after,keys⟩ := inside e later
        rw [users,if_neg other] at before
        refine ⟨b,before,after,keys.trans ?_⟩
        rw [kept]
        simp [other]
    · intro u absent
      rw [map_cons,mem_cons,not_or] at absent
      obtain ⟨same,keys⟩ := outside u absent.2
      refine ⟨by rw [same,users,if_neg absent.1],keys.trans ?_⟩
      rw [kept]
      simp [absent.1]

theorem debitedZero (u) : debited 0 u = u := by
  unfold debited
  split
  · simp [moveCents]
  · rfl

structure Released (s : CommissionStore) (batch : List (Nat × Commission)) (flipped : Nat) (s' : CommissionStore) : Prop where
  inviters : ∀ r ∈ batch, ∃ u, s.users.get? r.2.inviterId = some u
  users : ∀ u, s'.users.get? u = (s.users.get? u).map (debited (batchSum batch u))
  commissions : s'.commissions = s.commissions.update (fun id _ => decide (id ∈ movedIds s batch)) makeAvailable
  withdrawals : s'.withdrawals = s.withdrawals
  flipped : flipped = (movedIds s batch).length

theorem releaseExact {flipped} (ok : releaseBatch s batch = .ok (flipped,s')) : Released s batch flipped s' := by
  simp only [releaseBatch,bindOk,pureOk,Prod.mk.injEq] at ok
  obtain ⟨⟨_,kept⟩,debits,rfl,rfl⟩ := ok
  obtain ⟨inside,outside⟩ := debitAll (byInviter batch).unique debits
  have entry : ∀ {u}, u ∈ batch.map (fun r => r.2.inviterId) → (u,batchSum batch u) ∈ (byInviter batch).rows := by
    intro u mem
    exact getMem.mp (by rw [byInviterGet,if_pos mem])
  have ids : releaseIds batch kept = movedIds s batch := by
    refine congrArg (List.map Prod.fst) (filter_congr ?_)
    intro r mem
    have inviter := entry (List.mem_map_of_mem mem)
    obtain ⟨a,found,_,keys⟩ := inside _ inviter
    have listed : r.2.inviterId ∈ (byInviter batch).keys := List.mem_map_of_mem inviter
    simp only [covered,found,any_some,keys,listed,true_and]
  refine ⟨?_,?_,by rw [ids],rfl,by rw [ids]⟩
  · intro r mem
    obtain ⟨a,found,_⟩ := inside _ (entry (List.mem_map_of_mem mem))
    exact ⟨a,found⟩
  · intro u
    by_cases mem : u ∈ batch.map (fun r => r.2.inviterId)
    · obtain ⟨a,found,after,_⟩ := inside _ (entry mem)
      rw [after,found,map_some]
    have unlisted : u ∉ (byInviter batch).rows.map Prod.fst := by
      intro listed
      obtain ⟨_,got⟩ := getKeys.mp listed
      rw [byInviterGet,if_neg mem] at got
      cases got
    rw [(outside u unlisted).1,batchSumAbsent mem,funext debitedZero]
    exact Option.map_id'.symm

theorem maturedNodup (s now) : ((maturedBatch s now).map Prod.fst).Nodup := by
  refine List.Nodup.sublist ((take_sublist _ _).map Prod.fst) ?_
  exact ((perm_insertionSort _ _).map Prod.fst).nodup_iff.mpr (selectNodup _ _)

theorem maturedRow {now r} (mem : r ∈ maturedBatch s now) : s.commissions.get? r.1 = some r.2 ∧ r.2.status = .pending ∧
    r.2.availableAt ≤ now := by
  have listed := (perm_insertionSort _ _).mem_iff.mp (mem_of_mem_take mem)
  obtain ⟨found,due⟩ := memSelect.mp listed
  obtain ⟨pending,matured⟩ := of_decide_eq_true due
  exact ⟨found,pending,matured⟩

def BatchHeld (s : CommissionStore) (batch : List (Nat × Commission)) : Prop :=
  (batch.map Prod.fst).Nodup ∧ ∀ r ∈ batch, s.commissions.get? r.1 = some r.2 ∧ r.2.status = .pending

theorem batchWithin (held : BatchHeld s batch) (userId) : batchSum batch userId = s.commissions.sum (fun id c =>
      if id ∈ batch.map Prod.fst then if c.inviterId = userId then c.commissionCents else 0 else 0) :=
  sumWithin held.1 (fun r mem => (held.2 r mem).1) (fun _ c => if c.inviterId = userId then c.commissionCents else 0)

theorem heldPending (held : BatchHeld s batch) {id c}
    (found : s.commissions.get? id = some c) (mem : id ∈ batch.map Prod.fst) : c.status = .pending := by
  obtain ⟨r,inside,rfl⟩ := List.mem_map.mp mem
  obtain ⟨got,status⟩ := held.2 r inside
  cases some.inj (got.symm.trans found)
  exact status

theorem maturedHeld (s now) : BatchHeld s (maturedBatch s now) :=
  ⟨maturedNodup s now,fun _ mem => ⟨(maturedRow mem).1,(maturedRow mem).2.1⟩⟩

def Copies (s : CommissionStore) (r : Nat × Commission) : Prop :=
  ∃ c, s.commissions.get? r.1 = some c ∧ r.2 = { c with status := r.2.status }

theorem settleCases {setting inviteeId topUpId paidCurrency} {paidAmountCents now settlement}
    (ok : settleRechargeCommission setting s inviteeId topUpId paidAmountCents paidCurrency now = .ok (settlement,s')) :
    s' = s ∨ ∃ c u, s' = creditPending s c ∧ s.users.get? c.inviterId = some u ∧ 0 < c.commissionCents ∧ c.status = .pending := by
  unfold settleRechargeCommission at ok
  split at ok
  · exact .inl (Prod.mk.inj (pureOk.mp ok)).2.symm
  simp only [bindOk,rowOk] at ok
  obtain ⟨_,_,ok⟩ := ok
  split at ok
  · exact .inl (Prod.mk.inj (pureOk.mp ok)).2.symm
  simp only [bindOk,rowOk] at ok
  obtain ⟨inviter,found,ok⟩ := ok
  split at ok
  · exact .inl (Prod.mk.inj (pureOk.mp ok)).2.symm
  split at ok
  · exact .inl (Prod.mk.inj (pureOk.mp ok)).2.symm
  split at ok
  · exact .inl (Prod.mk.inj (pureOk.mp ok)).2.symm
  · rename_i earns
    exact .inr ⟨_,inviter,(Prod.mk.inj (pureOk.mp ok)).2.symm,found,not_le.mp earns,rfl⟩

def inviting : Table Nat Affiliate := ⟨[(1,⟨2,false,0,0,0⟩),(2,⟨0,true,0,0,0⟩)],by decide⟩

end NovaPuraRouter.ReleaseSpec
