import NovaPuraRouter.FairUseBounds
import NovaPuraRouter.FairUseMemoryRows
import Mathlib.Tactic.Linarith

/-! The script and the limiter in memory side by side. They hold the same leases and the
same recent counts; the time they have charged may differ, the time they will have charged
does not. -/
namespace NovaPuraRouter.FairUse.Memory
open List Option Table Expiring

def nano : Nat := 1000000

theorem staleNano : staleLeaseRecovery = staleMs * nano := rfl

theorem windowNano : windowDuration = windowMs * nano := rfl

theorem strikeNano : exhaustionStrikeWindow = strikeWindowMs * nano := rfl

theorem degradeNano : degradationDuration = degradeMs * nano := rfl

theorem overlapNano (later a b) : overlap (later * nano - windowDuration) (later * nano) (a * nano) (b * nano) =
    overlap (later - windowMs) later a b * nano := by
  rw [windowNano,← Nat.sub_mul,overlapScale]

structure Held (now : Nat) (p : FairStore) (q : MemoryAccount) : Prop where
  rows : Rows now p
  ends : Ends p
  settled : Settled (now * nano) q
  leases : ∀ id, (q.leases.get? id).map MemoryLease.lastHeartbeat = (p.live.rows.get? id).map (fun r => r.heartbeat * nano)
  occupancy : ∀ later, now ≤ later → charged (later * nano) q + uncharged (later * nano) q = counted later p * nano

section Held
variable {clock now : Nat} {p s : FairStore} {q q' : MemoryAccount}

section
variable (held : Held now p q)
include held

theorem heldFound {id l} (found : q.leases.get? id = some l) :
    ∃ r, p.live.rows.get? id = some r ∧ l.lastHeartbeat = r.heartbeat * nano := by
  have both := held.leases id
  rw [found,map_some] at both
  obtain ⟨r,row,same⟩ := map_eq_some_iff.mp both.symm
  exact ⟨r,row,same.symm⟩

theorem heldLease {id r} (found : p.live.rows.get? id = some r) :
    ∃ l, q.leases.get? id = some l ∧ l.lastHeartbeat = r.heartbeat * nano := by
  have both := held.leases id
  rw [found,map_some] at both
  exact map_eq_some_iff.mp both

theorem heldNone (id) : p.live.rows.get? id = none ↔ q.leases.get? id = none := by
  have both := held.leases id
  rw [← @map_eq_none_iff _ _ _ (fun r : LeaseRow => r.heartbeat * nano),← both,map_eq_none_iff]

theorem heldSize : p.live.rows.size = q.leases.size := by
  refine le_antisymm (sizeSubset (fun id r found => ?_)) (sizeSubset (fun id l found => ?_))
  · obtain ⟨l,row,_⟩ := heldLease held found
    exact ⟨l,row⟩
  · obtain ⟨r,row,_⟩ := heldFound held found
    exact ⟨r,row⟩

end

theorem heldPruned (held : Held clock p q) (after : clock ≤ now) (whole : second ∣ now * nano) :
    Pruned (now * nano) q (prune (now * nano) q) := by
  refine prunePruned { held.settled with lease := fun id l found => ?_ } whole
  obtain ⟨past,stale⟩ := held.settled.lease id l found
  exact ⟨le_trans past (Nat.mul_le_mul_right nano after),stale⟩

theorem heldPrepared (held : Held clock p q) (after : clock ≤ now) (whole : second ∣ now * nano) :
    Held now (prepared now p) (prune (now * nano) q) := by
  obtain ⟨upkeep,gets⟩ := preparedUpkeep (rowsLater held.rows after) held.ends
  have pruned := heldPruned held after whole
  refine ⟨upkeep.rows,upkeep.ends,pruned.settled,fun id => ?_,fun later here => ?_⟩
  · rw [gets,pruned.leases,Option.map_map]
    cases found : p.live.rows.get? id with
    | none =>
      rw [(heldNone held id).mp found]
      rfl
    | some r =>
      obtain ⟨l,row,same⟩ := heldLease held found
      rw [row,filter_some,filter_some]
      have fresh : now * nano < l.lastHeartbeat + staleLeaseRecovery ↔ now < r.heartbeat + staleMs := by
        rw [same,staleNano,← add_mul]
        exact Nat.mul_lt_mul_right (by decide)
      by_cases alive : now < r.heartbeat + staleMs
      · rw [if_pos (decide_eq_true alive),if_pos (decide_eq_true (fresh.mpr alive)),map_some,map_some,same]
        rfl
      · rw [if_neg (fun yes => alive (of_decide_eq_true yes)),if_neg (fun yes => alive (fresh.mp (of_decide_eq_true yes)))]
        rfl
  · rw [pruned.counted _ (Nat.mul_le_mul_right nano here),upkeep.counted later here]
    exact held.occupancy later (le_trans after here)

theorem heldUpkeep (held : Held now p q) (upkeep : Upkeep (now * nano) q q')
    (beats : ∀ id, (q'.leases.get? id).map MemoryLease.lastHeartbeat = (q.leases.get? id).map MemoryLease.lastHeartbeat) :
    Held now p q' where
  rows := held.rows
  ends := held.ends
  settled := upkeep.settled
  leases id := (beats id).trans (held.leases id)
  occupancy later after := (upkeep.counted _ (Nat.mul_le_mul_right nano after)).trans (held.occupancy later after)

def applied (now : Nat) (q : MemoryAccount) : Move → MemoryAccount
  | .none => q
  | .admitted id => admitLease now q id
  | .renewed id => { q with leases := q.leases.modify id (fun l => { l with lastHeartbeat := now }) }
  | .ended id completed =>
    let q := { q with leases := q.leases.erase id }
    if completed then { q with successful := q.successful ++ [⟨now,id⟩] } else q

def Paid (now : Nat) (q : MemoryAccount) : Move → Prop
  | .renewed id | .ended id _ => ∀ l, q.leases.get? id = some l → l.lastCharged = now
  | _ => True

theorem appliedEnded (id completed) : (applied now q (.ended id completed)).leases = q.leases.erase id ∧
    (applied now q (.ended id completed)).occupancy = q.occupancy ∧
    (applied now q (.ended id completed)).forcedConcurrentSeconds = q.forcedConcurrentSeconds := by
  cases completed <;> exact ⟨rfl,rfl,rfl⟩

variable {m : Move}

theorem appliedLeases (held : Held now p q) (id) : ((applied (now * nano) q m).leases.get? id).map MemoryLease.lastHeartbeat =
      (moved now p.live.rows m id).map (fun r => r.heartbeat * nano) := by
  have before := held.leases id
  cases m with
  | none => exact before
  | admitted =>
    simp only [applied,admitLease,moved,getPut]
    split
    · rfl
    · exact before
  | renewed j =>
    simp only [applied,moved,Table.getModify]
    split
    · rename_i here
      rw [Option.map_map,Option.map_map,here]
      cases found : p.live.rows.get? j with
      | none =>
        rw [(heldNone held j).mp found]
        rfl
      | some =>
        obtain ⟨l,row,_⟩ := heldLease held found
        rw [row]
        rfl
    · exact before
  | ended j completed =>
    rw [(appliedEnded j completed).1,getErase]
    simp only [moved]
    split
    · rfl
    · exact before

theorem appliedSettled (settled : Settled now q) (whole : second ∣ now) (paid : Paid now q m) : Settled now (applied now q m) := by
  cases m with
  | none => exact settled
  | admitted =>
    refine ⟨?_,?_,settled.segment,settled.forced⟩
    · intro j l found
      simp only [applied,admitLease,getPut] at found
      split at found
      · cases found
        exact ⟨le_refl now,Nat.le_add_right _ _⟩
      · exact settled.lease j l found
    · intro j l found
      simp only [applied,admitLease,getPut] at found
      split at found
      · cases found
        exact ⟨whole,whole⟩
      · exact settled.whole j l found
  | renewed =>
    refine ⟨?_,?_,settled.segment,settled.forced⟩
    · intro j l found
      rcases modifyCases found with ⟨old,row,rfl,rfl⟩ | ⟨_,old⟩
      · have here := paid old row
        exact ⟨le_of_eq here,le_trans (le_of_eq here) (Nat.le_add_right _ _)⟩
      · exact settled.lease j l old
    · intro j l found
      rcases modifyCases found with ⟨old,row,rfl,rfl⟩ | ⟨_,old⟩
      · exact ⟨(settled.whole _ old row).1,whole⟩
      · exact settled.whole j l old
  | ended id completed =>
    obtain ⟨leases,occupancy,forced⟩ := @appliedEnded now q id completed
    have kept : ∀ {j l}, (applied now q (.ended id completed)).leases.get? j = some l → q.leases.get? j = some l := by
      intro j l found
      rw [leases,getErase] at found
      split at found
      · cases found
      · exact found
    refine ⟨fun j l found => settled.lease j l (kept found),fun j l found => settled.whole j l (kept found),?_,forced.trans settled.forced⟩
    rw [occupancy]
    exact settled.segment

theorem appliedUncharged (held : Held now p q) (open_ : Charged now p) (paid : Paid (now * nano) q m)
    (applies : Applies p.live.rows m) (later) : uncharged (later * nano) (applied (now * nano) q m) - uncharged (later * nano) q =
      ((movedTable now p.live.rows m).sum (fun _ r => overlap (later - windowMs) later r.charged (r.heartbeat + staleMs)) -
        p.live.rows.sum (fun _ r => overlap (later - windowMs) later r.charged (r.heartbeat + staleMs))) * nano := by
  have scaled : ∀ beat, (overlap (later * nano - windowDuration) (later * nano) (now * nano) (beat * nano + staleLeaseRecovery) : Int) =
      overlap (later - windowMs) later now (beat + staleMs) * nano := by
    intro beat
    rw [staleNano,← add_mul]
    exact_mod_cast overlapNano later now (beat + staleMs)
  cases m with
  | none => simp only [applied,movedTable,sub_self,zero_mul]
  | admitted id =>
    have absent := (heldNone held id).mp applies
    simp only [applied,admitLease,uncharged,movedTable,sumPut absent,sumPut applies,scaled,add_sub_cancel_left]
  | renewed id =>
    obtain ⟨r,found⟩ := applies
    obtain ⟨l,row,same⟩ := heldLease held found
    have last := paid l row
    have due := open_ id r found
    simp only [applied,uncharged,movedTable,sumModify row,sumModify found,last,due,same,scaled]
    ring
  | ended id completed =>
    obtain ⟨r,found⟩ := applies
    obtain ⟨l,row,same⟩ := heldLease held found
    have last := paid l row
    have due := open_ id r found
    simp only [uncharged,(appliedEnded id completed).1,movedTable,sumErase row,sumErase found,last,due,same,scaled]
    ring

theorem appliedCharged (m later) : charged later (applied now q m) = charged later q := by
  cases m with
  | none | admitted | renewed => rfl
  | ended id completed =>
    unfold charged
    rw [(appliedEnded id completed).2.1]

theorem heldMoved (held : Held now p q) (open_ : Charged now p) (whole : second ∣ now * nano)
    (paid : Paid (now * nano) q m) (effect : Effect now p m s) : Held now s (applied (now * nano) q m) := by
  obtain ⟨rows,ends⟩ := effectRows held.rows held.ends open_ effect
  refine ⟨rows,ends,appliedSettled held.settled whole paid,fun id => ?_,fun later after => ?_⟩
  · rw [effectLive open_ effect]
    exact appliedLeases held id
  · have before := held.occupancy later after
    have script := @countedMoved now later s p m open_ effect
    have memory := appliedUncharged held open_ paid (effectApplies effect) later
    rw [← script] at memory
    rw [appliedCharged]
    linarith

end Held

def Tallied (now : Nat) (t : Table String Nat) (events : List MemoryEvent) : Prop := ∀ later, now ≤ later →
  ((trimEvents events (later * nano - windowDuration)).length : Int) = t.count (fun _ score => later - windowMs ≤ score)

section Tally
variable {clock now : Nat} {k : Expiring String Nat} {t : Table String Nat} {events : List MemoryEvent}

theorem recentNano (later seen) : later * nano - windowDuration ≤ seen * nano ↔ later - windowMs ≤ seen := by
  rw [windowNano,← Nat.sub_mul]
  exact Nat.mul_le_mul_right_iff (by decide)

theorem trimTrim {a b} (le : a ≤ b) : trimEvents (trimEvents events a) b = trimEvents events b := by
  unfold trimEvents
  rw [List.filter_filter]
  refine filter_congr (fun e _ => ?_)
  by_cases kept : b ≤ e.time
  · simp [kept,le_trans le kept]
  · simp [kept]

theorem talliedPruned (tallied : Tallied clock k.rows events) (dated : Dated clock k) (after : clock ≤ now) :
    Tallied now (pruned now k).rows (trimEvents events (now * nano - windowDuration)) := by
  intro later here
  have low : now * nano - windowDuration ≤ later * nano - windowDuration :=
    Nat.sub_le_sub_right (Nat.mul_le_mul_right nano here) _
  rw [trimTrim low,tallied later (le_trans after here),countSum,countSum]
  simp only [pruned,writeRows]
  rw [sumRetain,sumWake]
  · intro d deadline _ id seen found
    have ends := dated.ends d deadline id seen found
    have short : windowMs ≤ keyTtlMs := by decide
    exact if_neg (fun recent => by have recent := of_decide_eq_true recent; omega)
  · intro _ _ _ dropped
    have dropped := of_decide_eq_false dropped
    exact if_neg (fun recent => by have recent := of_decide_eq_true recent; omega)

theorem talliedLevel (tallied : Tallied clock k.rows events) (dated : Dated clock k) (after : clock ≤ now) :
    (pruned now k).rows.size = (trimEvents events (now * nano - windowDuration)).length := by
  have same := talliedPruned tallied dated after now (le_refl now)
  rw [trimTrim (le_refl _),countSum] at same
  have all : (pruned now k).rows.sum (fun _ score => if decide (now - windowMs ≤ score) = true then 1 else 0) = (pruned now k).rows.size := by
    rw [sizeSum]
    refine sumCongr (fun id score found => ?_)
    simp only [pruned,writeRows,getRetain] at found
    exact if_pos (filter_eq_some_iff.mp found).2
  rw [all] at same
  exact (Int.ofNat_inj.mp same).symm

theorem talliedPut {id} (tallied : Tallied now t events) (absent : t.get? id = none) :
    Tallied now (t.put id now) (events ++ [⟨now * nano,id⟩]) := by
  intro later after
  have before := tallied later after
  rw [countSum] at before ⊢
  rw [sumPut absent,← before]
  unfold trimEvents
  rw [filter_append,length_append,filter_singleton]
  simp only [recentNano]
  by_cases recent : later - windowMs ≤ now
  · simp only [recent,decide_true,if_true]
    exact Int.natCast_add _ _
  · simp only [recent,decide_false,Bool.false_eq_true,if_false]
    exact Int.natCast_add _ _

theorem putSize {id} (absent : t.get? id = none) (a) : (t.put id a).size = t.size + 1 := by
  have sums := sumPut absent a (fun _ _ => 1)
  rw [← sizeSum,← sizeSum] at sums
  omega

end Tally

structure Counts (now : Nat) (p : FairStore) (q : MemoryAccount) : Prop where
  total : Dated now p.total
  success : Dated now p.success
  admitted : Tallied now p.total.rows q.admitted
  successful : Tallied now p.success.rows q.successful

structure Level (p : FairStore) (q : MemoryAccount) : Prop where
  admitted : p.total.rows.size = q.admitted.length
  successful : p.success.rows.size = q.successful.length

def Unused (p : FairStore) : Move → Prop
  | .admitted id => p.total.rows.get? id = none
  | .ended id true => p.success.rows.get? id = none
  | _ => True

section Counts
variable {clock now : Nat} {p s : FairStore} {q q' : MemoryAccount}

theorem countsPrepared (counts : Counts clock p q) (after : clock ≤ now) (pruned : Pruned (now * nano) q q') :
    Counts now (prepared now p) q' ∧ Level (prepared now p) q' := by
  obtain ⟨total,success,_⟩ := @preparedCounts now p
  constructor
  · constructor
    · rw [total]
      exact datedPruned counts.total after
    · rw [success]
      exact datedPruned counts.success after
    · rw [total,pruned.admitted]
      exact talliedPruned counts.admitted counts.total after
    · rw [success,pruned.successful]
      exact talliedPruned counts.successful counts.success after
  · constructor
    · rw [total,pruned.admitted]
      exact talliedLevel counts.admitted counts.total after
    · rw [success,pruned.successful]
      exact talliedLevel counts.successful counts.success after

theorem countsSame (counts : Counts now p q) (level : Level p q) (same : SameEvents q q') : Counts now p q' ∧ Level p q' := by
  obtain ⟨admitted,successful,_⟩ := same
  refine ⟨⟨counts.total,counts.success,?_,?_⟩,⟨?_,?_⟩⟩
  · rw [admitted]
    exact counts.admitted
  · rw [successful]
    exact counts.successful
  · rw [admitted]
    exact level.admitted
  · rw [successful]
    exact level.successful

theorem countsMoved {m} (counts : Counts now p q) (level : Level p q) (open_ : Charged now p) (unused : Unused p m)
    (effect : Effect now p m s) : Counts now s (applied (now * nano) q m) ∧ Level s (applied (now * nano) q m) := by
  obtain ⟨total,success⟩ := effectDated counts.total counts.success open_ effect
  obtain ⟨_,totals,successes⟩ := effectWindow open_ effect
  have kept : ∀ {q'}, s.total.rows = p.total.rows → s.success.rows = p.success.rows → q'.admitted = q.admitted →
      q'.successful = q.successful → Counts now s q' ∧ Level s q' := by
    intro _ totals successes admitted successful
    refine ⟨⟨total,success,?_,?_⟩,⟨?_,?_⟩⟩
    · rw [totals,admitted]
      exact counts.admitted
    · rw [successes,successful]
      exact counts.successful
    · rw [totals,admitted]
      exact level.admitted
    · rw [successes,successful]
      exact level.successful
  cases m with
  | none => exact kept totals successes rfl rfl
  | admitted =>
    simp only [totalAfter] at totals
    refine ⟨⟨total,success,?_,?_⟩,⟨?_,?_⟩⟩
    · rw [totals]
      exact talliedPut counts.admitted unused
    · rw [successes]
      exact counts.successful
    · rw [totals,putSize unused,level.admitted]
      simp only [applied,admitLease,length_append,length_singleton]
    · rw [successes]
      exact level.successful
  | renewed => exact kept totals successes rfl rfl
  | ended id completed =>
    cases completed with
    | false => exact kept totals successes rfl rfl
    | true =>
      have absent : p.success.rows.get? id = none := unused
      simp only [successAfter,absent,if_true] at successes
      refine ⟨⟨total,success,?_,?_⟩,⟨?_,?_⟩⟩
      · rw [totals]
        exact counts.admitted
      · rw [successes]
        exact talliedPut counts.successful absent
      · rw [totals]
        exact level.admitted
      · rw [successes,putSize absent,level.successful]
        simp only [applied,if_true,length_append,length_singleton]

end Counts

/- The script keeps strikes that are too old until the next one; in memory they go with
every call. -/
structure Struck (now : Nat) (p : FairStore) (q : MemoryAccount) : Prop where
  past : ∀ key seen, p.events.rows.get? key = some seen → seen ≤ now
  named : ∀ key seen, p.events.rows.get? key = some seen → key.2 = seen / windowMs
  limit : degradeUntil p ≤ now + degradeMs
  events : ∀ key, q.exhaustionEvents.get? key =
    ((p.events.rows.get? key).filter (fun seen => now - strikeWindowMs ≤ seen)).map (fun seen => seen * nano)
  degraded : max (degradeUntil p * nano) (now * nano) = max (q.degradeUntil.getD 0) (now * nano)

structure StrikeEnds (p : FairStore) : Prop where
  events : ∀ d ∈ p.events.deadline, ∀ key seen, p.events.rows.get? key = some seen → seen + keyTtlMs ≤ d
  penalty : ∀ d ∈ p.penalty.deadline, degradeUntil p ≤ d

def NoOldStrikes (now : Nat) (p : FairStore) : Prop := ∀ key seen, p.events.rows.get? key = some seen → now - strikeWindowMs ≤ seen

section Strikes
variable {clock now : Nat} {p p' : FairStore} {q q' : MemoryAccount}

theorem degradeSame (penalty : p'.penalty = p.penalty) : degradeUntil p' = degradeUntil p := by
  unfold degradeUntil
  rw [penalty]

theorem struckOf (struck : Struck now p q) (events : p'.events = p.events) (penalty : p'.penalty = p.penalty)
    (same : q'.exhaustionEvents = q.exhaustionEvents) (degrade : q'.degradeUntil = q.degradeUntil) : Struck now p' q' := by
  constructor
  · rw [events]
    exact struck.past
  · rw [events]
    exact struck.named
  · rw [degradeSame penalty]
    exact struck.limit
  · rw [events,same]
    exact struck.events
  · rw [degradeSame penalty,degrade]
    exact struck.degraded

theorem strikeEndsOf (ends : StrikeEnds p) (events : p'.events = p.events) (penalty : p'.penalty = p.penalty) : StrikeEnds p' := by
  constructor
  · rw [events]
    exact ends.events
  · rw [penalty,degradeSame penalty]
    exact ends.penalty

theorem degradeWoken (ends : StrikeEnds p) (now) : degradeUntil (woken now p) = degradeUntil p ∨
    degradeUntil (woken now p) = 0 ∧ degradeUntil p < now := by
  obtain ⟨d,here,late,gone⟩ | same := wakeCases now p.penalty
  · refine .inr ⟨?_,lt_of_le_of_lt (ends.penalty d here) late⟩
    simp only [degradeUntil,woken,gone,blankGet]
    rfl
  · refine .inl ?_
    simp only [degradeUntil,woken,same]

theorem strikesWoken (ends : StrikeEnds p) (now key) :
    ((woken now p).events.rows.get? key).filter (fun seen => now - strikeWindowMs ≤ seen) =
      (p.events.rows.get? key).filter (fun seen => now - strikeWindowMs ≤ seen) := by
  obtain ⟨d,here,_,gone⟩ | same := wakeCases now p.events
  · simp only [woken,gone,blankGet,filter_none]
    refine (filter_eq_none_iff.mpr (fun seen row recent => ?_)).symm
    have past := ends.events d here key seen row
    have short : strikeWindowMs ≤ keyTtlMs := by decide
    have recent := of_decide_eq_true recent
    omega
  · simp only [woken,same]

theorem strikesRecent (after : clock ≤ now) (seen : Option Nat) :
    ((seen.filter (fun seen => clock - strikeWindowMs ≤ seen)).map (fun seen => seen * nano)).filter
      (fun seen => now * nano - exhaustionStrikeWindow ≤ seen) =
      (seen.filter (fun seen => now - strikeWindowMs ≤ seen)).map (fun seen => seen * nano) := by
  cases seen with
  | none => rfl
  | some seen =>
    have nanos : now * nano - exhaustionStrikeWindow ≤ seen * nano ↔ now - strikeWindowMs ≤ seen := by
      rw [strikeNano,← Nat.sub_mul]
      exact Nat.mul_le_mul_right_iff (by decide)
    by_cases recent : now - strikeWindowMs ≤ seen
    · have before : clock - strikeWindowMs ≤ seen := by omega
      simp only [filter_some,before,recent,nanos,decide_true,if_true,map_some]
    by_cases before : clock - strikeWindowMs ≤ seen
    · simp only [filter_some,before,recent,nanos,decide_true,decide_false,if_true,Bool.false_eq_true,if_false,map_some,
        map_none]
    · simp only [filter_some,before,recent,decide_false,Bool.false_eq_true,if_false,map_none,filter_none]

theorem struckPrepared (struck : Struck clock p q) (ends : StrikeEnds p) (after : clock ≤ now)
    (pruned : Pruned (now * nano) q q') : Struck now (prepared now p) q' ∧ StrikeEnds (prepared now p) := by
  obtain ⟨_,_,penalty,events⟩ := @preparedCounts now p
  have awake : Struck now (woken now p) q' := by
    refine ⟨?_,?_,?_,?_,?_⟩
    · exact fun key seen found => le_trans (struck.past key seen (wakeGet found)) after
    · exact fun key seen found => struck.named key seen (wakeGet found)
    · have limit := struck.limit
      rcases degradeWoken ends now with same | ⟨zero,_⟩ <;> omega
    · intro key
      rw [pruned.exhaustionEvents,getRetain,struck.events,strikesWoken ends]
      exact strikesRecent after _
    · have low : clock * nano ≤ now * nano := Nat.mul_le_mul_right nano after
      have before := struck.degraded
      rw [pruned.degradeUntil]
      rcases degradeWoken ends now with same | ⟨zero,past⟩
      · rw [same]
        omega
      · have past := Nat.mul_le_mul_right nano (le_of_lt past)
        rw [zero]
        omega
  have kept : StrikeEnds (woken now p) := by
    refine ⟨fun d here key seen found => ?_,fun d here => ?_⟩
    · exact ends.events d (wakeDeadline here) key seen (wakeGet found)
    · have limit := ends.penalty d (wakeDeadline here)
      rcases degradeWoken ends now with same | ⟨zero,_⟩ <;> omega
  exact ⟨struckOf awake events penalty rfl rfl,strikeEndsOf kept events penalty⟩

theorem struckExpired (struck : Struck now p q) : Struck now (expireAll now p) q ∧ StrikeEnds (expireAll now p) := by
  have degrade : degradeUntil (expireAll now p) = degradeUntil p := by
    simp only [degradeUntil,expireAll,touchRows]
  refine ⟨⟨?_,?_,?_,?_,?_⟩,⟨(datedTouched struck.past).ends,?_⟩⟩
  · simp only [expireAll,touchRows]
    exact struck.past
  · simp only [expireAll,touchRows]
    exact struck.named
  · rw [degrade]
    exact struck.limit
  · simp only [expireAll,touchRows]
    exact struck.events
  · rw [degrade]
    exact struck.degraded
  · intro d here
    rw [degrade]
    simp only [expireAll,Expiring.touch] at here
    split at here
    · rename_i nothing
      unfold degradeUntil
      rw [rowsNil.mp nothing]
      exact Nat.zero_le d
    · have limit := struck.limit
      have short : degradeMs ≤ keyTtlMs := by decide
      cases here
      omega

theorem struckSize (struck : Struck now p q) (nothing : NoOldStrikes now p) : p.events.rows.size = q.exhaustionEvents.size := by
  have keys : ∀ key, q.exhaustionEvents.get? key = (p.events.rows.get? key).map (fun seen => seen * nano) := by
    intro key
    rw [struck.events]
    cases found : p.events.rows.get? key with
    | none => rfl
    | some seen => rw [filter_some,if_pos (decide_eq_true (nothing key seen found))]
  refine le_antisymm (sizeSubset (fun key seen found => ?_)) (sizeSubset (fun key seen found => ?_))
  · exact ⟨seen * nano,by rw [keys,found]; rfl⟩
  · rw [keys] at found
    obtain ⟨old,row,_⟩ := map_eq_some_iff.mp found
    exact ⟨old,row⟩

theorem laterAny (t) (limit : Option Nat) : t < limit.getD 0 ↔ limit.any (fun d => decide (t < d)) = true := by
  cases limit with
  | none => simp only [getD_none,Nat.not_lt_zero,any_none,Bool.false_eq_true]
  | some => simp only [getD_some,any_some,decide_eq_true_eq]

theorem struckDegraded (struck : Struck now p q) : now < degradeUntil p ↔ q.degradeUntil.any (fun d => decide (now * nano < d)) = true := by
  have beyond : ∀ {a b c : Nat}, max a c = max b c → (c < a ↔ c < b) := by
    intro a b c _
    omega
  have scaled : now * nano < degradeUntil p * nano ↔ now < degradeUntil p := Nat.mul_lt_mul_right (by decide)
  rw [← scaled,beyond struck.degraded]
  exact laterAny _ _

theorem struckEffective (struck : Struck now p q) : effectiveLimit now p = effectiveConcurrency (now * nano) q := by
  unfold effectiveLimit effectiveConcurrency
  by_cases degraded : now < degradeUntil p
  · rw [if_pos degraded,if_pos ((struckDegraded struck).mp degraded)]
    rfl
  · rw [if_neg degraded,if_neg (mt (struckDegraded struck).mpr degraded)]
    rfl

theorem strikeKey (now) : now * nano / second / (windowDuration / second) = now / windowMs := by
  have hour : windowDuration / second = 600 := by decide
  rw [hour]
  simp only [nano,second,windowMs]
  omega

theorem struckKnown (struck : Struck now p q) (reason) :
    p.events.rows.get? (reason,now / windowMs) = none ↔ q.exhaustionEvents.get? (reason,now / windowMs) = none := by
  rw [struck.events,map_eq_none_iff]
  cases found : p.events.rows.get? (reason,now / windowMs) with
  | none => simp
  | some seen =>
    have window := struck.named _ seen found
    have recent : now - strikeWindowMs ≤ seen := by
      simp only [windowMs,strikeWindowMs] at window ⊢
      omega
    rw [filter_some,if_pos (decide_eq_true recent)]

theorem strikeGet (reason key) : (strike now p reason).events.rows.get? key =
    (if p.events.rows.get? (reason,now / windowMs) = none ∧ key = (reason,now / windowMs) then some now
      else p.events.rows.get? key).filter (fun seen => now - strikeWindowMs ≤ seen) := by
  simp only [strike,writeRows,getRetain]
  by_cases known : p.events.rows.get? (reason,now / windowMs) = none
  · simp only [known,if_true,writeRows,getPut,true_and]
  · simp only [known,if_false,false_and]

theorem strikeNone (reason) : NoOldStrikes now (strike now p reason) := by
  intro _ _ found
  rw [strikeGet] at found
  exact of_decide_eq_true (filter_eq_some_iff.mp found).2

def Degrades (now : Nat) (p : FairStore) (reason : Reason) : Prop :=
  p.events.rows.get? (reason,now / windowMs) = none ∧ 3 ≤ (strike now p reason).events.rows.size ∧ degradeUntil p ≤ now

instance (now p reason) : Decidable (Degrades now p reason) := by unfold Degrades; infer_instance

theorem recordedScript (reason) : (FairUse.recordExhaustion now p reason).2.events = (strike now p reason).events ∧
    degradeUntil (FairUse.recordExhaustion now p reason).2 = if Degrades now p reason then now + degradeMs else degradeUntil p := by
  unfold FairUse.recordExhaustion
  by_cases degrades : Degrades now p reason
  · have third := degrades
    unfold Degrades at third
    simp only [if_pos third,if_pos degrades]
    split
    · refine ⟨rfl,?_⟩
      simp only [degradeUntil,writeRows,getPut]
      rfl
    · refine ⟨rfl,?_⟩
      simp only [degradeUntil,writeRows,getPut]
      rfl
  · have third := degrades
    unfold Degrades at third
    simp only [if_neg third,if_neg degrades]
    exact ⟨trivial,rfl⟩

def struckMemory (now : Nat) (q : MemoryAccount) (reason : Reason) : Table (Reason × Nat) Nat :=
  if q.exhaustionEvents.get? (reason,now / windowMs) = none then q.exhaustionEvents.put (reason,now / windowMs) (now * nano)
  else q.exhaustionEvents

theorem recordedMemory (reason) : (recordExhaustion (now * nano) q reason).2.exhaustionEvents = struckMemory now q reason ∧
    (recordExhaustion (now * nano) q reason).2.degradeUntil =
      if q.exhaustionEvents.get? (reason,now / windowMs) = none ∧ 3 ≤ (struckMemory now q reason).size ∧
          q.degradeUntil.any (fun d => decide (now * nano < d)) = false then some (now * nano + degradationDuration)
        else q.degradeUntil := by
  unfold recordExhaustion struckMemory
  simp only [strikeKey]
  by_cases known : q.exhaustionEvents.get? (reason,now / windowMs) = none
  · simp only [known,isSome_none,Bool.false_eq_true,if_false,if_true,true_and]
    by_cases few : (q.exhaustionEvents.put (reason,now / windowMs) (now * nano)).size < exhaustionStrikeThreshold ∨
        q.degradeUntil.any (fun d => decide (now * nano < d)) = true
    · rw [if_pos few,if_neg (fun both => ?_)]
      · exact ⟨rfl,rfl⟩
      · rcases few with few | degraded
        · exact absurd both.1 (not_le.mpr few)
        · rw [both.2] at degraded
          cases degraded
    · have third : 3 ≤ (q.exhaustionEvents.put (reason,now / windowMs) (now * nano)).size ∧
          q.degradeUntil.any (fun d => decide (now * nano < d)) = false :=
        ⟨not_lt.mp (fun less => few (.inl less)),Bool.eq_false_iff.mpr (fun yes => few (.inr yes))⟩
      rw [if_neg few,if_pos third]
      split <;> exact ⟨rfl,rfl⟩
  · have here : (q.exhaustionEvents.get? (reason,now / windowMs)).isSome = true := isSome_iff_ne_none.mpr known
    simp only [here,known,if_true,if_false,false_and,and_self]

structure SameLeases (q q' : MemoryAccount) : Prop where
  leases : q'.leases = q.leases
  occupancy : q'.occupancy = q.occupancy
  forced : q'.forcedConcurrentSeconds = q.forcedConcurrentSeconds
  admitted : q'.admitted = q.admitted
  successful : q'.successful = q.successful

theorem recordedSame (reason) : SameLeases q (recordExhaustion now q reason).2 := by
  unfold recordExhaustion
  dsimp only
  split
  · exact ⟨rfl,rfl,rfl,rfl,rfl⟩
  · split
    · exact ⟨rfl,rfl,rfl,rfl,rfl⟩
    · split <;> exact ⟨rfl,rfl,rfl,rfl,rfl⟩

theorem struckEvents (struck : Struck now p q) (reason key) :
    (struckMemory now q reason).get? key = ((strike now p reason).events.rows.get? key).map (fun seen => seen * nano) := by
  rw [strikeGet]
  unfold struckMemory
  by_cases known : p.events.rows.get? (reason,now / windowMs) = none
  · rw [if_pos ((struckKnown struck reason).mp known),getPut]
    simp only [known,true_and]
    split
    · rw [filter_some,if_pos (decide_eq_true (Nat.sub_le now strikeWindowMs))]
      rfl
    · exact struck.events key
  · rw [if_neg (mt (struckKnown struck reason).mpr known),if_neg (fun both => known both.1)]
    exact struck.events key

theorem struckRecorded (struck : Struck now p q) (reason) :
    Struck now (FairUse.recordExhaustion now p reason).2 (recordExhaustion (now * nano) q reason).2 ∧
      NoOldStrikes now (FairUse.recordExhaustion now p reason).2 := by
  obtain ⟨events,degrade⟩ := @recordedScript now p reason
  obtain ⟨events',degrade'⟩ := @recordedMemory now q reason
  have nothing : NoOldStrikes now (FairUse.recordExhaustion now p reason).2 := by
    intro key seen found
    rw [events] at found
    exact strikeNone reason key seen found
  have both := struckEvents struck reason
  have size : (strike now p reason).events.rows.size = (struckMemory now q reason).size := by
    refine le_antisymm (sizeSubset (fun key seen found => ?_)) (sizeSubset (fun key seen found => ?_))
    · exact ⟨seen * nano,by rw [both,found]; rfl⟩
    · rw [both] at found
      obtain ⟨old,row,_⟩ := map_eq_some_iff.mp found
      exact ⟨old,row⟩
  -- Both see a third strike and no penalty under way, or neither does.
  have agree : Degrades now p reason ↔ q.exhaustionEvents.get? (reason,now / windowMs) = Option.none ∧
      3 ≤ (struckMemory now q reason).size ∧ q.degradeUntil.any (fun d => decide (now * nano < d)) = false := by
    unfold Degrades
    have penalty : degradeUntil p ≤ now ↔ q.degradeUntil.any (fun d => decide (now * nano < d)) = false := by
      rw [← not_lt,struckDegraded struck,Bool.not_eq_true]
    rw [struckKnown struck,size,penalty]
  refine ⟨⟨?_,?_,?_,?_,?_⟩,nothing⟩
  · intro key seen found
    rw [events,strikeGet] at found
    have row := (filter_eq_some_iff.mp found).1
    split at row
    · cases row
      exact le_refl now
    · exact struck.past key seen row
  · intro key seen found
    rw [events,strikeGet] at found
    have row := (filter_eq_some_iff.mp found).1
    split at row
    · rename_i new
      cases row
      rw [new.2]
    · exact struck.named key seen row
  · rw [degrade]
    split
    · exact le_refl _
    · exact struck.limit
  · intro key
    rw [events',both,events]
    cases found : (strike now p reason).events.rows.get? key with
    | none => rfl
    | some seen => rw [filter_some,if_pos (decide_eq_true (strikeNone reason key seen found))]
  · rw [degrade,degrade']
    by_cases degrades : Degrades now p reason
    · rw [if_pos degrades,if_pos (agree.mp degrades),getD_some,degradeNano,add_mul]
    · rw [if_neg degrades,if_neg (mt agree.mpr degrades)]
      exact struck.degraded

end Strikes

end NovaPuraRouter.FairUse.Memory
