import NovaPuraRouter.FairUseMemory

/-! What the limiter in memory keeps of its leases: pruning and charging lose no time that
a later window can see. At whole seconds no second is cut in two. -/
namespace NovaPuraRouter.FairUse.Memory
open List Option Table

def charged (later : Nat) (m : MemoryAccount) : Int :=
  (m.occupancy.map (fun g => (overlap (later - windowDuration) later g.start g.stop : Int))).sum

def uncharged (later : Nat) (m : MemoryAccount) : Int :=
  m.leases.sum (fun _ l => overlap (later - windowDuration) later l.lastCharged (l.lastHeartbeat + staleLeaseRecovery))

structure Settled (now : Nat) (m : MemoryAccount) : Prop where
  lease : ∀ id l, m.leases.get? id = some l → l.lastCharged ≤ now ∧ l.lastCharged ≤ l.lastHeartbeat + staleLeaseRecovery
  whole : ∀ id l, m.leases.get? id = some l → second ∣ l.lastCharged ∧ second ∣ l.lastHeartbeat
  segment : ∀ g ∈ m.occupancy, second ∣ g.start ∧ second ∣ g.stop
  forced : m.forcedConcurrentSeconds = 0

structure SameEvents (m m' : MemoryAccount) : Prop where
  admitted : m'.admitted = m.admitted
  successful : m'.successful = m.successful
  exhaustionEvents : m'.exhaustionEvents = m.exhaustionEvents
  degradeUntil : m'.degradeUntil = m.degradeUntil

structure Upkeep (now : Nat) (m m' : MemoryAccount) : Prop where
  settled : Settled now m'
  counted : ∀ later, now ≤ later → charged later m' + uncharged later m' = charged later m + uncharged later m
  same : SameEvents m m'

theorem Upkeep.trans {now m m' m''} (first : Upkeep now m m') (second : Upkeep now m' m'') : Upkeep now m m'' where
  settled := second.settled
  counted later after := (second.counted later after).trans (first.counted later after)
  same := ⟨second.same.admitted.trans first.same.admitted,second.same.successful.trans first.same.successful,
    second.same.exhaustionEvents.trans first.same.exhaustionEvents,second.same.degradeUntil.trans first.same.degradeUntil⟩

section Charge
variable {now stop : Nat} {m : MemoryAccount} {lease : String}

theorem chargeLeaseCases (m lease stop) : (∀ l, m.leases.get? lease = some l → stop ≤ l.lastCharged) ∧ chargeLease m lease stop = m ∨
    ∃ l, m.leases.get? lease = some l ∧ l.lastCharged < stop ∧ chargeLease m lease stop =
      { m with occupancy := m.occupancy ++ [⟨l.lastCharged,stop⟩], leases := m.leases.put lease { l with lastCharged := stop } } := by
  unfold chargeLease
  cases found : m.leases.get? lease with
  | none => exact .inl ⟨fun _ absent => absurd absent.symm (some_ne_none _),rfl⟩
  | some l =>
    dsimp only
    split
    · rename_i behind
      exact .inl ⟨fun _ same => some.inj same ▸ behind,rfl⟩
    · rename_i ahead
      exact .inr ⟨l,rfl,not_le.mp ahead,rfl⟩

theorem chargeLeaseGet (id) : (chargeLease m lease stop).leases.get? id =
    if id = lease then (m.leases.get? id).map (fun l => { l with lastCharged := max l.lastCharged stop }) else m.leases.get? id := by
  obtain ⟨behind,same⟩ | ⟨l,found,ahead,same⟩ := chargeLeaseCases m lease stop <;> rw [same]
  · split
    · rename_i here
      subst here
      cases found : m.leases.get? id with
      | none => rfl
      | some l => rw [map_some,max_eq_left (behind l found)]
    · rfl
  · rw [getPut]
    split
    · rename_i here
      rw [here,found,map_some,max_eq_right (le_of_lt ahead)]
    · rfl

theorem chargeLeaseCounted (lived : ∀ l, m.leases.get? lease = some l → stop ≤ l.lastHeartbeat + staleLeaseRecovery) (later) :
    charged later (chargeLease m lease stop) + uncharged later (chargeLease m lease stop) = charged later m + uncharged later m := by
  obtain ⟨_,same⟩ | ⟨l,found,ahead,same⟩ := chargeLeaseCases m lease stop <;> rw [same]
  have parts := @overlapSplit (later - windowDuration) later l.lastCharged (l.lastHeartbeat + staleLeaseRecovery) stop
    (le_of_lt ahead) (lived l found)
  simp only [charged,uncharged,map_append,sum_append,map_singleton,sum_singleton,sumPutOver found]
  omega

theorem chargeLeaseUpkeep (settled : Settled now m) (passed : stop ≤ now) (whole : second ∣ stop)
    (lived : ∀ l, m.leases.get? lease = some l → stop ≤ l.lastHeartbeat + staleLeaseRecovery) :
    Upkeep now m (chargeLease m lease stop) := by
  refine ⟨⟨?_,?_,?_,?_⟩,fun later _ => chargeLeaseCounted lived later,?_⟩
  · intro id l found
    rw [chargeLeaseGet] at found
    split at found
    · rename_i here
      obtain ⟨old,row,rfl⟩ := map_eq_some_iff.mp found
      obtain ⟨past,stale⟩ := settled.lease id old row
      exact ⟨max_le past passed,max_le stale (lived old (here ▸ row))⟩
    · exact settled.lease id l found
  · intro id l found
    rw [chargeLeaseGet] at found
    split at found
    · obtain ⟨old,row,rfl⟩ := map_eq_some_iff.mp found
      obtain ⟨last,beat⟩ := settled.whole id old row
      refine ⟨?_,beat⟩
      rcases max_choice old.lastCharged stop with kept | moved
      · exact kept.symm ▸ last
      · exact moved.symm ▸ whole
    · exact settled.whole id l found
  all_goals obtain ⟨_,same⟩ | ⟨l,found,_,same⟩ := chargeLeaseCases m lease stop <;> rw [same]
  · exact settled.segment
  · intro g mem
    rcases mem_append.mp mem with old | new
    · exact settled.segment g old
    · rw [mem_singleton.mp new]
      exact ⟨(settled.whole lease l found).1,whole⟩
  · exact settled.forced
  · exact settled.forced
  · exact ⟨rfl,rfl,rfl,rfl⟩
  · exact ⟨rfl,rfl,rfl,rfl⟩

theorem Upkeep.refl (settled : Settled now m) : Upkeep now m m := ⟨settled,fun _ _ => rfl,⟨rfl,rfl,rfl,rfl⟩⟩

theorem chargeAllUpkeep (settled : Settled now m) (whole : second ∣ now)
    (fresh : ∀ id l, m.leases.get? id = some l → now ≤ l.lastHeartbeat + staleLeaseRecovery) : Upkeep now m (chargeAll now m) ∧
      ∀ id, (chargeAll now m).leases.get? id = (m.leases.get? id).map (fun l => { l with lastCharged := now }) := by
  have twice : ∀ a : Option MemoryLease, (a.map (fun l => { l with lastCharged := now })).map (fun l => { l with lastCharged := now }) =
      a.map (fun l => { l with lastCharged := now }) := fun _ => Option.map_map _ _ _
  unfold chargeAll
  refine And.imp_left And.left (runChanges (fun m' => Upkeep now m m' ∧
    ∀ id l, m'.leases.get? id = some l → now ≤ l.lastHeartbeat + staleLeaseRecovery)
    (fun m id => m.leases.get? id) twice ?_ ⟨.refl settled,fresh⟩ (fun id absent => by rw [absentKeys.mp absent]; rfl))
  rintro m' ⟨upkeep,fresh⟩ lease _
  have row : ∀ id, (chargeLease m' lease now).leases.get? id =
      if id = lease then (m'.leases.get? id).map (fun l => { l with lastCharged := now }) else m'.leases.get? id := by
    intro id
    rw [chargeLeaseGet]
    split
    · refine Option.map_congr (fun l found => ?_)
      rw [max_eq_right (upkeep.settled.lease id l found).1]
    · rfl
  refine ⟨⟨upkeep.trans (chargeLeaseUpkeep upkeep.settled (le_refl now) whole (fresh lease)),fun id l found => ?_⟩,row⟩
  rw [row] at found
  split at found
  · obtain ⟨old,before,rfl⟩ := map_eq_some_iff.mp found
    exact fresh id old before
  · exact fresh id l found

end Charge

section Prune
variable {now : Nat} {m : MemoryAccount} {lease : String}

theorem eraseUpkeep {l} (settled : Settled now m) (found : m.leases.get? lease = some l)
    (done : l.lastHeartbeat + staleLeaseRecovery ≤ l.lastCharged) : Upkeep now m { m with leases := m.leases.erase lease } := by
  have kept : ∀ {id l}, (m.leases.erase lease).get? id = some l → m.leases.get? id = some l := by
    intro id l found
    rw [getErase] at found
    split at found
    · cases found
    · exact found
  refine ⟨⟨?_,?_,settled.segment,settled.forced⟩,fun later _ => ?_,⟨rfl,rfl,rfl,rfl⟩⟩
  · exact fun id l found => settled.lease id l (kept found)
  · exact fun id l found => settled.whole id l (kept found)
  · simp only [charged,uncharged]
    rw [sumErase found,overlapEmpty done]
    omega

theorem pruneLeaseUpkeep (settled : Settled now m) : Upkeep now m (pruneLease now m lease) ∧
    ∀ id, (pruneLease now m lease).leases.get? id = if id = lease then
      (m.leases.get? id).filter (fun l => now < l.lastHeartbeat + staleLeaseRecovery) else m.leases.get? id := by
  unfold pruneLease
  cases found : m.leases.get? lease with
  | none =>
    refine ⟨.refl settled,fun id => ?_⟩
    dsimp only
    split
    · rename_i here
      rw [here,found]
      rfl
    · rfl
  | some l =>
    dsimp only
    split
    · rename_i stale
      rw [min_eq_left stale]
      have lived : ∀ l', m.leases.get? lease = some l' → l.lastHeartbeat + staleLeaseRecovery ≤ l'.lastHeartbeat + staleLeaseRecovery := by
        intro _ found'
        cases found.symm.trans found'
        exact le_refl _
      have whole : second ∣ l.lastHeartbeat + staleLeaseRecovery :=
        Nat.dvd_add (settled.whole lease l found).2 (Nat.dvd_mul_left second 45)
      have paid := chargeLeaseUpkeep settled stale whole lived
      have row := @chargeLeaseGet (l.lastHeartbeat + staleLeaseRecovery) m lease lease
      rw [if_pos rfl,found,map_some,max_eq_right (settled.lease lease l found).2] at row
      refine ⟨paid.trans (eraseUpkeep paid.settled row (le_refl _)),fun id => ?_⟩
      rw [getErase]
      split
      · rename_i here
        rw [here,found]
        simp [Option.filter,stale]
      · rename_i other
        rw [chargeLeaseGet,if_neg other]
    · rename_i fresh
      refine ⟨.refl settled,fun id => ?_⟩
      split
      · rename_i here
        rw [here,found]
        simp [Option.filter,not_le.mp fresh]
      · rfl

theorem pruneRun (settled : Settled now m) : Upkeep now m (run (pruneLease now) m m.leases.keys) ∧
    ∀ id, (run (pruneLease now) m m.leases.keys).leases.get? id =
      (m.leases.get? id).filter (fun l => now < l.lastHeartbeat + staleLeaseRecovery) := by
  refine runChanges (Upkeep now m) (fun m id => m.leases.get? id) (fun _ => ?_) (fun m' upkeep lease _ => ?_) (.refl settled)
    (fun id absent => by rw [absentKeys.mp absent]; rfl)
  · simp only [Option.filter_filter,Bool.and_self]
  · obtain ⟨first,row⟩ := @pruneLeaseUpkeep now m' lease upkeep.settled
    exact ⟨upkeep.trans first,row⟩

theorem trimOccupancySum {later} (after : now ≤ later) (segments) : ((trimOccupancy segments (now - windowDuration)).map
      (fun g => (overlap (later - windowDuration) later g.start g.stop : Int))).sum =
      (segments.map (fun g => (overlap (later - windowDuration) later g.start g.stop : Int))).sum := by
  have low : now - windowDuration ≤ later - windowDuration := Nat.sub_le_sub_right after _
  unfold trimOccupancy
  induction segments with
  | nil => rfl
  | cons g _ ih =>
    rw [filter_cons]
    by_cases kept : now - windowDuration < g.stop
    · simp only [kept,decide_true,if_true,map_cons,sum_cons,overlapClip low]
      rw [ih]
    · simp only [kept,decide_false,Bool.false_eq_true,if_false,map_cons,sum_cons]
      rw [ih,overlapBefore (le_trans (not_lt.mp kept) low)]
      exact (zero_add _).symm

theorem trimOccupancyWhole {cutoff} (whole : second ∣ cutoff) {segments}
    (each : ∀ g ∈ segments, second ∣ g.start ∧ second ∣ g.stop) {g} (mem : g ∈ trimOccupancy segments cutoff) :
    second ∣ g.start ∧ second ∣ g.stop := by
  obtain ⟨old,kept,rfl⟩ := List.mem_map.mp mem
  obtain ⟨start,stop⟩ := each old (mem_filter.mp kept).1
  refine ⟨?_,stop⟩
  rcases max_choice old.start cutoff with here | cut
  · exact here.symm ▸ start
  · exact cut.symm ▸ whole

structure Pruned (now : Nat) (m m' : MemoryAccount) : Prop where
  settled : Settled now m'
  counted : ∀ later, now ≤ later → charged later m' + uncharged later m' = charged later m + uncharged later m
  leases : ∀ id, m'.leases.get? id = (m.leases.get? id).filter (fun l => now < l.lastHeartbeat + staleLeaseRecovery)
  admitted : m'.admitted = trimEvents m.admitted (now - windowDuration)
  successful : m'.successful = trimEvents m.successful (now - windowDuration)
  exhaustionEvents : m'.exhaustionEvents = m.exhaustionEvents.retain (fun _ seen => now - exhaustionStrikeWindow ≤ seen)
  degradeUntil : m'.degradeUntil = m.degradeUntil

theorem windowWhole (whole : second ∣ now) : second ∣ now - windowDuration :=
  Nat.dvd_sub whole (Nat.dvd_mul_left second (10 * 60))

theorem prunePruned (settled : Settled now m) (whole : second ∣ now) : Pruned now m (prune now m) := by
  obtain ⟨upkeep,leases⟩ := pruneRun settled
  refine ⟨⟨upkeep.settled.lease,upkeep.settled.whole,?_,upkeep.settled.forced⟩,?_,leases,?_,?_,?_,upkeep.same.degradeUntil⟩
  · exact fun g mem => trimOccupancyWhole (windowWhole whole) upkeep.settled.segment mem
  · intro later after
    rw [← upkeep.counted later after]
    simp only [charged,uncharged,prune,trimOccupancySum after]
  · simp only [prune,upkeep.same.admitted]
  · simp only [prune,upkeep.same.successful]
  · simp only [prune,upkeep.same.exhaustionEvents]

end Prune

section Seconds
variable {now : Nat} {m : MemoryAccount}

theorem overlapWhole {a b} (whole : second ∣ now) (start : second ∣ a) (stop : second ∣ b) :
    second ∣ overlap (now - windowDuration) now a b := by
  have low := windowWhole whole
  refine Nat.dvd_sub ?_ ?_
  · rcases min_choice b now with here | here
    · exact here.symm ▸ stop
    · exact here.symm ▸ whole
  · rcases max_choice a (now - windowDuration) with here | here
    · exact here.symm ▸ start
    · exact here.symm ▸ low

theorem secondsSum {segments : List OccupancySegment} (whole : second ∣ now) (each : ∀ g ∈ segments, second ∣ g.start ∧ second ∣ g.stop) :
    (segments.map (segmentSeconds now)).sum * second =
      (segments.map (fun g => (overlap (now - windowDuration) now g.start g.stop : Int))).sum := by
  induction segments with
  | nil => rfl
  | cons g _ ih =>
    have here := each g mem_cons_self
    have one : segmentSeconds now g * second = overlap (now - windowDuration) now g.start g.stop := by
      unfold segmentSeconds
      exact_mod_cast Nat.div_mul_cancel (overlapWhole whole here.1 here.2)
    rw [map_cons,sum_cons,map_cons,sum_cons,add_mul,one,ih (fun g mem => each g (mem_cons_of_mem _ mem))]

theorem concurrentCharged (settled : Settled now m) (whole : second ∣ now) : concurrentSeconds now m * second = charged now m := by
  have sums := secondsSum whole settled.segment
  have positive : 0 ≤ (m.occupancy.map (segmentSeconds now)).sum := by
    refine sum_nonneg (fun x mem => ?_)
    obtain ⟨g,_,rfl⟩ := List.mem_map.mp mem
    exact Int.natCast_nonneg _
  unfold concurrentSeconds
  rw [settled.forced,zero_add,if_neg (not_lt.mpr positive)]
  exact sums

theorem unchargedNone (all : ∀ id l, m.leases.get? id = some l → l.lastCharged = now) : uncharged now m = 0 := by
  refine sumZero (fun id l found => ?_)
  rw [overlapAfter (le_of_eq (all id l found).symm)]
  rfl

theorem unchargedNonneg (later) : 0 ≤ uncharged later m :=
  sumNonneg (fun _ _ _ => Int.natCast_nonneg _)

end Seconds

end NovaPuraRouter.FairUse.Memory
