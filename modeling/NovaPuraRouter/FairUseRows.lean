import NovaPuraRouter.FairUse

/-! What the keys of an account have to do with each other: every lease has an expiry,
no segment reaches past what its lease is charged for, and no key outlives what matters
of its rows. -/
namespace NovaPuraRouter.FairUse
open List Option Table Expiring

structure Rows (now : Nat) (s : FairStore) : Prop where
  score : ∀ m score, s.window.rows.get? m = some score → score = m.stop ∧ m.stop ≤ now
  lease : ∀ id r, s.live.rows.get? id = some r → r.charged ≤ now ∧ r.heartbeat ≤ now ∧ r.charged ≤ r.heartbeat + staleMs
  apart : ∀ id r m score, s.live.rows.get? id = some r → s.window.rows.get? m = some score → m.lease = id → m.stop ≤ r.charged
  expiry : ∀ id, s.expiry.rows.get? id = (s.live.rows.get? id).map (fun r => r.heartbeat + staleMs)
  tidy : s.window.rows.rows = [] → s.window.deadline = none

structure Ends (s : FairStore) : Prop where
  same : ∀ id r, s.live.rows.get? id = some r → s.expiry.deadline = s.live.deadline
  live : ∀ d ∈ s.live.deadline, ∀ id r, s.live.rows.get? id = some r → r.heartbeat + keyTtlMs ≤ d
  window : ∀ d ∈ s.window.deadline, (∀ m score, s.window.rows.get? m = some score → m.stop + keyTtlMs ≤ d + staleMs) ∧
    ∀ id r, s.live.rows.get? id = some r → r.heartbeat + keyTtlMs ≤ d

/- What a lease has been charged for, and what it will be charged for by a later time if
nothing more is heard of it. -/
def counted (later : Nat) (s : FairStore) : Int :=
  s.window.rows.sum (fun m _ => overlap (later - windowMs) later m.start m.stop) +
    s.live.rows.sum (fun _ r => overlap (later - windowMs) later r.charged (r.heartbeat + staleMs))

section Later
variable {now later : Nat} {s : FairStore}

theorem rowsLater (rows : Rows now s) (after : now ≤ later) : Rows later s where
  score m score found := ⟨(rows.score m score found).1,le_trans (rows.score m score found).2 after⟩
  lease id r found := by
    obtain ⟨charged,heartbeat,stale⟩ := rows.lease id r found
    exact ⟨le_trans charged after,le_trans heartbeat after,stale⟩
  apart := rows.apart
  expiry := rows.expiry
  tidy := rows.tidy

theorem rowsOf {s'} (rows : Rows now s) (live : s'.live = s.live) (expiry : s'.expiry = s.expiry) (window : s'.window = s.window) :
    Rows now s' := by
  constructor <;> simp only [live,expiry,window]
  · exact rows.score
  · exact rows.lease
  · exact rows.apart
  · exact rows.expiry
  · exact rows.tidy

end Later

section Woken
variable {now : Nat} {s : FairStore}

theorem wokenLease (rows : Rows now s) (ends : Ends s) (id) :
    (woken now s).expiry.rows.get? id = ((woken now s).live.rows.get? id).map (fun r => r.heartbeat + staleMs) := by
  have both := rows.expiry id
  simp only [woken]
  cases found : s.live.rows.get? id with
  | none =>
    rw [found] at both
    have noLease : (s.live.wake now).rows.get? id = none := by
      refine eq_none_iff_forall_ne_some.mpr (fun r got => ?_)
      rw [wakeGet got] at found
      cases found
    have noExpiry : (s.expiry.wake now).rows.get? id = none := by
      refine eq_none_iff_forall_ne_some.mpr (fun r got => ?_)
      rw [wakeGet got] at both
      cases both
    rw [noLease,noExpiry]
    rfl
  | some r =>
    have same := ends.same id r found
    by_cases late : (s.live.deadline.any (fun d => d < now)) = true
    · simp only [wake,same,late,if_true,blankGet,map_none]
    · simp only [wake,same,late,if_false,Bool.false_eq_true]
      exact both

theorem wokenRows (rows : Rows now s) (ends : Ends s) : Rows now (woken now s) where
  score m score found := rows.score m score (wakeGet found)
  lease id r found := rows.lease id r (wakeGet found)
  apart id r m score lease segment := rows.apart id r m score (wakeGet lease) (wakeGet segment)
  expiry := wokenLease rows ends
  tidy none := by
    obtain ⟨_,_,_,gone⟩ | same := wakeCases now s.window
    · exact congrArg deadline gone
    · simp only [woken,same] at none ⊢
      exact rows.tidy none

theorem wokenEnds (ends : Ends s) : Ends (woken now s) where
  same id r found := by
    have before := wakeGet found
    have same := ends.same id r before
    simp only [woken,wake,same]
    split
    · rfl
    · exact same
  live d here id r found := ends.live d (wakeDeadline here) id r (wakeGet found)
  window d here := by
    obtain ⟨segments,leases⟩ := ends.window d (wakeDeadline here)
    exact ⟨fun m score found => segments m score (wakeGet found),fun id r found => leases id r (wakeGet found)⟩

theorem wokenCounted (ends : Ends s) {later} (after : now ≤ later) : counted later (woken now s) = counted later s := by
  unfold counted
  congr 1
  · refine sumWake (fun d here late m score found => ?_)
    have past := (ends.window d here).1 m score found
    rw [overlapBefore]
    · rfl
    · simp only [keyTtlMs,staleMs,windowMs] at past ⊢
      omega
  · refine sumWake (fun d here late id r found => ?_)
    have past := ends.live d here id r found
    rw [overlapBefore]
    · rfl
    · simp only [keyTtlMs,staleMs,windowMs] at past ⊢
      omega

end Woken

section Charge
variable {now stop : Nat} {s : FairStore} {lease : String}

structure Chargeable (now : Nat) (s : FairStore) (lease : String) (stop : Nat) : Prop where
  passed : stop ≤ now
  lived : ∀ r, s.live.rows.get? lease = some r → stop ≤ r.heartbeat + staleMs

/- A charge moves the lease's mark on and notes the time between, unless the window is past it. -/
theorem chargeLeaseCases (now s lease stop) : s.live.rows.get? lease = none ∧ chargeLease now s lease stop = s ∨
    ∃ r window, s.live.rows.get? lease = some r ∧ chargeLease now s lease stop =
        { s with live := s.live.write (·.put lease { r with charged := max r.charged stop }), window } ∧
      (window = s.window ∧ (stop ≤ r.charged ∨ r.charged < stop ∧ stop ≤ now - windowMs) ∨
        r.charged < stop ∧ window = s.window.write (·.put ⟨max r.charged (now - windowMs),stop,lease⟩ stop)) := by
  unfold chargeLease
  split
  · exact .inl ⟨by assumption,rfl⟩
  rename_i r found
  refine .inr ⟨r,?_⟩
  split
  · rename_i ahead
    simp only [max_eq_right (le_of_lt ahead),chargeInterval,if_neg (not_le.mpr ahead)]
    split
    · rename_i past
      exact ⟨s.window,found,rfl,.inl ⟨rfl,.inr ⟨ahead,past⟩⟩⟩
    · exact ⟨_,found,rfl,.inr ⟨ahead,rfl⟩⟩
  · rename_i behind
    simp only [max_eq_left (not_lt.mp behind)]
    exact ⟨s.window,found,rfl,.inl ⟨rfl,.inl (not_lt.mp behind)⟩⟩

variable {score later : Nat}

theorem chargeLeaseGet (id) : (chargeLease now s lease stop).live.rows.get? id =
    if id = lease then (s.live.rows.get? id).map (fun r => { r with charged := max r.charged stop }) else s.live.rows.get? id := by
  obtain ⟨absent,same⟩ | ⟨r,_,found,same,_⟩ := chargeLeaseCases now s lease stop
  · rw [same]
    split
    · rename_i here
      rw [here,absent]
      rfl
    · rfl
  · simp only [same,writeRows,getPut]
    split
    · rename_i here
      rw [here,found]
      rfl
    · rfl

theorem chargeLeaseExpiry : (chargeLease now s lease stop).expiry = s.expiry := by
  obtain ⟨_,same⟩ | ⟨_,_,_,same,_⟩ := chargeLeaseCases now s lease stop <;> rw [same]

theorem chargeLeaseSegment {m} (found : (chargeLease now s lease stop).window.rows.get? m = some score) :
    m.lease = lease ∧ m.stop = stop ∧ score = stop ∨ s.window.rows.get? m = some score := by
  obtain ⟨_,same⟩ | ⟨_,_,_,same,⟨rfl,_⟩ | ⟨_,rfl⟩⟩ := chargeLeaseCases now s lease stop
  · exact .inr (same ▸ found)
  · rw [same] at found
    exact .inr found
  · simp only [same,writeRows,getPut] at found
    split at found
    · rename_i here
      cases found
      rw [here]
      exact .inl ⟨rfl,rfl,rfl⟩
    · exact .inr found

structure Upkeep (now : Nat) (s s' : FairStore) : Prop where
  rows : Rows now s'
  ends : Ends s'
  counted : ∀ later, now ≤ later → counted later s' = counted later s

theorem Upkeep.trans {s' s''} (first : Upkeep now s s') (second : Upkeep now s' s'') : Upkeep now s s'' :=
  ⟨second.rows,second.ends,fun later after => (second.counted later after).trans (first.counted later after)⟩

theorem chargeLeaseRows (rows : Rows now s) (chargeable : Chargeable now s lease stop) : Rows now (chargeLease now s lease stop) where
  score m score found := by
    rcases chargeLeaseSegment found with ⟨_,stopped,scored⟩ | old
    · rw [stopped,scored]
      exact ⟨rfl,chargeable.passed⟩
    · exact rows.score m score old
  lease id r found := by
    rw [chargeLeaseGet] at found
    split at found
    · rename_i here
      subst here
      obtain ⟨old,row,rfl⟩ := map_eq_some_iff.mp found
      obtain ⟨charged,heartbeat,stale⟩ := rows.lease id old row
      exact ⟨max_le charged chargeable.passed,heartbeat,max_le stale (chargeable.lived old row)⟩
    · exact rows.lease id r found
  apart id r m score leased segment same := by
    rw [chargeLeaseGet] at leased
    rcases chargeLeaseSegment segment with ⟨owner,stopped,_⟩ | old
    · rw [if_pos (same.symm.trans owner)] at leased
      obtain ⟨before,_,rfl⟩ := map_eq_some_iff.mp leased
      rw [stopped]
      exact le_max_right _ _
    · split at leased
      · obtain ⟨before,row,rfl⟩ := map_eq_some_iff.mp leased
        exact le_trans (rows.apart id before m score row old same) (le_max_left _ _)
      · exact rows.apart id r m score leased old same
  expiry id := by
    rw [chargeLeaseExpiry,chargeLeaseGet,rows.expiry]
    split
    · rw [Option.map_map]
      rfl
    · rfl
  tidy none := by
    obtain ⟨_,same⟩ | ⟨_,_,_,same,⟨rfl,_⟩ | ⟨_,rfl⟩⟩ := chargeLeaseCases now s lease stop <;> rw [same] at none ⊢
    · exact rows.tidy none
    · exact rows.tidy none
    · exact if_pos none

theorem chargeLeaseEnds (ends : Ends s) (chargeable : Chargeable now s lease stop) : Ends (chargeLease now s lease stop) := by
  obtain ⟨_,same⟩ | ⟨r,window,found,same,noted⟩ := chargeLeaseCases now s lease stop <;> rw [same]
  · exact ends
  have before : ∀ {id r'}, (s.live.rows.put lease { r with charged := max r.charged stop }).get? id = some r' →
      ∃ old, s.live.rows.get? id = some old ∧ old.heartbeat = r'.heartbeat := by
    intro id r' got
    rw [getPut] at got
    split at got
    · rename_i here
      cases got
      exact ⟨r,here ▸ found,rfl⟩
    · exact ⟨r',got,rfl⟩
  refine ⟨?_,?_,?_⟩
  · intro id _ got
    obtain ⟨old,row,_⟩ := before got
    exact (ends.same id old row).trans (writeKept got).symm
  · intro d here id _ got
    obtain ⟨old,row,beat⟩ := before got
    exact beat ▸ ends.live d (writeDeadline here) id old row
  · intro d here
    have limit : d ∈ s.window.deadline := by
      obtain ⟨rfl,_⟩ | ⟨_,rfl⟩ := noted
      · exact here
      · exact writeDeadline here
    obtain ⟨segments,leases⟩ := ends.window d limit
    constructor
    · intro m score got
      rcases @chargeLeaseSegment now stop s lease score m (same ▸ got) with ⟨_,stopped,_⟩ | old
      · have beat := leases lease r found
        have lived := chargeable.lived r found
        omega
      · exact segments m score old
    · intro id _ got
      obtain ⟨old,row,beat⟩ := before got
      exact beat ▸ leases id old row

theorem chargeLeaseCounted (rows : Rows now s) (chargeable : Chargeable now s lease stop) (after : now ≤ later) :
    counted later (chargeLease now s lease stop) = counted later s := by
  obtain ⟨_,same⟩ | ⟨r,window,found,same,noted⟩ := chargeLeaseCases now s lease stop <;> rw [same]
  have low : now - windowMs ≤ later - windowMs := Nat.sub_le_sub_right after _
  have parts := @overlapSplit (later - windowMs) later r.charged (r.heartbeat + staleMs) (max r.charged stop) (le_max_left _ _)
    (max_le (rows.lease lease r found).2.2 (chargeable.lived r found))
  have sum : window.rows.sum (fun m _ => (overlap (later - windowMs) later m.start m.stop : Int)) =
      s.window.rows.sum (fun m _ => (overlap (later - windowMs) later m.start m.stop : Int)) +
        overlap (later - windowMs) later r.charged (max r.charged stop) := by
    obtain ⟨rfl,behind | ⟨ahead,past⟩⟩ | ⟨ahead,rfl⟩ := noted
    · rw [max_eq_left behind,overlapEmpty (le_refl _)]
      exact (add_zero _).symm
    · rw [max_eq_right (le_of_lt ahead),overlapBefore (le_trans past low)]
      exact (add_zero _).symm
    · have absent : s.window.rows.get? ⟨max r.charged (now - windowMs),stop,lease⟩ = none := by
        refine eq_none_iff_forall_ne_some.mpr (fun score got => ?_)
        have old := rows.apart lease r _ score found got rfl
        exact lt_irrefl _ (lt_of_lt_of_le ahead old)
      simp only [writeRows]
      rw [sumPut absent,overlapClip low,max_eq_right (le_of_lt ahead)]
  simp only [counted,writeRows]
  rw [sum,sumPutOver found]
  dsimp only
  omega

theorem chargeLeaseUpkeep (rows : Rows now s) (ends : Ends s) (chargeable : Chargeable now s lease stop) :
    Upkeep now s (chargeLease now s lease stop) :=
  ⟨chargeLeaseRows rows chargeable,chargeLeaseEnds ends chargeable,fun _ after => chargeLeaseCounted rows chargeable after⟩

end Charge

section Remove
variable {now : Nat} {s : FairStore} {lease : String}

theorem removeLeaseGet (id) : (removeLease s lease).live.rows.get? id = if id = lease then none else s.live.rows.get? id :=
  getErase _ _ _

theorem removeLeaseKept {id r} (found : (removeLease s lease).live.rows.get? id = some r) : s.live.rows.get? id = some r := by
  rw [removeLeaseGet] at found
  split at found
  · cases found
  · exact found

theorem removeLeaseRows (rows : Rows now s) : Rows now (removeLease s lease) where
  score := rows.score
  lease id r found := rows.lease id r (removeLeaseKept found)
  apart id r m score leased := rows.apart id r m score (removeLeaseKept leased)
  expiry id := by
    have other := getErase s.expiry.rows lease id
    have same := @removeLeaseGet s lease id
    simp only [removeLease,writeRows] at same ⊢
    rw [other,same,rows.expiry]
    split <;> rfl
  tidy := rows.tidy

theorem removeLeaseEnds (rows : Rows now s) (ends : Ends s) : Ends (removeLease s lease) where
  same id r found := by
    have beat := (@removeLeaseRows now s lease rows).expiry id
    rw [found,map_some] at beat
    have lives : (removeLease s lease).live.deadline = s.live.deadline := writeKept found
    have expires : (removeLease s lease).expiry.deadline = s.expiry.deadline := writeKept beat
    rw [lives,expires]
    exact ends.same id r (removeLeaseKept found)
  live d here id r found := ends.live d (writeDeadline here) id r (removeLeaseKept found)
  window d here := ⟨(ends.window d here).1,fun id r found => (ends.window d here).2 id r (removeLeaseKept found)⟩

theorem removeLeaseCounted {r} (found : s.live.rows.get? lease = some r) (later) :
    counted later (removeLease s lease) = counted later s - overlap (later - windowMs) later r.charged (r.heartbeat + staleMs) := by
  simp only [counted,removeLease,writeRows]
  rw [sumErase found]
  omega

end Remove

section Prune
variable {now : Nat} {s : FairStore}

theorem pruneStaleLeaseGet (lease id) :
    (pruneStaleLease now s lease).live.rows.get? id = if id = lease then none else s.live.rows.get? id := by
  unfold pruneStaleLease
  rw [removeLeaseGet]
  split
  · rfl
  rename_i other
  split
  · rw [chargeLeaseGet,if_neg other]
  · rfl

section
variable (rows : Rows now s) (ends : Ends s)
include rows ends

theorem pruneStaleLeaseUpkeep {lease}
    (stale : ∀ r, s.live.rows.get? lease = some r → r.heartbeat + staleMs ≤ now) : Upkeep now s (pruneStaleLease now s lease) := by
  unfold pruneStaleLease
  cases found : s.live.rows.get? lease with
  | none =>
    refine ⟨removeLeaseRows rows,removeLeaseEnds rows ends,fun later _ => ?_⟩
    simp only [counted,removeLease,writeRows,eraseAbsent found]
  | some r =>
    have past := stale r found
    have chargeable : Chargeable now s lease (min now (r.heartbeat + staleMs)) := by
      refine ⟨min_le_left _ _,fun r' found' => ?_⟩
      cases found.symm.trans found'
      exact min_le_right _ _
    have charged := chargeLeaseUpkeep rows ends chargeable
    have row := @chargeLeaseGet now (min now (r.heartbeat + staleMs)) s lease lease
    rw [if_pos rfl,found,map_some] at row
    refine charged.trans ⟨removeLeaseRows charged.rows,removeLeaseEnds charged.rows charged.ends,fun later _ => ?_⟩
    rw [removeLeaseCounted row,overlapEmpty]
    · exact sub_zero _
    · dsimp only
      omega

theorem Upkeep.refl : Upkeep now s s := ⟨rows,ends,fun _ _ => rfl⟩

theorem pruneStaleLeasesUpkeep : Upkeep now s (pruneStaleLeases now s) ∧
    ∀ id, (pruneStaleLeases now s).live.rows.get? id = (s.live.rows.get? id).filter (fun r => now < r.heartbeat + staleMs) := by
  have due : ∀ id, id ∈ (s.expiry.rows.select (fun _ score => score ≤ now)).map Prod.fst ↔
      ∃ r, s.live.rows.get? id = some r ∧ r.heartbeat + staleMs ≤ now := by
    intro id
    simp only [List.mem_map,Prod.exists,exists_and_right,exists_eq_right,memSelect,decide_eq_true_eq,rows.expiry,
      map_eq_some_iff]
    constructor
    · rintro ⟨score,⟨r,found,rfl⟩,past⟩
      exact ⟨r,found,past⟩
    · rintro ⟨r,found,past⟩
      exact ⟨_,⟨r,found,rfl⟩,past⟩
  have twice : ∀ a : Option LeaseRow, (a.filter (fun r => now < r.heartbeat + staleMs)).filter (fun r => now < r.heartbeat + staleMs) =
      a.filter (fun r => now < r.heartbeat + staleMs) := by
    intro a
    simp only [Option.filter_filter,Bool.and_self]
  unfold pruneStaleLeases
  refine And.imp_left And.left (runChanges (fun s' => Upkeep now s s' ∧ ∀ id r, s'.live.rows.get? id = some r → s.live.rows.get? id = some r)
    (fun s id => s.live.rows.get? id) twice ?_ ⟨.refl rows ends,fun _ _ found => found⟩ ?_)
  · rintro s' ⟨upkeep,from_⟩ lease mem
    have stale : ∀ r, s'.live.rows.get? lease = some r → r.heartbeat + staleMs ≤ now := by
      intro r found
      obtain ⟨_,found',past⟩ := (due lease).mp mem
      cases (from_ lease r found).symm.trans found'
      exact past
    refine ⟨⟨upkeep.trans (pruneStaleLeaseUpkeep upkeep.rows upkeep.ends stale),fun id r found => ?_⟩,fun id => ?_⟩
    · rw [pruneStaleLeaseGet] at found
      split at found
      · cases found
      · exact from_ id r found
    · rw [pruneStaleLeaseGet]
      split
      · rename_i here
        rw [here]
        cases found : s'.live.rows.get? lease with
        | none => rfl
        | some r => simp [Option.filter,stale r found]
      · rfl
  · intro id fresh
    cases found : s.live.rows.get? id with
    | none => rfl
    | some r =>
      have lives : now < r.heartbeat + staleMs := not_le.mp (fun past => fresh ((due id).mpr ⟨r,found,past⟩))
      simp [Option.filter,lives]

theorem chargeLiveUpkeep (fresh : ∀ id r, s.live.rows.get? id = some r → now ≤ r.heartbeat + staleMs) :
    Upkeep now s (chargeLiveLeases now s) ∧
      ∀ id, (chargeLiveLeases now s).live.rows.get? id = (s.live.rows.get? id).map (fun r => { r with charged := now }) := by
  have twice : ∀ a : Option LeaseRow, (a.map (fun r => { r with charged := now })).map (fun r => { r with charged := now }) =
      a.map (fun r => { r with charged := now }) := fun _ => Option.map_map _ _ _
  unfold chargeLiveLeases
  refine And.imp_left And.left (runChanges (fun s' => Upkeep now s s' ∧ ∀ id r, s'.live.rows.get? id = some r → now ≤ r.heartbeat + staleMs)
    (fun s id => s.live.rows.get? id) twice ?_ ⟨.refl rows ends,fresh⟩ (fun id absent => by rw [absentKeys.mp absent]; rfl))
  rintro s' ⟨upkeep,fresh⟩ lease _
  have row : ∀ id, (chargeLease now s' lease now).live.rows.get? id =
      if id = lease then (s'.live.rows.get? id).map (fun r => { r with charged := now }) else s'.live.rows.get? id := by
    intro id
    rw [chargeLeaseGet]
    split
    · refine Option.map_congr (fun r found => ?_)
      rw [max_eq_right (upkeep.rows.lease id r found).1]
    · rfl
  refine ⟨⟨upkeep.trans (chargeLeaseUpkeep upkeep.rows upkeep.ends ⟨le_refl now,fresh lease⟩),fun id r found => ?_⟩,row⟩
  rw [row] at found
  split at found
  · obtain ⟨old,before,rfl⟩ := map_eq_some_iff.mp found
    exact fresh id old before
  · exact fresh id r found

theorem pruneWindowUpkeep : Upkeep now s (pruneWindow now s) := by
  have kept : ∀ {m score}, (pruneWindow now s).window.rows.get? m = some score → s.window.rows.get? m = some score := by
    intro m score found
    simp only [pruneWindow,writeRows,getRetain] at found
    exact (filter_eq_some_iff.mp found).1
  refine ⟨⟨?_,rows.lease,?_,rows.expiry,fun nothing => if_pos nothing⟩,⟨ends.same,ends.live,?_⟩,?_⟩
  · exact fun m score found => rows.score m score (kept found)
  · exact fun id r m score leased segment => rows.apart id r m score leased (kept segment)
  · intro d here
    obtain ⟨segments,leases⟩ := ends.window d (writeDeadline here)
    exact ⟨fun m score found => segments m score (kept found),leases⟩
  · intro _ _
    simp only [counted,pruneWindow,writeRows]
    rw [sumRetain]
    intro m score found dropped
    have stopped := (rows.score m score found).1
    simp only [decide_eq_false_iff_not] at dropped
    rw [overlapBefore]
    · rfl
    · omega

theorem preparedUpkeep : Upkeep now s (prepared now s) ∧
    ∀ id, (prepared now s).live.rows.get? id =
      ((s.live.rows.get? id).filter (fun r => now < r.heartbeat + staleMs)).map (fun r => { r with charged := now }) := by
  have awake : Upkeep now s (woken now s) := ⟨wokenRows rows ends,wokenEnds ends,fun _ after => wokenCounted ends after⟩
  obtain ⟨pruned,left⟩ := pruneStaleLeasesUpkeep awake.rows awake.ends
  have fresh : ∀ id r, (pruneStaleLeases now (woken now s)).live.rows.get? id = some r → now ≤ r.heartbeat + staleMs := by
    intro id r found
    rw [left] at found
    have alive := (filter_eq_some_iff.mp found).2
    exact le_of_lt (of_decide_eq_true alive)
  obtain ⟨charged,every⟩ := chargeLiveUpkeep pruned.rows pruned.ends fresh
  have swept := pruneWindowUpkeep charged.rows charged.ends
  refine ⟨awake.trans (pruned.trans (charged.trans swept)),fun id => (every id).trans ?_⟩
  have wake : ((woken now s).live.rows.get? id).filter (fun r => now < r.heartbeat + staleMs) =
      (s.live.rows.get? id).filter (fun r => now < r.heartbeat + staleMs) := by
    obtain ⟨d,here,_,gone⟩ | same := wakeCases now s.live
    · simp only [woken,gone,blankGet]
      cases found : s.live.rows.get? id with
      | none => rfl
      | some r =>
        have past := ends.live d here id r found
        have stale : r.heartbeat + staleMs ≤ now := by
          simp only [keyTtlMs,staleMs] at past ⊢
          omega
        simp [Option.filter,stale]
    · simp only [woken,same]
  rw [left,wake]

end

structure SameCounts (s s' : FairStore) : Prop where
  total : s'.total = s.total
  success : s'.success = s.success
  penalty : s'.penalty = s.penalty
  events : s'.events = s.events

theorem chargeLeaseCounts (lease stop) : SameCounts s (chargeLease now s lease stop) := by
  obtain ⟨_,same⟩ | ⟨_,_,_,same,_⟩ := chargeLeaseCases now s lease stop <;> rw [same] <;> exact ⟨rfl,rfl,rfl,rfl⟩

theorem pruneStaleLeaseCounts (lease) : SameCounts s (pruneStaleLease now s lease) := by
  unfold pruneStaleLease
  split
  · obtain ⟨total,success,penalty,events⟩ := @chargeLeaseCounts now s lease (min now (LeaseRow.heartbeat _ + staleMs))
    exact ⟨total,success,penalty,events⟩
  · exact ⟨rfl,rfl,rfl,rfl⟩

theorem preparedCounts : SameCounts (pruneWindow now (woken now s)) (prepared now s) := by
  have trans : ∀ {a b c}, SameCounts a b → SameCounts b c → SameCounts a c := fun first second =>
    ⟨second.total.trans first.total,second.success.trans first.success,second.penalty.trans first.penalty,
      second.events.trans first.events⟩
  have pruned : SameCounts (woken now s) (pruneStaleLeases now (woken now s)) :=
    @runKeeps _ _ _ (SameCounts (woken now s)) (fun _ lease same => trans same (pruneStaleLeaseCounts lease)) _ _ ⟨rfl,rfl,rfl,rfl⟩
  have charged : SameCounts (woken now s) (chargeLiveLeases now (pruneStaleLeases now (woken now s))) :=
    @runKeeps _ _ _ (SameCounts (woken now s)) (fun _ lease same => trans same (chargeLeaseCounts lease now)) _ _ pruned
  constructor <;> simp only [prepared,pruneWindow,charged.total,charged.success,charged.penalty,charged.events]

end Prune

end NovaPuraRouter.FairUse
