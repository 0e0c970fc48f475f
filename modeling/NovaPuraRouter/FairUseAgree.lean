import NovaPuraRouter.FairUseMatch

/-! Whole runs of the script and of the limiter in memory. In memory a heartbeat or a
release charges its own lease only, an id that comes back is counted twice, and strikes that
are too old are dropped at once. -/
namespace NovaPuraRouter.FairUse.Memory
open Option Table

structure Matched (now : Nat) (p : FairStore) (q : MemoryAccount) : Prop where
  held : Held now p q
  counts : Counts now p q
  struck : Struck now p q
  ends : StrikeEnds p

structure Ready (now : Nat) (p : FairStore) (q : MemoryAccount) : Prop where
  matched : Matched now p q
  level : Level p q
  open_ : Charged now p
  whole : second ∣ now * nano
  fresh : ∀ id l, q.leases.get? id = some l → now * nano ≤ l.lastHeartbeat + staleLeaseRecovery

def AllCharged (now : Nat) (q : MemoryAccount) : Prop := ∀ id l, q.leases.get? id = some l → l.lastCharged = now

section Ready
variable {clock now : Nat} {p s : FairStore} {q q' : MemoryAccount}

theorem readyPrepared (matched : Matched clock p q) (after : clock ≤ now) (whole : second ∣ now * nano) :
    Ready now (prepared now p) (prune (now * nano) q) := by
  have pruned := heldPruned matched.held after whole
  obtain ⟨counts,level⟩ := countsPrepared matched.counts after pruned
  obtain ⟨struck,ends⟩ := struckPrepared matched.struck matched.ends after pruned
  refine ⟨⟨heldPrepared matched.held after whole,counts,struck,ends⟩,level,?_,whole,fun id l found => ?_⟩
  · exact preparedAll (rowsLater matched.held.rows after) matched.held.ends
  · rw [pruned.leases] at found
    exact le_of_lt (of_decide_eq_true (filter_eq_some_iff.mp found).2)

section
variable (ready : Ready now p q)
include ready

theorem readyUpkeep (upkeep : Upkeep (now * nano) q q')
    (beats : ∀ id, (q'.leases.get? id).map MemoryLease.lastHeartbeat = (q.leases.get? id).map MemoryLease.lastHeartbeat) :
    Ready now p q' := by
  obtain ⟨⟨held,counts,struck,ends⟩,level,open_,whole,fresh⟩ := ready
  obtain ⟨counts',level'⟩ := countsSame counts level upkeep.same
  have struck' := struckOf struck rfl rfl upkeep.same.exhaustionEvents upkeep.same.degradeUntil
  refine ⟨⟨heldUpkeep held upkeep beats,counts',struck',ends⟩,level',open_,whole,fun id l found => ?_⟩
  have beat := beats id
  rw [found,map_some] at beat
  obtain ⟨old,row,same⟩ := map_eq_some_iff.mp beat.symm
  rw [← same]
  exact fresh id old row

theorem chargeAllReady : Ready now p (chargeAll (now * nano) q) ∧
    AllCharged (now * nano) (chargeAll (now * nano) q) ∧ Upkeep (now * nano) q (chargeAll (now * nano) q) := by
  obtain ⟨upkeep,every⟩ := chargeAllUpkeep ready.matched.held.settled ready.whole ready.fresh
  refine ⟨readyUpkeep ready upkeep (fun id => ?_),fun id l found => ?_,upkeep⟩
  · rw [every,Option.map_map]
    rfl
  · rw [every] at found
    obtain ⟨_,_,rfl⟩ := map_eq_some_iff.mp found
    rfl

theorem chargeLeaseReady (lease) : Ready now p (chargeLease q lease (now * nano)) ∧
    (∀ l, (chargeLease q lease (now * nano)).leases.get? lease = some l → l.lastCharged = now * nano) ∧
    Upkeep (now * nano) q (chargeLease q lease (now * nano)) := by
  have settled := ready.matched.held.settled
  have upkeep := chargeLeaseUpkeep settled (le_refl _) ready.whole (ready.fresh lease)
  refine ⟨readyUpkeep ready upkeep (fun id => ?_),fun l found => ?_,upkeep⟩
  · rw [chargeLeaseGet]
    split
    · rw [Option.map_map]
      rfl
    · rfl
  · rw [chargeLeaseGet,if_pos rfl] at found
    obtain ⟨old,row,rfl⟩ := map_eq_some_iff.mp found
    exact max_eq_right (settled.lease lease old row).1

theorem readyMoved {m : Move} (paid : Paid (now * nano) q m) (unused : Unused p m)
    (effect : Effect now p m s) (same : SameLeases (applied (now * nano) q m) q') :
    Held now s q' ∧ Counts now s q' ∧ Level s q' ∧ Charged now s := by
  have held := heldMoved ready.matched.held ready.open_ ready.whole paid effect
  obtain ⟨counts,level⟩ := countsMoved ready.matched.counts ready.level ready.open_ unused effect
  obtain ⟨leases,occupancy,forced,admitted,successful⟩ := same
  refine ⟨⟨held.rows,held.ends,?_,?_,?_⟩,⟨counts.total,counts.success,?_,?_⟩,⟨?_,?_⟩,effectCharged ready.open_ effect⟩
  · obtain ⟨_,_⟩ := held.settled
    constructor <;> simp only [leases,occupancy,forced] <;> assumption
  · rw [leases]
    exact held.leases
  · simp only [charged,uncharged,leases,occupancy]
    exact held.occupancy
  · rw [admitted]
    exact counts.admitted
  · rw [successful]
    exact counts.successful
  · rw [admitted]
    exact level.admitted
  · rw [successful]
    exact level.successful

end

theorem appliedAll {m : Move} (all : AllCharged now q) (same : SameLeases (applied now q m) q') : AllCharged now q' := by
  intro id l found
  rw [same.leases] at found
  cases m with
  | none => exact all id l found
  | admitted =>
    simp only [applied,admitLease,getPut] at found
    split at found
    · cases found
      rfl
    · exact all id l found
  | renewed =>
    rcases modifyCases found with ⟨old,row,_,rfl⟩ | ⟨_,old⟩
    · exact all _ old row
    · exact all id l old
  | ended j completed =>
    rw [(appliedEnded j completed).1,getErase] at found
    split at found
    · cases found
    · exact all id l found

end Ready

def scriptCounters (now : Nat) (s : FairStore) : Counters :=
  ⟨s.live.rows.size,FairUse.concurrentSeconds exactSeconds now s,s.total.rows.size,s.success.rows.size,effectiveLimit now s,s.events.rows.size⟩

section Counters
variable {now : Nat} {s : FairStore} {q : MemoryAccount}

theorem secondsOf {a b : Int} (same : a * second = b * nano) : b / 1000 = a := by
  simp only [second,nano] at same
  omega

theorem concurrentAgree (held : Held now s q) (open_ : Charged now s) (whole : second ∣ now * nano)
    (all : AllCharged (now * nano) q) : FairUse.concurrentSeconds exactSeconds now s = concurrentSeconds (now * nano) q := by
  have script := concurrentCounted held.rows open_
  have memory := concurrentCharged held.settled whole
  have total := held.occupancy now (le_refl now)
  rw [unchargedNone all,add_zero,← memory,← script] at total
  exact secondsOf total

theorem countersAgree (held : Held now s q) (level : Level s q) (struck : Struck now s q) (open_ : Charged now s)
    (whole : second ∣ now * nano) (all : AllCharged (now * nano) q) (nothing : NoOldStrikes now s) :
    scriptCounters now s = (snapshot (now * nano) q).counters := by
  simp only [scriptCounters,Snapshot.counters,snapshot]
  rw [heldSize held,concurrentAgree held open_ whole all,level.admitted,level.successful,struckEffective struck,struckSize struck nothing]

end Counters

section Outcome
variable {now : Nat} {p p' : FairStore} {q q' : MemoryAccount}

section
variable {m : Move} (ready : Ready now p q) (paid : Paid (now * nano) q m) (unused : Unused p m)
  (effect : Effect now p m (expireAll now p')) (same : SameLeases (applied (now * nano) q m) q') (struck : Struck now p' q')
include ready paid unused effect same struck

theorem matchedAnswered :
    Matched now (expireAll now p') q' ∧ Level (expireAll now p') q' ∧ Charged now (expireAll now p') := by
  obtain ⟨held,counts,level,open_⟩ := readyMoved ready paid unused effect same
  obtain ⟨expired,ends⟩ := struckExpired struck
  exact ⟨⟨held,counts,expired,ends⟩,level,open_⟩

theorem countersAnswered (all : AllCharged (now * nano) q') (nothing : NoOldStrikes now p') :
    scriptCounters now (expireAll now p') = (snapshot (now * nano) q').counters ∧ Matched now (expireAll now p') q' := by
  obtain ⟨matched,level,open_⟩ := matchedAnswered ready paid unused effect same struck
  refine ⟨countersAgree matched.held level matched.struck open_ ready.whole all ?_,matched⟩
  intro key seen found
  simp only [expireAll,Expiring.touchRows] at found
  exact nothing key seen found

end

theorem riskSame (risk) : SameLeases q (recordRisk now q risk).2 ∧
    (recordRisk now q risk).2.exhaustionEvents = q.exhaustionEvents ∧ (recordRisk now q risk).2.degradeUntil = q.degradeUntil :=
  ⟨⟨rfl,rfl,rfl,rfl,rfl⟩,rfl,rfl⟩

theorem SameLeases.trans {q'' : MemoryAccount} (first : SameLeases q q') (second : SameLeases q' q'') : SameLeases q q'' :=
  ⟨second.leases.trans first.leases,second.occupancy.trans first.occupancy,second.forced.trans first.forced,
    second.admitted.trans first.admitted,second.successful.trans first.successful⟩

theorem spentAgree (ready : Ready now p q) (all : AllCharged (now * nano) q) :
    concurrentSecondsLimit ≤ FairUse.concurrentSeconds exactSeconds now p ↔ concurrentSecondsBudget ≤ concurrentSeconds (now * nano) q := by
  rw [← concurrentAgree ready.matched.held ready.open_ ready.whole all]
  rfl

theorem exhaustedAgree (ready : Ready now p q) (all : AllCharged (now * nano) q) :
    FairUse.exhausted exactSeconds now p = exhausted (now * nano) q := by
  unfold FairUse.exhausted exhausted
  rw [ready.level.admitted,ready.level.successful]
  simp only [spentAgree ready all]
  rfl

structure Outcome (now : Nat) (op : Operation) (script : Reply × FairStore) (memory : Answer × MemoryAccount) : Prop where
  answer : scriptAnswer op script.1 = memory.1
  matched : Matched now script.2 memory.2

variable {id : String}

theorem acquireOutcome {risk : RiskSignals} (ready : Ready now p q) (all : AllCharged (now * nano) q)
    (nothing : NoOldStrikes now p) (unused : p.live.rows.get? id = .none → p.total.rows.get? id = .none) :
    Outcome now (.acquire id risk) (FairUse.acquire exactSeconds now p id risk)
      (.acquired (admission (now * nano) q id risk).1.allowed (admission (now * nano) q id risk).1.reason
        (admission (now * nano) q id risk).1.snapshot.counters,(admission (now * nano) q id risk).2) := by
  obtain ⟨same,penalty,events⟩ := @recordRiskSame now p risk
  obtain ⟨same',events',degrade'⟩ := @riskSame (now * nano) q risk
  have struck : Struck now (FairUse.recordRisk now p risk).2 (recordRisk (now * nano) q risk).2 :=
    struckOf ready.matched.struck events penalty events' degrade'
  have none' : NoOldStrikes now (FairUse.recordRisk now p risk).2 := by
    intro key seen found
    exact nothing key seen found
  have refused : ∀ {p' q'} (allowed : Bool) (reason : Reason) (notify marked : Bool), FairUse.SameLeases p p' → SameLeases q q' →
      Struck now p' q' → NoOldStrikes now p' → Outcome now (.acquire id risk) (answered exactSeconds now p' allowed reason notify marked)
        (.acquired allowed reason (snapshot (now * nano) q').counters,q') := by
    intro p' q' allowed reason _ _ same same' struck nothing
    have kept : SameLeases (applied (now * nano) q .none) q' := same'
    obtain ⟨counters,matched⟩ := @countersAnswered now p p' q q' .none ready trivial trivial (.refused same) kept struck
      (appliedAll all kept) nothing
    exact ⟨congrArg (Answer.acquired allowed reason) counters,matched⟩
  have limit : effectiveLimit now p ≤ p.live.rows.size ↔ effectiveConcurrency (now * nano) q ≤ q.leases.size := by
    rw [struckEffective ready.matched.struck,heldSize ready.matched.held]
  have limit' : effectiveLimit now (FairUse.recordRisk now p risk).2 ≤ p.live.rows.size ↔
      effectiveConcurrency (now * nano) q ≤ q.leases.size := limit
  have left : FairUse.exhausted exactSeconds now (FairUse.recordRisk now p risk).2 =
    exhausted (now * nano) (recordRisk (now * nano) q risk).2 := by
    rw [exhaustedSame same,exhaustedAgree ready all]
    rfl
  have entered : SameLeases (applied (now * nano) q (.admitted id)) (admitLease (now * nano) (recordRisk (now * nano) q risk).2 id) :=
    ⟨rfl,rfl,rfl,rfl,rfl⟩
  have size : effectiveConcurrency (now * nano) (recordRisk (now * nano) q risk).2 = effectiveConcurrency (now * nano) q := rfl
  unfold FairUse.acquire admission
  dsimp only
  -- From here on only these facts about the two states after the risk was recorded are used.
  generalize FairUse.recordRisk now p risk = r, recordRisk (now * nano) q risk = r' at *
  rw [same.live,same'.leases,size]
  by_cases free : p.live.rows.get? id = .none
  · simp only [free,(heldNone ready.matched.held id).mp free,isSome_none,Bool.false_eq_true,if_false]
    by_cases full : effectiveConcurrency (now * nano) q ≤ q.leases.size
    · rw [if_pos (limit'.mpr full),if_pos full]
      exact refused false .concurrencyLimit false _ same same' struck none'
    rw [if_neg (mt limit'.mp full),if_neg full,left]
    cases spent : exhausted (now * nano) r'.2 with
    | some reason =>
      obtain ⟨recorded,recent⟩ := struckRecorded struck reason
      exact refused false reason _ _ (same.trans (recordExhaustionSame reason)) (same'.trans (recordedSame reason)) recorded recent
    | none =>
      have effect : Effect now p (.admitted id) (expireAll now (FairUse.admitLease now r.2 id)) :=
        .admitted free (not_le.mp (mt limit.mp full)) (exhaustedNone ((exhaustedSame same).symm.trans (left.trans spent))) (admitSame same id)
      have clear : Paid (now * nano) q (.admitted id) := trivial
      obtain ⟨counters,matched⟩ := countersAnswered ready clear (unused free) effect entered
        (struckOf struck rfl rfl rfl rfl) (appliedAll all entered) none'
      exact ⟨congrArg (Answer.acquired true .blank) counters,matched⟩
  · rw [if_pos (isSome_iff_ne_none.mpr free),if_pos (isSome_iff_ne_none.mpr (mt (heldNone ready.matched.held id).mpr free))]
    exact refused true .alreadyAdmitted false _ same same' struck none'

theorem ownLeAll (ready : Ready now p q) (id) :
    concurrentSeconds (now * nano) (chargeLease q id (now * nano)) ≤ concurrentSeconds (now * nano) (chargeAll (now * nano) q) := by
  obtain ⟨one,_,upkeep⟩ := chargeLeaseReady ready id
  obtain ⟨every,all,upkeep'⟩ := chargeAllReady ready
  have own := concurrentCharged one.matched.held.settled ready.whole
  have total := concurrentCharged every.matched.held.settled ready.whole
  have counted := upkeep.counted _ (le_refl _)
  have counted' := upkeep'.counted _ (le_refl _)
  rw [unchargedNone all] at counted'
  have rest := @unchargedNonneg (chargeLease q id (now * nano)) (now * nano)
  have order : concurrentSeconds (now * nano) (chargeLease q id (now * nano)) * (second : Int) ≤
      concurrentSeconds (now * nano) (chargeAll (now * nano) q) * (second : Int) := by
    linarith
  exact le_of_mul_le_mul_right order (by decide)

theorem beatCounts (id) : SameCounts p (beat now p id) := by
  unfold beat
  split <;> exact ⟨rfl,rfl,rfl,rfl⟩

/- The two can decide alike over the budget although only one has charged all leases. -/
def BudgetClear (now : Nat) (q : MemoryAccount) (id : String) : Prop :=
  concurrentSeconds now (chargeAll now q) < concurrentSecondsBudget ∨
    concurrentSecondsBudget ≤ concurrentSeconds now (chargeLease q id now)

instance (now q id) : Decidable (BudgetClear now q id) := by unfold BudgetClear; infer_instance

theorem heartbeatOutcome (ready : Ready now p q) (clear : BudgetClear (now * nano) q id) :
    Outcome now (.heartbeat id) (FairUse.heartbeat exactSeconds now p id)
      (.beaten (renewal (now * nano) q id).1,(renewal (now * nano) q id).2) := by
  unfold FairUse.heartbeat renewal
  cases row : q.leases.get? id with
  | none =>
    rw [if_pos ((heldNone ready.matched.held id).mpr row)]
    exact ⟨rfl,ready.matched⟩
  | some =>
    obtain ⟨r,found,_⟩ := heldFound ready.matched.held row
    obtain ⟨one,paid,_⟩ := chargeLeaseReady ready id
    obtain ⟨every,all,_⟩ := chargeAllReady ready
    have spent : concurrentSecondsLimit ≤ FairUse.concurrentSeconds exactSeconds now (FairUse.chargeLease now p id now) ↔
        concurrentSecondsBudget ≤ concurrentSeconds (now * nano) (chargeLease q id (now * nano)) := by
      have script : FairUse.concurrentSeconds exactSeconds now (FairUse.chargeLease now p id now) =
          FairUse.concurrentSeconds exactSeconds now p := by
        unfold FairUse.concurrentSeconds
        rw [(@chargeAgainSame now p id ready.open_).1]
      have order := ownLeAll ready id
      rw [script,spentAgree every all]
      unfold BudgetClear at clear
      omega
    obtain ⟨_,_,penalty,events⟩ := @chargeLeaseCounts now p id now
    have struck : Struck now (FairUse.chargeLease now p id now) (chargeLease q id (now * nano)) :=
      struckOf one.matched.struck events penalty rfl rfl
    rw [if_neg (by rw [found]; exact some_ne_none r)]
    by_cases gone : concurrentSecondsBudget ≤ concurrentSeconds (now * nano) (chargeLease q id (now * nano))
    · rw [if_pos (spent.mpr gone),if_pos gone]
      have recorded := (struckRecorded struck .concurrentSecondsLimit).1
      obtain ⟨leases,occupancy,forced,admitted,successful⟩ :=
        @recordedSame (now * nano) (chargeLease q id (now * nano)) .concurrentSecondsLimit
      have effect : Effect now p (.ended id false) (expireAll now
          (removeLease (FairUse.recordExhaustion now (FairUse.chargeLease now p id now) .concurrentSecondsLimit).2 id)) :=
        .evicted found (removeLeaseSame (recordExhaustionSame _) id)
      have evicted : SameLeases (applied (now * nano) (chargeLease q id (now * nano)) (.ended id false))
          { (recordExhaustion (now * nano) (chargeLease q id (now * nano)) .concurrentSecondsLimit).2 with
            leases := (recordExhaustion (now * nano) (chargeLease q id (now * nano)) .concurrentSecondsLimit).2.leases.erase id } :=
        ⟨congrArg (erase · id) leases,occupancy,forced,admitted,successful⟩
      obtain ⟨matched,_⟩ := @matchedAnswered now p _ (chargeLease q id (now * nano)) _ (.ended id false) one paid trivial effect evicted
        (struckOf recorded rfl rfl rfl rfl)
      exact ⟨rfl,matched⟩
    · rw [if_neg (mt spent.mp gone),if_neg gone]
      obtain ⟨_,_,penalty',events'⟩ := @beatCounts now (FairUse.chargeLease now p id now) id
      obtain ⟨matched,_⟩ := @matchedAnswered now p _ (chargeLease q id (now * nano)) _ (.renewed id) one paid trivial (.renewed found)
        ⟨rfl,rfl,rfl,rfl,rfl⟩ (struckOf struck events' penalty' rfl rfl)
      exact ⟨rfl,matched⟩

theorem countSuccessCounts (id) : (countSuccess now p id).penalty = p.penalty ∧ (countSuccess now p id).events = p.events := by
  unfold countSuccess
  split <;> exact ⟨rfl,rfl⟩

theorem releaseOutcome {completed : Bool} (ready : Ready now p q) (nothing : NoOldStrikes now p)
    (others : ∀ j l, q.leases.get? j = some l → j ≠ id → l.lastCharged = now * nano)
    (unused : completed = true → p.success.rows.get? id = .none) :
    Outcome now (.release id completed) (FairUse.release exactSeconds now p id completed)
      (.released (removal (now * nano) q id completed).1.counters,(removal (now * nano) q id completed).2) := by
  unfold FairUse.release removal
  cases row : q.leases.get? id with
  | none =>
    rw [if_pos ((heldNone ready.matched.held id).mpr row)]
    have all : AllCharged (now * nano) q := by
      intro j l found
      refine others j l found (fun same => ?_)
      rw [same,row] at found
      cases found
    have counters := countersAgree ready.matched.held ready.level ready.matched.struck ready.open_ ready.whole all nothing
    exact ⟨congrArg Answer.released counters,ready.matched⟩
  | some =>
    obtain ⟨r,found,_⟩ := heldFound ready.matched.held row
    obtain ⟨one,paid,_⟩ := chargeLeaseReady ready id
    have all : AllCharged (now * nano) (chargeLease q id (now * nano)) := by
      intro j l' here
      by_cases same : j = id
      · exact paid l' (same ▸ here)
      · rw [chargeLeaseGet,if_neg same] at here
        exact others j l' here same
    obtain ⟨_,_,penalty,events⟩ := @chargeLeaseCounts now p id now
    rw [if_neg (by rw [found]; exact some_ne_none r)]
    have struck : Struck now (if completed then countSuccess now (removeLease (FairUse.chargeLease now p id now) id) id
        else removeLease (FairUse.chargeLease now p id now) id) (applied (now * nano) (chargeLease q id (now * nano))
          (.ended id completed)) := by
      cases completed with
      | false => exact struckOf one.matched.struck events penalty rfl rfl
      | true =>
        obtain ⟨penalty',events'⟩ := @countSuccessCounts now (removeLease (FairUse.chargeLease now p id now) id) id
        exact struckOf one.matched.struck (events'.trans events) (penalty'.trans penalty) rfl rfl
    have recent : NoOldStrikes now (if completed then countSuccess now (removeLease (FairUse.chargeLease now p id now) id) id
        else removeLease (FairUse.chargeLease now p id now) id) := by
      intro key seen here
      refine nothing key seen ?_
      rw [← events]
      split at here
      · rw [(@countSuccessCounts now _ id).2] at here
        exact here
      · exact here
    have entered : SameLeases (applied (now * nano) (chargeLease q id (now * nano)) (.ended id completed))
        (applied (now * nano) (chargeLease q id (now * nano)) (.ended id completed)) := ⟨rfl,rfl,rfl,rfl,rfl⟩
    have fresh : Unused p (.ended id completed) := by
      cases completed with
      | false => trivial
      | true => exact unused rfl
    obtain ⟨counters,matched⟩ := @countersAnswered now p _ (chargeLease q id (now * nano)) _ (.ended id completed) one paid
      fresh (.released found) entered struck (appliedAll all entered) recent
    exact ⟨congrArg Answer.released counters,matched⟩

end Outcome

structure Both where
  clock : Nat
  script : FairStore
  memory : MemoryAccount
  told : Option (Answer × Answer)

def Both.fresh (clock : Nat) : Both := ⟨clock,.blank,newMemoryAccount,none⟩

structure Request where
  elapsed : Nat
  op : Operation

/- Times are whole seconds here, and sums of whole seconds are exact in doubles. -/
def Both.perform (b : Both) (now : Nat) (op : Operation) : Both :=
  let scripted := call exactSeconds (now * 1000) b.script op.action
  let remembered := Memory.perform (now * second) b.memory op
  ⟨now,scripted.2,remembered.2,some (scriptAnswer op scripted.1,remembered.1)⟩

def Both.step (b : Both) (r : Request) : Both := b.perform (b.clock + r.elapsed) r.op

def Both.Agree (b : Both) : Prop := ∀ told ∈ b.told, told.1 = told.2

def ComparableAt (now : Nat) (s : FairStore) (m : MemoryAccount) : Operation → Prop
  | .acquire id _ => (∀ r ∈ (woken now s).events.rows.rows, now - strikeWindowMs ≤ r.2) ∧
    ((s.live.rows.get? id).any (fun r => now < r.heartbeat + staleMs) = true ∨
      (s.total.rows.get? id).all (fun t => t + windowMs < now) = true)
  | .heartbeat id => BudgetClear (now * nano) (prune (now * nano) m) id
  | .release id completed => (∀ r ∈ (woken now s).events.rows.rows, now - strikeWindowMs ≤ r.2) ∧
    (∀ r ∈ m.leases.rows, r.1 ≠ id → now * nano < r.2.lastHeartbeat + staleLeaseRecovery → r.2.lastCharged = now * nano) ∧
    (completed = true → (s.success.rows.get? id).all (fun t => t + windowMs < now) = true)

instance (now s m op) : Decidable (ComparableAt now s m op) := by
  cases op <;> unfold ComparableAt <;> infer_instance

def Both.Comparable (b : Both) (r : Request) : Prop := ComparableAt ((b.clock + r.elapsed) * 1000) b.script b.memory r.op

instance (b r) : Decidable (Both.Comparable b r) := by unfold Both.Comparable; infer_instance

section Run
variable {clock now : Nat} {s : FairStore} {m : MemoryAccount}

theorem recentStrikes (nothing : ∀ r ∈ (woken now s).events.rows.rows, now - strikeWindowMs ≤ r.2) : NoOldStrikes now (prepared now s) := by
  intro key seen found
  rw [(@preparedCounts now s).events] at found
  exact nothing (key,seen) (getMem.mp found)

theorem prunedNone {k : Expiring String Nat} {id : String} (old : (k.rows.get? id).all (fun t => t + windowMs < now) = true) :
    (FairUse.pruned now k).rows.get? id = none := by
  refine eq_none_iff_forall_ne_some.mpr (fun t found => ?_)
  have before := prunedGet found
  simp only [FairUse.pruned,Expiring.writeRows,getRetain] at found
  have recent := of_decide_eq_true (filter_eq_some_iff.mp found).2
  rw [before,all_some] at old
  have old := of_decide_eq_true old
  omega

theorem performOutcome (matched : Matched clock s m) (after : clock ≤ now) (whole : second ∣ now * nano) {op : Operation}
    (comparable : ComparableAt now s m op) : Outcome now op (call exactSeconds now s op.action) (Memory.perform (now * nano) m op) := by
  have ready := readyPrepared matched after whole
  obtain ⟨total,success,_⟩ := @preparedCounts now s
  cases op with
  | acquire =>
    obtain ⟨nothing,fresh⟩ := comparable
    obtain ⟨every,all,_⟩ := chargeAllReady ready
    refine acquireOutcome every all (recentStrikes nothing) (fun free => ?_)
    rw [total]
    refine prunedNone (fresh.resolve_left (fun live => ?_))
    rw [(preparedUpkeep (rowsLater matched.held.rows after) matched.held.ends).2,map_eq_none_iff] at free
    obtain ⟨r,found,alive⟩ := (Option.any_eq_true _ _).mp live
    rw [found,filter_some,if_pos alive] at free
    cases free
  | heartbeat => exact heartbeatOutcome ready comparable
  | release id =>
    obtain ⟨nothing,others,fresh⟩ := comparable
    refine releaseOutcome ready (recentStrikes nothing) (fun j l found other => ?_) (fun done => ?_)
    · rw [(heldPruned matched.held after whole).leases] at found
      obtain ⟨row,alive⟩ := filter_eq_some_iff.mp found
      exact others (j,l) (getMem.mp row) other (of_decide_eq_true alive)
    · rw [success]
      exact prunedNone (fresh done)

theorem freshMatched (clock) : Matched clock .blank newMemoryAccount where
  held := by
    have tracked := freshTracked clock
    refine ⟨tracked.rows,tracked.ends,⟨?_,?_,?_,rfl⟩,fun _ => rfl,fun _ _ => rfl⟩
    · intro id l found
      cases found
    · intro _ l found
      cases found
    · intro g mem
      cases mem
  counts := ⟨(freshWindows clock).total,(freshWindows clock).success,fun _ _ => rfl,fun _ _ => rfl⟩
  struck := by
    refine ⟨?_,?_,Nat.zero_le _,fun _ => rfl,?_⟩
    · intro key seen found
      cases found
    · intro _ _ found
      cases found
    · exact congrArg (fun t => max t (clock * nano)) (zero_mul nano)
  ends := by
    constructor
    · intro d here
      cases here
    · intro d here
      cases here

end Run

theorem secondNano (now) : now * second = now * 1000 * nano := by
  rw [mul_assoc]
  rfl

theorem memoryAgrees (clock : Nat) (requests : List Request) (comparable : Along Both.step Both.Comparable (.fresh clock) requests) :
    Always Both.step Both.Agree (.fresh clock) requests := by
  have kept : ∀ (b : Both) (r : Request), Matched (b.clock * 1000) b.script b.memory ∧ b.Agree → b.Comparable r →
      Matched ((b.step r).clock * 1000) (b.step r).script (b.step r).memory ∧ (b.step r).Agree := by
    intro b r here comparable
    have after : b.clock * 1000 ≤ (b.clock + r.elapsed) * 1000 := Nat.mul_le_mul_right 1000 (Nat.le_add_right _ _)
    have whole : second ∣ (b.clock + r.elapsed) * 1000 * nano := by
      rw [← secondNano]
      exact Nat.dvd_mul_left second _
    obtain ⟨answer,matched⟩ := performOutcome here.1 after whole comparable
    simp only [Both.step,Both.perform,Both.Agree,secondNano]
    refine ⟨matched,fun told same => ?_⟩
    cases same
    exact answer
  have start : Both.Agree (.fresh clock) := by
    intro _ same
    cases same
  exact alwaysMono (fun b here => here.2) (alwaysKept kept ⟨freshMatched _,start⟩ comparable)

theorem memoryAgreesAlone : Always Both.step Both.Agree (.fresh 1000)
    [⟨0,.acquire "a" ⟨"ip","",""⟩⟩,⟨10,.acquire "b" ⟨"ip","",""⟩⟩,⟨5,.heartbeat "a"⟩,⟨0,.heartbeat "b"⟩,⟨0,.release "a" true⟩,
      ⟨50,.release "b" true⟩,⟨0,.acquire "c" ⟨"","",""⟩⟩] :=
  memoryAgrees 1000 _ (by decide +kernel)

theorem releaseDiffers : ¬ Always Both.step Both.Agree (.fresh 1000)
    [⟨0,.acquire "a" ⟨"","",""⟩⟩,⟨0,.acquire "b" ⟨"","",""⟩⟩,⟨10,.release "a" false⟩] := by
  intro always
  have last := alwaysLast always
  have same := last _ rfl
  revert same
  decide +kernel

end NovaPuraRouter.FairUse.Memory
