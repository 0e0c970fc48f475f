import NovaPuraRouter.FairUseRows

/-! What one call of the script does to the leases and their keys, said once. A call
admits a lease, renews one, ends one or leaves them all; which of these it was can be
read off its reply. -/
namespace NovaPuraRouter.FairUse
open Option Table Expiring

inductive Move
  | none
  | admitted (id : String)
  | renewed (id : String)
  | ended (id : String) (completed : Bool)
  deriving DecidableEq, Repr

def move (action : Action) (answer : Reply) : Move := match action, answer.reason with
  | .acquire id _, .blank => .admitted id
  | .heartbeat id, .heartbeat => .renewed id
  | .heartbeat id, .concurrentSecondsLimit => .ended id false
  | .release id completed, .released => .ended id completed
  | _, _ => .none

theorem moveAdmitted {action answer id} (admitted : move action answer = .admitted id) : ∃ risk, action = .acquire id risk := by
  unfold move at admitted
  split at admitted
  · rename_i lease risk reason
    cases admitted
    exact ⟨risk,rfl⟩
  all_goals cases admitted

structure SameLeases (s s' : FairStore) : Prop where
  live : s'.live = s.live
  expiry : s'.expiry = s.expiry
  window : s'.window = s.window
  total : s'.total = s.total
  success : s'.success = s.success

inductive Effect (now : Nat) (p : FairStore) : Move → FairStore → Prop
  | unheard : Effect now p .none p
  | refused {q : FairStore} (same : SameLeases p q) : Effect now p .none (expireAll now q)
  | admitted {id : String} {q : FairStore} (free : p.live.rows.get? id = none) (room : p.live.rows.size < effectiveLimit now p)
      (left : p.success.rows.size < successLimit ∧ p.total.rows.size < admittedLimit) (same : SameLeases (admitLease now p id) q) :
      Effect now p (.admitted id) (expireAll now q)
  | renewed {id : String} {r : LeaseRow} (found : p.live.rows.get? id = some r) :
      Effect now p (.renewed id) (expireAll now (beat now (chargeLease now p id now) id))
  | evicted {id : String} {r : LeaseRow} {q : FairStore} (found : p.live.rows.get? id = some r)
      (same : SameLeases (removeLease (chargeLease now p id now) id) q) : Effect now p (.ended id false) (expireAll now q)
  | released {id : String} {r : LeaseRow} {completed : Bool} (found : p.live.rows.get? id = some r) :
      Effect now p (.ended id completed) (expireAll now
        (if completed then countSuccess now (removeLease (chargeLease now p id now) id) id
          else removeLease (chargeLease now p id now) id))

section Call
variable {seconds : Nat → Table Segment Nat → Int} {now : Nat} {p : FairStore}

theorem recordRiskSame (risk) : SameLeases p (recordRisk now p risk).2 ∧
    (recordRisk now p risk).2.penalty = p.penalty ∧ (recordRisk now p risk).2.events = p.events :=
  ⟨⟨rfl,rfl,rfl,rfl,rfl⟩,rfl,rfl⟩

theorem recordExhaustionSame (reason) : SameLeases p (recordExhaustion now p reason).2 := by
  unfold recordExhaustion
  dsimp only
  split
  · split <;> exact ⟨rfl,rfl,rfl,rfl,rfl⟩
  · exact ⟨rfl,rfl,rfl,rfl,rfl⟩

variable {q : FairStore}

theorem exhaustedSame (same : SameLeases p q) : exhausted seconds now q = exhausted seconds now p := by
  unfold exhausted concurrentSeconds
  rw [same.window,same.total,same.success]

theorem exhaustedReason {reason} (full : exhausted seconds now p = some reason) :
    reason = .concurrentSecondsLimit ∨ reason = .successRequestLimit ∨ reason = .admittedRequestLimit := by
  unfold exhausted at full
  split at full
  · exact .inl (some.inj full).symm
  split at full
  · exact .inr (.inl (some.inj full).symm)
  · split at full
    · exact .inr (.inr (some.inj full).symm)
    · cases full

theorem exhaustedNone (left : exhausted seconds now p = none) :
    p.success.rows.size < successLimit ∧ p.total.rows.size < admittedLimit := by
  unfold exhausted at left
  split at left
  · cases left
  split at left
  · cases left
  rename_i success
  split at left
  · cases left
  · rename_i total
    exact ⟨not_le.mp success,not_le.mp total⟩

theorem SameLeases.trans {r} (first : SameLeases p q) (second : SameLeases q r) : SameLeases p r :=
  ⟨second.live.trans first.live,second.expiry.trans first.expiry,second.window.trans first.window,
    second.total.trans first.total,second.success.trans first.success⟩

theorem admitSame (same : SameLeases p q) (id) : SameLeases (admitLease now p id) (admitLease now q id) := by
  constructor <;> simp only [admitLease,same.live,same.expiry,same.window,same.total,same.success]

theorem removeLeaseSame (same : SameLeases p q) (id) : SameLeases (removeLease p id) (removeLease q id) := by
  constructor <;> simp only [removeLease,same.live,same.expiry,same.window,same.total,same.success]

theorem acquireEffect (id risk) : Effect now p (move (.acquire id risk) (acquire seconds now p id risk).1)
    (acquire seconds now p id risk).2 := by
  obtain ⟨same,_⟩ := @recordRiskSame now p risk
  unfold acquire
  dsimp only
  split
  · exact .refused same
  rename_i free
  split
  · exact .refused same
  rename_i room
  split
  · rename_i reason full
    have other : move (.acquire id risk) (answered seconds now (recordExhaustion now (recordRisk now p risk).2 reason).2 false reason
        (recordExhaustion now (recordRisk now p risk).2 reason).1 (recordRisk now p risk).1).1 = .none := by
      rcases exhaustedReason full with rfl | rfl | rfl <;> rfl
    rw [other]
    exact .refused (same.trans (recordExhaustionSame reason))
  · rename_i left
    rw [same.live] at free room
    refine .admitted ?_ (not_le.mp room) (exhaustedNone ((exhaustedSame same).symm.trans left)) (admitSame same id)
    simpa using free

theorem heartbeatEffect (id) : Effect now p (move (.heartbeat id) (heartbeat seconds now p id).1) (heartbeat seconds now p id).2 := by
  unfold heartbeat
  split
  · exact .unheard
  rename_i here
  obtain ⟨r,found⟩ := ne_none_iff_exists'.mp here
  dsimp only
  split
  · exact .evicted found (removeLeaseSame (recordExhaustionSame _) id)
  · exact .renewed found

theorem releaseEffect (id completed) :
    Effect now p (move (.release id completed) (release seconds now p id completed).1) (release seconds now p id completed).2 := by
  unfold release
  split
  · exact .unheard
  · rename_i here
    obtain ⟨r,found⟩ := ne_none_iff_exists'.mp here
    exact .released found

theorem actEffect (action) : Effect now p (move action (act seconds now p action).1) (act seconds now p action).2 := by
  cases action with
  | acquire id risk => exact acquireEffect id risk
  | heartbeat id => exact heartbeatEffect id
  | release id completed => exact releaseEffect id completed
  | invalid => exact .unheard

end Call

def Charged (now : Nat) (s : FairStore) : Prop := ∀ id r, s.live.rows.get? id = some r → r.charged = now

theorem preparedAll {now s} (rows : Rows now s) (ends : Ends s) : Charged now (prepared now s) := by
  intro _ r found
  rw [(preparedUpkeep rows ends).2] at found
  obtain ⟨_,_,rfl⟩ := map_eq_some_iff.mp found
  rfl

section Kept
variable {now : Nat} {p q : FairStore}

variable {id : String}

theorem chargeable (rows : Rows now p) (charged : Charged now p) : Chargeable now p id now := by
  refine ⟨le_refl now,fun r found => ?_⟩
  have stale := (rows.lease id r found).2.2
  rwa [charged id r found] at stale

theorem chargeAgainGet (charged : Charged now p) (j) : (chargeLease now p id now).live.rows.get? j = p.live.rows.get? j := by
  rw [chargeLeaseGet]
  split
  · cases found : p.live.rows.get? j with
    | none => rfl
    | some r =>
      have here := charged j r found
      rw [map_some,here,max_self,← here]
  · rfl

theorem chargeAgainSame {id} (charged : Charged now p) : (chargeLease now p id now).window = p.window ∧
    (chargeLease now p id now).total = p.total ∧ (chargeLease now p id now).success = p.success := by
  unfold chargeLease
  split
  · exact ⟨rfl,rfl,rfl⟩
  · rename_i r found
    rw [if_neg (not_lt.mpr (le_of_eq (charged id r found).symm))]
    exact ⟨rfl,rfl,rfl⟩

section
variable (rows : Rows now p)
include rows

theorem sameRows (same : SameLeases p q) : Rows now q := rowsOf rows same.live same.expiry same.window

theorem expireAllRows : Rows now (expireAll now p) := by
  constructor <;> simp only [expireAll,touchRows]
  · exact rows.score
  · exact rows.lease
  · exact rows.apart
  · exact rows.expiry
  · intro nothing
    rw [Expiring.touch,if_pos nothing]
    exact rows.tidy nothing

theorem expireAllEnds : Ends (expireAll now p) where
  same id r found := by
    simp only [expireAll,touchRows] at found
    have expires := rows.expiry id
    rw [found,map_some] at expires
    simp only [expireAll,touchHeld found,touchHeld expires]
  live d here id r found := by
    simp only [expireAll,touchRows] at found
    have renewed := touchDeadline found here
    have beat := (rows.lease id r found).2.1
    omega
  window d here := by
    have renewed : d = now + keyTtlMs := by
      simp only [expireAll,Expiring.touch] at here
      split at here
      · rename_i nothing
        rw [rows.tidy nothing] at here
        cases here
      · exact (some.inj here).symm
    simp only [expireAll,touchRows]
    constructor
    · intro m score found
      have stopped := (rows.score m score found).2
      omega
    · intro id r found
      have beat := (rows.lease id r found).2.1
      omega

theorem admitRows : Rows now (admitLease now p id) where
  score := rows.score
  lease j r found := by
    simp only [admitLease,writeRows,getPut] at found
    split at found
    · cases found
      exact ⟨le_refl now,le_refl now,Nat.le_add_right now staleMs⟩
    · exact rows.lease j r found
  apart j r m score leased segment same := by
    simp only [admitLease,writeRows,getPut] at leased
    split at leased
    · cases leased
      exact (rows.score m score segment).2
    · exact rows.apart j r m score leased segment same
  expiry j := by
    simp only [admitLease,writeRows,getPut]
    split
    · rfl
    · exact rows.expiry j
  tidy := rows.tidy

theorem beatRows : Rows now (beat now p id) := by
  unfold beat
  split
  · exact rows
  rename_i r found
  refine ⟨rows.score,?_,?_,?_,rows.tidy⟩
  · intro j r' leased
    simp only [writeRows,getPut] at leased
    split at leased
    · cases leased
      obtain ⟨past,_⟩ := rows.lease id r found
      exact ⟨past,le_refl now,le_trans past (Nat.le_add_right now staleMs)⟩
    · exact rows.lease j r' leased
  · intro j r' m score leased segment same
    simp only [writeRows,getPut] at leased
    split at leased
    · rename_i here
      cases leased
      exact rows.apart id r m score found segment (same.trans here)
    · exact rows.apart j r' m score leased segment same
  · intro j
    simp only [writeRows,getPut]
    split
    · rfl
    · exact rows.expiry j

end

theorem countSuccessSame (id) : (countSuccess now p id).live = p.live ∧ (countSuccess now p id).expiry = p.expiry ∧
    (countSuccess now p id).window = p.window ∧ (countSuccess now p id).total = p.total := by
  unfold countSuccess
  split <;> exact ⟨rfl,rfl,rfl,rfl⟩

theorem countSuccessRows (id) : (countSuccess now p id).success.rows =
    if p.success.rows.get? id = none then p.success.rows.put id now else p.success.rows := by
  unfold countSuccess
  split <;> rfl

theorem beatGet (id j) : (beat now p id).live.rows.get? j =
    if j = id then (p.live.rows.get? j).map (fun r => { r with heartbeat := now }) else p.live.rows.get? j := by
  unfold beat
  split
  · rename_i absent
    split
    · rename_i here
      rw [here,absent]
      rfl
    · rfl
  · rename_i r found
    simp only [writeRows,getPut]
    split
    · rename_i here
      rw [here,found]
      rfl
    · rfl

theorem beatSame (id) : (beat now p id).window = p.window ∧ (beat now p id).total = p.total ∧ (beat now p id).success = p.success := by
  unfold beat
  split <;> exact ⟨rfl,rfl,rfl⟩

end Kept

section Effect
variable {now : Nat} {p s : FairStore} {m : Move}

def moved (now : Nat) (live : Table String LeaseRow) (m : Move) (j : String) : Option LeaseRow := match m with
  | .none => live.get? j
  | .admitted id => if j = id then some ⟨now,now,now⟩ else live.get? j
  | .renewed id => if j = id then (live.get? j).map (fun r => { r with heartbeat := now }) else live.get? j
  | .ended id _ => if j = id then none else live.get? j

def Applies (live : Table String LeaseRow) : Move → Prop
  | .none => True
  | .admitted id => live.get? id = none
  | .renewed id | .ended id _ => ∃ r, live.get? id = some r

def totalAfter (now : Nat) (total : Table String Nat) : Move → Table String Nat
  | .admitted id => total.put id now
  | _ => total

def successAfter (now : Nat) (success : Table String Nat) : Move → Table String Nat
  | .ended id true => if success.get? id = none then success.put id now else success
  | _ => success

theorem effectApplies (effect : Effect now p m s) : Applies p.live.rows m := by
  cases effect with
  | unheard | refused => exact trivial
  | admitted free => exact free
  | renewed found | evicted found | released found => exact ⟨_,found⟩

theorem effectAdmitted {id} (effect : Effect now p (.admitted id) s) :
    p.live.rows.size < effectiveLimit now p ∧ (p.success.rows.size < successLimit ∧ p.total.rows.size < admittedLimit) ∧
      p.live.rows.get? id = none := by
  cases effect with
  | admitted free room left => exact ⟨room,left,free⟩

theorem effectLive (charged : Charged now p) (effect : Effect now p m s) (j) : s.live.rows.get? j = moved now p.live.rows m j := by
  cases effect with
  | unheard => rfl
  | refused same =>
    simp only [expireAll,touchRows,same.live]
    rfl
  | admitted _ _ _ same =>
    simp only [expireAll,touchRows,same.live]
    exact getPut _ _ _ _
  | renewed =>
    simp only [expireAll,touchRows]
    rw [beatGet,chargeAgainGet charged]
    rfl
  | evicted _ same =>
    simp only [expireAll,touchRows,same.live]
    rw [removeLeaseGet,chargeAgainGet charged]
    rfl
  | released =>
    simp only [expireAll,touchRows]
    split
    · rw [(countSuccessSame _).1,removeLeaseGet,chargeAgainGet charged]
      rfl
    · rw [removeLeaseGet,chargeAgainGet charged]
      rfl

theorem effectWindow (charged : Charged now p) (effect : Effect now p m s) : s.window.rows = p.window.rows ∧
    s.total.rows = totalAfter now p.total.rows m ∧ s.success.rows = successAfter now p.success.rows m := by
  cases effect with
  | unheard => exact ⟨rfl,rfl,rfl⟩
  | refused same =>
    simp only [expireAll,touchRows,same.window,same.total,same.success,totalAfter,successAfter,and_self]
  | admitted _ _ _ same =>
    simp only [expireAll,touchRows,writeRows,same.window,same.total,same.success,admitLease,totalAfter,successAfter,
      and_self]
  | @renewed id =>
    obtain ⟨window,total,success⟩ := @chargeAgainSame now p id charged
    obtain ⟨window',total',success'⟩ := @beatSame now (chargeLease now p id now) id
    simp only [expireAll,touchRows,window,total,success,window',total',success',totalAfter,successAfter,and_self]
  | @evicted id _ _ _ same =>
    obtain ⟨window,total,success⟩ := @chargeAgainSame now p id charged
    simp only [expireAll,touchRows,same.window,same.total,same.success,removeLease,window,total,success,totalAfter,
      successAfter,and_self]
  | @released id _ completed =>
    obtain ⟨window,total,success⟩ := @chargeAgainSame now p id charged
    simp only [expireAll,touchRows]
    cases completed with
    | false =>
      simp only [Bool.false_eq_true,if_false,removeLease,window,total,success,totalAfter,successAfter,and_self]
    | true =>
      obtain ⟨_,_,window',total'⟩ := @countSuccessSame now (removeLease (chargeLease now p id now) id) id
      rw [if_pos rfl,window',total',countSuccessRows]
      simp only [removeLease,window,total,success,totalAfter,successAfter,and_self]

theorem effectRows (rows : Rows now p) (ends : Ends p) (charged : Charged now p) (effect : Effect now p m s) : Rows now s ∧ Ends s := by
  have renewed : ∀ {q}, Rows now q → Rows now (expireAll now q) ∧ Ends (expireAll now q) :=
    fun rows => ⟨expireAllRows rows,expireAllEnds rows⟩
  have recharged : ∀ {id}, Rows now (chargeLease now p id now) := chargeLeaseRows rows (chargeable rows charged)
  cases effect with
  | unheard => exact ⟨rows,ends⟩
  | refused same => exact renewed (sameRows rows same)
  | admitted _ _ _ same => exact renewed (sameRows (admitRows rows) same)
  | renewed => exact renewed (beatRows recharged)
  | evicted _ same => exact renewed (sameRows (removeLeaseRows recharged) same)
  | released =>
    refine renewed ?_
    split
    · obtain ⟨live,expiry,window,_⟩ := @countSuccessSame now (removeLease (chargeLease now p _ now) _) _
      exact rowsOf (removeLeaseRows recharged) live expiry window
    · exact removeLeaseRows recharged

theorem effectCharged (charged : Charged now p) (effect : Effect now p m s) : Charged now s := by
  intro j r found
  rw [effectLive charged effect] at found
  cases m with
  | none => exact charged j r found
  | admitted =>
    simp only [moved] at found
    split at found
    · cases found
      rfl
    · exact charged j r found
  | renewed =>
    simp only [moved] at found
    split at found
    · obtain ⟨old,before,rfl⟩ := map_eq_some_iff.mp found
      exact charged j old before
    · exact charged j r found
  | ended =>
    simp only [moved] at found
    split at found
    · cases found
    · exact charged j r found

theorem concurrentCounted (rows : Rows now p) (charged : Charged now p) : concurrentMs now p = counted now p := by
  have idle : p.live.rows.sum (fun _ r => (overlap (now - windowMs) now r.charged (r.heartbeat + staleMs) : Int)) = 0 := by
    refine sumZero (fun id r found => ?_)
    rw [overlapAfter (le_of_eq (charged id r found).symm)]
    rfl
  unfold counted concurrentMs windowSum
  rw [idle,add_zero]
  refine sumCongr (fun m score found => ?_)
  obtain ⟨scored,stopped⟩ := rows.score m score found
  rw [if_pos (scored ▸ stopped)]

end Effect

end NovaPuraRouter.FairUse
