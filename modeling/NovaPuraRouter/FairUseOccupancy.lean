import NovaPuraRouter.FairUseEffect

/-! The time an account's leases took up, counted from what its clients were told: who was
admitted when, was last heard of and ended. The script, which charges its leases bit by bit
and forgets what is old, counts the same milliseconds. -/
namespace NovaPuraRouter.FairUse
open List Option Table

structure Lease where
  id : String
  admitted : Nat
  lastBeat : Nat
  ended : Option Nat
  completed : Bool
  deriving DecidableEq, Repr

def Lease.finish (l : Lease) : Nat := match l.ended with
  | none => l.lastBeat + staleMs
  | some t => min t (l.lastBeat + staleMs)

/- Histories have the newest lease first. An id may be used again; a reply is then about
its newest lease. -/
def latest (id : String) (history : List Lease) : Option Lease := history.find? (fun l => l.id = id)

def onLatest (id : String) (f : Lease → Lease) : List Lease → List Lease
  | [] => []
  | l :: rest => if l.id = id then f l :: rest else l :: onLatest id f rest

def recorded (now : Nat) (m : Move) (history : List Lease) : List Lease := match m with
  | .none => history
  | .admitted id => ⟨id,now,now,none,false⟩ :: history
  | .renewed id => onLatest id (fun l => { l with lastBeat := now }) history
  | .ended id completed => onLatest id (fun l => { l with ended := some now, completed := completed }) history

def occupied (history : List Lease) (now : Nat) : Nat :=
  (history.map (fun l => overlap (now - windowMs) now l.admitted l.finish)).sum

structure Account where
  clock : Nat
  store : FairStore
  history : List Lease

def Account.fresh (clock : Nat) : Account := ⟨clock,.blank,[]⟩

structure Event where
  elapsed : Nat
  action : Action

section Step
variable (seconds : Nat → Table Segment Nat → Int)

def Account.next (a : Account) (now : Nat) (action : Action) : Account :=
  ⟨now,(call seconds now a.store action).2,recorded now (move action (call seconds now a.store action).1) a.history⟩

def Account.step (a : Account) (e : Event) : Account := a.next seconds (a.clock + e.elapsed) e.action

end Step

section Latest
variable {id : String} {f : Lease → Lease} {history : List Lease}

theorem latestOnLatest (same : ∀ l, (f l).id = l.id) (j) :
    latest j (onLatest id f history) = if j = id then (latest j history).map f else latest j history := by
  induction history with
  | nil => simp [latest,onLatest]
  | cons l _ ih =>
    unfold onLatest
    by_cases here : l.id = id
    · by_cases asked : j = id
      · simp [latest,here,asked,same]
      · simp [latest,here,asked,same,Ne.symm asked]
    rw [if_neg here]
    unfold latest at ih ⊢
    rw [find?_cons,find?_cons]
    by_cases asked : l.id = j
    · simp only [asked,decide_true,if_neg (fun eq => here (asked.trans eq))]
    · simp only [asked,decide_false]
      exact ih

theorem sumOnLatest {l} (found : latest id history = some l) (w : Lease → Nat) :
    ((onLatest id f history).map w).sum + w l = (history.map w).sum + w (f l) := by
  induction history with
  | nil => cases found
  | cons first _ ih =>
    unfold onLatest
    unfold latest at found ih
    rw [find?_cons] at found
    by_cases here : first.id = id
    · simp only [here,decide_true,some.injEq] at found
      subst found
      simp only [here,if_true,map_cons,sum_cons]
      omega
    · simp only [here,decide_false] at found
      have tail := ih found
      simp only [if_neg here,map_cons,sum_cons]
      omega

end Latest

structure Linked (now : Nat) (live : Table String LeaseRow) (history : List Lease) : Prop where
  held : ∀ id r, live.get? id = some r →
    ∃ l, latest id history = some l ∧ l.ended = none ∧ l.lastBeat = r.heartbeat ∧ l.admitted ≤ now
  here : ∀ id l, latest id history = some l → l.ended = none → now < l.lastBeat + staleMs → ∃ r, live.get? id = some r

section Linked
variable {clock now : Nat} {s p : FairStore} {history : List Lease}

theorem linkedPrepared (linked : Linked clock s.live.rows history) (after : clock ≤ now) (rows : Rows clock s) (ends : Ends s) :
    Linked now (prepared now s).live.rows history := by
  have gets := (preparedUpkeep (rowsLater rows after) ends).2
  constructor
  · intro id r found
    rw [gets] at found
    obtain ⟨old,kept,rfl⟩ := map_eq_some_iff.mp found
    obtain ⟨l,open_,ended,beat,admitted⟩ := linked.held id old (filter_eq_some_iff.mp kept).1
    exact ⟨l,open_,ended,beat,le_trans admitted after⟩
  · intro id l found ended fresh
    obtain ⟨r,row⟩ := linked.here id l found ended (lt_of_le_of_lt after fresh)
    obtain ⟨_,found',_,beat,_⟩ := linked.held id r row
    cases found.symm.trans found'
    refine ⟨{ r with charged := now },?_⟩
    rw [gets,row,filter_some,if_pos (by rw [← beat]; exact decide_eq_true fresh),map_some]

theorem linkedMoved {m} (linked : Linked now p.live.rows history) (charged : Charged now p) (effect : Effect now p m s) :
    Linked now s.live.rows (recorded now m history) := by
  have applies := effectApplies effect
  have gets := effectLive charged effect
  cases m with
  | none => exact ⟨fun id r found => linked.held id r ((gets id).symm.trans found),fun id l found ended fresh => by
      rw [gets]
      exact linked.here id l found ended fresh⟩
  | admitted new =>
    constructor
    · intro id r found
      rw [gets,moved] at found
      split at found
      · rename_i here
        cases found
        exact ⟨⟨new,now,now,none,false⟩,by simp [recorded,latest,here],rfl,rfl,le_refl now⟩
      rename_i other
      obtain ⟨l,found',rest⟩ := linked.held id r found
      refine ⟨l,?_,rest⟩
      simpa [recorded,latest,Ne.symm other] using found'
    · intro id l found ended fresh
      rw [gets,moved]
      split
      · exact ⟨_,rfl⟩
      · rename_i other
        refine linked.here id l ?_ ended fresh
        simpa [recorded,latest,Ne.symm other] using found
  | renewed beaten =>
    have record := fun j => @latestOnLatest beaten (fun l => { l with lastBeat := now }) history (fun _ => rfl) j
    constructor
    · intro id r found
      rw [gets,moved] at found
      simp only [recorded,record]
      split at found
      · rename_i here
        obtain ⟨old,row,rfl⟩ := map_eq_some_iff.mp found
        obtain ⟨l,found',ended,_,admitted⟩ := linked.held id old row
        rw [if_pos here,found']
        exact ⟨_,rfl,ended,rfl,admitted⟩
      · rename_i other
        rw [if_neg other]
        exact linked.held id r found
    · intro id l found ended fresh
      simp only [recorded,record] at found
      rw [gets,moved]
      split
      · rename_i here
        obtain ⟨r,row⟩ := applies
        rw [here,row]
        exact ⟨_,rfl⟩
      · rename_i other
        rw [if_neg other] at found
        exact linked.here id l found ended fresh
  | ended gone completed =>
    have record := fun j => @latestOnLatest gone (fun l => { l with ended := some now, completed := completed }) history
      (fun _ => rfl) j
    constructor
    · intro id r found
      rw [gets,moved] at found
      simp only [recorded,record]
      split at found
      · cases found
      · rename_i other
        rw [if_neg other]
        exact linked.held id r found
    · intro id l found ended fresh
      simp only [recorded,record] at found
      rw [gets,moved]
      split
      · rename_i here
        rw [if_pos here] at found
        obtain ⟨_,_,rfl⟩ := map_eq_some_iff.mp found
        cases ended
      · rename_i other
        rw [if_neg other] at found
        exact linked.here id l found ended fresh

end Linked

section Occupied
variable {now later : Nat} {s p : FairStore} {history : List Lease} {m : Move}

def movedTable (now : Nat) (live : Table String LeaseRow) : Move → Table String LeaseRow
  | .none => live
  | .admitted id => live.put id ⟨now,now,now⟩
  | .renewed id => live.modify id (fun r => { r with heartbeat := now })
  | .ended id _ => live.erase id

theorem movedTableGet (live j) : (movedTable now live m).get? j = moved now live m j := by
  cases m with
  | none => rfl
  | admitted id => exact getPut live id j _
  | renewed id =>
    refine (Table.getModify live id j _).trans ?_
    simp only [moved]
    split
    · rename_i here
      rw [here]
    · rfl
  | ended id => exact getErase live id j

theorem occupiedOnLatest {id f l} (found : latest id history = some l) :
    (occupied (onLatest id f history) later : Int) = occupied history later +
      (overlap (later - windowMs) later (f l).admitted (f l).finish - overlap (later - windowMs) later l.admitted l.finish) := by
  have sums := sumOnLatest (f := f) found (fun l => overlap (later - windowMs) later l.admitted l.finish)
  unfold occupied
  omega

theorem countedMoved (charged : Charged now p) (effect : Effect now p m s) : counted later s - counted later p =
    (movedTable now p.live.rows m).sum (fun _ r => overlap (later - windowMs) later r.charged (r.heartbeat + staleMs)) -
      p.live.rows.sum (fun _ r => overlap (later - windowMs) later r.charged (r.heartbeat + staleMs)) := by
  have live : ∀ j, s.live.rows.get? j = (movedTable now p.live.rows m).get? j := fun j =>
    (effectLive charged effect j).trans (movedTableGet p.live.rows j).symm
  unfold counted
  rw [(effectWindow charged effect).1,sumExt live]
  omega

theorem occupiedMoved (rows : Rows now p) (charged : Charged now p) (linked : Linked now p.live.rows history) (effect : Effect now p m s) :
    counted later s - counted later p = (occupied (recorded now m history) later : Int) - occupied history later := by
  have applies := effectApplies effect
  rw [countedMoved charged effect]
  cases m with
  | none => simp only [movedTable,recorded,sub_self]
  | admitted =>
    simp only [movedTable,recorded,sumPut applies,occupied,map_cons,sum_cons,Lease.finish]
    omega
  | renewed id =>
    obtain ⟨r,found⟩ := applies
    obtain ⟨l,record,ended,beat,admitted⟩ := linked.held id r found
    have due := charged id r found
    have stale := (rows.lease id r found).2.2
    simp only [movedTable,recorded,sumModify found,occupiedOnLatest record,Lease.finish,ended,beat,due]
    have before := @overlapSplit (later - windowMs) later l.admitted (r.heartbeat + staleMs) now admitted (due ▸ stale)
    have after := @overlapSplit (later - windowMs) later l.admitted (now + staleMs) now admitted (Nat.le_add_right now staleMs)
    omega
  | ended id =>
    obtain ⟨r,found⟩ := applies
    obtain ⟨l,record,ended,beat,admitted⟩ := linked.held id r found
    have due := charged id r found
    have stale := (rows.lease id r found).2.2
    rw [due] at stale
    simp only [movedTable,recorded,sumErase found,occupiedOnLatest record,Lease.finish,ended,beat,due,min_eq_left stale]
    have before := @overlapSplit (later - windowMs) later l.admitted (r.heartbeat + staleMs) now admitted stale
    omega

end Occupied

structure Tracked (a : Account) : Prop where
  rows : Rows a.clock a.store
  ends : Ends a.store
  linked : Linked a.clock a.store.live.rows a.history
  counted : ∀ later, a.clock ≤ later → counted later a.store = occupied a.history later

section Run
variable {seconds : Nat → Table Segment Nat → Int} {a : Account} {now : Nat}

theorem preparedCharged (tracked : Tracked a) (after : a.clock ≤ now) : Charged now (prepared now a.store) :=
  preparedAll (rowsLater tracked.rows after) tracked.ends

theorem preparedTracked (tracked : Tracked a) (after : a.clock ≤ now) : Tracked ⟨now,prepared now a.store,a.history⟩ := by
  have upkeep := (preparedUpkeep (rowsLater tracked.rows after) tracked.ends).1
  refine ⟨upkeep.rows,upkeep.ends,linkedPrepared tracked.linked after tracked.rows tracked.ends,fun later here => ?_⟩
  rw [upkeep.counted later here]
  exact tracked.counted later (le_trans after here)

theorem nextTracked (tracked : Tracked a) (after : a.clock ≤ now) (action) : Tracked (a.next seconds now action) := by
  have ready := preparedTracked tracked after
  have charged := preparedCharged tracked after
  have effect := @actEffect seconds now (prepared now a.store) action
  obtain ⟨rows,ends⟩ := effectRows ready.rows ready.ends charged effect
  refine ⟨rows,ends,linkedMoved ready.linked charged effect,fun later here => ?_⟩
  have moved := @occupiedMoved now later _ (prepared now a.store) a.history _ ready.rows charged ready.linked effect
  have before : FairUse.counted later (prepared now a.store) = occupied a.history later := ready.counted later here
  simp only [Account.next,call]
  omega

theorem stepTracked (a e) (tracked : Tracked a) : Tracked (a.step seconds e) :=
  nextTracked tracked (Nat.le_add_right _ _) e.action

theorem freshTracked (clock) : Tracked (.fresh clock) where
  rows := by
    refine ⟨?_,?_,?_,fun _ => rfl,fun _ => rfl⟩
    · intro m score found
      cases found
    · intro id r found
      cases found
    · intro id r m _ found
      cases found
  ends := by
    refine ⟨?_,?_,?_⟩
    · intro id r found
      cases found
    · intro d here
      cases here
    · intro d here
      cases here
  linked := by
    constructor
    · intro id r found
      cases found
    · intro _ l found
      cases found
  counted _ _ := rfl

theorem replySeconds (action) :
    (call seconds now a.store action).1.concurrentSeconds = concurrentSeconds seconds now (call seconds now a.store action).2 := by
  unfold call act
  split
  · unfold acquire
    dsimp only
    split
    · rfl
    · split
      · rfl
      · split <;> rfl
  · unfold heartbeat
    split
    · rfl
    · dsimp only
      split <;> rfl
  · unfold release
    split <;> rfl
  · rfl

end Run

/- Exact at every time the script counts: when a call decides, and when it answers. The
seconds it tells are those it makes of the counted members, the true ones where the sum of
doubles is exact. -/
structure Exact (seconds : Nat → Table Segment Nat → Int) (a : Account) (now : Nat) (action : Action) : Prop where
  found : concurrentMs now (prepared now a.store) = occupied a.history now
  decided : ∀ lease, concurrentMs now (chargeLease now (prepared now a.store) lease now) = occupied a.history now
  left : concurrentMs now (call seconds now a.store action).2 = occupied (a.next seconds now action).history now
  told : (call seconds now a.store action).1.concurrentSeconds = concurrentSeconds seconds now (call seconds now a.store action).2
  unrounded : (∀ window, seconds now window = exactSeconds now window) →
    (call seconds now a.store action).1.concurrentSeconds = (occupied (a.next seconds now action).history now / 1000 : Nat)

theorem occupancyExact (seconds : Nat → Table Segment Nat → Int) (clock : Nat) (events : List Event) :
    Always (Account.step seconds) (fun a => ∀ now action, a.clock ≤ now → Exact seconds a now action) (.fresh clock) events := by
  refine alwaysOfKeeps stepTracked (fun a tracked now action after => ?_) events (freshTracked clock)
  have ready := preparedTracked tracked after
  have charged := preparedCharged tracked after
  have next := @nextTracked seconds a now tracked after action
  have found : concurrentMs now (prepared now a.store) = occupied a.history now :=
    (concurrentCounted ready.rows charged).trans (ready.counted now (le_refl now))
  have left := (concurrentCounted next.rows (effectCharged charged (actEffect action))).trans (next.counted now (le_refl now))
  refine ⟨found,fun lease => ?_,left,replySeconds action,fun exactly => ?_⟩
  · unfold concurrentMs at found ⊢
    rw [(@chargeAgainSame now (prepared now a.store) lease charged).1]
    exact found
  · rw [replySeconds action,concurrentSeconds,exactly]
    exact congrArg (· / 1000) left

end NovaPuraRouter.FairUse
