import NovaPuraRouter.FairUseOccupancy

/-! How many leases an account can have: at a time, and in any window of ten minutes. The
counts are taken from the history; the script only sees the windows that end now. -/
namespace NovaPuraRouter.FairUse
open List Option Table Expiring

def Lease.success (l : Lease) : Option Nat := if l.completed then l.ended else none

def Lease.done (now : Nat) (l : Lease) : Lease := { l with ended := some now, completed := true }

def admittedIn (t : Nat) (history : List Lease) : Nat := history.countP (fun l => t ≤ l.admitted ∧ l.admitted ≤ t + windowMs)

def successfulIn (t : Nat) (history : List Lease) : Nat :=
  history.countP (fun l => l.success.any (fun e => t ≤ e ∧ e ≤ t + windowMs))

def successfulFrom (t : Nat) (history : List Lease) : Nat := history.countP (fun l => l.success.any (fun e => t ≤ e))

section Distinct
variable {id : String} {f : Lease → Lease} {history : List Lease}

theorem distinctLatest (distinct : (history.map Lease.id).Nodup) {l} (mem : l ∈ history) : latest l.id history = some l := by
  induction history with
  | nil => cases mem
  | cons first _ ih =>
    obtain ⟨fresh,distinct⟩ := nodup_cons.mp distinct
    unfold latest
    rw [find?_cons]
    rcases mem_cons.mp mem with rfl | later
    · simp only [decide_true]
    · have other : first.id ≠ l.id := fun same => fresh (same ▸ List.mem_map_of_mem later)
      simp only [other,decide_false]
      exact ih distinct later

theorem latestMem {l} (found : latest id history = some l) : l ∈ history ∧ l.id = id :=
  ⟨mem_of_find?_eq_some found,by simpa using find?_some found⟩

theorem onLatestIds (same : ∀ l, (f l).id = l.id) : (onLatest id f history).map Lease.id = history.map Lease.id := by
  induction history with
  | nil => rfl
  | cons _ _ ih =>
    unfold onLatest
    split
    · simp only [map_cons,same]
    · simp only [map_cons,ih]

theorem onLatestMem {l} (mem : l ∈ onLatest id f history) : l ∈ history ∨ ∃ old, latest id history = some old ∧ l = f old := by
  induction history with
  | nil => cases mem
  | cons first _ ih =>
    unfold onLatest at mem
    split at mem
    · rename_i here
      rcases mem_cons.mp mem with rfl | later
      · exact .inr ⟨first,by simp [latest,here],rfl⟩
      · exact .inl (mem_cons_of_mem _ later)
    · rename_i other
      rcases mem_cons.mp mem with rfl | later
      · exact .inl mem_cons_self
      rcases ih later with old | ⟨old,found,eq⟩
      · exact .inl (mem_cons_of_mem _ old)
      · refine .inr ⟨old,?_,eq⟩
        simpa [latest,other] using found

theorem countSumOf (q) (history : List Lease) : history.countP q = (history.map (fun l => (q l).toNat)).sum := by
  induction history with
  | nil => rfl
  | cons l _ ih =>
    rw [countP_cons,map_cons,sum_cons,ih]
    cases q l <;> simp [add_comm]

theorem countOnLatest {l} (found : latest id history = some l) (q) :
    (onLatest id f history).countP q + (q l).toNat = history.countP q + (q (f l)).toNat := by
  rw [countSumOf,countSumOf]
  exact sumOnLatest found _

theorem countWithin {q} {t : Table String Nat} (distinct : (history.map Lease.id).Nodup)
    (held : ∀ l ∈ history, q l = true → ∃ e, t.get? l.id = some e) : history.countP q ≤ t.size := by
  have ids : (history.filter q).map Lease.id ⊆ t.keys := by
    intro _ mem
    obtain ⟨l,kept,rfl⟩ := List.mem_map.mp mem
    obtain ⟨here,counted⟩ := mem_filter.mp kept
    exact getKeys.mpr (held l here counted)
  have nodup : ((history.filter q).map Lease.id).Nodup := distinct.sublist (filter_sublist.map _)
  have lengths := (subperm_of_subset nodup ids).length_le
  simpa [countP_eq_length_filter,Table.keys,size] using lengths

end Distinct

structure Dated {κ : Type} [DecidableEq κ] (now : Nat) (k : Expiring κ Nat) : Prop where
  past : ∀ id t, k.rows.get? id = some t → t ≤ now
  ends : ∀ d ∈ k.deadline, ∀ id t, k.rows.get? id = some t → t + keyTtlMs ≤ d

section Dated
variable {clock now : Nat} {k : Expiring String Nat}

def pruned (now : Nat) (k : Expiring String Nat) : Expiring String Nat :=
  (k.wake now).write (·.retain (fun _ score => now - windowMs ≤ score))

theorem prunedGet {id t} (found : (pruned now k).rows.get? id = some t) : k.rows.get? id = some t := by
  simp only [pruned,writeRows,getRetain] at found
  exact wakeGet (filter_eq_some_iff.mp found).1

theorem prunedKept (dated : Dated clock k) {id t} (found : k.rows.get? id = some t) (recent : now ≤ t + windowMs) :
    (pruned now k).rows.get? id = some t := by
  have awake : (k.wake now).rows.get? id = some t := by
    obtain ⟨d,here,_⟩ | same := wakeCases now k
    · have ends := dated.ends d here id t found
      simp only [keyTtlMs,windowMs] at ends recent
      omega
    · rwa [same]
  simp only [pruned,writeRows,getRetain,awake]
  exact filter_eq_some_iff.mpr ⟨rfl,decide_eq_true (by omega)⟩

theorem datedPruned (dated : Dated clock k) (after : clock ≤ now) : Dated now (pruned now k) where
  past id t found := le_trans (dated.past id t (prunedGet found)) after
  ends d here id t found := dated.ends d (wakeDeadline (writeDeadline here)) id t (prunedGet found)

theorem datedTouched {κ} [DecidableEq κ] {k : Expiring κ Nat} (past : ∀ id t, k.rows.get? id = some t → t ≤ now) :
    Dated now (k.touch (now + keyTtlMs)) where
  past id t found := by
    rw [touchRows] at found
    exact past id t found
  ends d here id t found := by
    rw [touchRows] at found
    have limit := touchDeadline found here
    have before := past id t found
    omega

end Dated

/- The counting keys hold what the last window has of the history, and every window is
within its bounds. One that is still open also has room for the leases that are live. -/
structure Windows (now : Nat) (s : FairStore) (history : List Lease) : Prop where
  distinct : (history.map Lease.id).Nodup
  total : Dated now s.total
  success : Dated now s.success
  admitted : ∀ l ∈ history, l.admitted ≤ now ∧ (now ≤ l.admitted + windowMs → s.total.rows.get? l.id = some l.admitted)
  succeeded : ∀ l ∈ history, ∀ e ∈ l.success, e ≤ now ∧ (now ≤ e + windowMs → s.success.rows.get? l.id = some e)
  counted : ∀ id e, s.success.rows.get? id = some e → ∃ l ∈ history, l.id = id ∧ l.ended ≠ none
  few : s.live.rows.size ≤ 10
  admissions : ∀ t, admittedIn t history ≤ 750
  ahead : ∀ t, now ≤ t + windowMs → successfulFrom t history + s.live.rows.size ≤ 609
  successes : ∀ t, successfulIn t history ≤ 609

section Windows
variable {clock now : Nat} {s p : FairStore} {history : List Lease}

theorem windowsPrepared (windows : Windows clock s history) (after : clock ≤ now) (rows : Rows clock s) (ends : Ends s) :
    Windows now (prepared now s) history := by
  obtain ⟨total,success,_⟩ := @preparedCounts now s
  have size : (prepared now s).live.rows.size ≤ s.live.rows.size := by
    refine sizeSubset (fun id r found => ?_)
    rw [(preparedUpkeep (rowsLater rows after) ends).2] at found
    obtain ⟨old,kept,_⟩ := map_eq_some_iff.mp found
    exact ⟨old,(filter_eq_some_iff.mp kept).1⟩
  refine ⟨windows.distinct,?_,?_,?_,?_,?_,le_trans size windows.few,windows.admissions,?_,windows.successes⟩
  · rw [total]
    exact datedPruned windows.total after
  · rw [success]
    exact datedPruned windows.success after
  · intro l mem
    obtain ⟨past,held⟩ := windows.admitted l mem
    refine ⟨le_trans past after,fun recent => ?_⟩
    rw [total]
    exact prunedKept windows.total (held (le_trans after recent)) recent
  · intro l mem e here
    obtain ⟨past,held⟩ := windows.succeeded l mem e here
    refine ⟨le_trans past after,fun recent => ?_⟩
    rw [success]
    exact prunedKept windows.success (held (le_trans after recent)) recent
  · intro id e found
    rw [success] at found
    exact windows.counted id e (prunedGet found)
  · intro t still
    have before := windows.ahead t (le_trans after still)
    omega

theorem admittedWithin (windows : Windows now s history) {t} (still : now ≤ t + windowMs) : admittedIn t history ≤ s.total.rows.size := by
  refine countWithin windows.distinct (fun l mem counted => ?_)
  have inside : t ≤ l.admitted := (of_decide_eq_true counted).1
  exact ⟨l.admitted,(windows.admitted l mem).2 (by omega)⟩

theorem successfulWithin (windows : Windows now s history) {t} (still : now ≤ t + windowMs) :
    successfulFrom t history ≤ s.success.rows.size := by
  refine countWithin windows.distinct (fun l mem counted => ?_)
  obtain ⟨e,here,inside⟩ := (Option.any_eq_true _ _).mp counted
  have inside : t ≤ e := of_decide_eq_true inside
  exact ⟨e,(windows.succeeded l mem e here).2 (by omega)⟩

theorem successfulInFrom (t history) : successfulIn t history ≤ successfulFrom t history := by
  refine countP_mono_left (fun l mem counted => ?_)
  obtain ⟨e,here,inside⟩ := (Option.any_eq_true _ _).mp counted
  have inside := of_decide_eq_true inside
  exact (Option.any_eq_true _ _).mpr ⟨e,here,decide_eq_true inside.1⟩

theorem effectiveLimitLe (now p) : effectiveLimit now p ≤ 10 := by
  unfold effectiveLimit
  split <;> decide

theorem effectDated {m} (total : Dated now p.total) (success : Dated now p.success) (charged : Charged now p)
    (effect : Effect now p m s) : Dated now s.total ∧ Dated now s.success := by
  obtain ⟨_,totals,successes⟩ := effectWindow charged effect
  have admitted : ∀ id t, s.total.rows.get? id = some t → t ≤ now := by
    intro id t found
    rw [totals,totalAfter.eq_def] at found
    split at found
    · rw [getPut] at found
      split at found
      · cases found
        exact le_refl now
      · exact total.past id t found
    · exact total.past id t found
  have succeeded : ∀ id t, s.success.rows.get? id = some t → t ≤ now := by
    intro id t found
    rw [successes,successAfter.eq_def] at found
    split at found
    · split at found
      · rw [getPut] at found
        split at found
        · cases found
          exact le_refl now
        · exact success.past id t found
      · exact success.past id t found
    · exact success.past id t found
  have renewed : s = p ∨ ∃ q, s = expireAll now q := by
    cases effect with
    | unheard => exact .inl rfl
    | refused | admitted | renewed | evicted | released => exact .inr ⟨_,rfl⟩
  rcases renewed with rfl | ⟨q,rfl⟩
  · exact ⟨total,success⟩
  · simp only [expireAll,touchRows] at admitted succeeded
    exact ⟨datedTouched admitted,datedTouched succeeded⟩

theorem effectSize {m} (charged : Charged now p) (effect : Effect now p m s) : s.live.rows.size = (movedTable now p.live.rows m).size :=
  sizeExt (fun j => (effectLive charged effect j).trans (movedTableGet p.live.rows j).symm)

variable {id : String} {f : Lease → Lease} {l : Lease}

theorem admittedOnLatest (found : latest id history = some l)
    (same : (f l).admitted = l.admitted) (t) : admittedIn t (onLatest id f history) = admittedIn t history := by
  have counts := countOnLatest (f := f) found (fun l => decide (t ≤ l.admitted ∧ l.admitted ≤ t + windowMs))
  rw [same] at counts
  exact add_right_cancel counts

theorem successOnLatest (found : latest id history = some l)
    (same : (f l).success = l.success) (t) : successfulFrom t (onLatest id f history) = successfulFrom t history ∧
      successfulIn t (onLatest id f history) = successfulIn t history := by
  have counts := countOnLatest (f := f) found
  constructor
  · have froms := counts (fun l => l.success.any (fun e => t ≤ e))
    rw [same] at froms
    exact add_right_cancel froms
  · have ins := counts (fun l => l.success.any (fun e => t ≤ e ∧ e ≤ t + windowMs))
    rw [same] at ins
    exact add_right_cancel ins

theorem windowsAdmitted (windows : Windows now p history) (charged : Charged now p)
    (fresh : latest id history = none) (effect : Effect now p (.admitted id) s) : Windows now s (recorded now (.admitted id) history) := by
  obtain ⟨total,success⟩ := effectDated windows.total windows.success charged effect
  obtain ⟨_,totals,successes⟩ := effectWindow charged effect
  have size := effectSize charged effect
  obtain ⟨_,left,free⟩ := effectAdmitted effect
  have limit := effectiveLimitLe now p
  obtain ⟨succeeded,few⟩ := left
  unfold successLimit at succeeded
  unfold admittedLimit at few
  have grown : s.live.rows.size = p.live.rows.size + 1 := by
    rw [size,movedTable]
    have sums := sumPut free ⟨now,now,now⟩ (fun _ _ => 1)
    rw [← sizeSum,← sizeSum] at sums
    omega
  have other : ∀ l ∈ history, l.id ≠ id := by
    intro l mem same
    have nothing := find?_eq_none.mp fresh l mem
    exact nothing (decide_eq_true same)
  have unsuccessful : ∀ t, successfulFrom t (recorded now (.admitted id) history) = successfulFrom t history := by
    intro t
    simp [recorded,successfulFrom,Lease.success]
  refine ⟨?_,total,success,?_,?_,?_,by omega,?_,?_,?_⟩
  · refine nodup_cons.mpr ⟨fun mem => ?_,windows.distinct⟩
    obtain ⟨l,here,same⟩ := List.mem_map.mp mem
    exact other l here same
  · intro l mem
    rw [totals]
    rcases mem_cons.mp mem with rfl | old
    · exact ⟨le_refl now,fun _ => by simp [totalAfter]⟩
    obtain ⟨past,held⟩ := windows.admitted l old
    refine ⟨past,fun recent => ?_⟩
    simp only [totalAfter,getPut,other l old,if_false]
    exact held recent
  · intro l mem e here
    rw [successes]
    rcases mem_cons.mp mem with rfl | old
    · cases here
    · exact windows.succeeded l old e here
  · intro j e found
    rw [successes] at found
    obtain ⟨l,mem,rest⟩ := windows.counted j e found
    exact ⟨l,mem_cons_of_mem _ mem,rest⟩
  · intro t
    unfold recorded admittedIn
    rw [countP_cons]
    -- Only a window that has now in it gets one more, and the script has seen what else it has.
    by_cases inside : t ≤ now ∧ now ≤ t + windowMs
    · have within := admittedWithin windows inside.2
      unfold admittedIn at within
      simp only [inside,and_self,decide_true,if_true]
      omega
    · have before := windows.admissions t
      simp only [inside,decide_false,Bool.false_eq_true,if_false]
      exact before
  · intro t still
    have within := successfulWithin windows still
    rw [unsuccessful]
    omega
  · intro t
    have before := windows.successes t
    simpa [recorded,successfulIn,Lease.success] using before

theorem windowsKept (windows : Windows now p history) (total : Dated now s.total) (success : Dated now s.success)
    (totals : s.total.rows = p.total.rows) (successes : s.success.rows = p.success.rows)
    (size : s.live.rows.size ≤ p.live.rows.size) : Windows now s history where
  distinct := windows.distinct
  total := total
  success := success
  admitted := by
    rw [totals]
    exact windows.admitted
  succeeded := by
    rw [successes]
    exact windows.succeeded
  counted := by
    rw [successes]
    exact windows.counted
  few := le_trans size windows.few
  admissions := windows.admissions
  ahead t still := le_trans (Nat.add_le_add_left size _) (windows.ahead t still)
  successes := windows.successes

theorem windowsOnLatest (windows : Windows now s history)
    (found : latest id history = some l) (ids : ∀ l, (f l).id = l.id) (admitted : (f l).admitted = l.admitted)
    (success : (f l).success = l.success) (ended : l.ended ≠ none → (f l).ended ≠ none) : Windows now s (onLatest id f history) := by
  obtain ⟨here,_⟩ := latestMem found
  refine ⟨?_,windows.total,windows.success,?_,?_,?_,windows.few,?_,?_,?_⟩
  · rw [onLatestIds ids]
    exact windows.distinct
  · intro l' mem
    rcases onLatestMem mem with old | ⟨old,found',rfl⟩
    · exact windows.admitted l' old
    · cases found.symm.trans found'
      rw [ids,admitted]
      exact windows.admitted l here
  · intro l' mem e counted
    rcases onLatestMem mem with old | ⟨old,found',rfl⟩
    · exact windows.succeeded l' old e counted
    cases found.symm.trans found'
    rw [success] at counted
    rw [ids]
    exact windows.succeeded l here e counted
  · intro j e row
    obtain ⟨old,mem,same,closed⟩ := windows.counted j e row
    by_cases changed : j = id
    · have record : latest j history = some old := same ▸ distinctLatest windows.distinct mem
      rw [changed,found] at record
      cases record
      have after := @latestOnLatest id f history ids id
      rw [if_pos rfl,found,map_some] at after
      exact ⟨f l,(latestMem after).1,(latestMem after).2.trans changed.symm,ended closed⟩
    · have record : latest j history = some old := same ▸ distinctLatest windows.distinct mem
      have after := @latestOnLatest id f history ids j
      rw [if_neg changed,record] at after
      exact ⟨old,(latestMem after).1,same,closed⟩
  · intro t
    rw [admittedOnLatest found admitted]
    exact windows.admissions t
  · intro t still
    rw [(successOnLatest found success t).1]
    exact windows.ahead t still
  · intro t
    rw [(successOnLatest found success t).2]
    exact windows.successes t

theorem endedSize {completed} (charged : Charged now p) (effect : Effect now p (.ended id completed) s) :
    s.live.rows.size + 1 = p.live.rows.size := by
  obtain ⟨r,found⟩ := effectApplies effect
  have sums := sumErase found (fun _ _ => 1)
  rw [← sizeSum,← sizeSum] at sums
  rw [effectSize charged effect,movedTable]
  omega

theorem windowsCompleted (windows : Windows now p history) (charged : Charged now p)
    (found : latest id history = some l) (opened : l.ended = none) (effect : Effect now p (.ended id true) s) :
    Windows now s (recorded now (.ended id true) history) := by
  obtain ⟨total,success⟩ := effectDated windows.total windows.success charged effect
  obtain ⟨_,totals,successes⟩ := effectWindow charged effect
  have size := endedSize charged effect
  obtain ⟨here,same⟩ := latestMem found
  have absent : p.success.rows.get? id = none := by
    refine eq_none_iff_forall_ne_some.mpr (fun e row => ?_)
    obtain ⟨old,mem,named,closed⟩ := windows.counted id e row
    have record := distinctLatest windows.distinct mem
    rw [named,found] at record
    cases record
    exact closed opened
  simp only [successAfter,absent,if_true] at successes
  have unsuccessful : l.success = none := by
    unfold Lease.success
    rw [opened,ite_self]
  have record := fun j => @latestOnLatest id (Lease.done now) history (fun _ => rfl) j
  have counts := fun q => @countOnLatest id (Lease.done now) history l found q
  have ahead : ∀ t, now ≤ t + windowMs → successfulFrom t (onLatest id (Lease.done now) history) + s.live.rows.size ≤ 609 := by
    intro t still
    have before := windows.ahead t still
    have more := counts (fun l => l.success.any (fun e => t ≤ e))
    have one := Bool.toNat_le ((l.done now).success.any (fun e => decide (t ≤ e)))
    unfold successfulFrom at before ⊢
    omega
  refine ⟨?_,total,success,?_,?_,?_,?_,?_,ahead,?_⟩
  · exact (@onLatestIds id (Lease.done now) history (fun _ => rfl)) ▸ windows.distinct
  · intro l' mem
    rw [totals]
    rcases onLatestMem mem with old | ⟨old,found',rfl⟩
    · exact windows.admitted l' old
    · cases found.symm.trans found'
      exact windows.admitted l here
  · intro l' mem e counted
    rw [successes,getPut]
    rcases onLatestMem mem with old | ⟨old,found',rfl⟩
    · obtain ⟨past,held⟩ := windows.succeeded l' old e counted
      refine ⟨past,fun recent => ?_⟩
      have row := held recent
      rw [if_neg (fun eq => ?_)]
      · exact row
      · rw [eq,absent] at row
        cases row
    · cases found.symm.trans found'
      cases counted
      exact ⟨le_refl now,fun _ => if_pos same⟩
  · intro j e row
    rw [successes,getPut] at row
    have after := record j
    split at row
    · rename_i changed
      rw [if_pos changed,changed,found,map_some] at after
      exact ⟨l.done now,(latestMem after).1,(latestMem after).2.trans changed.symm,fun nothing => by cases nothing⟩
    rename_i other
    obtain ⟨old,mem,named,closed⟩ := windows.counted j e row
    have before : latest j history = some old := named ▸ distinctLatest windows.distinct mem
    rw [if_neg other,before] at after
    exact ⟨old,(latestMem after).1,named,closed⟩
  · have before := windows.few
    omega
  · intro t
    exact (admittedOnLatest (f := Lease.done now) found rfl t).symm ▸ windows.admissions t
  · intro t
    by_cases still : now ≤ t + windowMs
    · have open_ := ahead t still
      have within := successfulInFrom t (onLatest id (Lease.done now) history)
      exact le_trans within (le_trans (Nat.le_add_right _ _) open_)
    have before := windows.successes t
    have more := counts (fun l => l.success.any (fun e => t ≤ e ∧ e ≤ t + windowMs))
    have outside : (l.done now).success.any (fun e => decide (t ≤ e ∧ e ≤ t + windowMs)) = false :=
      decide_eq_false (fun inside => still inside.2)
    simp only [unsuccessful,any_none,outside,Bool.toNat_false] at more
    exact le_trans (le_of_eq more) before

theorem windowsMoved {m} (windows : Windows now p history) (charged : Charged now p)
    (linked : Linked now p.live.rows history) (fresh : ∀ id, m = .admitted id → latest id history = none)
    (effect : Effect now p m s) : Windows now s (recorded now m history) := by
  obtain ⟨total,success⟩ := effectDated windows.total windows.success charged effect
  obtain ⟨_,totals,successes⟩ := effectWindow charged effect
  have size := effectSize charged effect
  have applies := effectApplies effect
  cases m with
  | none => exact windowsKept windows total success totals successes (le_of_eq size)
  | admitted id => exact windowsAdmitted windows charged (fresh id rfl) effect
  | renewed id =>
    obtain ⟨r,found⟩ := applies
    obtain ⟨l,record,_⟩ := linked.held id r found
    have kept : Windows now s history := by
      refine windowsKept windows total success totals successes (le_of_eq ?_)
      have sums := sumModify found (fun r => { r with heartbeat := now }) (fun _ _ => 1)
      rw [← sizeSum,← sizeSum] at sums
      rw [size,movedTable]
      omega
    exact windowsOnLatest kept record (fun _ => rfl) rfl rfl (fun closed => closed)
  | ended id completed =>
    obtain ⟨r,found⟩ := applies
    obtain ⟨l,record,opened,_⟩ := linked.held id r found
    cases completed with
    | false =>
      have kept : Windows now s history := by
        have shrunk := endedSize charged effect
        exact windowsKept windows total success totals successes (by omega)
      refine windowsOnLatest kept record (fun _ => rfl) rfl ?_ (fun closed => absurd opened closed)
      simp only [Lease.success,opened,Bool.false_eq_true,if_false,ite_self]
    | true => exact windowsCompleted windows charged record opened effect

end Windows

def Account.Fresh (a : Account) (e : Event) : Prop := match e.action with
  | .acquire id _ => latest id a.history = none ∨ ((prepared (a.clock + e.elapsed) a.store).live.rows.get? id).isSome = true
  | _ => True

section Run
variable (seconds : Nat → Table Segment Nat → Int)

structure Bounded (a : Account) : Prop where
  members : ∀ now id, a.clock ≤ now →
    (((woken now a.store).live.rows.get? id).isSome = true ↔ ((woken now a.store).expiry.rows.get? id).isSome = true)
  few : ∀ now, a.clock ≤ now → (woken now a.store).live.rows.size ≤ 10
  degraded : ∀ now action id, a.clock ≤ now → move action (call seconds now a.store action).1 = .admitted id →
    now < degradeUntil (woken now a.store) → (prepared now a.store).live.rows.size = 0
  admissions : ∀ t, admittedIn t a.history ≤ 750
  successes : ∀ t, successfulIn t a.history ≤ 609
  stale : ∀ now l, a.clock ≤ now → l ∈ a.history → l.ended = none → now < l.lastBeat + 45000 →
    ((prepared now a.store).live.rows.get? l.id).isSome = true

variable {seconds} {a : Account}

theorem stepWindows {e} (tracked : Tracked a) (windows : Windows a.clock a.store a.history) (fresh : a.Fresh e) :
    Windows (a.step seconds e).clock (a.step seconds e).store (a.step seconds e).history := by
  have after : a.clock ≤ a.clock + e.elapsed := Nat.le_add_right _ _
  have ready := preparedTracked tracked after
  have charged := preparedCharged tracked after
  have effect := @actEffect seconds (a.clock + e.elapsed) (prepared (a.clock + e.elapsed) a.store) e.action
  refine windowsMoved (windowsPrepared windows after tracked.rows tracked.ends) charged ready.linked (fun id admitted => ?_) effect
  -- The lease that was admitted was not live, so its id is new.
  have admitted : move e.action (act seconds (a.clock + e.elapsed) (prepared (a.clock + e.elapsed) a.store) e.action).1 = .admitted id :=
    admitted
  rw [admitted] at effect
  obtain ⟨_,_,free⟩ := effectAdmitted effect
  obtain ⟨_,acquired⟩ := moveAdmitted admitted
  unfold Account.Fresh at fresh
  rw [acquired] at fresh
  rcases fresh with new | live
  · exact new
  · rw [free] at live
    cases live

theorem windowsBounded (tracked : Tracked a) (windows : Windows a.clock a.store a.history) : Bounded seconds a := by
  refine ⟨?_,?_,?_,windows.admissions,windows.successes,?_⟩
  · intro now id after
    rw [wokenLease (rowsLater tracked.rows after) tracked.ends,isSome_map]
  · intro now after
    refine le_trans (sizeSubset (fun id r found => ?_)) windows.few
    exact ⟨r,wakeGet found⟩
  · intro now action _ after admitted degraded
    have effect := @actEffect seconds now (prepared now a.store) action
    unfold call at admitted
    rw [admitted] at effect
    obtain ⟨room,_⟩ := effectAdmitted effect
    have penalty : degradeUntil (prepared now a.store) = degradeUntil (woken now a.store) := by
      unfold degradeUntil
      rw [(@preparedCounts now a.store).penalty]
      rfl
    unfold effectiveLimit at room
    rw [penalty,if_pos degraded] at room
    exact Nat.lt_one_iff.mp room
  · intro _ l after mem opened heard
    have linked := linkedPrepared tracked.linked after tracked.rows tracked.ends
    obtain ⟨r,found⟩ := linked.here l.id l (distinctLatest windows.distinct mem) opened heard
    rw [found]
    rfl

theorem freshWindows (clock) : Windows clock .blank [] where
  distinct := nodup_nil
  total := ⟨fun _ _ found => (by cases found),fun _ here => (by cases here)⟩
  success := ⟨fun _ _ found => (by cases found),fun _ here => (by cases here)⟩
  admitted _ mem := by cases mem
  succeeded _ mem := by cases mem
  counted _ _ found := by cases found
  few := Nat.zero_le _
  admissions _ := Nat.zero_le _
  ahead _ _ := Nat.zero_le _
  successes _ := Nat.zero_le _

end Run

open Account

variable {seconds : Nat → Table Segment Nat → Int}

theorem admissionBounds (seconds : Nat → Table Segment Nat → Int) (clock : Nat) (events : List Event)
    (fresh : Along (step seconds) Account.Fresh (.fresh clock) events) : Always (step seconds) (Bounded seconds) (.fresh clock) events := by
  have kept : ∀ (a : Account) (e : Event), Tracked a ∧ Windows a.clock a.store a.history → a.Fresh e →
      Tracked (a.step seconds e) ∧ Windows (a.step seconds e).clock (a.step seconds e).store (a.step seconds e).history :=
    fun a e here fresh => ⟨stepTracked a e here.1,stepWindows here.1 here.2 fresh⟩
  exact alwaysMono (fun a here => windowsBounded here.1 here.2)
    (alwaysKept kept ⟨freshTracked clock,freshWindows clock⟩ fresh)

def Event.acquired (e : Event) : Option String := match e.action with
  | .acquire id _ => some id
  | _ => none

theorem recordedIds {a : Account} {e : Event} {l : Lease} (mem : l ∈ (a.step seconds e).history) :
    (∃ old ∈ a.history, old.id = l.id) ∨ e.acquired = some l.id := by
  have kept : ∀ {id : String} {f : Lease → Lease}, l ∈ onLatest id f a.history → (∀ l, (f l).id = l.id) →
      ∃ old ∈ a.history, old.id = l.id := by
    intro id f mem ids
    have named : l.id ∈ (onLatest id f a.history).map Lease.id := List.mem_map_of_mem mem
    rw [onLatestIds ids] at named
    exact List.mem_map.mp named
  simp only [step,Account.next] at mem
  cases moved : move e.action (call seconds (a.clock + e.elapsed) a.store e.action).1 with
  | none =>
    rw [moved] at mem
    exact .inl ⟨l,mem,rfl⟩
  | admitted =>
    rw [moved] at mem
    rcases mem_cons.mp mem with rfl | old
    · obtain ⟨_,acquired⟩ := moveAdmitted moved
      refine .inr ?_
      rw [Event.acquired,acquired]
    · exact .inl ⟨l,old,rfl⟩
  | renewed | ended =>
    rw [moved] at mem
    exact .inl (kept mem (fun _ => rfl))

theorem distinctFresh {a : Account} {events : List Event} (distinct : (events.filterMap Event.acquired).Nodup)
    (unused : ∀ l ∈ a.history, l.id ∉ events.filterMap Event.acquired) : Along (step seconds) Account.Fresh a events := by
  induction events generalizing a with
  | nil => trivial
  | cons e rest ih =>
    have later : ∀ id, id ∈ rest.filterMap Event.acquired → id ∈ (e :: rest).filterMap Event.acquired := by
      intro id mem
      obtain ⟨e',here,acquired⟩ := mem_filterMap.mp mem
      exact mem_filterMap.mpr ⟨e',mem_cons_of_mem _ here,acquired⟩
    have tail : (rest.filterMap Event.acquired).Nodup :=
      distinct.sublist ((sublist_cons_self e rest).filterMap _)
    refine ⟨?_,ih tail (fun l mem used => ?_)⟩
    · unfold Account.Fresh
      split
      · rename_i id risk acquired
        refine .inl (find?_eq_none.mpr (fun l mem same => ?_))
        have used : id ∈ (e :: rest).filterMap Event.acquired :=
          mem_filterMap.mpr ⟨e,mem_cons_self,by rw [Event.acquired,acquired]⟩
        rw [← of_decide_eq_true same] at used
        exact unused l mem used
      · trivial
    · rcases recordedIds mem with ⟨old,here,same⟩ | acquired
      · exact unused old here (later old.id (same ▸ used))
      · rw [filterMap_cons_some acquired] at distinct
        exact (nodup_cons.mp distinct).1 used

theorem admissionBoundsDistinct : Always (step exactSeconds) (Bounded exactSeconds) (.fresh 1000000)
    [⟨0,.acquire "first" ⟨"","",""⟩⟩,⟨30000,.heartbeat "first"⟩,⟨5,.acquire "second" ⟨"","",""⟩⟩,⟨40000,.release "first" true⟩,
      ⟨50000,.acquire "third" ⟨"","",""⟩⟩] :=
  admissionBounds exactSeconds 1000000 _ (distinctFresh (by decide) (fun _ mem => by cases mem))

end NovaPuraRouter.FairUse
