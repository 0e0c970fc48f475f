import NovaPuraRouter.ReleaseSpec

/-! Whether the release loop comes to its end when nothing else writes. The rows of an
inviter whose pending cents do not cover them stay pending, and the next read of the
loop finds them again. -/
namespace NovaPuraRouter.ReleaseLoop
open CommissionPlan ReleaseSpec List Option Table

/- One more step of the loop, none once it has returned. The clock is read before it only. -/
def advance : Releaser × CommissionStore → Releaser × CommissionStore
  | (.returned released err,s) => (.returned released err,s)
  | (r,s) => releaseStep s 0 r

def Returned : Releaser × CommissionStore → Prop
  | (.returned _ _,_) => True
  | _ => False

def short (s : CommissionStore) (batch : List (Nat × Commission)) (inviterId : Nat) : Bool :=
  (s.users.get? inviterId).any (fun u => decide (u.pendingCommissionCents < batchSum batch inviterId))

def Stuck : Releaser × CommissionStore → Prop
  | (.reading now _,s) => (maturedBatch s now).length = commissionReleaseBatchSize ∧
      ∀ r ∈ maturedBatch s now, short s (maturedBatch s now) r.2.inviterId = true
  | _ => False

def dueRow (now : Int) (c : Commission) : Bool := decide (c.status = .pending ∧ c.availableAt ≤ now)

variable {s s' : CommissionStore} {now : Int} {x : Releaser × CommissionStore}

theorem releaseFewer {flipped} (done : Released s (maturedBatch s now) flipped s') (something : flipped ≠ 0) :
    s'.commissions.count (fun _ => dueRow now) < s.commissions.count (fun _ => dueRow now) := by
  have moved : ∀ id c, s.commissions.get? id = some c → id ∈ movedIds s (maturedBatch s now) → dueRow now c = true := by
    intro id c found mem
    obtain ⟨r,inside,rfl⟩ := List.mem_map.mp mem
    obtain ⟨got,due⟩ := maturedRow (mem_filter.mp inside).1
    cases some.inj (got.symm.trans found)
    exact decide_eq_true due
  have split : s.commissions.count (fun _ => dueRow now) = s'.commissions.count (fun _ => dueRow now) +
      s.commissions.count (fun id _ => decide (id ∈ movedIds s (maturedBatch s now))) := by
    rw [done.commissions,countSum,countSum,countSum,sumUpdate,← sumAdd]
    refine sumCongr (fun id c found => ?_)
    by_cases mem : id ∈ movedIds s (maturedBatch s now)
    · rw [moved id c found mem]
      simp [mem,dueRow,makeAvailable]
    · simp [mem]
  rw [done.flipped] at something
  obtain ⟨id,mem⟩ := exists_mem_of_ne_nil _ (fun nothing => something (congrArg List.length nothing))
  obtain ⟨r,inside,rfl⟩ := List.mem_map.mp mem
  have found := (maturedRow (mem_filter.mp inside).1).1
  have pos := countPos found (p := fun id _ => decide (id ∈ movedIds s (maturedBatch s now))) (decide_eq_true mem)
  omega

theorem debitsNone {entries : List (Nat × Int)} {users : Table Nat Affiliate} (sums)
    (less : ∀ e ∈ entries, ∃ a, users.get? e.1 = some a ∧ a.pendingCommissionCents < e.2) :
    ∃ sums', entries.foldlM debitInviter (users,sums) = .ok (users,sums') := by
  induction entries generalizing sums with
  | nil => exact ⟨sums,rfl⟩
  | cons head _ ih =>
    obtain ⟨a,found,lacks⟩ := less head mem_cons_self
    obtain ⟨sums',later⟩ := ih (sums.erase head.1) (fun e mem => less e (mem_cons_of_mem _ mem))
    refine ⟨sums',?_⟩
    rw [foldlM_cons,bindOk]
    refine ⟨_,?_,later⟩
    simp only [debitInviter,bindOk,rowOk]
    exact ⟨a,found,if_pos lacks⟩

variable {batch : List (Nat × Commission)}

theorem flippedNone {flipped} (done : Released s batch flipped s') :
    flipped = 0 ↔ ∀ r ∈ batch, short s batch r.2.inviterId = true := by
  rw [done.flipped,length_eq_zero_iff,movedIds,map_eq_nil_iff,filter_eq_nil_iff]
  refine forall₂_congr (fun r mem => ?_)
  obtain ⟨u,found⟩ := done.inviters r mem
  simp only [covered,short,found,any_some,decide_eq_true_eq]
  exact not_le

theorem stuckSame (all : ∀ r ∈ batch, short s batch r.2.inviterId = true) : releaseBatch s batch = .ok (0,s) := by
  obtain ⟨kept,debits⟩ : ∃ kept, (byInviter batch).rows.foldlM debitInviter (s.users,byInviter batch) = .ok (s.users,kept) := by
    refine debitsNone _ (fun e mem => ?_)
    have sums := getMem.mpr mem
    rw [byInviterGet] at sums
    split at sums
    · rename_i listed
      obtain ⟨r,inside,inviter⟩ := List.mem_map.mp listed
      have lacks := all r inside
      rw [inviter,short,Option.any_eq_true] at lacks
      obtain ⟨u,found,less⟩ := lacks
      exact ⟨u,found,some.inj sums ▸ of_decide_eq_true less⟩
    · cases sums
  have ok : releaseBatch s batch = .ok ((releaseIds batch kept).length,{ s with
      commissions := s.commissions.update (fun id _ => decide (id ∈ releaseIds batch kept)) makeAvailable }) := by
    simp only [releaseBatch,debits]
    rfl
  have nothing : releaseIds batch kept = [] := eq_nil_of_length_eq_zero ((flippedNone (releaseExact ok)).mpr all)
  rw [ok,nothing]
  simp [update]

theorem stuckAgain (stuck : Stuck x) : advance (advance x) = x := by
  obtain ⟨r,s⟩ := x
  cases r with
  | reading now released =>
    obtain ⟨full,all⟩ := stuck
    have something : maturedBatch s now ≠ [] := by
      intro nothing
      rw [nothing] at full
      cases full
    have first : advance (.reading now released,s) = (.holding now released (maturedBatch s now),s) := if_neg something
    rw [first]
    simp only [advance,releaseStep,stuckSame all,full,lt_irrefl,if_false,add_zero]
  | _ => cases stuck

theorem returnedStays (returned : Returned x) : advance x = x := by
  obtain ⟨r,s⟩ := x
  cases r with
  | returned => rfl
  | _ => cases returned

theorem stuckNever {n k} (stuck : Stuck (advance^[n] x)) : ¬ Returned (advance^[k] x) := by
  intro returned
  have round : advance^[2*k] (advance^[n] x) = advance^[n] x := by
    rw [Function.iterate_mul]
    exact Function.iterate_fixed (stuckAgain stuck) k
  have there : advance^[2*k] (advance^[n] x) = advance^[k] x := by
    rw [← Function.iterate_add_apply,show 2*k+n = k+n+k by omega,Function.iterate_add_apply]
    exact Function.iterate_fixed (returnedStays returned) _
  rw [← there,round] at returned
  generalize advance^[n] x = y at stuck returned
  obtain ⟨r,s⟩ := y
  cases r with
  | reading => exact returned
  | _ => exact stuck

/- Induction on the number of due rows: a read that is not stuck ends the loop or leaves fewer. -/
theorem returnsUnstuck {bound : Nat} {released} (few : s.commissions.count (fun _ => dueRow now) < bound)
    (moves : ∀ n, ¬ Stuck (advance^[n] (.reading now released,s))) : ∃ n, Returned (advance^[n] (.reading now released,s)) := by
  induction bound generalizing s released with
  | zero =>
    simp only [Table.count] at few
    omega
  | succ _ ih =>
    by_cases nothing : maturedBatch s now = []
    · refine ⟨1,?_⟩
      simp only [Function.iterate_one,advance,releaseStep,if_pos nothing,Returned]
    have second : advance^[2] (.reading now released,s) = releaseStep s now (.holding now released (maturedBatch s now)) := by
      simp only [Function.iterate_succ_apply,Function.iterate_zero_apply,advance,releaseStep,if_neg nothing]
    cases attempt : releaseBatch s (maturedBatch s now) with
    | error =>
      refine ⟨2,?_⟩
      rw [second,releaseStep,attempt]
      trivial
    | ok result =>
      obtain ⟨flipped,s'⟩ := result
      by_cases last : (maturedBatch s now).length < commissionReleaseBatchSize
      · refine ⟨2,?_⟩
        simp only [second,releaseStep,attempt,if_pos last,Returned]
      have full : (maturedBatch s now).length = commissionReleaseBatchSize :=
        le_antisymm (length_take_le _ _) (not_lt.mp last)
      have done := releaseExact attempt
      have something : flipped ≠ 0 := fun nothing => moves 0 ⟨full,(flippedNone done).mp nothing⟩
      have next : advance^[2] (.reading now released,s) = (.reading now (released + flipped),s') := by
        simp only [second,releaseStep,attempt,if_neg last]
      have later : ∀ n, advance^[n + 2] (.reading now released,s) = advance^[n] (.reading now (released + flipped),s') := by
        intro n
        rw [Function.iterate_add_apply,next]
      have fewer := releaseFewer done something
      obtain ⟨n,returned⟩ := ih (by omega) (fun n => later n ▸ moves (n + 2))
      exact ⟨n + 2,later n ▸ returned⟩

theorem releaseReturnsIff (s : CommissionStore) (now : Int) :
    (∃ n, Returned (advance^[n] (.reading now 0,s))) ↔ ∀ n, ¬ Stuck (advance^[n] (.reading now 0,s)) := by
  constructor
  · rintro ⟨k,returned⟩ n stuck
    exact stuckNever stuck returned
  · intro moves
    exact returnsUnstuck (Int.ofNat_lt.mpr (Nat.lt_succ_self _)) moves

theorem quarter : 0 < 4 := by decide

def drained : CommissionStore where
  users := ⟨[(1,⟨0,true,0,0,100⟩)],by decide⟩
  commissions := ⟨(List.range' 1 100).map (fun i => (i,⟨1,2,"topup-" ++ toString i,4,"USD",⟨1,4,quarter⟩,1,.pending,0⟩)),by
    rw [List.map_map]
    exact (List.map_id _).symm ▸ nodup_range'⟩
  withdrawals := .empty

theorem drainedNeverReturns : ¬ ∃ n, Returned (advance^[n] (.reading 0 0,drained)) := by
  rintro ⟨k,returned⟩
  have stuck : Stuck (advance^[0] (.reading 0 0,drained)) := ⟨by decide +kernel,by decide +kernel⟩
  exact stuckNever stuck returned

end NovaPuraRouter.ReleaseLoop
