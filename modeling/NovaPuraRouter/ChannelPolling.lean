import NovaPuraRouter.Execution
import NovaPuraRouter.RoundRobin

/-! Polling of a channel's keys. A call goes on where the copy in the memory cache, or the
row, says, and writes the next index to the copy it was made on. -/
namespace NovaPuraRouter.ChannelPolling
open RoundRobin List

/- `index`: the polling index of every copy of the channel in memory; `cached`: the copy in
the cache; `returned`: the keys that were returned; `failed`: the calls that returned none.
-/
structure Polling where
  memoryCacheEnabled : Bool
  cached : Nat
  index : Nat → Int
  stored : Int
  returned : List Nat
  failed : Nat

def Polling.cacheGetChannelInfo (s : Polling) : Int := if s.memoryCacheEnabled then s.index s.cached else s.stored

inductive Op
  | getNextEnabledKey (copy : Nat)
  | initChannelCache (copy : Nat)

section Step
variable (n : Nat) (enabled : Nat → Bool) (s : Polling)

def startOf : Nat := if s.cacheGetChannelInfo < 0 ∨ n ≤ s.cacheGetChannelInfo then 0 else s.cacheGetChannelInfo.toNat

/- The channel has `n` keys. A call writes the index to its copy, and to the row only where
there is no memory cache. A rebuild caches a new copy with the index of the one it replaces.
-/
def step : Op → Polling
  | .getNextEnabledKey copy => match next n enabled (startOf n s) with
    | none => { s with failed := s.failed + 1 }
    | some i => { s with
      index := Function.update s.index copy ((i + 1) % n : Nat)
      stored := if s.memoryCacheEnabled then s.stored else ((i + 1) % n : Nat)
      returned := s.returned ++ [i] }
  | .initChannelCache copy =>
    if s.memoryCacheEnabled then { s with cached := copy, index := Function.update s.index copy (s.index s.cached) } else s

/-- Every call returns an enabled key, and as many calls in a row as there are of them return each
of them once, in cyclic order. -/
def Fair : Prop := s.failed = 0 ∧ (∀ i ∈ s.returned, i ∈ places n enabled) ∧ Windows (places n enabled).length (· ~r places n enabled) s.returned

/-- A call is made on the copy that the cache holds. -/
def Through : Op → Prop
  | .getNextEnabledKey copy => s.memoryCacheEnabled = true → copy = s.cached
  | .initChannelCache _ => True

/-- The keys to come go on where those returned end. -/
def Ordered : Prop := s.failed = 0 ∧ (∀ i ∈ s.returned, i ∈ places n enabled) ∧
  Windows (places n enabled).length (· ~r places n enabled) (s.returned ++ ahead n enabled (startOf n s))

variable {n enabled s}

theorem startReduced {i} (low : i < n) (written : s.cacheGetChannelInfo = i) : startOf n s = i := by
  unfold startOf
  rw [written,if_neg (by omega)]
  rfl

theorem orderedStep (something : places n enabled ≠ []) (op) (ordered : Ordered n enabled s) (through : Through s op) :
    Ordered n enabled (step n enabled s op) := by
  cases op with
  | initChannelCache copy =>
    have same : (step n enabled s (.initChannelCache copy)).cacheGetChannelInfo = s.cacheGetChannelInfo := by
      by_cases memory : s.memoryCacheEnabled <;> simp [step,Polling.cacheGetChannelInfo,memory]
    unfold Ordered startOf
    rw [same,step]
    split <;> exact ordered
  | getNextEnabledKey copy =>
    cases found : next n enabled (startOf n s) with
    | none => exact absurd (nextNone found) something
    | some i =>
      obtain ⟨_,order,after⟩ := aheadNext found
      have mem : i ∈ places n enabled := (aheadRotated _ _ _).perm.mem_iff.mp (order ▸ mem_cons_self)
      have written : (step n enabled s (.getNextEnabledKey copy)).cacheGetChannelInfo = ((i + 1) % n : Nat) := by
        by_cases memory : s.memoryCacheEnabled = true
        · simp [step,found,Polling.cacheGetChannelInfo,memory,through memory]
        · simp [step,found,Polling.cacheGetChannelInfo,memory]
      have returned : (step n enabled s (.getNextEnabledKey copy)).returned = s.returned ++ [i] := by simp [step,found]
      have failed : (step n enabled s (.getNextEnabledKey copy)).failed = s.failed := by simp [step,found]
      have low := mem_range.mp (mem_filter.mp mem).1
      unfold Ordered
      rw [returned,failed,startReduced (Nat.mod_lt _ (Nat.zero_lt_of_lt low)) written,after]
      refine ⟨ordered.1,fun j inside => ?_,?_⟩
      · rcases mem_append.mp inside with old | new
        · exact ordered.2.1 j old
        · cases mem_singleton.mp new
          exact mem
      · have windows := ordered.2.2
        have size := (aheadRotated n enabled (startOf n s)).perm.length_eq
        have last := aheadRotated n enabled ((i + 1) % n)
        rw [order] at windows size
        rw [after] at last
        rw [← size] at windows ⊢
        exact windowsTurn windows last

theorem pollingFair (something : places n enabled ≠ []) (fresh : s.returned = [] ∧ s.failed = 0) {ops}
    (through : Along (step n enabled) Through s ops) : Always (step n enabled) (Fair n enabled) s ops := by
  have start : Ordered n enabled s := by
    unfold Ordered
    rw [fresh.1,nil_append]
    refine ⟨fresh.2,forall_mem_nil _,?_⟩
    have rotated := aheadRotated n enabled (startOf n s)
    rw [← rotated.perm.length_eq]
    exact windowsOne rotated
  refine alwaysMono (fun _ ordered => ⟨ordered.1,ordered.2.1,windowsPrefix ordered.2.2⟩) (alwaysKept ?_ start through)
  exact fun s op => orderedStep something op

end Step

theorem rebuildFair : Always (step 3 (· ≠ 1)) (Fair 3 (· ≠ 1)) ⟨true,0,fun _ => 0,0,[],0⟩
    [.getNextEnabledKey 0,.initChannelCache 1,.getNextEnabledKey 1,.getNextEnabledKey 1] :=
  pollingFair (by decide) ⟨rfl,rfl⟩ ⟨fun _ => rfl,trivial,fun _ => rfl,fun _ => rfl,trivial⟩

theorem copyRepeats : ¬ Always (step 2 (fun _ => true)) (Fair 2 (fun _ => true)) ⟨true,0,fun _ => 0,0,[],0⟩
    [.getNextEnabledKey 1,.getNextEnabledKey 1] := by
  intro always
  have window := (alwaysLast always).2.2 0 (by decide)
  revert window
  decide

end NovaPuraRouter.ChannelPolling
