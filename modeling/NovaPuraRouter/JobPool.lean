import Mathlib.Algebra.Order.Ring.Nat
import Mathlib.Algebra.Order.BigOperators.Group.List

/-! Goroutines that interleave. A goroutine is the list of jobs it has still to do, each of
them atomic; a crash forgets the rest of it. A weight of jobs is summed over the pool. -/
namespace NovaPuraRouter.JobPool
open List
variable {J : Type}

def next (pool : List (List J)) (i : Nat) : Option (J × List J) := match pool[i]? with
  | some (job :: rest) => some (job,rest)
  | _ => none

def load (w : J → Nat) (pool : List (List J)) : Nat := (pool.map (fun jobs => (jobs.map w).sum)).sum

variable {pool : List (List J)} {i : Nat} {job : J} {rest jobs : List J} {good : J → Prop}

theorem nextExact (found : next pool i = some (job,rest)) : pool[i]? = some (job::rest) := by
  unfold next at found
  split at found
  · rename_i here
    cases Option.some.inj found
    exact here
  · cases found

section
variable (w : J → Nat)
include w

@[simp] theorem loadNil : load w [] = 0 := rfl

@[simp] theorem loadCons (jobs pool) : load w (jobs::pool) = (jobs.map w).sum + load w pool := by
  simp [load]

theorem loadPush (pool jobs) : load w (pool ++ [jobs]) = load w pool + (jobs.map w).sum := by
  simp [load]

theorem loadAppend (pool more) : load w (pool ++ more) = load w pool + load w more := by
  simp [load]

theorem loadSet {old} (found : pool[i]? = some old) (new) : load w (pool.set i new) + (old.map w).sum = load w pool + (new.map w).sum := by
  induction pool generalizing i with
  | nil => simp at found
  | cons _ _ ih =>
    cases i with
    | zero =>
      cases Option.some.inj found
      simp only [set_cons_zero,loadCons]
      omega
    | succ =>
      have rest := ih found
      simp only [set_cons_succ,loadCons]
      omega

theorem loadStep (found : next pool i = some (job,rest)) (new) :
    load w (pool.set i (new ++ rest)) + w job = load w pool + (new.map w).sum := by
  have set := loadSet w (nextExact found) (new ++ rest)
  simp only [map_cons,sum_cons,map_append,sum_append] at set
  omega

theorem loadCrash (pool i) : load w (pool.set i []) ≤ load w pool := by
  cases found : pool[i]? with
  | none => rw [set_eq_of_length_le (List.getElem?_eq_none_iff.mp found)]
  | some =>
    have set := loadSet w found []
    simp only [map_nil,sum_nil] at set
    omega

end

theorem loadMem (w) (inPool : jobs ∈ pool) (inJobs : job ∈ jobs) : w job ≤ load w pool :=
  (single_le_sum (fun _ _ => Nat.zero_le _) _ (mem_map_of_mem inJobs)).trans
    (single_le_sum (fun _ _ => Nat.zero_le _) _ (mem_map_of_mem inPool))

def All (good : J → Prop) (pool : List (List J)) : Prop := ∀ jobs ∈ pool, ∀ job ∈ jobs, good job

theorem allMono {better} (implies : ∀ job, better job → good job) (all : All better pool) :
    All good pool := fun jobs inPool job inJobs => implies job (all jobs inPool job inJobs)

theorem allOne (here : good job) : All good [[job]] := forall_mem_singleton.mpr (forall_mem_singleton.mpr here)

theorem loadZero {w} (zero : All (fun job => w job = 0) pool) : load w pool = 0 := by
  refine sum_eq_zero ?_
  intro x inPool
  obtain ⟨jobs,mem,rfl⟩ := mem_map.mp inPool
  refine sum_eq_zero ?_
  intro y inJobs
  obtain ⟨job,here,rfl⟩ := mem_map.mp inJobs
  exact zero jobs mem job here

theorem loadPos {w} {pool : List (List J)} (pos : 0 < load w pool) : ∃ jobs ∈ pool, ∃ job ∈ jobs, 0 < w job := by
  by_contra none
  push Not at none
  exact absurd (loadZero (fun jobs mem job here => Nat.le_zero.mp (none jobs mem job here))) (ne_of_gt pos)

theorem allAppend {more} (all : All good pool) (here : All good more) : All good (pool ++ more) := by
  intro jobs mem
  rcases mem_append.mp mem with old | new
  · exact all jobs old
  · exact here jobs new

theorem allPush (all : All good pool) (here : ∀ job ∈ jobs, good job) : All good (pool ++ [jobs]) := by
  intro other inPool
  rcases mem_append.mp inPool with old | new
  · exact all other old
  · cases mem_singleton.mp new
    exact here

theorem allSet {new} (all : All good pool) (here : ∀ job ∈ new, good job) : All good (pool.set i new) := by
  intro other inPool
  rcases mem_or_eq_of_mem_set inPool with old | rfl
  · exact all other old
  · exact here

theorem allHead (all : All good pool) (found : next pool i = some (job,rest)) : good job :=
  all _ (mem_of_getElem? (nextExact found)) job mem_cons_self

theorem allStep {good} {pool : List (List J)} {i job rest new} (all : All good pool)
    (found : next pool i = some (job,rest)) (here : ∀ job ∈ new, good job) : All good (pool.set i (new ++ rest)) := by
  refine allSet all ?_
  intro other mem
  rcases mem_append.mp mem with added | left
  · exact here other added
  · exact all _ (mem_of_getElem? (nextExact found)) other (mem_cons_of_mem job left)

end NovaPuraRouter.JobPool
