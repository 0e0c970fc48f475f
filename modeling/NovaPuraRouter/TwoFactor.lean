import NovaPuraRouter.Execution

/-! Verification of second factors for one account, any number of requests at a time. A
request loads the row, checks the lock on it, evaluates its code and records the outcome: a
failure by compare-and-swap in a few tries, a success by saving. A code has the form of a
TOTP code or of a backup code, never both, and is evaluated once. -/
namespace NovaPuraRouter.TwoFactor
open List

def maxFailAttempts : Nat := 5

def lockoutDuration : Int := 300

def maxUpdateRetries : Nat := 5

structure TwoFA where
  failedAttempts : Nat
  lockedUntil : Option Int
  deriving DecidableEq, Repr

def TwoFA.isLocked (t : TwoFA) (now : Int) : Bool := t.lockedUntil.any (now < ·)

def TwoFA.locks (t : TwoFA) : Prop := maxFailAttempts ≤ t.failedAttempts + 1

instance (t : TwoFA) : Decidable t.locks := by unfold TwoFA.locks; infer_instance

def TwoFA.failed (t : TwoFA) (now : Int) : TwoFA :=
  ⟨t.failedAttempts + 1,if t.locks then some (now + lockoutDuration) else t.lockedUntil⟩

inductive Phase
  | loaded (t : TwoFA)
  | counting (tries : Nat)
  | swapping (current : TwoFA) (now : Int) (tries : Nat)
  | saving
  | done
  deriving DecidableEq, Repr

def Phase.records : Phase → Bool
  | .loaded _ | .done => false
  | .counting _ | .swapping _ _ _ | .saving => true

/- `wrong`: wrong codes evaluated since the last success or lock; `early`: a code was
evaluated while the row was locked. -/
structure Account where
  row : TwoFA
  clock : Int
  requests : List Phase
  wrong : Nat
  early : Bool

def fresh (row : TwoFA) (clock : Int) : Account := ⟨row,clock,[],0,false⟩

inductive Op
  | elapse (seconds : Nat)
  | load
  | advance (i : Nat) (valid : Bool)

variable (a : Account)

def Account.to (i : Nat) (p : Phase) : Account := { a with requests := a.requests.set i p }

def evaluate (i : Nat) (t : TwoFA) (valid : Bool) : Account :=
  if t.isLocked a.clock then a.to i .done
  else { a.to i (if valid then .saving else .counting maxUpdateRetries) with
    wrong := if valid then 0 else a.wrong + 1
    early := a.early || a.row.isLocked a.clock }

def compareAndSwap (i : Nat) (current : TwoFA) (now : Int) (tries : Nat) : Account :=
  if a.row.failedAttempts = current.failedAttempts ∧ a.row.isLocked now = false then
    { a.to i .done with
      row := current.failed now
      wrong := if current.locks then 0 else a.wrong }
  else a.to i (.counting tries)

def advance (i : Nat) (valid : Bool) : Account := match a.requests[i]? with
  | none | some .done => a
  | some (.loaded t) => evaluate a i t valid
  | some (.counting 0) => a.to i .done
  | some (.counting (tries + 1)) => a.to i (if a.row.isLocked a.clock then .done else .swapping a.row a.clock tries)
  | some (.swapping current now tries) => compareAndSwap a i current now tries
  | some .saving => { a.to i .done with row := ⟨0,none⟩ }

def step : Op → Account
  | .elapse seconds => { a with clock := a.clock + seconds }
  | .load => { a with requests := a.requests ++ [.loaded a.row] }
  | .advance i valid => advance a i valid

def Bounded : Prop := a.wrong ≤ maxFailAttempts ∧ a.early = false

/- A code is evaluated under the lock the row still has, while no outcome is being recorded. -/
def Current : Op → Prop
  | .advance i _ => match a.requests[i]? with
    | some (.loaded t) => t.lockedUntil = a.row.lockedUntil ∧ ∀ p ∈ a.requests, p.records = false
    | _ => True
  | _ => True

instance (a op) : Decidable (Current a op) := by
  cases op <;> unfold Current
  all_goals dsimp only
  all_goals first
    | infer_instance
    | (split <;> infer_instance)

def Settled : Prop := a.wrong ≤ a.row.failedAttempts ∧ (maxFailAttempts ≤ a.row.failedAttempts → a.wrong = 0)

def Owing : Prop := a.wrong ≤ a.row.failedAttempts + 1 ∧ (maxFailAttempts ≤ a.row.failedAttempts → a.wrong ≤ 1)

def Due : Option Phase → Prop
  | some (.counting tries) => tries = maxUpdateRetries ∧ Owing a ∧ a.row.isLocked a.clock = false
  | some (.swapping current now _) => current = a.row ∧ Owing a ∧ a.row.isLocked now = false
  | some .saving => a.wrong = 0
  | _ => Settled a

structure Guarded (a : Account) (i : Nat) : Prop where
  early : a.early = false
  due : Due a a.requests[i]?
  others : ∀ j p, j ≠ i → a.requests[j]? = some p → p.records = false

section Step
variable {a : Account} {i : Nat}

theorem guardedBounded (guarded : Guarded a i) : Bounded a := by
  refine ⟨?_,guarded.early⟩
  have due := guarded.due
  unfold Due Settled Owing at due
  unfold maxFailAttempts at *
  split at due <;> omega

theorem settledOf (due : Due a a.requests[i]?) (nothing : ∀ p ∈ a.requests, p.records = false) : Settled a := by
  unfold Due at due
  split at due
  case h_4 => exact due
  all_goals
    rename_i found
    exact absurd (nothing _ (mem_of_getElem? found)) (by simp [Phase.records])

theorem isLockedLater {t : TwoFA} {now} (free : t.isLocked now = false) (seconds : Nat) : t.isLocked (now + seconds) = false := by
  unfold TwoFA.isLocked at *
  cases held : t.lockedUntil with
  | none => rfl
  | some =>
    simp only [held,Option.any_some,decide_eq_false_iff_not] at free ⊢
    omega

theorem guardedTo {b p q} (others : ∀ j p, j ≠ i → a.requests[j]? = some p → p.records = false) (here : a.requests[i]? = some q)
    (moved : b.requests = a.requests.set i p) (early : b.early = false) (due : Due b (some p)) : Guarded b i := by
  obtain ⟨low,_⟩ := List.getElem?_eq_some_iff.mp here
  refine ⟨early,?_,?_⟩
  · rw [moved,getElem?_set_self low]
    exact due
  · intro j q other found
    rw [moved,getElem?_set_ne (Ne.symm other)] at found
    exact others j q other found

section
variable (guarded : Guarded a i)
include guarded

theorem guardedEvaluate {t j} (here : a.requests[j]? = some (.loaded t)) (valid)
    (lock : t.lockedUntil = a.row.lockedUntil) (nothing : ∀ p ∈ a.requests, p.records = false) : Guarded (evaluate a j t valid) j := by
  have settled := settledOf guarded.due nothing
  have others : ∀ k p, k ≠ j → a.requests[k]? = some p → p.records = false := fun _ _ _ found => nothing _ (mem_of_getElem? found)
  have same : t.isLocked a.clock = a.row.isLocked a.clock := by simp only [TwoFA.isLocked,lock]
  unfold evaluate
  split
  · exact guardedTo others here rfl guarded.early settled
  rename_i free
  rw [same,Bool.not_eq_true] at free
  refine guardedTo others here rfl (by simp [free,guarded.early]) ?_
  cases valid with
  | true => rfl
  | false => exact ⟨rfl,⟨Nat.succ_le_succ settled.1,fun full => by simp [settled.2 full]⟩,free⟩

theorem guardedSwap {current now tries} (here : a.requests[i]? = some (.swapping current now tries)) :
    Guarded (compareAndSwap a i current now tries) i := by
  have due := guarded.due
  rw [here] at due
  obtain ⟨rfl,owing,free⟩ := due
  unfold compareAndSwap
  rw [if_pos ⟨rfl,free⟩]
  refine guardedTo guarded.others here rfl guarded.early ?_
  split
  · exact ⟨Nat.zero_le _,fun _ => rfl⟩
  · rename_i free
    exact ⟨owing.1,fun full => absurd full free⟩

theorem guardedAdvance (j valid) (current : Current a (.advance j valid)) : ∃ k, Guarded (advance a j valid) k := by
  unfold advance
  have own : ∀ {p : Phase}, a.requests[j]? = some p → p.records = true → j = i := by
    intro p here records
    by_cases same : j = i
    · exact same
    · exact absurd (guarded.others j p same here) (by simp [records])
  split
  · exact ⟨i,guarded⟩
  · exact ⟨i,guarded⟩
  · rename_i t here
    simp only [Current,here] at current
    obtain ⟨lock,nothing⟩ := current
    exact ⟨j,guardedEvaluate guarded here valid lock nothing⟩
  · rename_i here
    obtain rfl := own here rfl
    have due := guarded.due
    rw [here] at due
    exact absurd due.1 (by decide)
  · rename_i tries here
    obtain rfl := own here rfl
    have due := guarded.due
    rw [here] at due
    refine ⟨j,guardedTo guarded.others here rfl guarded.early ?_⟩
    rw [due.2.2]
    exact ⟨rfl,due.2⟩
  · rename_i here
    obtain rfl := own here rfl
    exact ⟨j,guardedSwap guarded here⟩
  · rename_i here
    obtain rfl := own here rfl
    have due := guarded.due
    rw [here] at due
    exact ⟨j,guardedTo guarded.others here rfl guarded.early ⟨Nat.le_of_eq due,fun _ => due⟩⟩

theorem guardedElapse (seconds) : Guarded (step a (.elapse seconds)) i := by
  refine ⟨guarded.early,?_,guarded.others⟩
  have due := guarded.due
  simp only [step]
  cases here : a.requests[i]? with
  | none =>
    rw [here] at due
    exact due
  | some p =>
    rw [here] at due
    cases p with
    | counting => exact ⟨due.1,due.2.1,isLockedLater due.2.2 seconds⟩
    | _ => exact due

theorem guardedLoad : Guarded (step a .load) i := by
  refine ⟨guarded.early,?_,?_⟩
  · have due := guarded.due
    simp only [step]
    by_cases low : i < a.requests.length
    · rw [getElem?_append_left low]
      exact due
    · rw [getElem?_eq_none (by omega)] at due
      rw [getElem?_append_right (by omega),getElem?_singleton]
      split <;> exact due
  · intro j p other found
    simp only [step] at found
    by_cases low : j < a.requests.length
    · rw [getElem?_append_left low] at found
      exact guarded.others j p other found
    · rw [getElem?_append_right (by omega),getElem?_singleton] at found
      split at found <;> cases found
      rfl

end

end Step

theorem currentBounded (row : TwoFA) (clock : Int) {ops : List Op} (current : Along step Current (fresh row clock) ops) :
    Always step Bounded (fresh row clock) ops := by
  refine alwaysMono (fun a (guarded : ∃ i, Guarded a i) => guardedBounded guarded.choose_spec) (alwaysKept ?_ ?_ current)
  · rintro a op ⟨i,guarded⟩ here
    cases op with
    | elapse seconds => exact ⟨i,guardedElapse guarded seconds⟩
    | load => exact ⟨i,guardedLoad guarded⟩
    | advance j valid => exact guardedAdvance guarded j valid here
  · exact ⟨0,rfl,⟨Nat.zero_le _,fun _ => rfl⟩,fun _ _ _ found => by cases found⟩

/- Five wrong codes lock the account; the right one is accepted once the lock is over. -/
theorem lockedThenSuccess : Always step Bounded (fresh ⟨0,none⟩ 0)
    ((List.range 5).flatMap (fun i => .load :: List.replicate 3 (.advance i false)) ++
      [.load,.advance 5 true,.elapse 300,.load,.advance 6 true,.advance 6 true]) :=
  currentBounded ⟨0,none⟩ 0 (by decide +kernel)

/-- Six requests load the row before any of them has failed: six wrong codes are evaluated.
If five of them have failed by the time the sixth is evaluated, it is accepted under the lock. -/
theorem overlappingGuesses : ¬ Always step Bounded (fresh ⟨0,none⟩ 0) (List.replicate 6 .load ++ (List.range 6).map (.advance · false)) ∧
    ¬ Always step Bounded (fresh ⟨0,none⟩ 0) (List.replicate 6 .load ++ (List.range 5).flatMap
      (fun i => List.replicate 3 (.advance i false)) ++ [.advance 5 true]) := by
  constructor
  · intro always
    have last := (alwaysLast always).1
    revert last
    decide +kernel
  · intro always
    have last := (alwaysLast always).2
    revert last
    decide +kernel

end NovaPuraRouter.TwoFactor
