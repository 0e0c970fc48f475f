import NovaPuraRouter.Execution
import Mathlib.Tactic.SplitIfs

/-! Operations on a token that ask for no new quota, while it is spent from. Each reads the
row and writes it later: an edit all of Update's columns, remain_quota among them, a
marking the status. Spending adds to the row in one statement. -/
namespace NovaPuraRouter.TokenEdit

inductive Status
  | enabled | disabled | expired | exhausted | other (value : Int)
  deriving DecidableEq, Repr

structure Token where
  status : Status
  expiredTime : Int
  remainQuota : Int
  unlimitedQuota : Bool
  modelLimitsEnabled : Bool
  modelLimits : String
  deriving DecidableEq, Repr

/- A write still to come. An edit knows whether its status is the owner's choice, a marking
how many choices the row had seen when it was read. -/
inductive Call
  | update (token : Token) (chosen : Bool)
  | selectUpdate (token : Token) (choices : Nat)

/- `owned`: the row has the status the owner chose last; `replaced`: a marking from before
that choice has changed it. -/
structure Store where
  row : Token
  pending : Int
  calls : List Call
  net : Int
  choices : Nat
  owned : Bool
  replaced : Bool

def fresh (row : Token) : Store := ⟨row,0,[],0,0,false,false⟩

inductive Op
  | increaseTokenQuota (quota : Int)
  | decreaseTokenQuota (quota : Int)
  | batchUpdate
  | updateToken (status : Status) (now : Int)
  | disableModelLimits
  | validateUserToken (now : Int)
  | write (i : Nat)

/- `delta` is the quota or its negative; a negative quota is refused. -/
def addQuota (batch : Bool) (s : Store) (quota delta : Int) : Store :=
  if quota < 0 then s
  else if batch then { s with pending := s.pending + delta, net := s.net + delta }
  else { s with row.remainQuota := s.row.remainQuota + delta, net := s.net + delta }

variable (s : Store) (status : Status)

/- With status_only. A token that is expired or exhausted is not enabled again. -/
def updateToken (now : Int) : Store :=
  if status = .enabled ∧ (s.row.status = .expired ∧ s.row.expiredTime ≤ now ∧ s.row.expiredTime ≠ -1 ∨
      s.row.status = .exhausted ∧ s.row.remainQuota ≤ 0 ∧ s.row.unlimitedQuota = false) then s
  else { s with calls := s.calls ++ [.update { s.row with status := status } true] }

def disableModelLimits : Store :=
  { s with calls := s.calls ++ [.update { s.row with modelLimitsEnabled := false, modelLimits := "" } false] }

def mark : Store :=
  { s with calls := s.calls ++ [.selectUpdate { s.row with status := status } s.choices] }

def validateUserToken (redis : Bool) (s : Store) (now : Int) : Store :=
  if redis = true ∨ s.row.status ≠ .enabled then s
  else if s.row.expiredTime ≠ -1 ∧ s.row.expiredTime < now then mark s .expired
  else if s.row.unlimitedQuota = false ∧ s.row.remainQuota ≤ 0 then mark s .exhausted
  else s

def write (i : Nat) : Store := match s.calls[i]? with
  | none => s
  | some (.update token chosen) => { s with
      row := token
      calls := s.calls.eraseIdx i
      choices := if chosen then s.choices + 1 else s.choices
      owned := chosen || (s.owned && token.status = s.row.status) }
  | some (.selectUpdate token choices) => { s with
      row.status := token.status
      calls := s.calls.eraseIdx i
      owned := s.owned && token.status = s.row.status
      replaced := s.replaced || (s.owned && choices ≠ s.choices && token.status ≠ s.row.status) }

def step (batch redis : Bool) (s : Store) : Op → Store
  | .increaseTokenQuota quota => addQuota batch s quota quota
  | .decreaseTokenQuota quota => addQuota batch s quota (-quota)
  | .batchUpdate => { s with row.remainQuota := s.row.remainQuota + s.pending, pending := 0 }
  | .updateToken status now => updateToken s status now
  | .disableModelLimits => disableModelLimits s
  | .validateUserToken now => validateUserToken redis s now
  | .write i => write s i

def Kept (start : Int) (s : Store) : Prop := s.row.remainQuota + s.pending = start + s.net ∧ s.replaced = false

def Current : Op → Prop
  | .write i => match s.calls[i]? with
    | none => True
    | some (.update token _) => token.remainQuota = s.row.remainQuota
    | some (.selectUpdate token choices) => s.owned = true → choices = s.choices ∨ token.status = s.row.status
  | _ => True

/- An edit finds the quota it has read, and between the read of a marking and its write no
choice of the owner is written. -/
def Undisturbed : Op → Prop
  | .write i => match s.calls[i]? with
    | none => True
    | some (.update token _) => token.remainQuota = s.row.remainQuota
    | some (.selectUpdate _ choices) => choices = s.choices
  | _ => True

section Step
variable {start : Int} {s : Store}

section
variable (kept : Kept start s)
include kept

theorem keptQuota (batch quota delta) : Kept start (addQuota batch s quota delta) := by
  obtain ⟨balance,own⟩ := kept
  unfold addQuota
  split_ifs
  · exact ⟨balance,own⟩
  · exact ⟨by dsimp only; omega,own⟩
  · exact ⟨by dsimp only; omega,own⟩

theorem keptUpdate (status now) : Kept start (updateToken s status now) := by
  unfold updateToken
  split_ifs <;> exact kept

theorem keptValidate (redis now) : Kept start (validateUserToken redis s now) := by
  unfold validateUserToken
  split_ifs <;> exact kept

theorem keptWrite (i) : Kept start (write s i) ↔ Current s (.write i) := by
  obtain ⟨balance,own⟩ := kept
  simp only [write,Current]
  cases s.calls[i]? with
  | none => exact iff_of_true ⟨balance,own⟩ trivial
  | some call =>
    cases call with
    | update =>
      simp only [Kept,own,and_true]
      omega
    | selectUpdate => simp [Kept,own,balance,imp_iff_not_or,or_assoc]

theorem keptStep (batch redis op) : Kept start (step batch redis s op) ↔ Current s op := by
  cases op with
  | increaseTokenQuota quota => exact iff_of_true (keptQuota kept batch quota quota) trivial
  | decreaseTokenQuota quota => exact iff_of_true (keptQuota kept batch quota (-quota)) trivial
  | batchUpdate => exact iff_of_true ⟨(Int.add_zero _).trans kept.1,kept.2⟩ trivial
  | updateToken status now => exact iff_of_true (keptUpdate kept status now) trivial
  | disableModelLimits => exact iff_of_true kept trivial
  | validateUserToken now => exact iff_of_true (keptValidate kept redis now) trivial
  | write i => exact keptWrite kept i

end

theorem undisturbedCurrent {op} (undisturbed : Undisturbed s op) : Current s op := by
  cases op with
  | write i =>
    simp only [Undisturbed,Current] at undisturbed ⊢
    cases held : s.calls[i]? with
    | none => trivial
    | some call =>
      rw [held] at undisturbed
      cases call with
      | update => exact undisturbed
      | selectUpdate => exact fun _ => .inl undisturbed
  | _ => trivial

end Step

theorem keptIffCurrent (batch redis : Bool) (row : Token) (ops : List Op) :
    Always (step batch redis) (Kept row.remainQuota) (fresh row) ops ↔ Along (step batch redis) Current (fresh row) ops :=
  alwaysIffKept (fun _ op kept => keptStep kept batch redis op) ⟨by simp [fresh],rfl⟩

theorem undisturbedKept (batch redis : Bool) (row : Token) {ops : List Op} (undisturbed : Along (step batch redis) Undisturbed (fresh row) ops) :
    Always (step batch redis) (Kept row.remainQuota) (fresh row) ops :=
  alwaysKept (fun _ op kept here => (keptStep kept batch redis op).mpr (undisturbedCurrent here)) ⟨by simp [fresh],rfl⟩ undisturbed

/-- Disabling a token gives back what was spent while it was under way; a token its owner
has disabled becomes exhausted. -/
theorem staleWrites : ¬ Always (step false false) (Kept 10) (fresh ⟨.enabled,-1,10,false,false,""⟩)
      [.updateToken .disabled 0,.decreaseTokenQuota 4,.write 0] ∧
    ¬ Always (step false false) (Kept 0) (fresh ⟨.enabled,-1,0,false,false,""⟩)
      [.validateUserToken 0,.updateToken .disabled 0,.write 1,.write 0] := by
  constructor
  · intro always
    have last := (alwaysLast always).1
    revert last
    decide +kernel
  · intro always
    have last := (alwaysLast always).2
    revert last
    decide +kernel

end NovaPuraRouter.TokenEdit
