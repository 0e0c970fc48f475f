import NovaPuraRouter.TwoFactor

/-! The setup of the second factor beside verifications of codes. A request keeps the row it
loaded, and saving writes every column of that copy: over the row of its id, else as a new
row, which the unique user refuses or lets replace the row that is there. -/
namespace NovaPuraRouter.TwoFactorSetup

structure Row where
  id : Nat
  secret : String
  isEnabled : Bool
  usage : TwoFactor.TwoFA
  lastUsedAt : Option Int

def setup (row : Option Row) : Option (String × Bool) := row.map (fun r => (r.secret,r.isEnabled))

/- `seen`: the copies that requests hold; `made`: what the last operation on the setup made of it. -/
structure Account where
  row : Option Row
  nextId : Nat
  seen : List Row
  made : Option (String × Bool)

def Account.commit (a : Account) (row : Option Row) : Account := { a with row := row, made := setup row }

inductive Write
  | enable
  | delete
  | incrementFailedAttempts (now : Int)
  | updateUsage (now : Int)

/- Setup2FA loads, deletes a disabled row and creates; Enable2FA loads and enables; Disable2FA
and AdminDisable2FA load and delete, the first after a verification. A code is verified only
for a copy that is enabled. -/
inductive Op
  | load
  | create (secret : String)
  | write (i : Nat) (write : Write)

variable (replaces : Bool)

def save (row : Option Row) (copy : Row) : Option Row := match row with
  | none => some copy
  | some r => if r.id = copy.id ∨ replaces = true then some { copy with id := r.id } else some r

def written (a : Account) (copy : Row) : Write → Account
  | .enable => if copy.isEnabled then a else a.commit (save replaces a.row { copy with isEnabled := true, usage := ⟨0,none⟩ })
  | .delete => a.commit (a.row.filter (·.id ≠ copy.id))
  | .incrementFailedAttempts now => { a with row := a.row.map (fun r =>
      if r.id = copy.id ∧ r.usage.isLocked now = false then { r with usage := r.usage.failed now } else r) }
  | .updateUsage now => if copy.isEnabled then
      { a with row := save replaces a.row { copy with usage := ⟨0,none⟩, lastUsedAt := some now } } else a

def step (a : Account) : Op → Account
  | .load => { a with seen := a.seen ++ a.row.toList }
  | .create secret => match a.row with
    | some _ => a
    | none => { a.commit (some ⟨a.nextId,secret,false,⟨0,none⟩,none⟩) with nextId := a.nextId + 1 }
  | .write i write => ((a.seen[i]?).map (written replaces a · write)).getD a

def Kept (a : Account) : Prop := setup a.row = a.made

/- A success is saved while the row that was loaded is there and has the setup it had. -/
def Current (a : Account) : Op → Prop
  | .write i (.updateUsage _) => ∀ copy, a.seen[i]? = some copy → copy.isEnabled = true → ∃ r, a.row = some r ∧
    (r.id = copy.id ∨ replaces = true → copy.secret = r.secret ∧ copy.isEnabled = r.isEnabled)
  | _ => True

variable {replaces}

theorem savedIff {row copy} : setup (save replaces row copy) = setup row ↔
    ∃ r, row = some r ∧ (r.id = copy.id ∨ replaces = true → copy.secret = r.secret ∧ copy.isEnabled = r.isEnabled) := by
  cases row with
  | none => simp [save,setup]
  | some r =>
    by_cases own : r.id = copy.id ∨ replaces = true <;> simp [save,setup,own]

theorem keptIff (a op) (kept : Kept a) : Kept (step replaces a op) ↔ Current replaces a op := by
  unfold Kept at kept
  cases op with
  | load => exact iff_of_true kept trivial
  | create =>
    refine iff_of_true ?_ trivial
    rw [step]
    split
    · exact kept
    · rfl
  | write i write =>
    cases held : a.seen[i]? with
    | none =>
      have same : step replaces a (.write i write) = a := by simp [step,held]
      rw [same]
      refine iff_of_true kept ?_
      cases write with
      | updateUsage => exact fun copy found => by cases held.symm.trans found
      | _ => trivial
    | some copy =>
      have moved : step replaces a (.write i write) = written replaces a copy write := by simp [step,held]
      rw [moved]
      cases write with
      | enable =>
        refine iff_of_true ?_ trivial
        rw [written]
        split
        · exact kept
        · rfl
      | delete => exact iff_of_true rfl trivial
      | incrementFailedAttempts =>
        refine iff_of_true (Eq.trans ?_ kept) trivial
        simp only [written,setup,Option.map_map]
        congr 1
        funext r
        simp only [Function.comp]
        split <;> rfl
      | updateUsage =>
        simp only [written,Current,held,Option.some.injEq,forall_eq']
        split
        · rename_i enabled
          simp only [Kept,← kept,savedIff,enabled,true_imp_iff]
        · rename_i disabled
          exact iff_of_true kept (fun enabled => absurd enabled disabled)

theorem setupKeptIff (replaces : Bool) (row : Option Row) (nextId : Nat) (ops : List Op) :
    Always (step replaces) Kept ⟨row,nextId,[],setup row⟩ ops ↔ Along (step replaces) (Current replaces) ⟨row,nextId,[],setup row⟩ ops :=
  alwaysIffKept keptIff rfl

theorem disabledComesBack : ¬ Always (step false) Kept ⟨none,1,[],none⟩
    [.create "secret",.load,.write 0 .enable,.load,.write 1 .delete,.write 1 (.updateUsage 10)] := by
  intro always
  have last := alwaysLast always
  unfold Kept at last
  revert last
  decide +kernel

end NovaPuraRouter.TwoFactorSetup
