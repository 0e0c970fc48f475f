import NovaPuraRouter.Execution

/-! Single use of second-factor codes. A verification lists the backup codes and marks one
later, by an update that must find it unused; new codes replace the old ones in one
transaction. Of a TOTP code nothing is kept. -/
namespace NovaPuraRouter.TwoFactorOnce
open List

structure TwoFABackupCode where
  id : Nat
  code : String
  isUsed : Bool

inductive Code
  | backup (id : Nat)
  | totp (secret : String) (timeStep : Nat)
  deriving DecidableEq

/- `held`: the rows that verifications are about to mark; `since`: the rows before it were
replaced or removed; `late`: one of these was accepted. -/
structure Account where
  rows : List TwoFABackupCode
  nextId : Nat
  held : List Nat
  accepted : List Code
  since : Nat
  late : Bool

inductive Op
  | createBackupCodes (codes : List String)
  | delete
  | listBackupCodes (code : String)
  | markBackupCode (i : Nat)
  | validateTOTP (secret : String) (timeStep : Nat)

variable (a : Account)

def Account.replace (codes : List String) : Account := { a with
  rows := codes.mapIdx (fun k code => ⟨a.nextId + k,code,false⟩), nextId := a.nextId + codes.length, since := a.nextId }

def Account.mark (id : Nat) : Account :=
  let rowsAffected := (a.rows.filter (fun r => r.id = id ∧ r.isUsed = false)).length
  let marked := { a with rows := a.rows.map (fun r => { r with isUsed := r.isUsed || r.id = id }) }
  if rowsAffected = 1 then { marked with accepted := .backup id :: a.accepted, late := a.late || id < a.since } else marked

def step : Op → Account
  | .createBackupCodes codes => a.replace codes
  | .delete => a.replace []
  | .listBackupCodes code => { a with
      held := a.held ++ ((a.rows.find? (fun r => r.isUsed = false ∧ r.code = code)).map (·.id)).toList }
  | .markBackupCode i => (a.held[i]?).elim a a.mark
  | .validateTOTP secret timeStep => { a with accepted := .totp secret timeStep :: a.accepted }

def Once : Prop := a.accepted.Nodup ∧ a.late = false

def Unseen : Op → Prop
  | .validateTOTP secret timeStep => .totp secret timeStep ∉ a.accepted
  | _ => True

structure Issued (a : Account) : Prop where
  rows : ∀ r ∈ a.rows, a.since ≤ r.id ∧ r.id < a.nextId
  spent : ∀ id, .backup id ∈ a.accepted → id < a.nextId ∧ ∀ r ∈ a.rows, r.id = id → r.isUsed = true

variable {a}

theorem issuedReplace (issued : Issued a) (codes) : Issued (a.replace codes) := by
  have new : ∀ r ∈ (a.replace codes).rows, a.nextId ≤ r.id ∧ r.id < a.nextId + codes.length := by
    intro r inside
    obtain ⟨k,low,rfl⟩ := mem_mapIdx.mp inside
    exact ⟨Nat.le_add_right _ _,Nat.add_lt_add_left low _⟩
  refine ⟨new,fun id taken => ⟨Nat.lt_add_right _ (issued.spent id taken).1,fun r inside same => ?_⟩⟩
  exact absurd (same ▸ (issued.spent id taken).1) (Nat.not_lt.mpr (new r inside).1)

theorem markKeeps (issued : Issued a) (id) : Issued (a.mark id) ∧ (Once a → Once (a.mark id)) := by
  have used : ∀ {other}, .backup other ∈ a.accepted → other < a.nextId ∧
      ∀ r ∈ a.rows.map (fun r => { r with isUsed := r.isUsed || r.id = id }), r.id = other → r.isUsed = true := by
    intro other taken
    refine ⟨(issued.spent other taken).1,forall_mem_map.mpr (fun r inside same => ?_)⟩
    exact Bool.or_eq_true_iff.mpr (.inl ((issued.spent other taken).2 r inside same))
  unfold Account.mark
  dsimp only
  split
  · rename_i affected
    obtain ⟨r,found⟩ := exists_mem_of_length_pos (affected ▸ Nat.one_pos)
    obtain ⟨inside,same⟩ := mem_filter.mp found
    obtain ⟨rfl,unused⟩ := of_decide_eq_true same
    obtain ⟨still,low⟩ := issued.rows r inside
    refine ⟨⟨forall_mem_map.mpr issued.rows,fun other taken => ?_⟩,fun once => ⟨nodup_cons.mpr ⟨fun taken => ?_,once.1⟩,?_⟩⟩
    · rcases mem_cons.mp taken with same | taken
      · cases same
        exact ⟨low,forall_mem_map.mpr (fun r' _ same => Bool.or_eq_true_iff.mpr (.inr (decide_eq_true same)))⟩
      · exact used taken
    · exact Bool.false_ne_true (unused.symm.trans ((issued.spent r.id taken).2 r inside rfl))
    · exact Bool.or_eq_false_iff.mpr ⟨once.2,decide_eq_false (Nat.not_lt.mpr still)⟩
  · exact ⟨⟨forall_mem_map.mpr issued.rows,fun _ taken => used taken⟩,fun once => once⟩

theorem stepKeeps (a op) (issued : Issued a) : Issued (step a op) ∧ (Once a → (Once (step a op) ↔ Unseen a op)) := by
  cases op with
  | createBackupCodes codes => exact ⟨issuedReplace issued codes,fun once => iff_of_true once trivial⟩
  | delete => exact ⟨issuedReplace issued [],fun once => iff_of_true once trivial⟩
  | listBackupCodes => exact ⟨{ issued with },fun once => iff_of_true once trivial⟩
  | markBackupCode i =>
    rw [step]
    cases a.held[i]? with
    | none => exact ⟨issued,fun once => iff_of_true once trivial⟩
    | some id => exact ⟨(markKeeps issued id).1,fun once => iff_of_true ((markKeeps issued id).2 once) trivial⟩
  | validateTOTP =>
    refine ⟨⟨issued.rows,fun id taken => issued.spent id ?_⟩,fun once => ?_⟩
    · exact (mem_cons.mp taken).resolve_left Code.noConfusion
    · exact ⟨fun after => (nodup_cons.mp after.1).1,fun unseen => ⟨nodup_cons.mpr ⟨unseen,once.1⟩,once.2⟩⟩

def opening : Account := ⟨[],0,[],[],0,false⟩

theorem codesOnce (ops : List Op) : Always step Once opening ops ↔ Along step Unseen opening ops :=
  alwaysIffAlong (fun a op issued => (stepKeeps a op issued).1) (fun _ _ once => once) (fun _ _ _ _ next => next)
    (fun a op issued => (stepKeeps a op issued).2) ⟨forall_mem_nil _,fun _ nothing => absurd nothing not_mem_nil⟩ ⟨nodup_nil,rfl⟩

theorem totpTwice : ¬ Always step Once opening [.validateTOTP "secret" 1,.validateTOTP "secret" 1] := by
  intro always
  exact absurd (alwaysLast always).1 (by decide)

end NovaPuraRouter.TwoFactorOnce
