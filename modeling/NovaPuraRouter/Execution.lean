import Mathlib.Logic.Basic

/-! Transactions and runs. A transaction is a function into `Except`: an error leaves the
state it found. A run applies the operations one after another; `Along` is a condition on
every step taken and `Always` a property of every state reached, the first included. -/
namespace NovaPuraRouter
open List

section Transaction
variable {ε α β σ : Type}

def require (p : Prop) [Decidable p] (e : ε) : Except ε Unit := if p then .ok () else .error e

def row (found : Option α) (e : ε) : Except ε α := match found with
  | some a => .ok a
  | none => .error e

def commit (s : σ) (result : Except ε σ) : σ := match result with
  | .ok s' => s'
  | .error _ => s

variable {e e' : ε} {x : Except ε α} {f : α → Except ε β}

theorem requireOk {p} [Decidable p] {u} : require p e = .ok u ↔ p := by
  unfold require
  split
  · simpa using by assumption
  · simpa using by assumption

theorem rowOk {found} {a : α} : row found e = .ok a ↔ found = some a := by
  cases found with
  | none | some => simp [row]

theorem bindOk {b} : (x >>= f) = .ok b ↔ ∃ a, x = .ok a ∧ f a = .ok b := by
  cases x with
  | error | ok => simp [bind,Except.bind]

theorem pureOk {a b} : (pure a : Except ε α) = .ok b ↔ a = b := by
  simp [pure,Except.pure]

theorem toOptionOk {a} : x.toOption = some a ↔ x = .ok a := by
  cases x with
  | error | ok => simp [Except.toOption]

theorem mapOk {f} {b : β} : x.map f = .ok b ↔ ∃ a, x = .ok a ∧ f a = b := by
  cases x with
  | error | ok => simp [Except.map]

theorem requireError {p} [Decidable p] : require p e = .error e' ↔ ¬ p ∧ e = e' := by
  unfold require
  split <;> simp [*]

theorem rowError {found : Option α} : row found e = .error e' ↔ found = none ∧ e = e' := by
  cases found with
  | none | some => simp [row]

theorem bindError : (x >>= f) = .error e ↔ x = .error e ∨ ∃ a, x = .ok a ∧ f a = .error e := by
  cases x with
  | error | ok => simp [bind,Except.bind]

theorem pureError {a} : ¬ (pure a : Except ε α) = .error e := by
  simp [pure,Except.pure]

theorem bindMapped {α' β' : Type} {y : Except ε α'} {e} {g : β → β'}
    {f' : α' → Except ε β'} (first : y = x.map e) (next : ∀ a, f' (e a) = (f a).map g) : (y >>= f') = (x >>= f).map g := by
  subst first
  cases x with
  | error => rfl
  | ok a => exact next a

theorem bindShared {β'} {g : β → β'} {f'} (next : ∀ a, f' a = (f a).map g) : (x >>= f') = (x >>= f).map g := by
  cases x with
  | error => rfl
  | ok a => exact next a

theorem commitCases (s) (result : Except ε σ) : (∃ s', result = .ok s' ∧ commit s result = s') ∨ commit s result = s := by
  cases result with
  | error => exact .inr rfl
  | ok s' => exact .inl ⟨s',rfl,rfl⟩

theorem commitPairCases (s) (result : Except ε (α × σ)) :
    (∃ a s', result = .ok (a,s') ∧ commit s (result.map Prod.snd) = s') ∨ commit s (result.map Prod.snd) = s := by
  cases result with
  | error => exact .inr rfl
  | ok r => exact .inl ⟨r.1,r.2,rfl,rfl⟩

theorem commitPairOf {s : σ} {result : Except ε (α × σ)} {post : σ → Prop} (same : post s)
    (done : ∀ a s', result = .ok (a,s') → post s') : post (commit s (result.map Prod.snd)) := by
  obtain ⟨a,s',ok,eq⟩ | eq := commitPairCases s result
  · rw [eq]
    exact done a s' ok
  · rw [eq]
    exact same

end Transaction

section Run
variable {σ ο : Type} (step : σ → ο → σ)

def run (s : σ) (ops : List ο) : σ := ops.foldl step s

def Along (cond : σ → ο → Prop) : σ → List ο → Prop
  | _, [] => True
  | s, op :: rest => cond s op ∧ Along cond (step s op) rest

def Always (good : σ → Prop) : σ → List ο → Prop
  | s, [] => good s
  | s, op :: rest => good s ∧ Always good (step s op) rest

variable {step}

instance alongDecidable {cond : σ → ο → Prop} [∀ s op, Decidable (cond s op)] :
    (s : σ) → (ops : List ο) → Decidable (Along step cond s ops)
  | _, [] => .isTrue trivial
  | s, op :: rest =>
    have : Decidable (Along step cond (step s op) rest) := alongDecidable (step s op) rest
    inferInstanceAs (Decidable (cond s op ∧ Along step cond (step s op) rest))

variable {good inv : σ → Prop} {s : σ} {ops : List ο} {cond : σ → ο → Prop}

theorem alwaysHere {s ops} (h : Always step good s ops) : good s := by
  cases ops with
  | nil => exact h
  | cons => exact h.1

theorem alwaysMono {better} (implies : ∀ s, better s → good s) (h : Always step better s ops) : Always step good s ops := by
  induction ops generalizing s with
  | nil => exact implies s h
  | cons _ _ ih => exact ⟨implies s h.1,ih h.2⟩

theorem alwaysPrefix : Always step good s ops ↔ ∀ before after, ops = before ++ after → good (run step s before) := by
  induction ops generalizing s with
  | nil =>
    constructor
    · intro h before after split
      obtain ⟨rfl,_⟩ := append_eq_nil_iff.mp split.symm
      exact h
    · intro h
      exact h [] [] rfl
  | cons op rest ih =>
    constructor
    · intro h before after split
      cases before with
      | nil => exact h.1
      | cons _ more =>
        obtain ⟨rfl,tail⟩ := List.cons.inj split
        exact ih.mp h.2 more after tail
    · intro h
      refine ⟨h [] (op::rest) rfl,ih.mpr ?_⟩
      intro before after split
      exact h (op::before) after (by rw [split]; rfl)

theorem alwaysLast (h : Always step good s ops) : good (run step s ops) := alwaysPrefix.mp h ops [] (append_nil ops).symm

theorem runKeeps {inv : σ → Prop} (keeps : ∀ s op, inv s → inv (step s op)) {s : σ} (ops) (here : inv s) : inv (run step s ops) := by
  induction ops generalizing s with
  | nil => exact here
  | cons op _ ih => exact ih (keeps s op here)

theorem alwaysOfKeeps (keeps : ∀ s op, inv s → inv (step s op))
    (implies : ∀ s, inv s → good s) (ops) (here : inv s) : Always step good s ops := by
  induction ops generalizing s with
  | nil => exact implies s here
  | cons op _ ih => exact ⟨implies s here,ih (keeps s op here)⟩

/-- A step that meets the condition keeps the property, so a run of such steps has
it throughout. `inv` is what every step keeps whether or not it meets the condition. -/
theorem alwaysOfAlong {inv good : σ → Prop} {cond : σ → ο → Prop} (keeps : ∀ s op, inv s → inv (step s op))
    (kept : ∀ s op, inv s → good s → cond s op → good (step s op))
    {s} {ops : List ο} (here : inv s) (start : good s) (along : Along step cond s ops) : Always step good s ops := by
  induction ops generalizing s with
  | nil => exact start
  | cons op _ ih => exact ⟨start,ih (keeps s op here) (kept s op here start along.1) along.2⟩

theorem alwaysKept (kept : ∀ s op, good s → cond s op → good (step s op)) (start : good s) (along : Along step cond s ops) :
    Always step good s ops :=
  @alwaysOfAlong σ ο step (fun _ => True) good cond (fun _ _ _ => trivial) (fun s op _ => kept s op) s ops trivial start along

/-- Where the condition is exact for one step it is exact for whole runs. `strong` is
what the property brings with it from one state to the next. -/
theorem alwaysIffAlong {inv strong good : σ → Prop} {cond : σ → ο → Prop}
    (keeps : ∀ s op, inv s → inv (step s op)) (weaken : ∀ s, inv s → strong s → good s)
    (lift : ∀ s op, inv s → strong s → good (step s op) → strong (step s op))
    (exactly : ∀ s op, inv s → strong s → (good (step s op) ↔ cond s op)) {s} {ops : List ο} (here : inv s) (start : strong s) :
    Always step good s ops ↔ Along step cond s ops := by
  induction ops generalizing s with
  | nil => exact ⟨fun _ => trivial,fun _ => weaken s here start⟩
  | cons op _ ih =>
    constructor
    · intro h
      have next := alwaysHere h.2
      exact ⟨(exactly s op here start).mp next,(ih (keeps s op here) (lift s op here start next)).mp h.2⟩
    · intro h
      have next := (exactly s op here start).mpr h.1
      exact ⟨weaken s here start,(ih (keeps s op here) (lift s op here start next)).mpr h.2⟩

theorem alwaysIffKept (exactly : ∀ s op, good s → (good (step s op) ↔ cond s op)) (start : good s) :
    Always step good s ops ↔ Along step cond s ops :=
  @alwaysIffAlong σ ο step (fun _ => True) good good cond (fun _ _ _ => trivial) (fun _ _ h => h) (fun _ _ _ _ next => next)
    (fun s op _ => exactly s op) s ops trivial start

/-- An invariant that steps under a condition keep turns the condition into another one. -/
theorem alongOfAlong {good} (keeps : ∀ s op, inv s → cond s op → inv (step s op)) (gives : ∀ s op, inv s → cond s op → good s op)
    (here : inv s) (along : Along step cond s ops) : Along step good s ops := by
  induction ops generalizing s with
  | nil => trivial
  | cons op _ ih => exact ⟨gives s op here along.1,ih (keeps s op here along.1) along.2⟩

theorem alongIff {other} (same : ∀ s op, cond s op ↔ other s op) : Along step cond s ops ↔ Along step other s ops := by
  induction ops generalizing s with
  | nil => exact Iff.rfl
  | cons op _ ih => exact and_congr (same s op) ih

/-- The same for a property of the last state only, which no later step brings back. -/
theorem runIffAlong {allowed : ο → Prop} (keeps : ∀ s op, allowed op → inv s → inv (step s op))
    (exactly : ∀ s op, allowed op → inv s → (good (step s op) ↔ good s ∧ cond s op)) (all : ∀ op ∈ ops, allowed op) (here : inv s) :
    good (run step s ops) ↔ good s ∧ Along step cond s ops := by
  induction ops generalizing s with
  | nil => exact ⟨fun h => ⟨h,trivial⟩,fun h => h.1⟩
  | cons op _ ih =>
    have first := all op mem_cons_self
    have tail := ih (fun x mem => all x (mem_cons_of_mem op mem)) (keeps s op first here)
    exact tail.trans (by rw [exactly s op first here,Along,and_assoc])

theorem runKeepsAllowed {allowed : ο → Prop} (keeps : ∀ s op, allowed op → inv s → inv (step s op))
    (all : ∀ op ∈ ops, allowed op) (here : inv s) : inv (run step s ops) := by
  induction ops generalizing s with
  | nil => exact here
  | cons op _ ih =>
    exact ih (fun x mem => all x (mem_cons_of_mem op mem)) (keeps s op (all op mem_cons_self) here)

/-- A step that changes the row of its own key only, and whose change does nothing twice, changes
over the keys of a list every row that it can change. -/
theorem runChanges {κ α : Type} [DecidableEq κ] (inv : σ → Prop) {f : σ → κ → σ} (get : σ → κ → Option α) {change : Option α → Option α}
    {keys : List κ}
    (twice : ∀ a, change (change a) = change a)
    (one : ∀ s, inv s → ∀ k ∈ keys, inv (f s k) ∧ ∀ j, get (f s k) j = if j = k then change (get s j) else get s j)
    (here : inv s) (others : ∀ j, j ∉ keys → change (get s j) = get s j) :
    inv (run f s keys) ∧ ∀ j, get (run f s keys) j = change (get s j) := by
  induction keys generalizing s with
  | nil => exact ⟨here,fun j => (others j not_mem_nil).symm⟩
  | cons k rest ih =>
    obtain ⟨first,row⟩ := one s here k mem_cons_self
    have left : ∀ j, j ∉ rest → change (get (f s k) j) = get (f s k) j := by
      intro j absent
      rw [row]
      split
      · exact twice _
      · rename_i other
        exact others j (fun mem => (mem_cons.mp mem).elim other absent)
    obtain ⟨last,gets⟩ := ih (fun s h j mem => one s h j (mem_cons_of_mem k mem)) first left
    refine ⟨last,fun j => (gets j).trans ?_⟩
    rw [row]
    split
    · exact twice _
    · rfl

end Run
end NovaPuraRouter
