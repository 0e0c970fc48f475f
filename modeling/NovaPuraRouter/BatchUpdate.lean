import NovaPuraRouter.Execution
import NovaPuraRouter.Expiring
import Mathlib.Data.List.Dedup

/-! Deltas gathered in memory and written to the rows by the batch updater. A pass swaps out
the five stores one lock after another, so records come between; then it runs one statement
for each token, channel and user it has taken. -/
namespace NovaPuraRouter.BatchUpdate
open List Function

inductive Kind
  | userQuota | tokenQuota | usedQuota | channelUsedQuota | requestCount
  deriving DecidableEq, Repr

def kinds : List Kind := [.userQuota,.tokenQuota,.usedQuota,.channelUsedQuota,.requestCount]

abbrev Stores := Kind → Table Nat Int

def Stores.at_ (stores : Stores) (kind : Kind) (id : Nat) : Int := ((stores kind).get? id).getD 0

inductive Statement
  | increaseTokenQuota (id : Nat) (quota : Int)
  | updateChannelUsedQuota (id : Nat) (quota : Int)
  | updateUserQuotaUsedQuotaAndRequestCount (id : Nat) (quota usedQuota requestCount : Int)
  deriving DecidableEq, Repr

def statements (stores : Stores) : List Statement :=
  (stores .tokenQuota).keys.map (fun id => .increaseTokenQuota id (stores.at_ .tokenQuota id)) ++
  (stores .channelUsedQuota).keys.map (fun id => .updateChannelUsedQuota id (stores.at_ .channelUsedQuota id)) ++
  ((stores .userQuota).keys ++ (stores .usedQuota).keys ++ (stores .requestCount).keys).dedup.map (fun id =>
    .updateUserQuotaUsedQuotaAndRequestCount id (stores.at_ .userQuota id) (stores.at_ .usedQuota id) (stores.at_ .requestCount id))

def Statement.adds : Statement → Kind → Nat → Int
  | .increaseTokenQuota i quota, .tokenQuota, id | .updateChannelUsedQuota i quota, .channelUsedQuota, id
  | .updateUserQuotaUsedQuotaAndRequestCount i quota _ _, .userQuota, id => if i = id then quota else 0
  | .updateUserQuotaUsedQuotaAndRequestCount i _ usedQuota _, .usedQuota, id => if i = id then usedQuota else 0
  | .updateUserQuotaUsedQuotaAndRequestCount i _ _ requestCount, .requestCount, id => if i = id then requestCount else 0
  | _, _, _ => 0

def Statement.empty : Statement → Prop
  | .increaseTokenQuota _ quota | .updateChannelUsedQuota _ quota => quota = 0
  | .updateUserQuotaUsedQuotaAndRequestCount _ quota usedQuota requestCount => quota = 0 ∧ usedQuota = 0 ∧ requestCount = 0

instance (st : Statement) : Decidable st.empty := by cases st <;> unfold Statement.empty <;> infer_instance

inductive Pass
  | idle
  | looking (i : Nat)
  | swapping (taken : Stores) (i : Nat)
  | writing (left : List Statement)

/- `rows` is what the statements have added so far, `recorded` what was ever recorded. -/
structure Batch where
  stores : Stores
  pass : Pass
  rows : Kind → Nat → Int
  recorded : Kind → Nat → Int

def start : Batch := ⟨fun _ => .empty,.idle,fun _ _ => 0,fun _ _ => 0⟩

inductive Op
  | addNewRecord (kind : Kind) (id : Nat) (value : Int)
  | advance
  | write (i : Nat) (ok : Bool)

variable (b : Batch)

def addNewRecord (kind : Kind) (id : Nat) (value : Int) : Batch :=
  { b with
    stores := update b.stores kind ((b.stores kind).put id (b.stores.at_ kind id + value))
    recorded := fun k i => b.recorded k i + if k = kind ∧ i = id then value else 0 }

def advance : Batch := match b.pass with
  | .idle => { b with pass := .looking 0 }
  | .looking i => match kinds[i]? with
    | none => { b with pass := .idle }
    | some kind => { b with pass := if (b.stores kind).keys = [] then .looking (i+1) else .swapping (fun _ => .empty) 0 }
  | .swapping taken i => match kinds[i]? with
    | none => { b with pass := .writing (statements taken) }
    | some kind => { b with
        stores := update b.stores kind .empty
        pass := .swapping (update taken kind (b.stores kind)) (i+1) }
  | .writing [] => { b with pass := .idle }
  | .writing _ => b

/- The rows of a store come in any order. A failed statement is logged and not tried again;
a user with three zeros has none. -/
def write (i : Nat) (ok : Bool) : Batch := match b.pass with
  | .writing left => match left[i]? with
    | none => b
    | some st => { b with
        pass := .writing (left.eraseIdx i)
        rows := fun k id => b.rows k id + if ok then st.adds k id else 0 }
  | _ => b

def step : Op → Batch
  | .addNewRecord kind id value => addNewRecord b kind id value
  | .advance => advance b
  | .write i ok => write b i ok

def Pass.holds : Pass → Kind → Nat → Int
  | .swapping taken i, kind, id => if kind ∈ kinds.drop i then 0 else taken.at_ kind id
  | .writing left, kind, id => (left.map (fun st => st.adds kind id)).sum
  | _, _, _ => 0

def Exact : Prop := ∀ kind id, b.recorded kind id = b.rows kind id + (b.stores.at_ kind id + b.pass.holds kind id)

def Sound : Op → Prop
  | .write i ok => ok = true ∨ ∀ left, b.pass = .writing left → ∀ st ∈ left[i]?, st.empty
  | _ => True

theorem sumAt {ids : List Nat} (unique : ids.Nodup) (f : Nat → Int) (id) :
    (ids.map (fun i => if i = id then f i else 0)).sum = if id ∈ ids then f id else 0 := by
  induction ids with
  | nil => rfl
  | cons head _ ih =>
    rw [map_cons,sum_cons,ih (nodup_cons.mp unique).2]
    by_cases here : head = id
    · subst here
      simp [(nodup_cons.mp unique).1]
    · simp [here,Ne.symm here]

theorem statementsAdd (stores kind id) : ((statements stores).map (fun st => st.adds kind id)).sum = stores.at_ kind id := by
  have given : ∀ {ids : List Nat}, ids.Nodup → (id ∉ ids → id ∉ (stores kind).keys) →
      (ids.map (fun i => if i = id then stores.at_ kind i else 0)).sum = stores.at_ kind id := by
    intro _ unique all
    rw [sumAt unique (stores.at_ kind) id]
    split
    · rfl
    rename_i out
    unfold Stores.at_
    rw [Table.absentKeys.mp (all out)]
    rfl
  have users := nodup_dedup ((stores .userQuota).keys ++ (stores .usedQuota).keys ++ (stores .requestCount).keys)
  unfold statements
  cases kind with
  | tokenQuota =>
    have own := @given (stores .tokenQuota).keys (stores .tokenQuota).unique (fun out => out)
    simpa [comp_def,Statement.adds] using own
  | channelUsedQuota =>
    have own := @given (stores .channelUsedQuota).keys (stores .channelUsedQuota).unique (fun out => out)
    simpa [comp_def,Statement.adds] using own
  | userQuota | usedQuota => simpa [comp_def,Statement.adds] using given users (by simp; tauto)
  | requestCount => simpa [comp_def,Statement.adds] using given users (by simp)

theorem addsEmpty {st : Statement} : st.empty ↔ ∀ kind id, st.adds kind id = 0 := by
  constructor
  · intro _ kind _
    cases st <;> cases kind <;> simp_all [Statement.empty,Statement.adds]
  · intro nothing
    cases st with
    | increaseTokenQuota i => simpa [Statement.empty,Statement.adds] using nothing .tokenQuota i
    | updateChannelUsedQuota i => simpa [Statement.empty,Statement.adds] using nothing .channelUsedQuota i
    | updateUserQuotaUsedQuotaAndRequestCount i =>
      exact ⟨by simpa [Statement.adds] using nothing .userQuota i,by simpa [Statement.adds] using nothing .usedQuota i,
        by simpa [Statement.adds] using nothing .requestCount i⟩

section Step
variable {b : Batch}

theorem exactRecord (exactly : Exact b) (kind id value) : Exact (addNewRecord b kind id value) := by
  intro k i
  have before := exactly k i
  unfold addNewRecord Stores.at_ at *
  dsimp only
  by_cases here : k = kind
  · subst here
    rw [update_self,Table.getPut]
    by_cases same : i = id
    · subst same
      simp only [and_self,if_true,Option.getD_some]
      omega
    · simpa [same] using before
  · simpa [here] using before

open Pass

theorem exactSwap (exactly : Exact b) {taken i kind} (pass : b.pass = .swapping taken i) (next : kinds[i]? = some kind) :
    Exact { b with stores := update b.stores kind .empty, pass := .swapping (update taken kind (b.stores kind)) (i+1) } := by
  intro k id
  have before := exactly k id
  obtain ⟨low,same⟩ := List.getElem?_eq_some_iff.mp next
  have drop : kinds.drop i = kind :: kinds.drop (i+1) := by rw [drop_eq_getElem_cons low,same]
  have unique : (kinds.drop i).Nodup := (drop_sublist i kinds).nodup (by decide)
  rw [drop] at unique
  rw [pass] at before
  simp only [holds,drop,mem_cons,Stores.at_] at before ⊢
  by_cases here : k = kind
  · subst here
    simpa [(nodup_cons.mp unique).1] using before
  · simpa [here] using before

theorem exactAdvance (exactly : Exact b) : Exact (advance b) := by
  unfold advance
  split
  · rename_i pass
    simpa [Exact,pass,holds] using exactly
  · rename_i pass
    split
    · simpa [Exact,pass,holds] using exactly
    have nothing : ∀ kind id, holds (.swapping (fun _ => .empty) 0) kind id = 0 := by
      intro kind id
      cases kind <;> rfl
    split_ifs
    · simpa [Exact,pass,holds] using exactly
    · simpa [Exact,pass,nothing] using fun kind id => (exactly kind id).trans (by simp [pass,holds])
  · rename_i taken i pass
    split
    · rename_i last
      have all : kinds.drop i = [] := drop_eq_nil_of_le (List.getElem?_eq_none_iff.mp last)
      simpa [Exact,pass,holds,all,statementsAdd] using exactly
    · rename_i kind next
      exact exactSwap exactly pass next
  · rename_i pass
    simpa [Exact,pass,holds] using exactly
  · exact exactly

theorem exactWrite (exactly : Exact b) (i ok) : Exact (write b i ok) ↔ Sound b (.write i ok) := by
  show _ ↔ ok = true ∨ ∀ left, b.pass = .writing left → ∀ st ∈ left[i]?, st.empty
  unfold write
  split
  · rename_i left pass
    have here : (∀ left', b.pass = .writing left' → ∀ st ∈ left'[i]?, st.empty) ↔ ∀ st ∈ left[i]?, st.empty := by simp [pass]
    rw [here]
    split
    · rename_i nothing
      exact iff_of_true exactly (.inr (by simp [nothing]))
    rename_i st found
    obtain ⟨low,rfl⟩ := List.getElem?_eq_some_iff.mp found
    have sum : ∀ kind id, (left.map (fun st => st.adds kind id)).sum =
        left[i].adds kind id + ((left.eraseIdx i).map (fun st => st.adds kind id)).sum := fun kind id =>
      (((getElem_cons_eraseIdx_perm low).map (fun st => st.adds kind id)).sum_eq).symm
    simp only [found,Option.mem_some_iff,forall_eq',addsEmpty]
    simp only [Exact,pass,holds,sum] at exactly ⊢
    cases ok with
    | true =>
      refine iff_of_true (fun kind id => ?_) (.inl rfl)
      have before := exactly kind id
      simp only [if_true]
      omega
    | false =>
      simp only [Bool.false_eq_true,if_false,false_or]
      refine forall_congr' (fun kind => forall_congr' (fun id => ?_))
      have before := exactly kind id
      omega
  · rename_i other
    exact iff_of_true exactly (.inr (fun left same => absurd same (other left)))

end Step

/-- Every delta is applied once, at all times, exactly if no statement with something to add
fails. -/
theorem exactIffSound (ops : List Op) : Always step Exact start ops ↔ Along step Sound start ops := by
  refine alwaysIffKept (fun b op exactly => ?_) (fun _ _ => rfl)
  cases op with
  | addNewRecord kind id value => exact iff_of_true (exactRecord exactly kind id value) trivial
  | advance => exact iff_of_true (exactAdvance exactly) trivial
  | write i ok => exact exactWrite exactly i ok

/-- A token's row cannot be written: what was recorded for it is in no store any more. -/
theorem failedStatementLoses : ¬ Always step Exact start ([.addNewRecord .tokenQuota 1 5] ++ List.replicate 9 .advance ++ [.write 0 false]) := by
  intro always
  have last := alwaysLast always .tokenQuota 1
  revert last
  decide +kernel

end NovaPuraRouter.BatchUpdate
