import NovaPuraRouter.ChannelCopies

/-! Writes to one channel's row without the memory cache. Status updates and polling read
the row and write it, or one column, back later; quota and cooldown are written in place.
Each read and each write is a step. -/
namespace NovaPuraRouter.ChannelStatus

inductive MultiKeyMode
  | random | polling | other
  deriving DecidableEq, Repr

structure Row where
  channel : Channel
  plaintextKey : String
  multiKeyMode : MultiKeyMode
  multiKeyPollingIndex : Int
  usedQuota : Int
  cooldownUntil : Int
  failureCount : Nat

variable (row : Row)

def Row.statusList : Nat → Option Status := row.channel.channelInfo.multiKeyStatusList

def Row.saveWithoutKey (stored row : Row) : Row :=
  { row with
    channel := { row.channel with keys := stored.channel.keys, named := stored.channel.named }
    plaintextKey := stored.plaintextKey }

def Row.saveChannelInfo (stored row : Row) : Row :=
  { stored with
    channel := { stored.channel with channelInfo := row.channel.channelInfo }
    multiKeyMode := row.multiKeyMode
    multiKeyPollingIndex := row.multiKeyPollingIndex }

def Row.updateUsedQuota (quota : Int) : Row := { row with usedQuota := row.usedQuota + quota }

def cooldownEnd (channelCooldownSeconds now seconds : Int) : Int :=
  now + if seconds ≤ 0 then channelCooldownSeconds else seconds

def Row.setCooldown (until_ : Int) : Row :=
  { row with cooldownUntil := until_, failureCount := row.failureCount + 1 }

def Row.clearCooldown : Row := { row with cooldownUntil := 0, failureCount := 0 }

structure Next where
  result : Except String (String × Nat)
  channel : Row
  saves : Bool

def enabledIdx : List Nat := (List.range row.channel.keys.length).filter (keyEnabled row.statusList)

def pollingStart (size : Nat) (index : Int) : Nat := if index < 0 ∨ index ≥ size then 0 else index.toNat

def pollingIdx (start : Nat) : Option Nat :=
  ((List.range row.channel.keys.length).map (fun i => (start + i) % row.channel.keys.length)).find? (keyEnabled row.statusList)

def Row.chosen (idx : Nat) : Except String (String × Nat) := .ok (row.channel.keys.getD idx "",idx)

def Row.getNextEnabledKey (fresh : Int) (random : Nat) : Next :=
  if row.channel.channelInfo.isMultiKey = false ∧ row.channel.keys.length ≤ 1 then ⟨.ok (row.plaintextKey,0),row,false⟩
  else if row.channel.keys = [] then ⟨.error "no keys available",row,false⟩
  else match enabledIdx row with
    | [] => ⟨.error "no enabled keys",row,false⟩
    | first :: rest => match row.multiKeyMode with
      | .random => ⟨row.chosen ((first :: rest).getD (random % (first :: rest).length) first),row,false⟩
      | .polling => match pollingIdx row (pollingStart row.channel.keys.length fresh) with
        | some idx => ⟨row.chosen idx,{ row with multiKeyPollingIndex := ((idx + 1) % row.channel.keys.length : Nat) },true⟩
        | none => ⟨row.chosen first,row,true⟩
      | .other => ⟨row.chosen first,row,false⟩

inductive Work
  | loaded (request : Request) (row : Row)
  | taken (row : Row)
  | polled (row : Row)

/- `quota`, `cooldown` and `disabled` are what has been committed: the sum of increments,
the last cooldown and the keys that were disabled and not enabled again. -/
structure Writes where
  stored : Row
  work : Table Nat Work
  pollingLock : Option Nat
  quota : Int
  cooldown : Int
  disabled : Nat → Option Status

def Writes.start : Writes := ⟨row,.empty,none,row.usedQuota,row.cooldownUntil,row.statusList⟩

inductive Write
  | load (request : Request)
  | save (work : Nat) (now : Nat)
  | take
  | poll (work : Nat) (random : Nat)
  | savePolled (work : Nat)
  | fail (work : Nat)
  | updateUsedQuota (quota : Int)
  | setCooldown (channelCooldownSeconds now seconds : Int)
  | clearCooldown

def requestKey (c : Channel) (r : Request) : Option Nat :=
  if c.channelInfo.isMultiKey then c.keys.findIdx? (fun key => key = r.usingKey) else none

def setRequested (list : Nat → Option Status) (c : Channel) (r : Request) : Nat → Option Status := match requestKey c r with
  | none => list
  | some i => Function.update list i (wantedKey r.status)

section Step
variable (s : Writes)

def Writes.begin_ (work : Work) : Writes := { s with work := s.work.append work }

def Writes.load (r : Request) : Writes := if s.stored.channel.status = r.status then s else s.begin_ (.loaded r s.stored)

def Writes.save (id now : Nat) : Writes := match s.work.get? id with
  | some (.loaded r row) =>
    { s with
      stored := s.stored.saveWithoutKey { row with channel := rowUpdate row.channel r now }
      work := s.work.erase id
      disabled := setRequested s.disabled row.channel r }
  | _ => s

def Writes.poll (id random : Nat) : Writes := match s.work.get? id with
  | some (.taken row) =>
    if s.pollingLock ≠ none then s
    else
      let next := row.getNextEnabledKey s.stored.multiKeyPollingIndex random
      if next.saves then { s with work := s.work.modify id (fun _ => .polled next.channel), pollingLock := some id }
      else { s with work := s.work.erase id }
  | _ => s

def Writes.savePolled (id : Nat) : Writes := match s.work.get? id with
  | some (.polled row) => { s with stored := s.stored.saveChannelInfo row, work := s.work.erase id, pollingLock := none }
  | _ => s

def Writes.fail (id : Nat) : Writes := match s.work.get? id with
  | some (.polled _) => { s with work := s.work.erase id, pollingLock := none }
  | _ => { s with work := s.work.erase id }

def Writes.step : Write → Writes
  | .load r => s.load r
  | .save id now => s.save id now
  | .take => s.begin_ (.taken s.stored)
  | .poll id random => s.poll id random
  | .savePolled id => s.savePolled id
  | .fail id => s.fail id
  | .updateUsedQuota quota => { s with stored := s.stored.updateUsedQuota quota, quota := s.quota + quota }
  | .setCooldown channelCooldownSeconds now seconds =>
    let until_ := cooldownEnd channelCooldownSeconds now seconds
    { s with stored := s.stored.setCooldown until_, cooldown := until_ }
  | .clearCooldown => { s with stored := s.stored.clearCooldown, cooldown := 0 }

end Step

def Covered (disabled list : Nat → Option Status) : Prop := ∀ i status, disabled i = some status → list i = some status

structure Writes.Kept (s : Writes) : Prop where
  usedQuota : s.stored.usedQuota = s.quota
  cooldown : s.stored.cooldownUntil = s.cooldown
  disabled : Covered s.disabled s.stored.statusList

/- What is about to be written back was read after the last increment and cooldown, and
after every disablement of a key it does not itself set. -/
def Writes.Fresh (s : Writes) : Write → Prop
  | .save id _ => ∀ r row, s.work.get? id = some (.loaded r row) →
      row.usedQuota = s.stored.usedQuota ∧ row.cooldownUntil = s.stored.cooldownUntil ∧
        ∀ i status, requestKey row.channel r ≠ some i → s.disabled i = some status → row.statusList i = some status
  | .savePolled id => ∀ row, s.work.get? id = some (.polled row) → Covered s.disabled row.statusList
  | _ => True

section Kept
variable {s : Writes}

theorem rowUpdateList (c r now) :
    (rowUpdate c r now).channelInfo.multiKeyStatusList = setRequested c.channelInfo.multiKeyStatusList c r := by
  unfold rowUpdate setRequested requestKey
  cases multi : c.channelInfo.isMultiKey with
  | false => rfl
  | true =>
    cases found : c.keys.findIdx? (fun key => key = r.usingKey) with
    | none => exact (handlerElse found).1
    | some => exact (handlerKey found).1

theorem coveredRequested {disabled list c r} : Covered (setRequested disabled c r) (setRequested list c r) ↔
      ∀ i status, requestKey c r ≠ some i → disabled i = some status → list i = some status := by
  unfold setRequested
  cases key : requestKey c r with
  | none => exact ⟨fun covered i status _ => covered i status,fun other i status => other i status nofun⟩
  | some j =>
    dsimp only
    constructor
    · intro covered i status other here
      have apart : i ≠ j := fun same => other (congrArg some same.symm)
      have at_ := covered i status
      rw [Function.update_of_ne apart,Function.update_of_ne apart] at at_
      exact at_ here
    · intro other i status here
      by_cases same : i = j
      · rw [same,Function.update_self] at here ⊢
        exact here
      · rw [Function.update_of_ne same] at here ⊢
        exact other i status (fun eq => same (Option.some.inj eq).symm) here

section
variable (kept : s.Kept)
include kept

theorem saveKept (id now) : (s.save id now).Kept ↔ s.Fresh (.save id now) := by
  unfold Writes.save
  split
  · rename_i r row found
    have list : (s.stored.saveWithoutKey { row with channel := rowUpdate row.channel r now }).statusList =
        setRequested row.statusList row.channel r := rowUpdateList row.channel r now
    have covers := @coveredRequested s.disabled row.statusList row.channel r
    rw [← list] at covers
    constructor
    · intro after _ _ found'
      cases found.symm.trans found'
      exact ⟨after.usedQuota.trans kept.usedQuota.symm,after.cooldown.trans kept.cooldown.symm,covers.mp after.disabled⟩
    · intro fresh
      obtain ⟨quota,cooldown,others⟩ := fresh r row found
      exact ⟨quota.trans kept.usedQuota,cooldown.trans kept.cooldown,covers.mpr others⟩
  · rename_i nothing
    exact ⟨fun _ r row found => absurd found (nothing r row),fun _ => kept⟩

theorem savePolledKept (id) : (s.savePolled id).Kept ↔ s.Fresh (.savePolled id) := by
  unfold Writes.savePolled
  split
  · rename_i row found
    constructor
    · intro after _ found'
      cases found.symm.trans found'
      exact after.disabled
    · intro fresh
      exact ⟨kept.usedQuota,kept.cooldown,fresh row found⟩
  · rename_i nothing
    exact ⟨fun _ row found => absurd found (nothing row),fun _ => kept⟩

theorem pollKept (id random) : (s.poll id random).Kept := by
  unfold Writes.poll
  split
  · split
    · exact kept
    dsimp only
    split
    · exact { kept with }
    · exact { kept with }
  · exact kept

theorem loadKept (r) : (s.load r).Kept := by
  unfold Writes.load
  split
  · exact kept
  · exact { kept with }

theorem failKept (id) : (s.fail id).Kept := by
  unfold Writes.fail
  split
  · exact { kept with }
  · exact { kept with }

end

theorem stepKept (s : Writes) (w) (kept : s.Kept) : (s.step w).Kept ↔ s.Fresh w := by
  have always : ∀ {p : Prop}, p → (p ↔ True) := fun h => ⟨fun _ => trivial,fun _ => h⟩
  cases w with
  | load r => exact always (loadKept kept r)
  | save id now => exact saveKept kept id now
  | take => exact always { kept with }
  | poll id random => exact always (pollKept kept id random)
  | savePolled id => exact savePolledKept kept id
  | fail id => exact always (failKept kept id)
  | updateUsedQuota quota => exact always ⟨congrArg (· + quota) kept.usedQuota,kept.cooldown,kept.disabled⟩
  | setCooldown | clearCooldown => exact always ⟨kept.usedQuota,rfl,kept.disabled⟩

end Kept

theorem writesKept (writes : List Write) :
    Always Writes.step Writes.Kept (.start row) writes ↔ Along Writes.step Writes.Fresh (.start row) writes :=
  alwaysIffKept stepKept ⟨rfl,rfl,fun _ _ here => here⟩

def polledPool : Row := ⟨pool,"a\nb",.polling,0,100,0,0⟩

def disableKey (usingKey : String) : Request := ⟨false,.autoDisabled,usingKey,"401",automatic usingKey⟩

theorem writesClobbered : ¬ Always Writes.step Writes.Kept (.start polledPool) [.load (disableKey "a"),.updateUsedQuota 5,.save 1 10] ∧
    ¬ Always Writes.step Writes.Kept (.start polledPool) [.load (disableKey "a"),.setCooldown 60 10 0,.save 1 11] ∧
    ¬ Always Writes.step Writes.Kept (.start polledPool) [.load (disableKey "a"),.load (disableKey "b"),.save 1 10,.save 2 11] ∧
    ¬ Always Writes.step Writes.Kept (.start polledPool) [.take,.load (disableKey "a"),.save 2 10,.poll 1 0,.savePolled 1] := by
  have last : ∀ {writes}, Always Writes.step Writes.Kept (.start polledPool) writes →
      (run Writes.step (.start polledPool) writes).Kept := fun always => alwaysLast always
  refine ⟨fun always => ?_,fun always => ?_,fun always => ?_,fun always => ?_⟩
  · have quota := (last always).usedQuota
    revert quota
    decide +kernel
  · have cooldown := (last always).cooldown
    revert cooldown
    decide +kernel
  · have first := (last always).disabled 0 .autoDisabled
    revert first
    decide +kernel
  · have first := (last always).disabled 0 .autoDisabled
    revert first
    decide +kernel

end NovaPuraRouter.ChannelStatus
