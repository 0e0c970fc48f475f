import NovaPuraRouter.ChannelStatus

/-! The three copies of a channel's status: the cached channel, its row and its abilities. A
call writes them one after the other, and leaves the row alone when the channel as a whole
has the wanted status already. -/
namespace NovaPuraRouter.ChannelStatus
open Function

structure Copies where
  cached : Channel
  stored : Channel
  abilities : List Bool

structure Call.Timed where
  request : Request
  cachedAt : Nat
  storedAt : Nat

def updateAbilityStatus (abilities : List Bool) (enabled : Bool) : List Bool := abilities.map (fun _ => enabled)

def Copies.updateChannelStatus (s : Copies) (call : Call.Timed) : Bool × Copies :=
  match cacheUpdate s.cached call.request call.cachedAt with
  | none => (false,s)
  | some cached =>
    if s.stored.status = call.request.status then (false,{ s with cached := cached })
    else
      let row := rowUpdate s.stored call.request call.storedAt
      (true,{
        cached := cached
        stored := { row with keys := s.stored.keys, named := s.stored.named }
        abilities := if row.status ≠ s.stored.status then updateAbilityStatus s.abilities (call.request.status = .enabled) else s.abilities })

def Copies.step (s : Copies) (call : Call.Timed) : Copies := (s.updateChannelStatus call).2

structure Copies.Agree (s : Copies) : Prop where
  status : s.cached.status = s.stored.status
  keys : s.cached.channelInfo.multiKeyStatusList = s.stored.channelInfo.multiKeyStatusList
  abilities : ∀ enabled ∈ s.abilities, enabled = decide (s.stored.status = .enabled)

structure Copies.Same (s : Copies) : Prop where
  keys : s.cached.keys = s.stored.keys
  isMultiKey : s.cached.channelInfo.isMultiKey = s.stored.channelInfo.isMultiKey

/- The key has the wanted status already, and some key is left unless the channel is to be
disabled as it is when none is. -/
def Settled (c : Channel) (r : Request) (i : Nat) : Prop :=
  if r.status = .enabled then c.channelInfo.multiKeyStatusList i = none
  else c.channelInfo.multiKeyStatusList i = some r.status ∧
    (r.status = .autoDisabled ∨ hasEnabledMultiKey c.keys c.channelInfo.multiKeyStatusList = true)

instance (c r i) : Decidable (Settled c r i) := by unfold Settled; infer_instance

def Copies.Level (s : Copies) (call : Call.Timed) : Prop :=
  s.stored.channelInfo.isMultiKey = true → s.stored.status = call.request.status →
    ∀ i ∈ s.stored.keys.findIdx? (fun key => key = call.request.usingKey), Settled s.stored call.request i

instance (s call) : Decidable (Copies.Level s call) := by unfold Copies.Level; infer_instance

section Handler
variable {c d : Channel} {r : Request} {now later : Nat}

def wantedKey (status : Status) : Option Status := if status = .enabled then none else some status

theorem setKeyList (info : ChannelInfo) (i status reason now) :
    (info.setKey i status reason now).multiKeyStatusList = update info.multiKeyStatusList i (wantedKey status) := by
  unfold ChannelInfo.setKey wantedKey
  split
  · rfl
  · rfl

theorem handlerKey {i} (found : c.keys.findIdx? (fun key => key = r.usingKey) = some i) :
    (handlerMultiKeyUpdate c r now).channelInfo.multiKeyStatusList = update c.channelInfo.multiKeyStatusList i (wantedKey r.status) ∧
      (handlerMultiKeyUpdate c r now).status =
        if hasEnabledMultiKey c.keys (update c.channelInfo.multiKeyStatusList i (wantedKey r.status)) = false then .autoDisabled
        else if r.status = .enabled then .enabled else c.status := by
  have something : c.keys ≠ [] := by
    intro nothing
    rw [nothing] at found
    cases found
  have list := setKeyList c.channelInfo i r.status r.reason now
  simp only [handlerMultiKeyUpdate,if_neg something,found,list]
  split
  · exact ⟨list,rfl⟩
  · split
    · exact ⟨list,rfl⟩
    · exact ⟨list,rfl⟩

theorem handlerElse (nothing : c.keys.findIdx? (fun key => key = r.usingKey) = none) :
    (handlerMultiKeyUpdate c r now).channelInfo.multiKeyStatusList = c.channelInfo.multiKeyStatusList ∧
      (handlerMultiKeyUpdate c r now).status = if c.keys = [] ∨ r.usingKey = "" then r.status else c.status := by
  unfold handlerMultiKeyUpdate
  by_cases empty : c.keys = []
  · rw [if_pos empty,if_pos (.inl empty)]
    exact ⟨rfl,rfl⟩
  rw [if_neg empty,nothing]
  by_cases whole : r.usingKey = ""
  · have right : c.keys = [] ∨ r.usingKey = "" := .inr whole
    rw [if_pos right,if_neg (not_not.mpr whole)]
    exact ⟨rfl,rfl⟩
  · rw [if_neg (not_or.mpr ⟨empty,whole⟩),if_pos whole]
    exact ⟨rfl,rfl⟩

theorem enabledLeft {i} (found : c.keys.findIdx? (fun key => key = r.usingKey) = some i) (enables : r.status = .enabled) :
    hasEnabledMultiKey c.keys (update c.channelInfo.multiKeyStatusList i (wantedKey r.status)) = true := by
  obtain ⟨inside,_⟩ := List.findIdx?_eq_some_iff_getElem.mp found
  refine List.any_eq_true.mpr ⟨i,List.mem_range.mpr inside,?_⟩
  unfold keyEnabled wantedKey
  rw [update_self,if_pos enables]

theorem handlerAlike (keys : c.keys = d.keys) (status : c.status = d.status)
    (list : c.channelInfo.multiKeyStatusList = d.channelInfo.multiKeyStatusList) :
    (handlerMultiKeyUpdate c r now).status = (handlerMultiKeyUpdate d r later).status ∧
      (handlerMultiKeyUpdate c r now).channelInfo.multiKeyStatusList = (handlerMultiKeyUpdate d r later).channelInfo.multiKeyStatusList := by
  cases found : d.keys.findIdx? (fun key => key = r.usingKey) with
  | none =>
    obtain ⟨list1,status1⟩ := @handlerElse c r now (keys ▸ found)
    obtain ⟨list2,status2⟩ := @handlerElse d r later found
    rw [status1,status2,list1,list2,keys,status,list]
    exact ⟨rfl,rfl⟩
  | some i =>
    obtain ⟨list1,status1⟩ := @handlerKey c r now i (keys ▸ found)
    obtain ⟨list2,status2⟩ := @handlerKey d r later i found
    rw [status1,status2,list1,list2,keys,status,list]
    exact ⟨rfl,rfl⟩

theorem handlerEnabled (changed : (handlerMultiKeyUpdate c r now).status ≠ c.status) :
    (handlerMultiKeyUpdate c r now).status = .enabled ↔ r.status = .enabled := by
  cases found : c.keys.findIdx? (fun key => key = r.usingKey) with
  | none =>
    obtain ⟨_,status⟩ := @handlerElse c r now found
    rw [status] at changed ⊢
    split
    · exact Iff.rfl
    · rename_i other
      rw [if_neg other] at changed
      exact absurd rfl changed
  | some i =>
    obtain ⟨_,status⟩ := @handlerKey c r now i found
    rw [status] at changed ⊢
    by_cases enables : r.status = .enabled
    · rw [enabledLeft found enables,if_neg Bool.noConfusion,if_pos enables]
      exact ⟨fun _ => enables,fun _ => rfl⟩
    rw [if_neg enables] at changed ⊢
    split
    · exact ⟨fun same => (nomatch same),fun same => absurd same enables⟩
    · rename_i left
      rw [if_neg left] at changed
      exact absurd rfl changed

theorem updateSelf {α : Type} {f : Nat → α} {i : Nat} {a : α} : update f i a = f ↔ f i = a := by
  constructor
  · intro same
    rw [← same,update_self]
  · intro here
    rw [← here,update_eq_self]

theorem handlerSettled {i : Nat} (found : c.keys.findIdx? (fun key => key = r.usingKey) = some i) (same : c.status = r.status) :
    (handlerMultiKeyUpdate c r now).status = c.status ∧
      (handlerMultiKeyUpdate c r now).channelInfo.multiKeyStatusList = c.channelInfo.multiKeyStatusList ↔ Settled c r i := by
  obtain ⟨list,status⟩ := @handlerKey c r now i found
  rw [list,status,updateSelf]
  unfold Settled wantedKey
  by_cases enables : r.status = .enabled
  · have left := enabledLeft found enables
    unfold wantedKey at left
    rw [left,if_neg Bool.noConfusion,if_pos enables,if_pos enables,if_pos enables,same,enables]
    exact ⟨fun h => h.2,fun h => ⟨rfl,h⟩⟩
  · rw [if_neg enables,if_neg enables,if_neg enables]
    constructor
    · rintro ⟨status,key⟩
      refine ⟨key,?_⟩
      rw [updateSelf.mpr key] at status
      split at status
      · exact .inl (same.symm.trans status.symm)
      · rename_i left
        exact .inr (Bool.of_not_eq_false left)
    · rintro ⟨key,left⟩
      refine ⟨?_,key⟩
      rw [updateSelf.mpr key]
      split
      · rename_i nothing
        rcases left with auto_ | something
        · exact (same.trans auto_).symm
        · cases nothing.symm.trans something
      · rfl

end Handler

section Step
variable {s : Copies} {call : Call.Timed}

theorem setKeySame (info : ChannelInfo) (i status reason now) : (info.setKey i status reason now).isMultiKey = info.isMultiKey := by
  unfold ChannelInfo.setKey
  split
  · rfl
  · rfl

theorem handlerSame (c : Channel) (r now) : (handlerMultiKeyUpdate c r now).keys = c.keys ∧
    (handlerMultiKeyUpdate c r now).channelInfo.isMultiKey = c.channelInfo.isMultiKey := by
  unfold handlerMultiKeyUpdate
  split
  · exact ⟨rfl,rfl⟩
  split
  · split
    · exact ⟨rfl,rfl⟩
    · exact ⟨rfl,rfl⟩
  have info := setKeySame c.channelInfo (by assumption) r.status r.reason now
  dsimp only
  split
  · exact ⟨rfl,info⟩
  · split
    · exact ⟨rfl,info⟩
    · exact ⟨rfl,info⟩

theorem cacheSame {c c' r now} (update : cacheUpdate c r now = some c') :
    c'.keys = c.keys ∧ c'.channelInfo.isMultiKey = c.channelInfo.isMultiKey := by
  unfold cacheUpdate at update
  split at update
  · cases update
    exact handlerSame c r now
  · obtain ⟨_,same⟩ := Option.ite_none_left_eq_some.mp update
    cases same
    exact ⟨rfl,rfl⟩

theorem rowSame (c r now) : (rowUpdate c r now).channelInfo.isMultiKey = c.channelInfo.isMultiKey := by
  unfold rowUpdate
  split
  · exact (handlerSame c r now).2
  · rfl

theorem stepSame (s : Copies) (call) (same : s.Same) : (s.step call).Same := by
  unfold Copies.step Copies.updateChannelStatus
  split
  · exact same
  rename_i cached update
  obtain ⟨keys,multi⟩ := cacheSame update
  split
  · exact ⟨keys.trans same.keys,multi.trans same.isMultiKey⟩
  · exact ⟨keys.trans same.keys,(multi.trans same.isMultiKey).trans (rowSame _ _ _).symm⟩

theorem abilitiesUpdated {abilities enabled} : ∀ x ∈ updateAbilityStatus abilities enabled, x = enabled := by
  intro x mem
  obtain ⟨_,_,rfl⟩ := List.mem_map.mp mem
  rfl

theorem stepSingle (agree : s.Agree) (same : s.Same) (single : s.stored.channelInfo.isMultiKey = false) : (s.step call).Agree := by
  have cachedSingle : s.cached.channelInfo.isMultiKey = false := same.isMultiKey.trans single
  simp only [Copies.step,Copies.updateChannelStatus,cacheUpdate,cachedSingle,Bool.false_eq_true,if_false]
  by_cases has : s.cached.status = call.request.status
  · rw [if_pos has]
    exact agree
  have differs : s.stored.status ≠ call.request.status := agree.status ▸ has
  rw [if_neg has]
  simp only [differs,if_false,rowUpdate,single,Bool.false_eq_true,ne_eq,Ne.symm differs,not_false_eq_true,if_true]
  exact ⟨rfl,agree.keys,abilitiesUpdated⟩

theorem stepMulti (agree : s.Agree) (same : s.Same) (multi : s.stored.channelInfo.isMultiKey = true) :
    (s.step call).Agree ↔ s.Level call := by
  have cachedMulti : s.cached.channelInfo.isMultiKey = true := same.isMultiKey.trans multi
  simp only [Copies.step,Copies.updateChannelStatus,cacheUpdate,cachedMulti,if_true]
  obtain ⟨status,list⟩ := @handlerAlike s.cached s.stored call.request call.cachedAt call.storedAt same.keys agree.status agree.keys
  by_cases has : s.stored.status = call.request.status
  · rw [if_pos has]
    have stays : Copies.Agree { s with cached := handlerMultiKeyUpdate s.cached call.request call.cachedAt } ↔
        (handlerMultiKeyUpdate s.stored call.request call.storedAt).status = s.stored.status ∧
        (handlerMultiKeyUpdate s.stored call.request call.storedAt).channelInfo.multiKeyStatusList =
          s.stored.channelInfo.multiKeyStatusList := by
      rw [← status,← list]
      exact ⟨fun h => ⟨h.status,h.keys⟩,fun h => ⟨h.1,h.2,agree.abilities⟩⟩
    refine stays.trans ?_
    unfold Copies.Level
    cases found : s.stored.keys.findIdx? (fun key => key = call.request.usingKey) with
    | none =>
      obtain ⟨list',status'⟩ := @handlerElse s.stored call.request call.storedAt found
      rw [list',status',← has,ite_self]
      exact ⟨fun _ _ _ i mem => absurd mem (Option.not_mem_none i),fun _ => ⟨rfl,rfl⟩⟩
    | some i =>
      refine (handlerSettled found has).trans ⟨fun settled _ _ j mem => ?_,fun level => level multi has i rfl⟩
      cases mem
      exact settled
  · have row : rowUpdate s.stored call.request call.storedAt = handlerMultiKeyUpdate s.stored call.request call.storedAt := by
      unfold rowUpdate
      rw [if_pos multi]
    rw [if_neg has]
    refine ⟨fun _ _ same => absurd same has,fun _ => ⟨?_,?_,?_⟩⟩
    · dsimp only
      rw [row]
      exact status
    · dsimp only
      rw [row]
      exact list
    · dsimp only
      rw [row]
      split
      · rename_i changed
        intro x mem
        rw [abilitiesUpdated x mem]
        exact decide_eq_decide.mpr (handlerEnabled changed).symm
      · rename_i kept
        rw [not_not.mp kept]
        exact agree.abilities

theorem stepAgree (s : Copies) (call) (same : s.Same) (agree : s.Agree) : (s.step call).Agree ↔ s.Level call := by
  cases multi : s.stored.channelInfo.isMultiKey with
  | true => exact stepMulti agree same multi
  | false => exact ⟨fun _ multi' => Bool.noConfusion (multi.symm.trans multi'),fun _ => stepSingle agree same multi⟩

end Step

theorem copiesAgree {start : Copies} (same : start.Same) (agree : start.Agree) (calls : List Call.Timed) :
    Always Copies.step Copies.Agree start calls ↔ Along Copies.step Copies.Level start calls :=
  alwaysIffAlong stepSame (fun _ _ agree => agree) (fun _ _ _ _ next => next) stepAgree same agree

def keyCall (usingKey : String) (status : Status) : Call.Timed := ⟨⟨false,status,usingKey,"",automatic usingKey⟩,10,11⟩

theorem copiesAgreePool : Always Copies.step Copies.Agree ⟨pool,pool,[true,true]⟩
    [keyCall "a" .autoDisabled,keyCall "b" .autoDisabled,keyCall "a" .enabled,keyCall "" .manuallyDisabled] :=
  (copiesAgree ⟨rfl,rfl⟩ ⟨rfl,rfl,by decide⟩ _).mpr (by decide +kernel)

theorem keyEnabledInCacheOnly : ¬ Always Copies.step Copies.Agree ⟨pool,pool,[true]⟩ [keyCall "a" .autoDisabled,keyCall "a" .enabled] := by
  intro always
  have last := alwaysLast always
  have same := congrFun last.keys 0
  revert same
  decide +kernel

end NovaPuraRouter.ChannelStatus
