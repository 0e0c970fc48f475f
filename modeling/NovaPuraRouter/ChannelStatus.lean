import NovaPuraRouter.Execution
import NovaPuraRouter.Table

/-! A channel's status in the database and in the memory cache. Administrators, failing
requests and the channel test set it through one function that updates the cache, loads the
row and saves it. Each of these and each half of a reload is a step. -/
namespace NovaPuraRouter.ChannelStatus
open List Function

inductive Status
  | unknown | enabled | manuallyDisabled | autoDisabled
  deriving DecidableEq, Repr

structure ChannelInfo where
  isMultiKey : Bool
  multiKeyStatusList : Nat → Option Status
  multiKeyDisabledReason : Nat → Option String
  multiKeyDisabledTime : Nat → Option Nat

structure Channel where
  status : Status
  keys : List String
  named : "" ∉ keys
  autoBan : Bool
  channelInfo : ChannelInfo
  statusReason : Option String
  statusTime : Option Nat

def Channel.setOtherInfo (c : Channel) (reason : String) (now : Nat) : Channel :=
  { c with statusReason := some reason, statusTime := some now }

def keyEnabled (statusList : Nat → Option Status) (i : Nat) : Bool := match statusList i with
  | none => true
  | some status => status = .enabled

def hasEnabledMultiKey (keys : List String) (statusList : Nat → Option Status) : Bool :=
  (List.range keys.length).any (keyEnabled statusList)

structure Request where
  admin : Bool
  status : Status
  usingKey : String
  reason : String
  whole : admin = true → usingKey = ""

theorem automatic (usingKey : String) (admin : false = true) : usingKey = "" := nomatch admin

def ChannelInfo.setKey (info : ChannelInfo) (i : Nat) (status : Status) (reason : String) (now : Nat) : ChannelInfo :=
  if status = .enabled then { info with multiKeyStatusList := update info.multiKeyStatusList i none }
  else { info with
    multiKeyStatusList := update info.multiKeyStatusList i (some status)
    multiKeyDisabledReason := update info.multiKeyDisabledReason i (some reason)
    multiKeyDisabledTime := update info.multiKeyDisabledTime i (some now) }

def handlerMultiKeyUpdate (c : Channel) (r : Request) (now : Nat) : Channel :=
  if c.keys = [] then { c with status := r.status }
  else match c.keys.findIdx? (fun key => key = r.usingKey) with
    | none =>
      if r.usingKey ≠ "" then c
      else { c with status := r.status }.setOtherInfo r.reason now
    | some i =>
      let c := { c with channelInfo := c.channelInfo.setKey i r.status r.reason now }
      if hasEnabledMultiKey c.keys c.channelInfo.multiKeyStatusList = false then
        { c with status := .autoDisabled }.setOtherInfo "All keys are disabled" now
      else if r.status = .enabled then { c with status := .enabled }
      else c

def cacheUpdate (c : Channel) (r : Request) (now : Nat) : Option Channel :=
  if c.channelInfo.isMultiKey then some (handlerMultiKeyUpdate c r now)
  else if c.status = r.status then none
  else some { c with status := r.status }

def rowUpdate (c : Channel) (r : Request) (now : Nat) : Channel :=
  if c.channelInfo.isMultiKey then handlerMultiKeyUpdate c r now
  else { c.setOtherInfo r.reason now with status := r.status }

inductive Phase
  | waiting
  | entered
  | loaded (row : Channel)
  | written
  | returned (changed : Bool)

structure Call where
  request : Request
  phase : Phase

structure Reload where
  snapshot : Channel
  owner : Option Status

/- How far the last disabling by an administrator has come: nowhere or undone, in the
database, or in the cache as well. -/
inductive Hold
  | free | stored | all
  deriving DecidableEq, Repr

def Hold.stop : Hold → Hold
  | .free => .stored
  | h => h

def Hold.entered (h : Hold) (r : Request) : Hold := if r.admin = true ∧ r.status ≠ .manuallyDisabled then .free else h

def Hold.written (h : Hold) (r : Request) : Hold :=
  if r.admin = false then h else if r.status = .manuallyDisabled then h.stop else .free

def Hold.installed (h : Hold) (owner : Option Status) : Hold :=
  if h = .stored ∧ owner = some .manuallyDisabled then .all else h

structure Server where
  memoryCacheEnabled : Bool
  stored : Channel
  cached : Option Channel
  lock : Option Nat
  calls : Table Nat Call
  tests : Table Nat Channel
  reloads : Table Nat Reload
  hold : Hold

def Server.start (memoryCacheEnabled : Bool) (stored : Channel) (cached : Option Channel) : Server :=
  ⟨memoryCacheEnabled,stored,cached,none,.empty,.empty,.empty,.free⟩

structure TestResult where
  apiError : Bool
  localErr : Bool
  shouldBan : Bool
  usingKey : String
  reason : String

inductive Act
  | updateChannelStatus (status : Status)
  | updateTag (disable : Bool)
  | disableChannel (autoBan : Bool) (usingKey reason : String)
  | readForTest
  | finishTest (test : Nat) (allowDisable automaticEnable : Bool) (result : TestResult)
  | enter (call : Nat)
  | load (call : Nat)
  | save (call : Nat)
  | fail (call : Nat)
  | refresh (call : Nat)
  | sync
  | install (reload : Nat)

structure Event where
  now : Nat
  act : Act

def isManageableChannelStatus (status : Status) : Bool := status = .enabled ∨ status = .manuallyDisabled

def shouldEnableChannel (automaticEnable apiError : Bool) (status : Status) : Bool :=
  automaticEnable && !apiError && decide (status = .autoDisabled)

section Step
variable (s : Server) (now : Nat)

def Server.request (r : Request) : Server := { s with calls := s.calls.append ⟨r,.waiting⟩ }

variable (id : Nat)

def Server.setPhase (phase : Phase) : Server :=
  { s with calls := s.calls.modify id (fun call => { call with phase := phase }) }

def Server.finish (phase : Phase) : Server := { s.setPhase id phase with lock := none }

def Server.manage (status : Status) : Server :=
  if isManageableChannelStatus status then s.request ⟨true,status,"","manual operation",fun _ => rfl⟩ else s

def Server.disableChannel (autoBan : Bool) (usingKey reason : String) : Server :=
  if autoBan then s.request ⟨false,.autoDisabled,usingKey,reason,automatic usingKey⟩ else s

def Server.enableChannel (usingKey : String) : Server := s.request ⟨false,.enabled,usingKey,"",automatic usingKey⟩

def Server.updateTag (disable : Bool) : Server :=
  let r : Request := ⟨true,if disable then .manuallyDisabled else .enabled,"","",fun _ => rfl⟩
  { s with stored := { s.stored with status := r.status }, calls := s.calls.append ⟨r,.written⟩, hold := s.hold.written r }

def Server.readForTest : Server :=
  if s.stored.status = .manuallyDisabled then s else { s with tests := s.tests.append s.stored }

def Server.finishTest (allowDisable automaticEnable : Bool) (result : TestResult) : Server := match s.tests.get? id with
  | none => s
  | some channel =>
    let s := { s with tests := s.tests.erase id }
    if channel.status = .enabled then
      if allowDisable ∧ result.shouldBan ∧ channel.autoBan then s.disableChannel channel.autoBan result.usingKey result.reason else s
    else if result.localErr = false ∧ shouldEnableChannel automaticEnable result.apiError channel.status then
      s.enableChannel result.usingKey
    else s

def Server.enter : Server := match s.calls.get? id with
  | some ⟨r,.waiting⟩ =>
    if s.memoryCacheEnabled = false then { s.setPhase id .entered with hold := s.hold.entered r }
    else if s.lock ≠ none then s
    else match s.cached with
      | none => s.setPhase id (.returned false)
      | some c => match cacheUpdate c r now with
        | none => s.setPhase id (.returned false)
        | some c' => { s.setPhase id .entered with cached := some c', lock := some id, hold := s.hold.entered r }
  | _ => s

def Server.load : Server := match s.calls.get? id with
  | some ⟨r,.entered⟩ =>
    if s.stored.status = r.status then s.finish id (.returned false) else s.setPhase id (.loaded s.stored)
  | _ => s

def Server.save : Server := match s.calls.get? id with
  | some ⟨r,.loaded row⟩ =>
    { s.finish id (if r.admin then .written else .returned true) with
      stored := { rowUpdate row r now with keys := s.stored.keys, named := s.stored.named }
      hold := s.hold.written r }
  | _ => s

def Server.fail : Server := match s.calls.get? id with
  | some ⟨_,.entered⟩ | some ⟨_,.loaded _⟩ => s.finish id (.returned false)
  | _ => s

def Server.read (owner : Option Status) : Server :=
  if s.memoryCacheEnabled then { s with reloads := s.reloads.append ⟨s.stored,owner⟩ } else s

def Server.refresh : Server := match s.calls.get? id with
  | some ⟨r,.written⟩ => (s.setPhase id (.returned true)).read (some r.status)
  | _ => s

def Server.install : Server := match s.reloads.get? id with
  | some reload =>
    { s with cached := some reload.snapshot, reloads := s.reloads.erase id, hold := s.hold.installed reload.owner }
  | none => s

def Server.perform : Act → Server
  | .updateChannelStatus status => s.manage status
  | .updateTag disable => s.updateTag disable
  | .disableChannel autoBan usingKey reason => s.disableChannel autoBan usingKey reason
  | .readForTest => s.readForTest
  | .finishTest test allowDisable automaticEnable result => s.finishTest test allowDisable automaticEnable result
  | .enter call => s.enter now call
  | .load call => s.load call
  | .save call => s.save now call
  | .fail call => s.fail call
  | .refresh call => s.refresh call
  | .sync => s.read none
  | .install reload => s.install reload

def Server.step (e : Event) : Server := s.perform e.now e.act

end Step

/- Disabled by an administrator, in the database from the write on and in the cache from
the administrator's own reload on. -/
structure Server.Sticky (s : Server) : Prop where
  stored : s.hold ≠ .free → s.stored.status = .manuallyDisabled
  cached : s.hold = .all → ∀ c ∈ s.cached, c.status = .manuallyDisabled

section Keys
variable {c : Channel} {r : Request} {now : Nat}

/- The request is for a key the channel does not have, or disables one while another stays. -/
def Harmless (c : Channel) (r : Request) : Prop :=
  c.channelInfo.isMultiKey = true ∧ c.keys ≠ [] ∧ r.usingKey ≠ "" ∧
    (r.usingKey ∉ c.keys ∨ r.status ≠ .enabled ∧
      ∃ i, i < c.keys.length ∧ c.keys.findIdx? (fun key => key = r.usingKey) ≠ some i ∧
        keyEnabled c.channelInfo.multiKeyStatusList i = true)

instance (c r) : Decidable (Harmless c r) := by unfold Harmless; infer_instance

theorem setKeyOther (info : ChannelInfo) {i j} (other : j ≠ i) (status reason now) :
    keyEnabled (info.setKey i status reason now).multiKeyStatusList j = keyEnabled info.multiKeyStatusList j := by
  have same : (info.setKey i status reason now).multiKeyStatusList j = info.multiKeyStatusList j := by
    unfold ChannelInfo.setKey
    split
    · exact update_of_ne other _ _
    · exact update_of_ne other _ _
  unfold keyEnabled
  rw [same]

theorem handlerHarmless (harmless : Harmless c r) : (handlerMultiKeyUpdate c r now).status = c.status := by
  obtain ⟨_,something,named,known⟩ := harmless
  unfold handlerMultiKeyUpdate
  rw [if_neg something]
  cases at_ : c.keys.findIdx? (fun key => key = r.usingKey) with
  | none => exact congrArg Channel.status (if_pos named)
  | some i =>
    have has : r.usingKey ∈ c.keys := by
      obtain ⟨here,same,_⟩ := findIdx?_eq_some_iff_getElem.mp at_
      exact (of_decide_eq_true same) ▸ getElem_mem here
    obtain absent | ⟨disables,j,inside,other,open_⟩ := known
    · exact absurd has absent
    have differs : j ≠ i := fun same => other (same ▸ at_)
    have left : hasEnabledMultiKey c.keys (c.channelInfo.setKey i r.status r.reason now).multiKeyStatusList = true := by
      refine any_eq_true.mpr ⟨j,mem_range.mpr inside,?_⟩
      rw [setKeyOther c.channelInfo differs]
      exact open_
    dsimp only
    rw [left,if_neg Bool.noConfusion,if_neg disables]

theorem handlerWhole (whole : r.usingKey = "") : (handlerMultiKeyUpdate c r now).status = r.status := by
  unfold handlerMultiKeyUpdate
  split
  · rfl
  have absent : c.keys.findIdx? (fun key => key = r.usingKey) = none := by
    refine findIdx?_eq_none_iff.mpr (fun key mem => decide_eq_false (fun same => ?_))
    rw [same,whole] at mem
    exact c.named mem
  rw [absent,whole]
  rfl

theorem cacheWhole {c'} (whole : r.usingKey = "") (update : cacheUpdate c r now = some c') : c'.status = r.status := by
  unfold cacheUpdate at update
  split at update
  · cases update
    exact handlerWhole whole
  · obtain ⟨_,same⟩ := Option.ite_none_left_eq_some.mp update
    cases same
    rfl

theorem rowWhole (whole : r.usingKey = "") : (rowUpdate c r now).status = r.status := by
  unfold rowUpdate
  split
  · exact handlerWhole whole
  · rfl

theorem cacheHarmless {c'} (harmless : Harmless c r) (update : cacheUpdate c r now = some c') : c'.status = c.status := by
  unfold cacheUpdate at update
  rw [if_pos harmless.1] at update
  cases update
  exact handlerHarmless harmless

theorem rowHarmless (harmless : Harmless c r) : (rowUpdate c r now).status = c.status := by
  unfold rowUpdate
  rw [if_pos harmless.1]
  exact handlerHarmless harmless

end Keys

section Sticky
variable {s : Server} {now : Nat}

def Phase.row? : Phase → Option Channel
  | .loaded row => some row
  | _ => none

/- While an administrator's disabling is in force no request of the system enters or saves
unless it is harmless, and nothing read before is saved or installed. -/
def Act.Deferring (s : Server) : Act → Prop
  | .enter id => s.hold = .all → ∀ call ∈ s.calls.get? id, call.request.admin = false → ∀ c ∈ s.cached, Harmless c call.request
  | .save id => s.hold ≠ .free → ∀ call ∈ s.calls.get? id, call.request.admin = false → ∀ row ∈ call.phase.row?,
      row.status = .manuallyDisabled ∧ Harmless row call.request
  | .install id => s.hold ≠ .free → ∀ reload ∈ s.reloads.get? id, reload.snapshot.status = .manuallyDisabled
  | _ => True

instance (s act) : Decidable (Act.Deferring s act) := by
  cases act <;> unfold Act.Deferring <;> infer_instance

def Server.Deferring (s : Server) (e : Event) : Prop := e.act.Deferring s

instance (s e) : Decidable (Server.Deferring s e) := by unfold Server.Deferring; infer_instance

theorem stickyOf {s' : Server} (sticky : s.Sticky) (stored : s'.stored = s.stored) (cached : s'.cached = s.cached)
    (hold : s'.hold = s.hold) : s'.Sticky := by
  refine ⟨?_,?_⟩
  · rw [stored,hold]
    exact sticky.stored
  · rw [cached,hold]
    exact sticky.cached

theorem enteredCases (h : Hold) (r : Request) :
    h.entered r = .free ∨ h.entered r = h ∧ (r.admin = true → r.status = .manuallyDisabled) := by
  by_cases lifts : r.admin = true ∧ r.status ≠ .manuallyDisabled
  · exact .inl (if_pos lifts)
  · refine .inr ⟨if_neg lifts,fun admin => ?_⟩
    by_contra other
    exact lifts ⟨admin,other⟩

theorem stopAll {h : Hold} (all : h.stop = .all) : h = .all := by
  cases h with
  | free | stored => cases all
  | all => rfl

theorem writtenCases (h : Hold) (r : Request) : h.written r = .free ∨ r.admin = false ∧ h.written r = h ∨
      r.admin = true ∧ r.status = .manuallyDisabled ∧ (h.written r = .all → h = .all) := by
  unfold Hold.written
  by_cases system : r.admin = false
  · exact .inr (.inl ⟨system,if_pos system⟩)
  rw [if_neg system]
  by_cases disables : r.status = .manuallyDisabled
  · rw [if_pos disables]
    exact .inr (.inr ⟨Bool.of_not_eq_false system,disables,stopAll⟩)
  · exact .inl (if_neg disables)

theorem installedCases {h : Hold} {owner} (held : h.installed owner ≠ .free) : h ≠ .free := by
  unfold Hold.installed at held
  split at held
  · rename_i own
    rw [own.1]
    exact Hold.noConfusion
  · exact held

section
variable (sticky : s.Sticky)
include sticky

theorem requestSticky (r) : (s.request r).Sticky := stickyOf sticky rfl rfl rfl

theorem manageSticky (status) : (s.manage status).Sticky := by
  unfold Server.manage
  split
  · exact requestSticky sticky _
  · exact sticky

theorem disableSticky (autoBan usingKey reason) : (s.disableChannel autoBan usingKey reason).Sticky := by
  unfold Server.disableChannel
  split
  · exact requestSticky sticky _
  · exact sticky

theorem tagSticky (disable) : (s.updateTag disable).Sticky := by
  cases disable with
  | false => exact ⟨fun held => absurd rfl held,fun all => nomatch all⟩
  | true => exact ⟨fun _ => rfl,fun all => sticky.cached (stopAll all)⟩

theorem readForTestSticky : s.readForTest.Sticky := by
  unfold Server.readForTest
  split
  · exact sticky
  · exact stickyOf sticky rfl rfl rfl

theorem testSticky (id allowDisable automaticEnable result) : (s.finishTest id allowDisable automaticEnable result).Sticky := by
  unfold Server.finishTest
  split
  · exact sticky
  have here : Server.Sticky { s with tests := s.tests.erase id } := stickyOf sticky rfl rfl rfl
  split
  · split
    · exact disableSticky here _ _ _
    · exact here
  · split
    · exact requestSticky here _
    · exact here

theorem enterSticky {id} (deferring : (Act.enter id).Deferring s) : (s.enter now id).Sticky := by
  unfold Server.enter
  split
  · rename_i r found
    obtain lifted | ⟨kept,admin⟩ := enteredCases s.hold r
    · have free : ∀ s' : Server, s'.hold = s.hold.entered r → s'.Sticky := by
        intro _ same
        rw [lifted] at same
        exact ⟨fun held => absurd same held,fun all => nomatch same.symm.trans all⟩
      split
      · exact free _ rfl
      split
      · exact sticky
      split
      · exact stickyOf sticky rfl rfl rfl
      · split
        · exact stickyOf sticky rfl rfl rfl
        · exact free _ rfl
    · split
      · exact stickyOf sticky rfl rfl kept
      split
      · exact sticky
      split
      · exact stickyOf sticky rfl rfl rfl
      rename_i c cached
      split
      · exact stickyOf sticky rfl rfl rfl
      rename_i c' update
      refine ⟨fun held => sticky.stored (kept ▸ held),fun all c'' here => ?_⟩
      cases here
      have held : s.hold = .all := kept.symm.trans all
      cases who : r.admin with
      | true => exact (cacheWhole (r.whole who) update).trans (admin who)
      | false =>
        have harmless := deferring held _ found who c cached
        exact (cacheHarmless harmless update).trans (sticky.cached held c cached)
  · exact sticky

theorem loadSticky (id) : (s.load id).Sticky := by
  unfold Server.load
  split
  · split
    · exact stickyOf sticky rfl rfl rfl
    · exact stickyOf sticky rfl rfl rfl
  · exact sticky

theorem saveSticky {id} (deferring : (Act.save id).Deferring s) : (s.save now id).Sticky := by
  unfold Server.save
  split
  · rename_i r row found
    obtain lifted | ⟨system,kept⟩ | ⟨admin,disables,all⟩ := writtenCases s.hold r
    · exact ⟨fun held => absurd lifted held,fun all => nomatch lifted.symm.trans all⟩
    · refine ⟨fun held => ?_,fun all => sticky.cached (kept.symm.trans all)⟩
      have still : s.hold ≠ .free := kept ▸ held
      obtain ⟨read,harmless⟩ := deferring still _ found system row rfl
      exact (rowHarmless harmless).trans read
    · exact ⟨fun _ => (rowWhole (r.whole admin)).trans disables,fun now_ => sticky.cached (all now_)⟩
  · exact sticky

theorem failSticky (id) : (s.fail id).Sticky := by
  unfold Server.fail
  split
  · exact stickyOf sticky rfl rfl rfl
  · exact stickyOf sticky rfl rfl rfl
  · exact sticky

theorem readSticky (owner) : (s.read owner).Sticky := by
  unfold Server.read
  split
  · exact stickyOf sticky rfl rfl rfl
  · exact sticky

theorem refreshSticky (id) : (s.refresh id).Sticky := by
  unfold Server.refresh
  split
  · have here : (s.setPhase id (.returned true)).Sticky := stickyOf sticky rfl rfl rfl
    exact readSticky here _
  · exact sticky

theorem installSticky {id} (deferring : (Act.install id).Deferring s) : (s.install id).Sticky := by
  unfold Server.install
  split
  · rename_i reload found
    refine ⟨fun held => sticky.stored (installedCases held),fun all c here => ?_⟩
    cases here
    have held : s.hold ≠ .free := installedCases (fun free => nomatch all.symm.trans free)
    exact deferring held reload found
  · exact sticky

end

theorem stepSticky (s : Server) (e) (sticky : s.Sticky) (deferring : s.Deferring e) : (s.step e).Sticky := by
  obtain ⟨_,act⟩ := e
  cases act with
  | updateChannelStatus status => exact manageSticky sticky status
  | updateTag disable => exact tagSticky sticky disable
  | disableChannel autoBan usingKey reason => exact disableSticky sticky autoBan usingKey reason
  | readForTest => exact readForTestSticky sticky
  | finishTest test allowDisable automaticEnable result => exact testSticky sticky test allowDisable automaticEnable result
  | enter => exact enterSticky sticky deferring
  | load call => exact loadSticky sticky call
  | save => exact saveSticky sticky deferring
  | fail call => exact failSticky sticky call
  | refresh call => exact refreshSticky sticky call
  | sync => exact readSticky sticky none
  | install => exact installSticky sticky deferring

end Sticky

theorem manualSticky (memoryCacheEnabled : Bool) (stored : Channel) (cached : Option Channel) (events : List Event)
    (deferring : Along Server.step Server.Deferring (.start memoryCacheEnabled stored cached) events) :
    Always Server.step Server.Sticky (.start memoryCacheEnabled stored cached) events :=
  alwaysKept stepSticky ⟨fun held => absurd rfl held,fun all => nomatch all⟩ deferring

def noKeys : ChannelInfo := ⟨false,fun _ => none,fun _ => none,fun _ => none⟩

def plain (status : Status) : Channel := ⟨status,["k"],by decide,true,noKeys,none,none⟩

def pool : Channel := ⟨.enabled,["a","b"],by decide,true,{ noKeys with isMultiKey := true },none,none⟩

theorem manualStickyPool : Always Server.step Server.Sticky (.start true pool (some pool))
    [⟨10,.updateChannelStatus .manuallyDisabled⟩,⟨11,.enter 1⟩,⟨11,.load 1⟩,⟨12,.save 1⟩,⟨12,.refresh 1⟩,⟨13,.install 1⟩,
      ⟨20,.disableChannel true "a" "401"⟩,⟨20,.enter 2⟩,⟨21,.load 2⟩,⟨22,.save 2⟩] :=
  manualSticky true pool (some pool) _ (by decide +kernel)

theorem manualOverwritten : ¬ Always Server.step Server.Sticky (.start true (plain .enabled) (some (plain .enabled)))
    [⟨10,.updateChannelStatus .manuallyDisabled⟩,⟨11,.enter 1⟩,⟨11,.load 1⟩,⟨12,.save 1⟩,⟨12,.refresh 1⟩,⟨13,.install 1⟩,
      ⟨20,.disableChannel true "k" "401"⟩,⟨20,.enter 2⟩,⟨21,.load 2⟩,⟨22,.save 2⟩,
      ⟨30,.readForTest⟩,⟨31,.finishTest 1 true true ⟨false,false,false,"k",""⟩⟩,⟨31,.enter 3⟩,⟨32,.load 3⟩,⟨33,.save 3⟩] := by
  intro always
  have last := alwaysLast always
  have disabled := last.stored (by decide +kernel)
  revert disabled
  decide +kernel

end NovaPuraRouter.ChannelStatus
