import NovaPuraRouter.ChannelSelect

/-! The memory cache while it is reloaded, while channels are disabled and while cooldowns
are set and cleared. Each reads or writes the database and the cache in steps of its own,
and a selection can come between any two. -/
namespace NovaPuraRouter.ChannelSelect
open List Table
open ChannelStatus (Status)

structure Rows where
  channels : List Channel
  unique : (channels.map Channel.id).Nodup

def Rows.modify (rows : Rows) (id : Nat) (f : Channel → Channel) (same : ∀ c, (f c).id = c.id) : Rows where
  channels := rows.channels.map (fun c => if c.id = id then f c else c)
  unique := by
    have ids : (rows.channels.map (fun c => if c.id = id then f c else c)).map Channel.id = rows.channels.map Channel.id := by
      rw [List.map_map]
      refine map_congr_left (fun c _ => ?_)
      dsimp only [Function.comp]
      split
      · exact same c
      · rfl
    rw [ids]
    exact rows.unique

def Channel.setCooldown (until_ : Int) (c : Channel) : Channel := { c with cooldownUntil := until_, failureCount := c.failureCount + 1 }

def Channel.clearCooldown (c : Channel) : Channel := { c with cooldownUntil := 0, failureCount := 0 }

section Cache
variable (s : Cache) (id : Nat)

def Cache.modify (f : Channel → Channel) : Cache :=
  { s with channelsIDM := Function.update s.channelsIDM id ((s.channelsIDM id).map f) }

def Cache.cacheSetChannelCooldown (until_ : Int) : Cache := s.modify id (Channel.setCooldown until_)

def Cache.cacheClearChannelCooldown : Cache := s.modify id Channel.clearCooldown

def Cache.cacheUpdateChannelStatus (status : Status) : Cache :=
  let s := s.modify id (fun c => { c with status := status })
  if status ≠ .enabled then { s with group2model2channels := fun g m => (s.group2model2channels g m).erase id } else s

end Cache

inductive Reload
  | read (rows : Rows)
  | built (rows : Rows) (cache : Cache)

inductive Clear
  | checked (id : Nat)
  | stored (id : Nat)

structure Pool where
  clock : Nat
  rows : Rows
  groups : List String
  cache : Cache
  reloads : Table Nat Reload
  cooldowns : Table Nat (Nat × Int)
  clears : Table Nat Clear
  cooldown : Nat → Int

def Pool.start (rows : Rows) (groups : List String) : Pool :=
  ⟨0,rows,groups,⟨fun _ _ => [],fun _ => none⟩,.empty,.empty,.empty,fun _ => 0⟩

inductive PoolAct
  | store (rows : Rows) (groups : List String)
  | readChannels
  | buildIndex (reload : Nat)
  | install (reload : Nat)
  | cacheUpdateChannelStatus (id : Nat) (status : Status)
  | applyChannelCooldownOnRateLimit (id : Nat) (channelCooldownSeconds : Int)
  | cacheSetChannelCooldown (work : Nat)
  | clearChannelCooldownOnSuccess (id : Nat)
  | storeClear (clear : Nat)
  | cacheClearChannelCooldown (clear : Nat)

structure PoolEvent where
  now : Nat
  act : PoolAct

section Step
variable (s : Pool)

def Pool.build (id : Nat) : Pool := match s.reloads.get? id with
  | some (.read rows) => match initChannelCache rows.channels s.clock s.groups with
    | some cache => { s with reloads := s.reloads.modify id (fun _ => .built rows cache) }
    | none => { s with reloads := s.reloads.erase id }
  | _ => s

def Pool.install (id : Nat) : Pool := match s.reloads.get? id with
  | some (.built _ cache) => { s with cache := cache, reloads := s.reloads.erase id }
  | _ => s

def Pool.applyCooldown (id : Nat) (seconds : Int) : Pool := match byId s.rows.channels id with
  | none => s
  | some _ =>
    { s with
      rows := s.rows.modify id (Channel.setCooldown (s.clock + seconds)) (fun _ => rfl)
      cooldowns := s.cooldowns.append (id,s.clock + seconds) }

def Pool.setCooldown (work : Nat) : Pool := match s.cooldowns.get? work with
  | none => s
  | some (id,until_) =>
    { s with
      cache := s.cache.cacheSetChannelCooldown id until_
      cooldowns := s.cooldowns.erase work
      cooldown := Function.update s.cooldown id until_ }

def Pool.checkClear (id : Nat) : Pool := match s.cache.channelsIDM id with
  | none => s
  | some c => if c.cooldownUntil = 0 ∧ c.failureCount = 0 then s else { s with clears := s.clears.append (.checked id) }

def Pool.storeClear (work : Nat) : Pool := match s.clears.get? work with
  | some (.checked id) =>
    { s with
      rows := s.rows.modify id Channel.clearCooldown (fun _ => rfl)
      clears := s.clears.modify work (fun _ => .stored id) }
  | _ => s

def Pool.finishClear (work : Nat) : Pool := match s.clears.get? work with
  | some (.stored id) => { s with cache := s.cache.cacheClearChannelCooldown id, clears := s.clears.erase work }
  | _ => s

def Pool.perform : PoolAct → Pool
  | .store rows groups => { s with rows := rows, groups := groups }
  | .readChannels => { s with reloads := s.reloads.append (.read s.rows) }
  | .buildIndex reload => s.build reload
  | .install reload => s.install reload
  | .cacheUpdateChannelStatus id status => { s with cache := s.cache.cacheUpdateChannelStatus id status }
  | .applyChannelCooldownOnRateLimit id seconds => s.applyCooldown id seconds
  | .cacheSetChannelCooldown work => s.setCooldown work
  | .clearChannelCooldownOnSuccess id => s.checkClear id
  | .storeClear clear => s.storeClear clear
  | .cacheClearChannelCooldown clear => s.finishClear clear

def Pool.tick (now : Nat) : Pool := { s with clock := max s.clock now }

def Pool.step (e : PoolEvent) : Pool := (s.tick e.now).perform e.act

end Step

def Pool.Safe (s : Pool) : Prop :=
  ∀ now, s.clock ≤ now → ∀ group model retry requestPath random c,
    getRandomSatisfiedChannel s.cache now group model retry requestPath random = .ok (some c) →
      c.status = .enabled ∧ s.cooldown c.id ≤ now

def Pool.Over (s : Pool) (id : Nat) : Prop := s.cooldown id ≤ s.clock

/- A disabled channel names no group and no model twice, a reload installs rows that have
the cooldowns still running, and a success clears none of these. -/
def Pool.Careful (s : Pool) : PoolAct → Prop
  | .cacheUpdateChannelStatus id status => status ≠ .enabled → ∀ c ∈ s.cache.channelsIDM id, c.groups.Nodup ∧ c.modelNames.Nodup
  | .install reload => match s.reloads.get? reload with
    | some (.built rows _) => ∀ c ∈ rows.channels, s.Over c.id ∨ s.cooldown c.id ≤ c.cooldownUntil
    | _ => True
  | .cacheClearChannelCooldown clear => match s.clears.get? clear with
    | some (.stored id) => s.Over id
    | _ => True
  | _ => True

def Pool.CarefulEvent (s : Pool) (e : PoolEvent) : Prop := (s.tick e.now).Careful e.act

instance (s : Pool) (id) : Decidable (s.Over id) := by unfold Pool.Over; infer_instance

instance (s : Pool) (act) : Decidable (s.Careful act) := by
  unfold Pool.Careful
  split
  · infer_instance
  · split <;> infer_instance
  · split <;> infer_instance
  · infer_instance

instance (s : Pool) (e) : Decidable (s.CarefulEvent e) := by unfold Pool.CarefulEvent; infer_instance

structure Cache.Sound (s : Cache) : Prop where
  own : ∀ id c, s.channelsIDM id = some c → c.id = id
  listed : ∀ g m, ∀ id ∈ s.group2model2channels g m, ∃ c, s.channelsIDM id = some c ∧ c.status = .enabled
  counted : ∀ g m id c, s.channelsIDM id = some c → (s.group2model2channels g m).count id ≤ c.groups.count g * c.modelNames.count m

section Cache
variable {s : Cache}

theorem initSound {channels} (unique : (channels.map Channel.id).Nodup) {now groups}
    (built : initChannelCache channels now groups = some s) : s.Sound ∧ s.channelsIDM = byId channels := by
  unfold initChannelCache at built
  split at built
  · cases built
    refine ⟨⟨fun id c found => (byIdOwn found).2,?_,?_⟩,rfl⟩
    · intro g m id mem
      obtain ⟨c,inside,same,_⟩ := indexMem.mp mem
      obtain ⟨there,enabled,_⟩ := listedMem.mp inside
      exact ⟨c,same ▸ byIdMem unique there,enabled⟩
    · intro g m _ c found
      obtain ⟨mem,same⟩ := byIdOwn found
      exact same ▸ indexCount unique mem
  · cases built

variable {id j : Nat} {f : Channel → Channel}

theorem modifyFound {d} (found : (s.modify id f).channelsIDM j = some d) :
    ∃ c, s.channelsIDM j = some c ∧ (j = id ∧ d = f c ∨ j ≠ id ∧ d = c) := by
  unfold Cache.modify at found
  by_cases same : j = id
  · rw [same] at found ⊢
    dsimp only at found
    rw [Function.update_self] at found
    obtain ⟨c,here,eq⟩ := Option.map_eq_some_iff.mp found
    exact ⟨c,here,.inl ⟨rfl,eq.symm⟩⟩
  · dsimp only at found
    rw [Function.update_of_ne same] at found
    exact ⟨d,found,.inr ⟨same,rfl⟩⟩

theorem modifyKeeps {c} (found : s.channelsIDM j = some c) : (s.modify id f).channelsIDM j = some (if j = id then f c else c) := by
  unfold Cache.modify
  dsimp only
  by_cases same : j = id
  · rw [if_pos same,same,Function.update_self,← same,found]
    rfl
  · rw [if_neg same,Function.update_of_ne same,found]

theorem modifySound (sound : s.Sound) (keeps : ∀ c, (f c).id = c.id ∧ (f c).group = c.group ∧ (f c).models = c.models)
    (enabled : ∀ c, c.status = .enabled → (f c).status = .enabled) : (s.modify id f).Sound := by
  refine ⟨?_,?_,?_⟩
  · intro j d found
    obtain ⟨c,here,⟨_,same⟩ | ⟨_,same⟩⟩ := modifyFound found
    · rw [same,(keeps c).1]
      exact sound.own j c here
    · rw [same]
      exact sound.own j c here
  · intro g m j mem
    obtain ⟨c,here,on⟩ := sound.listed g m j mem
    refine ⟨_,modifyKeeps here,?_⟩
    split
    · exact enabled c on
    · exact on
  · intro g m j d found
    obtain ⟨c,here,⟨_,same⟩ | ⟨_,same⟩⟩ := modifyFound found
    · have count := sound.counted g m j c here
      unfold Channel.groups Channel.modelNames at count ⊢
      rw [same,(keeps c).2.1,(keeps c).2.2]
      exact count
    · rw [same]
      exact sound.counted g m j c here

theorem statusSound (sound : s.Sound) {status} (once : status ≠ .enabled → ∀ c ∈ s.channelsIDM id, c.groups.Nodup ∧ c.modelNames.Nodup) :
    (s.cacheUpdateChannelStatus id status).Sound := by
  unfold Cache.cacheUpdateChannelStatus
  by_cases on : status = .enabled
  · rw [if_neg (not_not.mpr on)]
    exact modifySound sound (fun _ => ⟨rfl,rfl,rfl⟩) (fun _ _ => on)
  rw [if_pos on]
  have gone : ∀ g m, id ∉ (s.group2model2channels g m).erase id := by
    intro g m mem
    obtain ⟨c,here,_⟩ := sound.listed g m id (mem_of_mem_erase mem)
    obtain ⟨groups,models⟩ := once on c here
    have bound := Nat.mul_le_mul (nodup_iff_count_le_one.mp groups g) (nodup_iff_count_le_one.mp models m)
    have count := (sound.counted g m id c here).trans bound
    have left := count_pos_iff.mpr mem
    rw [count_erase_self] at left
    omega
  refine ⟨?_,?_,?_⟩
  · intro j d found
    obtain ⟨c,here,⟨_,same⟩ | ⟨_,same⟩⟩ := modifyFound found
    · rw [same]
      exact sound.own j c here
    · rw [same]
      exact sound.own j c here
  · intro g m j mem
    obtain ⟨c,here,enabled⟩ := sound.listed g m j (mem_of_mem_erase mem)
    have other : j ≠ id := fun same => gone g m (same ▸ mem)
    exact ⟨c,(modifyKeeps here).trans (congrArg some (if_neg other)),enabled⟩
  · intro g m j d found
    have less : ((s.group2model2channels g m).erase id).count j ≤ (s.group2model2channels g m).count j :=
      erase_sublist.count_le j
    obtain ⟨c,here,⟨_,same⟩ | ⟨_,same⟩⟩ := modifyFound found
    · rw [same]
      exact less.trans (sound.counted g m j c here)
    · rw [same]
      exact less.trans (sound.counted g m j c here)

end Cache

structure Pool.Sound (s : Pool) : Prop where
  cache : s.cache.Sound
  built : ∀ reload rows cache, s.reloads.get? reload = some (.built rows cache) → cache.Sound ∧ cache.channelsIDM = byId rows.channels
  cooling : ∀ id c, s.cache.channelsIDM id = some c → s.Over id ∨ s.cooldown id ≤ c.cooldownUntil

section Sound
variable {s : Pool}

section
variable (sound : s.Sound)
include sound

theorem soundSafe : s.Safe := by
  intro now _ group _ _ _ _ c selected
  obtain ⟨name,id,listed,found,accepts⟩ := selectedListed selected
  obtain ⟨d,here,enabled⟩ := sound.cache.listed group name id listed
  cases found.symm.trans here
  refine ⟨enabled,?_⟩
  rw [sound.cache.own id c found]
  have cold : c.inCooldown now = false := by
    exact Bool.not_eq_true' _ |>.mp (Bool.and_eq_true _ _ |>.mp accepts).1
  have ended : ¬ (0 < c.cooldownUntil ∧ (now : Int) < c.cooldownUntil) := of_decide_eq_false cold
  rcases sound.cooling id c found with done | running
  · unfold Pool.Over at done
    omega
  · omega

theorem tickSound (now) : (s.tick now).Sound := by
  refine ⟨sound.cache,sound.built,fun id c found => (sound.cooling id c found).imp (fun done => ?_) (fun running => running)⟩
  unfold Pool.Over at *
  show s.cooldown id ≤ (max s.clock now : Nat)
  omega

theorem besideSound {s' : Pool} (clock : s'.clock = s.clock) (cache : s'.cache = s.cache)
    (cooldown : s'.cooldown = s.cooldown) (built : ∀ reload rows cache, s'.reloads.get? reload = some (.built rows cache) →
      s.reloads.get? reload = some (.built rows cache) ∨ cache.Sound ∧ cache.channelsIDM = byId rows.channels) : s'.Sound := by
  refine ⟨cache ▸ sound.cache,fun reload rows c found => ?_,?_⟩
  · rcases built reload rows c found with old | new
    · exact sound.built reload rows c old
    · exact new
  · intro id c found
    have before := sound.cooling id c (cache ▸ found)
    unfold Pool.Over at *
    rw [clock,cooldown]
    exact before

theorem buildSound (id) : (s.build id).Sound := by
  unfold Pool.build
  split
  · rename_i rows found
    split
    · rename_i cache built
      refine besideSound sound rfl rfl rfl (fun reload rows' cache' there => ?_)
      obtain ⟨_,_,_,same⟩ | ⟨_,old⟩ := modifyCases there
      · cases same
        exact .inr (initSound rows.unique built)
      · exact .inl old
    · refine besideSound sound rfl rfl rfl (fun reload rows' cache' there => .inl ?_)
      rw [getErase] at there
      split at there
      · cases there
      · exact there
  · exact sound

theorem installSound {id} (careful : s.Careful (.install id)) : (s.install id).Sound := by
  unfold Pool.install
  unfold Pool.Careful at careful
  dsimp only at careful
  split
  · rename_i rows cache found
    rw [found] at careful
    obtain ⟨sound',same⟩ := sound.built id rows cache found
    refine ⟨sound',fun reload rows' cache' there => ?_,?_⟩
    · dsimp only at there
      rw [getErase] at there
      split at there
      · cases there
      · exact sound.built reload rows' cache' there
    · intro j c here
      rw [same] at here
      obtain ⟨mem,own⟩ := byIdOwn here
      exact own ▸ careful c mem
  · exact sound

theorem setSound (work) : (s.setCooldown work).Sound := by
  unfold Pool.setCooldown
  split
  · exact sound
  rename_i id until_ found
  refine ⟨modifySound sound.cache (fun _ => ⟨rfl,rfl,rfl⟩) (fun _ on => on),sound.built,?_⟩
  intro j d here
  obtain ⟨c,there,⟨same,eq⟩ | ⟨other,eq⟩⟩ := modifyFound here
  · right
    dsimp only
    rw [same,Function.update_self,eq]
    exact le_refl until_
  · have before := sound.cooling j c there
    unfold Pool.Over at *
    dsimp only
    rw [Function.update_of_ne other,eq]
    exact before

theorem clearSound {work} (careful : s.Careful (.cacheClearChannelCooldown work)) : (s.finishClear work).Sound := by
  unfold Pool.finishClear
  unfold Pool.Careful at careful
  dsimp only at careful
  split
  · rename_i id found
    rw [found] at careful
    refine ⟨modifySound sound.cache (fun _ => ⟨rfl,rfl,rfl⟩) (fun _ on => on),sound.built,?_⟩
    intro j d here
    obtain ⟨c,there,⟨same,eq⟩ | ⟨_,eq⟩⟩ := modifyFound here
    · exact .inl (same ▸ careful)
    · exact eq ▸ sound.cooling j c there
  · exact sound

theorem statusUpdateSound {id status} (careful : s.Careful (.cacheUpdateChannelStatus id status)) :
    ({ s with cache := s.cache.cacheUpdateChannelStatus id status } : Pool).Sound := by
  refine ⟨statusSound sound.cache careful,sound.built,?_⟩
  intro j d here
  have channels : (s.cache.cacheUpdateChannelStatus id status).channelsIDM =
      (s.cache.modify id (fun c => { c with status := status })).channelsIDM := by
    unfold Cache.cacheUpdateChannelStatus
    split
    · rfl
    · rfl
  rw [channels] at here
  obtain ⟨c,there,⟨_,eq⟩ | ⟨_,eq⟩⟩ := modifyFound here
  · rw [eq]
    exact sound.cooling j c there
  · rw [eq]
    exact sound.cooling j c there

theorem performSound (act) (careful : s.Careful act) : (s.perform act).Sound := by
  have reloads : ∀ reload rows cache, s.reloads.get? reload = some (.built rows cache) →
      s.reloads.get? reload = some (.built rows cache) ∨ cache.Sound ∧ cache.channelsIDM = byId rows.channels :=
    fun _ _ _ there => .inl there
  cases act with
  | store => exact besideSound sound rfl rfl rfl reloads
  | readChannels =>
    refine besideSound sound rfl rfl rfl (fun reload rows cache there => ?_)
    rcases appendCases there with ⟨_,new⟩ | old
    · cases new
    · exact .inl old
  | buildIndex reload => exact buildSound sound reload
  | install => exact installSound sound careful
  | cacheUpdateChannelStatus => exact statusUpdateSound sound careful
  | applyChannelCooldownOnRateLimit id seconds =>
    show (s.applyCooldown id seconds).Sound
    unfold Pool.applyCooldown
    split
    · exact sound
    · exact besideSound sound rfl rfl rfl reloads
  | cacheSetChannelCooldown work => exact setSound sound work
  | clearChannelCooldownOnSuccess id =>
    show (s.checkClear id).Sound
    unfold Pool.checkClear
    split
    · exact sound
    · split
      · exact sound
      · exact besideSound sound rfl rfl rfl reloads
  | storeClear clear =>
    show (s.storeClear clear).Sound
    unfold Pool.storeClear
    split
    · exact besideSound sound rfl rfl rfl reloads
    · exact sound
  | cacheClearChannelCooldown => exact clearSound sound careful

end

theorem startSound (rows groups) : (Pool.start rows groups).Sound :=
  ⟨⟨fun _ _ found => (nomatch found),fun _ _ _ mem => (nomatch mem),fun _ _ _ _ found => (nomatch found)⟩,
    fun _ _ _ found => (nomatch found),fun _ _ found => (nomatch found)⟩

end Sound

theorem poolSafe (rows : Rows) (groups : List String) (events : List PoolEvent)
    (careful : Along Pool.step Pool.CarefulEvent (.start rows groups) events) : Always Pool.step Pool.Safe (.start rows groups) events :=
  alwaysMono (fun _ sound => soundSafe sound)
    (alwaysKept (fun _ e sound careful => performSound (tickSound sound e.now) e.act careful) (startSound rows groups) careful)

def sampleChannel (id : Nat) (models : String) : Channel := ⟨id,false,none,.enabled,"default",models,none,none,0,0⟩

def samplePool : Rows := ⟨[sampleChannel 1 "gpt,o1",sampleChannel 2 "gpt"],by decide⟩

def boot : List PoolEvent := [⟨100,.readChannels⟩,⟨100,.buildIndex 1⟩,⟨100,.install 1⟩]

theorem poolSafeSample : Always Pool.step Pool.Safe (.start samplePool ["default"]) (boot ++
    [⟨110,.applyChannelCooldownOnRateLimit 1 60⟩,⟨110,.cacheSetChannelCooldown 1⟩,⟨120,.cacheUpdateChannelStatus 2 .autoDisabled⟩,
      ⟨121,.readChannels⟩,⟨121,.buildIndex 2⟩,⟨122,.install 2⟩,
      ⟨180,.clearChannelCooldownOnSuccess 1⟩,⟨180,.storeClear 1⟩,⟨180,.cacheClearChannelCooldown 1⟩]) :=
  poolSafe _ _ _ (by decide +kernel)

theorem poolUnsafe : ¬ Always Pool.step Pool.Safe (.start ⟨[sampleChannel 1 "gpt,gpt"],by decide⟩ ["default"])
      (boot ++ [⟨110,.cacheUpdateChannelStatus 1 .autoDisabled⟩]) ∧ ¬ Always Pool.step Pool.Safe (.start samplePool ["default"])
      (boot ++ [⟨110,.applyChannelCooldownOnRateLimit 1 60⟩,⟨110,.cacheSetChannelCooldown 1⟩,
        ⟨111,.clearChannelCooldownOnSuccess 1⟩,⟨111,.storeClear 1⟩,⟨111,.cacheClearChannelCooldown 1⟩]) := by
  constructor
  · intro always
    have last := alwaysLast always
    have selected := last 110 (by decide +kernel) "default" "gpt" 0 "" 0 { sampleChannel 1 "gpt,gpt" with status := .autoDisabled } (by rfl)
    cases selected.1
  · intro always
    have last := alwaysLast always
    have selected := last 111 (by decide +kernel) "default" "o1" 0 "" 0 (sampleChannel 1 "gpt,o1") (by rfl)
    revert selected
    decide +kernel

end NovaPuraRouter.ChannelSelect
