import NovaPuraRouter.Execution
import NovaPuraRouter.TextQuota

/-! The group ratio of a request whose token group is auto. The groups are tried in order, a
retry may move on to the next one, and the ratio is looked up again; a tiered model is
settled by the ratio of its snapshot from before the first attempt. A compact request is
priced again once it is answered. Which channel a group offers, and whether a failure is
retried, are inputs. -/
namespace NovaPuraRouter.GroupPrice
open TextQuota

structure Setting where
  groupGroupRatio : String → String → Option ℚ
  groupRatio : String → Option ℚ
  autoGroups : List String
  retryTimes : Nat

variable (cfg : Setting)

def getGroupRatio (name : String) : ℚ := (cfg.groupRatio name).getD 1

def ratioOf (userGroup group : String) : ℚ :=
  (cfg.groupGroupRatio userGroup group).getD (getGroupRatio cfg group)

structure TieredModel where
  exprString : String
  globalDiscount : ℚ
  estimate : ℚ → Int
  quotaPerUnit : ℚ

def TieredModel.snapshot (m : TieredModel) (ratio : ℚ) : BillingSnapshot :=
  ⟨"tiered_expr",m.exprString,ratio,m.globalDiscount,m.estimate ratio,m.quotaPerUnit⟩

abbrev Offer := String → Nat → Option Nat

structure Request where
  userGroup : String
  usingGroup : String
  crossGroupRetry : Bool
  autoGroup : Option String
  autoGroupIndex : Option Nat
  retry : Nat
  resetNextTry : Bool
  channel : Option (Nat × String)
  info : RequestInfo

namespace Request
variable (cfg : Setting)

def selectFrom (offer : Offer) : List String → Nat → Bool → Request → Request
  | [], _, _, r => { r with channel := none }
  | group :: rest, i, moved, r =>
    let priorityRetry := if moved then 0 else r.retry
    match offer group priorityRetry with
    | none => selectFrom offer rest (i + 1) true { r with autoGroupIndex := some (i + 1), retry := 0 }
    | some channel =>
      let chosen := { r with autoGroup := some group, channel := some (channel,group) }
      if r.crossGroupRetry ∧ cfg.retryTimes ≤ priorityRetry then
        { chosen with autoGroupIndex := some (i + 1), retry := 0, resetNextTry := true }
      else { chosen with autoGroupIndex := some i }

def cacheGetRandomSatisfiedChannel (offer : Offer) (r : Request) : Request :=
  let start := r.autoGroupIndex.getD 0
  selectFrom cfg offer (cfg.autoGroups.drop start) start false r

/- The channel a client is bound to is taken in the first group that has it. -/
def distribute (preferred : Option (Nat × (String → Bool))) (offer : Offer) (r : Request) : Request :=
  match preferred.bind (fun p => (cfg.autoGroups.find? p.2).map (fun group => (p.1,group))) with
  | some (channel,group) => { r with autoGroup := some group, channel := some (channel,group) }
  | none => { r.cacheGetRandomSatisfiedChannel cfg offer with retry := 0, resetNextTry := false }

variable (r : Request)

def handleGroupRatio : Request × ℚ :=
  let group := r.autoGroup.getD r.usingGroup
  ({ r with usingGroup := group },ratioOf cfg r.userGroup group)

def refresh : Request :=
  let (r,ratio) := r.handleGroupRatio cfg
  { r with info := { r.info with priceData := { r.info.priceData with groupRatio := ratio } } }

def modelPriceHelper (tiered : Option TieredModel) (r : Request) : Request :=
  let priced := r.refresh cfg
  { priced with info := { priced.info with tieredBillingSnapshot := tiered.map (fun m => m.snapshot priced.info.priceData.groupRatio) } }

-- Priced again, a model without an expression keeps the snapshot that is there.
def compact (tiered : Option TieredModel) (r : Request) : Request :=
  let priced := r.modelPriceHelper cfg tiered
  if tiered.isSome then priced else
    { priced with info := { priced.info with tieredBillingSnapshot := r.info.tieredBillingSnapshot } }

def getChannel (offer : Offer) (r : Request) : Request := (r.cacheGetRandomSatisfiedChannel cfg offer).refresh cfg

def increaseRetry : Request :=
  if r.resetNextTry then { r with resetNextTry := false } else { r with retry := r.retry + 1 }

/- An attempt failed and is retried, unless the loop is over or it had no channel. -/
def again (offer : Offer) : Request :=
  if r.channel = none ∨ cfg.retryTimes < r.increaseRetry.retry then r else r.increaseRetry.getChannel cfg offer

end Request

def first (tiered : Option TieredModel) (preferred : Option (Nat × (String → Bool))) (offer : Offer) (r : Request) : Request :=
  (r.distribute cfg preferred offer).modelPriceHelper cfg tiered

structure SettledAt (ratio : ℚ) (info : RequestInfo) : Prop where
  price : info.priceData.groupRatio = ratio
  tiered : ∀ snap ∈ info.tieredBillingSnapshot, snap.groupRatio = ratio

section Keeps
variable {cfg : Setting} {r : Request}

structure Tuned (cfg : Setting) (userGroup : String) (frozen : Option BillingSnapshot) (r : Request) : Prop where
  user : r.userGroup = userGroup
  frozen : r.info.tieredBillingSnapshot = frozen
  price : ∀ channel group, r.channel = some (channel,group) → r.info.priceData.groupRatio = ratioOf cfg userGroup group
  auto : ∀ channel group, r.channel = some (channel,group) → r.autoGroup = some group

theorem selectKeeps (cfg offer groups i moved r) :
    (Request.selectFrom cfg offer groups i moved r).userGroup = r.userGroup ∧ (Request.selectFrom cfg offer groups i moved r).info = r.info ∧
    ∀ channel group, (Request.selectFrom cfg offer groups i moved r).channel = some (channel,group) →
      (Request.selectFrom cfg offer groups i moved r).autoGroup = some group := by
  induction groups generalizing i moved r with
  | nil => exact ⟨rfl,rfl,fun _ _ nothing => (nomatch nothing)⟩
  | cons group _ ih =>
    unfold Request.selectFrom
    dsimp only
    generalize (if moved = true then 0 else r.retry) = priorityRetry
    cases offer group priorityRetry with
    | none => exact ih (i + 1) true { r with autoGroupIndex := some (i + 1), retry := 0 }
    | some =>
      dsimp only
      split
      · refine ⟨rfl,rfl,fun _ _ same => ?_⟩
        cases same
        rfl
      · refine ⟨rfl,rfl,fun _ _ same => ?_⟩
        cases same
        rfl

variable {frozen : Option BillingSnapshot}

theorem refreshTuned {userGroup} (user : r.userGroup = userGroup)
    (held : r.info.tieredBillingSnapshot = frozen) (auto : ∀ channel group, r.channel = some (channel,group) → r.autoGroup = some group) :
    Tuned cfg userGroup frozen (r.refresh cfg) := by
  refine ⟨user,held,fun channel group here => ?_,auto⟩
  show ratioOf cfg r.userGroup (r.autoGroup.getD r.usingGroup) = _
  rw [auto channel group here,user]
  rfl

theorem distributeAuto (preferred offer) (r : Request) : (r.distribute cfg preferred offer).userGroup = r.userGroup ∧
    ∀ channel group, (r.distribute cfg preferred offer).channel = some (channel,group) →
      (r.distribute cfg preferred offer).autoGroup = some group := by
  unfold Request.distribute
  split
  · refine ⟨rfl,fun _ _ same => ?_⟩
    cases same
    rfl
  · have kept := selectKeeps cfg offer (cfg.autoGroups.drop (r.autoGroupIndex.getD 0)) (r.autoGroupIndex.getD 0) false r
    exact ⟨kept.1,kept.2.2⟩

theorem againTuned {userGroup} (offer) (tuned : Tuned cfg userGroup frozen r) : Tuned cfg userGroup frozen (r.again cfg offer) := by
  unfold Request.again
  split
  · exact tuned
  have increased : r.increaseRetry.userGroup = r.userGroup ∧ r.increaseRetry.info = r.info := by
    unfold Request.increaseRetry
    split
    · exact ⟨rfl,rfl⟩
    · exact ⟨rfl,rfl⟩
  have kept := selectKeeps cfg offer (cfg.autoGroups.drop (r.increaseRetry.autoGroupIndex.getD 0)) (r.increaseRetry.autoGroupIndex.getD 0) false
    r.increaseRetry
  refine refreshTuned (kept.1.trans (increased.1.trans tuned.user)) ?_ kept.2.2
  show (Request.selectFrom _ _ _ _ _ _).info.tieredBillingSnapshot = _
  rw [kept.2.1,increased.2]
  exact tuned.frozen

end Keeps

section Serving
variable (tiered : Option TieredModel) (preferred : Option (Nat × (String → Bool))) (offer : Offer) (r : Request) (retries : List Offer)
  {c₀ c : Nat} {began serving : String}

def attempted : Request := run (Request.again cfg) (first cfg tiered preferred offer r) retries

theorem attemptedTuned (start : (first cfg tiered preferred offer r).channel = some (c₀,began)) :
    ∃ frozen, Tuned cfg r.userGroup frozen (attempted cfg tiered preferred offer r retries) ∧
      frozen.map BillingSnapshot.groupRatio = tiered.map (fun _ => ratioOf cfg r.userGroup began) := by
  obtain ⟨user,auto⟩ := @distributeAuto cfg preferred offer r
  have priced : Tuned cfg r.userGroup _ ((r.distribute cfg preferred offer).refresh cfg) := refreshTuned user rfl auto
  have opening : Tuned cfg r.userGroup (first cfg tiered preferred offer r).info.tieredBillingSnapshot (first cfg tiered preferred offer r) :=
    ⟨priced.user,rfl,priced.price,priced.auto⟩
  refine ⟨_,runKeeps (fun _ op => againTuned op) retries opening,?_⟩
  rw [← opening.price c₀ began start]
  cases tiered with
  | none | some => rfl

/- Settled by the price of its group, and by the ratio of the snapshot it was admitted with. -/
theorem settledIff {frozen : Option BillingSnapshot} {info : RequestInfo} {ratio ratio₀ : ℚ} (price : info.priceData.groupRatio = ratio)
    (held : info.tieredBillingSnapshot = frozen) (snapshot : frozen.map BillingSnapshot.groupRatio = tiered.map (fun _ => ratio₀)) :
    SettledAt ratio info ↔ tiered = none ∨ ratio₀ = ratio := by
  subst held
  constructor
  · intro settled
    cases model : tiered with
    | none => exact .inl rfl
    | some =>
      subst model
      obtain ⟨snap,held,same⟩ := Option.map_eq_some_iff.mp snapshot
      exact .inr (same.symm.trans (settled.tiered snap held))
  · intro agrees
    refine ⟨price,fun snap held => ?_⟩
    rw [Option.mem_def.mp held] at snapshot
    rcases agrees with plain | same
    · rw [plain] at snapshot
      cases snapshot
    · obtain ⟨_,_,ratio⟩ := Option.map_eq_some_iff.mp snapshot.symm
      rw [← ratio,same]

/- After any retries, when the attempt in use succeeds: it is settled by the ratio of its
own group, unless the model is tiered and the first group had another one. -/
theorem servingGroupPrices (start : (first cfg tiered preferred offer r).channel = some (c₀,began))
    (served : (run (Request.again cfg) (first cfg tiered preferred offer r) retries).channel = some (c,serving)) :
    SettledAt (ratioOf cfg r.userGroup serving) (run (Request.again cfg) (first cfg tiered preferred offer r) retries).info ↔
      tiered = none ∨ ratioOf cfg r.userGroup began = ratioOf cfg r.userGroup serving := by
  obtain ⟨frozen,tuned,snapshot⟩ := attemptedTuned cfg tiered preferred offer r retries start
  exact settledIff tiered (tuned.price c serving served) tuned.frozen snapshot

/- A compact request is settled by the ratio of the group that served it, also where its
model has an expression by then. -/
theorem compactServingGroup (again : Option TieredModel) (start : (first cfg tiered preferred offer r).channel = some (c₀,began))
    (served : (attempted cfg tiered preferred offer r retries).channel = some (c,serving)) :
    SettledAt (ratioOf cfg r.userGroup serving) ((attempted cfg tiered preferred offer r retries).compact cfg again).info ↔
      again ≠ none ∨ tiered = none ∨ ratioOf cfg r.userGroup began = ratioOf cfg r.userGroup serving := by
  obtain ⟨frozen,tuned,snapshot⟩ := attemptedTuned cfg tiered preferred offer r retries start
  generalize attempted cfg tiered preferred offer r retries = last at *
  have ratio : ((last.refresh cfg).info.priceData.groupRatio) = ratioOf cfg r.userGroup serving := by
    show ratioOf cfg last.userGroup (last.autoGroup.getD last.usingGroup) = _
    rw [tuned.auto c serving served,tuned.user]
    rfl
  cases again with
  | none =>
    have kept : (last.compact cfg none).info.tieredBillingSnapshot = frozen := tuned.frozen
    have settled : SettledAt _ (last.compact cfg none).info ↔ _ := settledIff tiered ratio kept snapshot
    simpa using settled
  | some model =>
    refine iff_of_true ⟨ratio,fun snap held => ?_⟩ (.inl (Option.some_ne_none model))
    cases held
    exact ratio

end Serving

section Sample

def twoGroups : Setting := ⟨fun _ _ => none,fun group => if group = "a" then some 1 else some 2,["a","b"],3⟩

def tieredModel : TieredModel := ⟨"e",1,fun _ => 0,500000⟩

def fresh : Request where
  userGroup := "u"
  usingGroup := "auto"
  crossGroupRetry := true
  autoGroup := none
  autoGroupIndex := none
  retry := 0
  resetNextTry := false
  channel := none
  info := ⟨"m","m",⟨0,1,1,1,1,1,1,1,[],false,1⟩,false,false,none,0,none,0,0,none⟩

def only (group : String) (channel : Nat) : Offer := fun g _ => if g = group then some channel else none

theorem movedGroupPrices : SettledAt (ratioOf twoGroups "u" "b")
    (run (Request.again twoGroups) (first twoGroups none none (only "a" 1) fresh) [only "b" 2]).info :=
  (@servingGroupPrices twoGroups none none (only "a" 1) fresh [only "b" 2] 1 2 "a" "b" rfl rfl).mpr (.inl rfl)

theorem movedGroupFrozen :
    (run (Request.again twoGroups) (first twoGroups (some tieredModel) none (only "a" 1) fresh) [only "b" 2]).channel = some (2,"b") ∧
    ¬ SettledAt (ratioOf twoGroups "u" "b")
      (run (Request.again twoGroups) (first twoGroups (some tieredModel) none (only "a" 1) fresh) [only "b" 2]).info := by
  refine ⟨rfl,fun settled => ?_⟩
  have ratio := settled.tiered (tieredModel.snapshot 1) rfl
  revert ratio
  decide +kernel

end Sample

end NovaPuraRouter.GroupPrice
