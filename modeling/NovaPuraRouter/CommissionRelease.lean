import NovaPuraRouter.ReleaseSpec

/-! Release loops on several nodes. A node reads its batch outside the transaction that
releases it, and the flip of the rows does not look at their status: another node may have
released them in between. The log of moved rows is kept beside the state; nothing in the
loop reads it. -/
namespace NovaPuraRouter.CommissionRelease
open CommissionPlan ReleaseSpec List Option Table

structure Fleet where
  store : CommissionStore
  setting : CommissionSetting
  clock : Int
  workers : Nat → Releaser
  moved : List (Nat × Int)

inductive FleetOp
  | elapse (seconds : Nat)
  | configure (setting : CommissionSetting)
  | settle (inviteeId : Nat) (topUpId : String) (paidAmountCents : Int) (paidCurrency : String)
  | release (node : Nat)
  | abandon (node : Nat) (err : Failure)

def setWorker (workers : Nat → Releaser) (node : Nat) (r : Releaser) : Nat → Releaser :=
  fun other => if other = node then r else workers other

variable (s : CommissionStore)

def movedBy : Releaser → List Nat
  | .holding _ _ batch => match releaseBatch s batch with
    | .ok _ => movedIds s batch
    | .error _ => []
  | _ => []

variable (f : Fleet)

def settled (inviteeId : Nat) (topUpId : String) (paidAmountCents : Int) (paidCurrency : String) : CommissionStore :=
  commit f.store
    ((settleRechargeCommission f.setting f.store inviteeId topUpId paidAmountCents paidCurrency f.clock).map Prod.snd)

def fleetStep : FleetOp → Fleet
  | .elapse seconds => { f with clock := f.clock + seconds }
  | .configure setting => { f with setting := setting }
  | .settle inviteeId topUpId paidAmountCents paidCurrency =>
      { f with store := settled f inviteeId topUpId paidAmountCents paidCurrency }
  | .release node => { f with
      store := (releaseStep f.store f.clock (f.workers node)).2
      workers := setWorker f.workers node (releaseStep f.store f.clock (f.workers node)).1
      moved := f.moved ++ (movedBy f.store (f.workers node)).map (fun id => (id,f.clock)) }
  | .abandon node err => { f with workers := setWorker f.workers node (abandon err (f.workers node)) }

def maturedSum (userId : Nat) : Int :=
  f.store.commissions.sum (fun _ c => if c.inviterId = userId ∧ c.availableAt ≤ f.clock then c.commissionCents else 0)

structure ReleasedOnce (f : Fleet) : Prop where
  once : (f.moved.map Prod.fst).Nodup
  matured : ∀ id time c, (id,time) ∈ f.moved → f.store.commissions.get? id = some c → c.availableAt ≤ time
  backed : ∀ userId u, f.store.users.get? userId = some u → u.commissionBalanceCents ≤ maturedSum f userId

def StillPending : FleetOp → Prop
  | .release node => ∀ id ∈ movedBy f.store (f.workers node), ∀ c, f.store.commissions.get? id = some c → c.status = .pending
  | _ => True

instance (f op) : Decidable (StillPending f op) := match op with
  | .release node => decidable_of_iff ((movedBy f.store (f.workers node)).all (fun id =>
      (f.store.commissions.get? id).all (fun c => decide (c.status = .pending))) = true) (by simp [StillPending,Option.all_eq_true])
  | .elapse _ | .configure _ | .settle _ _ _ _ | .abandon _ _ => .isTrue trivial

def fleetOpening (users : Table Nat Affiliate) (setting : CommissionSetting) (clock : Int) : Fleet :=
  ⟨⟨users,empty,empty⟩,setting,clock,fun _ => .returned 0 none,[]⟩

def EmptyBalances (users : Table Nat Affiliate) : Prop :=
  ∀ userId u, users.get? userId = some u → u.commissionBalanceCents = 0

def WorkerSound (clock : Int) : Releaser → Prop
  | .returned _ _ => True
  | .reading now _ => now ≤ clock
  | .holding now _ batch => now ≤ clock ∧ (batch.map Prod.fst).Nodup ∧
      ∀ r ∈ batch, r.2.status = .pending ∧ r.2.availableAt ≤ now ∧ Copies s r

structure FleetSound (f : Fleet) : Prop where
  cents : ∀ id c, f.store.commissions.get? id = some c → 0 < c.commissionCents
  flipped : ∀ id c, f.store.commissions.get? id = some c → (c.status = .pending ↔ id ∉ f.moved.map Prod.fst)
  known : ∀ id ∈ f.moved.map Prod.fst, ∃ c, f.store.commissions.get? id = some c
  matured : ∀ id time c, (id,time) ∈ f.moved → f.store.commissions.get? id = some c → c.availableAt ≤ time
  past : ∀ m ∈ f.moved, m.2 ≤ f.clock
  workers : ∀ node, WorkerSound f.store f.clock (f.workers node)

def availableSum (userId : Nat) : Int :=
  s.commissions.sum (fun _ c => if c.inviterId = userId ∧ c.status ≠ .pending then c.commissionCents else 0)

structure Single (f : Fleet) : Prop where
  once : (f.moved.map Prod.fst).Nodup
  balances : ∀ userId u, f.store.users.get? userId = some u → u.commissionBalanceCents = availableSum f.store userId

variable {f : Fleet} {s s' : CommissionStore} {id node flipped : Nat} {clock : Int} {r : Releaser} {batch : List (Nat × Commission)}

theorem singleReleased (sound : FleetSound f) (single : Single f) : ReleasedOnce f := by
  refine ⟨single.once,sound.matured,?_⟩
  intro userId u found
  rw [single.balances userId u found]
  refine sumMono ?_
  intro id c got
  have positive := sound.cents id c got
  by_cases pending : c.status = .pending
  · simp only [pending,ne_eq,not_true_eq_false,and_false,if_false]
    split <;> omega
  have mem : id ∈ f.moved.map Prod.fst := by
    by_contra absent
    exact pending ((sound.flipped id c got).mpr absent)
  obtain ⟨⟨_,_⟩,logged,rfl⟩ := List.mem_map.mp mem
  have due := sound.matured _ _ c logged got
  have before := sound.past _ logged
  have matured : c.availableAt ≤ f.clock := due.trans before
  simp [pending,matured]

theorem settledCases (f inviteeId topUpId paidAmountCents paidCurrency) :
    settled f inviteeId topUpId paidAmountCents paidCurrency = f.store ∨
      ∃ c, settled f inviteeId topUpId paidAmountCents paidCurrency = creditPending f.store c ∧
        0 < c.commissionCents ∧ c.status = .pending := by
  obtain ⟨_,_,ok,same⟩ | same := commitPairCases f.store
    (settleRechargeCommission f.setting f.store inviteeId topUpId paidAmountCents paidCurrency f.clock)
  · obtain rfl | ⟨c,_,rfl,_,earned,status⟩ := settleCases ok
    · exact .inl same
    · exact .inr ⟨c,same,earned,status⟩
  · exact .inl same

theorem creditOlder (c) {old} (found : s.commissions.get? id = some old) : (creditPending s c).commissions.get? id = some old := by
  have older : id ≠ s.commissions.nextId := ne_of_lt (getLtNextId found)
  simpa [creditPending,getAppend,older] using found

theorem workerLater {later} (order : clock ≤ later) (sound : WorkerSound s clock r) : WorkerSound s later r := by
  cases r with
  | returned => trivial
  | reading => exact le_trans sound order
  | holding => exact ⟨le_trans sound.1 order,sound.2⟩

theorem workerKept (copies : ∀ row, Copies s row → Copies s' row) (sound : WorkerSound s clock r) : WorkerSound s' clock r := by
  cases r with
  | returned => trivial
  | reading => exact sound
  | holding =>
    exact ⟨sound.1,sound.2.1,fun row mem => ⟨(sound.2.2 row mem).1,(sound.2.2 row mem).2.1,copies row (sound.2.2 row mem).2.2⟩⟩

theorem workerAbandoned (err r) : WorkerSound s clock (abandon err r) := by
  cases r <;> trivial

theorem setWorkerSound {workers} (here : WorkerSound s clock r) (others : ∀ other, WorkerSound s clock (workers other)) (other) :
    WorkerSound s clock (setWorker workers node r other) := by
  unfold setWorker
  split
  · exact here
  · exact others other

theorem creditSound {c} (earned : 0 < c.commissionCents) (status : c.status = .pending)
    (sound : FleetSound f) : FleetSound { f with store := creditPending f.store c } := by
  have fresh : f.store.commissions.nextId ∉ f.moved.map Prod.fst := by
    intro mem
    obtain ⟨old,found⟩ := sound.known _ mem
    rw [getNextId] at found
    cases found
  have rows : ∀ {id row}, (creditPending f.store c).commissions.get? id = some row →
      (id = f.store.commissions.nextId ∧ row = c) ∨ f.store.commissions.get? id = some row := by
    intro id row found
    simp only [creditPending,getAppend] at found
    split at found
    · rename_i same
      exact .inl ⟨same,(some.inj found).symm⟩
    · exact .inr found
  refine ⟨?_,?_,?_,?_,sound.past,?_⟩
  · intro id row found
    obtain ⟨_,rfl⟩ | old := rows found
    · exact earned
    · exact sound.cents id row old
  · intro id row found
    obtain ⟨rfl,rfl⟩ | old := rows found
    · exact ⟨fun _ => fresh,fun _ => status⟩
    · exact sound.flipped id row old
  · intro id mem
    obtain ⟨old,found⟩ := sound.known id mem
    exact ⟨old,creditOlder c found⟩
  · intro id time row logged found
    obtain ⟨rfl,rfl⟩ | old := rows found
    · exact absurd (List.mem_map_of_mem logged) fresh
    · exact sound.matured id time row logged old
  · intro node
    refine workerKept ?_ (sound.workers node)
    rintro row ⟨old,found,same⟩
    exact ⟨old,creditOlder c found,same⟩

theorem releaseStepCases (s clock r) :
    ((releaseStep s clock r).2 = s ∧ movedBy s r = []) ∨ ∃ now released batch flipped, r = .holding now released batch ∧
      Released s batch flipped (releaseStep s clock r).2 ∧ movedBy s r = movedIds s batch := by
  cases r with
  | returned => exact .inl ⟨rfl,rfl⟩
  | reading =>
    simp only [releaseStep]
    split
    · exact .inl ⟨rfl,rfl⟩
    · exact .inl ⟨rfl,rfl⟩
  | holding now released batch =>
    simp only [releaseStep,movedBy]
    cases attempt : releaseBatch s batch with
    | error => exact .inl ⟨rfl,rfl⟩
    | ok result =>
      refine .inr ⟨now,released,batch,result.1,rfl,?_,rfl⟩
      simp only
      split
      · exact releaseExact attempt
      · exact releaseExact attempt

theorem releaseWorker (sound : WorkerSound s clock r) : WorkerSound (releaseStep s clock r).2 clock (releaseStep s clock r).1 := by
  cases r with
  | returned => exact le_refl clock
  | reading now =>
    simp only [releaseStep]
    split
    · trivial
    refine ⟨sound,maturedNodup s now,?_⟩
    intro row mem
    obtain ⟨found,pending,due⟩ := maturedRow mem
    exact ⟨pending,due,row.2,found,rfl⟩
  | holding _ _ batch =>
    simp only [releaseStep]
    cases releaseBatch s batch with
    | error => trivial
    | ok =>
      simp only
      split
      · trivial
      · exact sound.1

theorem releasedRow (done : Released s batch flipped s') {c'} (found : s'.commissions.get? id = some c') :
    ∃ c, s.commissions.get? id = some c ∧ c' = if id ∈ movedIds s batch then makeAvailable c else c := by
  rw [done.commissions,getUpdate,map_eq_some_iff] at found
  obtain ⟨c,before,rfl⟩ := found
  exact ⟨c,before,by simp only [decide_eq_true_eq]⟩

theorem releasedCopies (done : Released s batch flipped s') {row} (copy : Copies s row) : Copies s' row := by
  obtain ⟨c,found,same⟩ := copy
  refine ⟨_,by rw [done.commissions,getUpdate,found,map_some],?_⟩
  split
  · exact same
  · exact same

theorem releaseSound (node) (sound : FleetSound f) : FleetSound (fleetStep f (.release node)) := by
  have here := releaseWorker (sound.workers node)
  obtain ⟨same,nothing⟩ | ⟨now,_,batch,_,at_,done,moves⟩ := releaseStepCases f.store f.clock (f.workers node)
  · simp only [fleetStep,nothing,map_nil,append_nil]
    rw [same] at here ⊢
    exact { sound with workers := setWorkerSound here sound.workers }
  have held := sound.workers node
  rw [at_] at held
  obtain ⟨started,_,rows⟩ := held
  have ids : (f.moved ++ (movedBy f.store (f.workers node)).map (fun id => (id,f.clock))).map Prod.fst =
      f.moved.map Prod.fst ++ movedIds f.store batch := by
    simp [moves,Function.comp_def]
  have others : ∀ other, WorkerSound (releaseStep f.store f.clock (f.workers node)).2 f.clock (f.workers other) :=
    fun other => workerKept (fun _ copy => releasedCopies done copy) (sound.workers other)
  have copied : ∀ id ∈ movedIds f.store batch, ∃ c, f.store.commissions.get? id = some c ∧ c.availableAt ≤ now := by
    intro id mem
    obtain ⟨row,inside,rfl⟩ := List.mem_map.mp mem
    obtain ⟨_,due,c,found,same⟩ := rows row (mem_filter.mp inside).1
    exact ⟨c,found,by rw [same] at due; exact due⟩
  refine ⟨?_,?_,?_,?_,?_,setWorkerSound here others⟩
  · intro id c' found
    obtain ⟨c,before,rfl⟩ := releasedRow done found
    have positive := sound.cents id c before
    split
    · exact positive
    · exact positive
  · intro id c' found
    obtain ⟨c,before,rfl⟩ := releasedRow done found
    simp only [fleetStep,ids,mem_append,not_or]
    split
    · rename_i mem
      simp [makeAvailable,mem]
    · rename_i other
      exact (sound.flipped id c before).trans ⟨fun h => ⟨h,other⟩,fun h => h.1⟩
  · intro id mem
    have row : ∃ c, f.store.commissions.get? id = some c := by
      simp only [fleetStep,ids,mem_append] at mem
      rcases mem with old | new
      · exact sound.known id old
      · obtain ⟨c,found,_⟩ := copied id new
        exact ⟨c,found⟩
    obtain ⟨c,found⟩ := row
    refine getKeys.mp ?_
    simp only [fleetStep,done.commissions]
    exact getKeys.mpr ⟨_,by rw [getUpdate,found,map_some]⟩
  · intro id time _ logged found
    obtain ⟨c,before,rfl⟩ := releasedRow done found
    have due : c.availableAt ≤ time := by
      simp only [fleetStep,moves] at logged
      rcases mem_append.mp logged with old | new
      · exact sound.matured id time c old before
      obtain ⟨_,inside,same⟩ := List.mem_map.mp new
      obtain ⟨rfl,rfl⟩ := Prod.mk.inj same
      obtain ⟨_,got,ready⟩ := copied _ inside
      cases some.inj (got.symm.trans before)
      exact ready.trans started
    split
    · exact due
    · exact due
  · intro m logged
    rcases mem_append.mp logged with old | new
    · exact sound.past m old
    · obtain ⟨_,_,rfl⟩ := List.mem_map.mp new
      exact le_refl _

theorem fleetSound (f op) (sound : FleetSound f) : FleetSound (fleetStep f op) := by
  cases op with
  | elapse seconds =>
    have later : f.clock ≤ f.clock + seconds := by omega
    exact { sound with
      past := fun m mem => (sound.past m mem).trans later
      workers := fun node => workerLater later (sound.workers node) }
  | configure => exact { sound with }
  | settle inviteeId topUpId paidAmountCents paidCurrency =>
    simp only [fleetStep]
    obtain same | ⟨c,same,earned,status⟩ := settledCases f inviteeId topUpId paidAmountCents paidCurrency
    · rw [same]
      exact sound
    · rw [same]
      exact creditSound earned status sound
  | release node => exact releaseSound node sound
  | abandon _ err => exact { sound with workers := setWorkerSound (workerAbandoned err _) sound.workers }

theorem batchSumFilter (batch) (p : Nat → Bool) (userId) :
    batchSum (batch.filter (fun r => p r.2.inviterId)) userId = if p userId then batchSum batch userId else 0 := by
  induction batch with
  | nil => simp
  | cons r _ ih =>
    rw [filter_cons]
    by_cases kept : p r.2.inviterId = true
    · rw [if_pos kept,batchSumCons,ih,batchSumCons]
      by_cases own : r.2.inviterId = userId
      · rw [← own,if_pos kept,if_pos kept]
      · simp [own]
    · rw [if_neg kept,ih,batchSumCons]
      by_cases own : r.2.inviterId = userId
      · rw [← own,if_neg kept,if_neg kept]
      · simp [own]

theorem movedHeld {now released} (sound : WorkerSound s clock (.holding now released batch))
    (pending : ∀ id ∈ movedIds s batch, ∀ c, s.commissions.get? id = some c → c.status = .pending) :
    BatchHeld s (batch.filter (fun r => covered s batch r.2.inviterId)) := by
  refine ⟨sound.2.1.sublist (filter_sublist.map Prod.fst),?_⟩
  intro row mem
  obtain ⟨status,_,c,found,same⟩ := sound.2.2 row (mem_filter.mp mem).1
  have still := pending row.1 (List.mem_map_of_mem mem) c found
  have equal : row.2 = c := by
    rw [same,status,← still]
  exact ⟨equal ▸ found,status⟩

theorem releasedAvailable
    (done : Released s batch flipped s') (held : BatchHeld s (batch.filter (fun r => covered s batch r.2.inviterId))) (userId) :
    availableSum s' userId = availableSum s userId + if covered s batch userId then batchSum batch userId else 0 := by
  rw [← batchSumFilter,batchWithin held]
  unfold availableSum
  rw [done.commissions,sumUpdate,← sumAdd]
  refine sumCongr ?_
  intro id c found
  by_cases mem : id ∈ movedIds s batch
  · have pending := heldPending held found mem
    simp only [movedIds] at mem
    simp [movedIds,mem,makeAvailable,pending]
  · simp only [movedIds] at mem
    simp [movedIds,mem]

theorem releasedBalance (done : Released s batch flipped s') {userId u'} (found : s'.users.get? userId = some u') :
    ∃ u, s.users.get? userId = some u ∧
      u'.commissionBalanceCents = u.commissionBalanceCents + if covered s batch userId then batchSum batch userId else 0 := by
  rw [done.users,map_eq_some_iff] at found
  obtain ⟨u,before,rfl⟩ := found
  refine ⟨u,before,?_⟩
  by_cases covers : Covers u (batchSum batch userId)
  · simp [debited,covered,before,covers,moveCents]
  · simp [debited,covered,before,covers]

theorem onceRelease (sound : FleetSound f) (once : (f.moved.map Prod.fst).Nodup) :
    ((fleetStep f (.release node)).moved.map Prod.fst).Nodup ↔ StillPending f (.release node) := by
  have ids : (fleetStep f (.release node)).moved.map Prod.fst = f.moved.map Prod.fst ++ movedBy f.store (f.workers node) := by
    simp [fleetStep,Function.comp_def]
  have rows : (movedBy f.store (f.workers node)).Nodup ∧
      ∀ id ∈ movedBy f.store (f.workers node), ∃ c, f.store.commissions.get? id = some c := by
    obtain ⟨_,nothing⟩ | ⟨_,_,_,_,at_,_,moves⟩ := releaseStepCases f.store f.clock (f.workers node)
    · rw [nothing]
      exact ⟨nodup_nil,fun id mem => absurd mem not_mem_nil⟩
    have held := sound.workers node
    rw [at_] at held
    rw [moves]
    refine ⟨held.2.1.sublist (filter_sublist.map Prod.fst),?_⟩
    intro id mem
    obtain ⟨row,inside,rfl⟩ := List.mem_map.mp mem
    obtain ⟨_,_,c,found,_⟩ := held.2.2 row (mem_filter.mp inside).1
    exact ⟨c,found⟩
  rw [ids,nodup_append]
  constructor
  · rintro ⟨_,_,apart⟩ id mem c found
    refine (sound.flipped id c found).mpr ?_
    intro old
    exact apart id old id mem rfl
  · intro pending
    refine ⟨once,rows.1,?_⟩
    rintro id old _ mem rfl
    obtain ⟨c,found⟩ := rows.2 id mem
    exact (sound.flipped id c found).mp (pending id mem c found) old

theorem singleRelease (sound : FleetSound f) (single : Single f)
    (pending : StillPending f (.release node)) : Single (fleetStep f (.release node)) := by
  refine ⟨(onceRelease sound single.once).mpr pending,?_⟩
  intro userId u' found
  obtain ⟨same,_⟩ | ⟨_,_,_,_,at_,done,moves⟩ := releaseStepCases f.store f.clock (f.workers node)
  · simp only [fleetStep,same] at found ⊢
    exact single.balances userId u' found
  have worker := sound.workers node
  rw [at_] at worker
  have held := movedHeld worker (fun id mem => pending id (moves ▸ mem))
  obtain ⟨u,before,balance⟩ := releasedBalance done found
  have available := releasedAvailable done held userId
  simp only [fleetStep]
  rw [balance,available,single.balances userId u before]

theorem creditSingle {c} (status : c.status = .pending) (single : Single f) : Single { f with store := creditPending f.store c } := by
  refine ⟨single.once,?_⟩
  intro userId u found
  have rows : availableSum (creditPending f.store c) userId = availableSum f.store userId := by
    simp [availableSum,creditPending,sumAppend,status]
  obtain ⟨old,before,rfl,rfl⟩ | ⟨_,before⟩ := modifyCases found
  · exact (single.balances _ old before).trans rows.symm
  · exact (single.balances userId u before).trans rows.symm

theorem singleStep (f op) (sound : FleetSound f) (single : Single f) (pending : StillPending f op) : Single (fleetStep f op) := by
  cases op with
  | elapse | configure => exact { single with }
  | settle inviteeId topUpId paidAmountCents paidCurrency =>
    simp only [fleetStep]
    obtain same | ⟨c,same,_,status⟩ := settledCases f inviteeId topUpId paidAmountCents paidCurrency
    · rw [same]
      exact single
    · rw [same]
      exact creditSingle status single
  | release => exact singleRelease sound single pending
  | abandon => exact { single with }

theorem releasedExact (f op) (sound : FleetSound f) (single : Single f) : ReleasedOnce (fleetStep f op) ↔ StillPending f op := by
  constructor
  · intro released
    cases op with
    | release => exact (onceRelease sound single.once).mp released.once
    | _ => trivial
  · intro pending
    exact singleReleased (fleetSound f op sound) (singleStep f op sound single pending)

theorem fleetOpeningSound (users setting clock) : FleetSound (fleetOpening users setting clock) :=
  ⟨fun _ _ found => (by cases found),fun _ _ found => (by cases found),fun _ mem => absurd mem not_mem_nil,
    fun _ _ _ mem => absurd mem not_mem_nil,fun _ mem => absurd mem not_mem_nil,fun _ => trivial⟩

theorem movedMatured (users setting clock ops) : Always fleetStep FleetSound (fleetOpening users setting clock) ops :=
  alwaysOfKeeps fleetSound (fun _ sound => sound) ops (fleetOpeningSound users setting clock)

theorem releasedOnceIffStillPending {users : Table Nat Affiliate} {setting : CommissionSetting} {clock : Int} {ops : List FleetOp}
    (nothing : EmptyBalances users) : Always fleetStep ReleasedOnce (fleetOpening users setting clock) ops ↔
      Along fleetStep StillPending (fleetOpening users setting clock) ops := by
  refine alwaysIffAlong fleetSound (fun f => singleReleased) ?_ releasedExact (fleetOpeningSound users setting clock) ?_
  · intro f op sound single released
    exact singleStep f op sound single ((releasedExact f op sound single).mp released)
  · exact ⟨nodup_nil,fun userId u found => nothing userId u found⟩

def frozenSetting : CommissionSetting := ⟨some ⟨1,4,by decide⟩,1000,14,by decide⟩

def twoCommissions : List FleetOp :=
  [.settle 1 "topup-1" 10000 "USD",.elapse 1209600,.settle 1 "topup-2" 10000 "USD"]

theorem invitingEmpty : EmptyBalances inviting := by
  intro _ u found
  rcases mem_cons.mp (getMem.mp found) with first | rest
  · cases first
    rfl
  · cases mem_singleton.mp rest
    rfl

theorem oneAfterTheOther : Always fleetStep ReleasedOnce (fleetOpening inviting frozenSetting 0)
    (twoCommissions ++ [.release 0,.release 0,.release 0,.release 1,.release 1]) :=
  (releasedOnceIffStillPending invitingEmpty).mpr (by decide)

theorem bothHoldTheRow : ¬ Always fleetStep ReleasedOnce (fleetOpening inviting frozenSetting 0)
    (twoCommissions ++ [.release 0,.release 0,.release 1,.release 1,.release 0,.release 1]) := by
  intro always
  have last := alwaysLast always
  exact absurd last.once (by decide)

end NovaPuraRouter.CommissionRelease
