import NovaPuraRouter.Execution

/-! The limit on successful model requests of one user, in Redis and in memory, with the
total limit off. Times are in milliseconds; the limiter in memory reads whole seconds, and a
sweep drops its queues that were idle for longer than its expiration time. -/
namespace NovaPuraRouter.ModelRateLimit
open List

/- An entry of a queue: when its request was checked, when it was done and how it ended. -/
structure Mark where
  time : Nat
  done : Nat
  failed : Bool

/- All queues have the newest entry last. `admitted`: what either limiter has let through.
`same`: both have let the same through so far. `fair`: a failed request has not counted. -/
structure State where
  clock : Nat
  redis : List Mark
  expires : Nat
  check : Option (List Mark)
  success : Option (List Mark)
  admitted : List Mark
  same : Bool
  fair : Bool

inductive Event where
  | request (wait took : Nat) (failed : Bool)
  | sweep (wait : Nat)

section Limiter
variable (n d expiration now : Nat) (s : State)

def aged (old : Mark) : Bool := d ≤ (now - old.done) / 1000

def past (old : Mark) : Bool := d ≤ now / 1000 - old.time / 1000

def State.stored : List Mark := if s.expires ≤ now then [] else s.redis

def checkRedisRateLimit (q : List Mark) : Bool := n = 0 || q.length < n || q.head?.any (aged d now)

def newest (q : List Mark) : List Mark := q.drop (q.length - n)

def recordRedisRequest (m : Mark) : State :=
  if n = 0 then s else { s with redis := newest n (s.stored m.done ++ [m]), expires := m.done + 1000 * d }

def redisRateLimitHandler (m : Mark) : Bool × State :=
  if checkRedisRateLimit n d m.time (s.stored m.time) then (true,if m.failed then s else recordRedisRequest n d s m)
  else (false,{ s with redis := s.stored m.time, expires := m.time + 1000 * d })

def request (m : Mark) : Option (List Mark) → Bool × Option (List Mark)
  | none => (true,some [m])
  | some q =>
    if q.length < n then (true,some (q ++ [m]))
    else if q.head?.any (past d m.time) then (true,some (q.tail ++ [m])) else (false,some q)

def memoryRateLimitHandler (m : Mark) : Bool × State :=
  let checked := request n d m s.check
  (checked.1,{ s with
    check := checked.2
    success := if checked.1 ∧ m.failed = false then (request n d { m with time := m.done } s.success).2 else s.success })

def clearExpiredItems (queue : Option (List Mark)) : Option (List Mark) :=
  queue.filter (fun q => q.getLast?.any (fun last => now / 1000 - last.time / 1000 ≤ expiration))

def handle (m : Mark) : State :=
  let redis := redisRateLimitHandler n d s m
  let memory := memoryRateLimitHandler n d redis.2 m
  { memory.2 with
    clock := m.done
    admitted := if redis.1 || memory.1 then s.admitted ++ [m] else s.admitted
    same := s.same && redis.1 == memory.1
    fair := s.fair && (s.stored m.time).all (fun old => !old.failed || aged d m.time old) &&
      (s.check.getD []).all (fun old => !old.failed || past d m.time old) }

def step : Event → State
  | .request wait took failed => handle n d s ⟨s.clock + wait,s.clock + wait + took,failed⟩
  | .sweep wait =>
    let now := s.clock + wait
    { s with clock := now, check := clearExpiredItems expiration now s.check, success := clearExpiredItems expiration now s.success }

def Agreeing : Prop := s.same = true ∧ s.fair = true

/- No request comes where one clock, but not the other, has an earlier one out of the window,
nor within the window of a failed one. -/
def Plain : Event → Prop
  | .request wait _ _ => 0 < n ∧ ∀ old ∈ s.admitted,
      past d (s.clock + wait) old = aged d (s.clock + wait) old ∧ (old.failed = true → past d (s.clock + wait) old = true)
  | .sweep _ => d ≤ expiration

instance (e) : Decidable (Plain n d expiration s e) := by cases e <;> (unfold Plain; infer_instance)

end Limiter

variable {n d expiration now now' : Nat} {s : State}

section Queue
variable {gone gone' : Mark → Bool} {all q : List Mark}

/- A queue of what was admitted, but for requests whose window has passed. -/
structure Kept (gone : Mark → Bool) (n : Nat) (all q : List Mark) : Prop where
  rest : ∃ old, all = old ++ q ∧ ∀ m ∈ old, gone m = true
  short : q.length ≤ n

variable (kept : Kept gone n all q)
include kept

theorem Kept.mono (later : ∀ m, gone m = true → gone' m = true) : Kept gone' n all q := by
  obtain ⟨old,same,passed⟩ := kept.rest
  exact ⟨⟨old,same,fun m inside => later m (passed m inside)⟩,kept.short⟩

theorem Kept.mem {m} (inside : m ∈ q) : m ∈ all := by
  obtain ⟨old,rfl,_⟩ := kept.rest
  exact mem_append_right old inside

theorem Kept.clear (passed : ∀ m ∈ q, gone m = true) : Kept gone n all [] := by
  obtain ⟨old,rfl,before⟩ := kept.rest
  exact ⟨⟨old ++ q,(append_nil _).symm,fun m inside => (mem_append.mp inside).elim (before m) (passed m)⟩,Nat.zero_le n⟩

/- There is room exactly if fewer than `n` requests are still within their window. -/
theorem Kept.room (pos : 0 < n) (ordered : all.Pairwise (fun a b => gone b = true → gone a = true)) :
    (decide (q.length < n) || q.head?.any gone) = decide (all.countP (fun m => !gone m) < n) := by
  obtain ⟨old,rfl,passed⟩ := kept.rest
  have uncounted : old.countP (fun m => !gone m) = 0 := countP_eq_zero.mpr (fun m inside => by simp [passed m inside])
  rw [countP_append,uncounted,Nat.zero_add]
  have short := kept.short
  cases q with
  | nil => simp [pos]
  | cons first q =>
    have after := pairwise_cons.mp (pairwise_append.mp ordered).2.1
    cases oldest : gone first with
    | false =>
      -- The oldest entry still counts, so all of them do.
      have counted : countP (fun m => !gone m) (first :: q) = (first :: q).length := by
        refine countP_eq_length.mpr (fun m inside => ?_)
        rcases mem_cons.mp inside with rfl | inside
        · simp [oldest]
        · cases later : gone m with
          | false => rfl
          | true => exact absurd (after.1 m inside later) (by simp [oldest])
      rw [counted]
      simp [oldest]
    | true =>
      have rest := countP_le_length (p := fun m => !gone m) (l := q)
      have fewer : countP (fun m => !gone m) (first :: q) < n := by
        rw [countP_cons]
        simp only [length_cons] at short
        simp only [oldest,Bool.not_true,Bool.false_eq_true,if_false]
        omega
      rw [decide_eq_true fewer]
      simp [oldest]

theorem Kept.push (pos : 0 < n) (free : (decide (q.length < n) || q.head?.any gone) = true) (m) :
    Kept gone n (all ++ [m]) (newest n (q ++ [m])) := by
  obtain ⟨old,rfl,passed⟩ := kept.rest
  have short := kept.short
  refine ⟨?_,by rw [newest,length_drop]; omega⟩
  by_cases fits : q.length < n
  · refine ⟨old,?_,passed⟩
    rw [newest,length_append,length_singleton,Nat.sub_eq_zero_of_le fits,drop_zero,append_assoc]
  · cases q with
    | nil => exact absurd pos fits
    | cons first q =>
      have full : (first :: q ++ [m]).length - n = 1 := by
        simp only [length_append,length_cons,length_nil] at short fits ⊢
        omega
      refine ⟨old ++ [first],by rw [newest,full]; simp,fun x inside => ?_⟩
      rcases mem_append.mp inside with before | here
      · exact passed x before
      · rw [decide_eq_false fits] at free
        rw [mem_singleton.mp here]
        simpa using free

end Queue

theorem pastLater (after : now ≤ now') (m) (gone : past d now m = true) : past d now' m = true := by
  simp only [past,decide_eq_true_eq] at gone ⊢
  omega

theorem agedLater (after : now ≤ now') (m) (gone : aged d now m = true) : aged d now' m = true := by
  simp only [aged,decide_eq_true_eq] at gone ⊢
  omega

def Ordered (a b : Mark) : Prop := a.time ≤ b.time ∧ a.done ≤ b.done

def succeeded (admitted : List Mark) : List Mark := admitted.filter (fun m => !m.failed)

structure Level (n d : Nat) (s : State) : Prop where
  checked : Kept (past d s.clock) n s.admitted (s.check.getD [])
  stored : Kept (aged d s.clock) n (succeeded s.admitted) s.redis
  ordered : s.admitted.Pairwise Ordered
  before : ∀ m ∈ s.admitted, m.time ≤ m.done ∧ m.done ≤ s.clock
  expiry : ∀ m ∈ s.redis, m.done + 1000 * d ≤ s.expires
  agreeing : Agreeing s

theorem requestExact {m queue all} (kept : Kept (past d m.time) n all (queue.getD [])) (pos : 0 < n) :
    let free := decide ((queue.getD []).length < n) || (queue.getD []).head?.any (past d m.time)
    (request n d m queue).1 = free ∧
      (request n d m queue).2.getD [] = if free then newest n (queue.getD [] ++ [m]) else queue.getD [] := by
  have short := kept.short
  cases queue with
  | none => simp [request,newest,pos,Nat.sub_eq_zero_of_le pos]
  | some q =>
    unfold request
    dsimp only [Option.getD] at short ⊢
    by_cases free : q.length < n
    · simp [free,newest,Nat.sub_eq_zero_of_le free]
    obtain rfl : q.length = n := Nat.le_antisymm short (Nat.not_lt.mp free)
    cases q with
    | nil => exact absurd pos (Nat.lt_irrefl 0)
    | cons x q => by_cases passed : past d m.time x <;> simp [passed,newest]

theorem storedKept (level : Level n d s) (after : s.clock ≤ now) : Kept (aged d now) n (succeeded s.admitted) (s.stored now) := by
  have kept := level.stored.mono (agedLater after)
  unfold State.stored
  split
  · rename_i expired
    refine kept.clear (fun m inside => ?_)
    have := level.expiry m inside
    simp only [aged,decide_eq_true_eq]
    omega
  · exact kept

theorem sweepLevel (wait) (level : Level n d s) (long : d ≤ expiration) : Level n d (step n d expiration s (.sweep wait)) := by
  have after : s.clock ≤ s.clock + wait := Nat.le_add_right _ _
  have kept := level.checked.mono (pastLater after)
  refine ⟨?_,level.stored.mono (agedLater after),level.ordered,fun m inside => (level.before m inside).imp_right (Nat.le_trans · after),
    level.expiry,level.agreeing⟩
  simp only [step,clearExpiredItems]
  cases check : s.check with
  | none => simpa [check] using kept
  | some q =>
    rw [check] at kept
    rw [Option.filter]
    split
    · exact kept
    rename_i idle
    refine kept.clear (fun m inside => ?_)
    -- The newest entry is out of its window, and the others are older.
    obtain ⟨front,last,rfl⟩ := (eq_nil_or_concat q).resolve_left (ne_nil_of_mem inside)
    have old : expiration < (s.clock + wait) / 1000 - last.time / 1000 := by
      simp only [concat_eq_append,getLast?_append] at idle
      simp at idle
      omega
    obtain ⟨before,whole,_⟩ := kept.rest
    have order : m.time ≤ last.time := by
      rw [Option.getD,concat_eq_append] at inside whole
      rcases mem_append.mp inside with front | here
      · have sorted := (pairwise_append.mp (whole ▸ level.ordered)).2.1
        exact ((pairwise_append.mp sorted).2.2 m front last (mem_singleton_self last)).1
      · exact Nat.le_of_eq (congrArg Mark.time (mem_singleton.mp here))
    simp only [past,decide_eq_true_eq]
    omega

theorem redisExact {m : Mark} (level : Level n d s) (pos : 0 < n) (after : s.clock ≤ m.time) (ends : m.time ≤ m.done) :
    let free := decide ((s.stored m.time).length < n) || (s.stored m.time).head?.any (aged d m.time)
    let next := (redisRateLimitHandler n d s m).2
    (redisRateLimitHandler n d s m).1 = free ∧
      Kept (aged d m.done) n (succeeded (if free then s.admitted ++ [m] else s.admitted)) next.redis ∧
      (∀ x ∈ next.redis, x.done + 1000 * d ≤ next.expires) ∧ next.check = s.check := by
  intro free next
  have kept := @storedKept n d m.done s level (Nat.le_trans after ends)
  have at_check := @storedKept n d m.time s level after
  have earlier : ∀ x ∈ succeeded s.admitted, x.done ≤ m.time :=
    fun x inside => Nat.le_trans (level.before x (mem_filter.mp inside).1).2 after
  have check : checkRedisRateLimit n d m.time (s.stored m.time) = free := by
    simp [checkRedisRateLimit,free,Nat.ne_of_gt pos]
  unfold next redisRateLimitHandler
  rw [check]
  cases room : free with
  | false =>
    refine ⟨rfl,at_check.mono (agedLater ends),fun x inside => ?_,rfl⟩
    exact Nat.add_le_add_right (earlier x (at_check.mem inside)) _
  | true =>
    cases failed : m.failed with
    | true =>
      have same : succeeded (s.admitted ++ [m]) = succeeded s.admitted := by simp [succeeded,failed]
      refine ⟨rfl,?_,level.expiry,rfl⟩
      rw [if_pos rfl,same]
      exact level.stored.mono (agedLater (Nat.le_trans after ends))
    | false =>
      have more : succeeded (s.admitted ++ [m]) = succeeded s.admitted ++ [m] := by simp [succeeded,failed]
      -- What is left of the list when the request is done has room for it still.
      have still : (decide ((s.stored m.done).length < n) || (s.stored m.done).head?.any (aged d m.done)) = true := by
        unfold State.stored
        split
        · simp [pos]
        · rename_i alive
          have here : s.stored m.time = s.redis := if_neg (fun expired => alive (Nat.le_trans expired ends))
          simp only [free,here,Bool.or_eq_true] at room ⊢
          refine room.imp_right (fun oldest => ?_)
          obtain ⟨x,first,gone⟩ := (Option.any_eq_true _ _).mp oldest
          exact (Option.any_eq_true _ _).mpr ⟨x,first,agedLater ends x gone⟩
      simp only [if_pos,Bool.false_eq_true,if_false,recordRedisRequest,Nat.ne_of_gt pos]
      refine ⟨trivial,more ▸ kept.push pos still m,fun x inside => Nat.add_le_add_right ?_ _,trivial⟩
      rcases mem_append.mp (mem_of_mem_drop inside) with old | new
      · exact Nat.le_trans (earlier x (kept.mem old)) ends
      · exact Nat.le_of_eq (congrArg Mark.done (mem_singleton.mp new))

theorem requestLevel {m : Mark} (level : Level n d s) (after : s.clock ≤ m.time) (ends : m.time ≤ m.done) (pos : 0 < n)
    (clear : ∀ old ∈ s.admitted, past d m.time old = aged d m.time old ∧ (old.failed = true → past d m.time old = true)) :
    Level n d (handle n d s m) := by
  have checked := level.checked.mono (pastLater after)
  have stored := storedKept level after
  have memoryRoom := checked.room pos (level.ordered.imp (fun order gone => by
    simp only [past,decide_eq_true_eq] at gone ⊢
    have := order.1
    omega))
  have redisRoom := stored.room pos ((level.ordered.filter _).imp (fun order gone => by
    simp only [aged,decide_eq_true_eq] at gone ⊢
    have := order.2
    omega))
  -- Both count the same requests: the clocks agree on them, and no failed one is still within its window.
  have counts : countP (fun x => !aged d m.time x) (succeeded s.admitted) = countP (fun x => !past d m.time x) s.admitted := by
    rw [succeeded,countP_filter]
    refine countP_congr (fun x inside => ?_)
    obtain ⟨clocks,failure⟩ := clear x inside
    rw [← clocks]
    cases failed : x.failed <;> simp_all
  rw [counts,← memoryRoom] at redisRoom
  obtain ⟨redisAnswer,redisNext,expiry,untouched⟩ := redisExact level pos after ends
  obtain ⟨memoryAnswer,memoryNext⟩ := requestExact checked pos
  rw [redisRoom] at redisAnswer redisNext
  unfold handle memoryRateLimitHandler
  dsimp only
  rw [untouched,redisAnswer,memoryAnswer]
  generalize room : (decide ((s.check.getD []).length < n) || (s.check.getD []).head?.any (past d m.time)) = free at *
  refine ⟨?_,?_,?_,?_,expiry,?_,?_⟩
  · dsimp only
    rw [memoryNext]
    cases free with
    | false => exact checked.mono (pastLater ends)
    | true => exact (checked.push pos room m).mono (pastLater ends)
  · simpa using redisNext
  · cases free with
    | false => exact level.ordered
    | true =>
      refine pairwise_append.mpr ⟨level.ordered,pairwise_singleton _ _,fun x inside y here => ?_⟩
      obtain ⟨began,done⟩ := level.before x inside
      rw [mem_singleton.mp here]
      exact ⟨by omega,by omega⟩
  · intro x inside
    cases free with
    | false =>
      obtain ⟨began,done⟩ := level.before x inside
      exact ⟨began,by dsimp only; omega⟩
    | true =>
      rcases mem_append.mp inside with old | new
      · obtain ⟨began,done⟩ := level.before x old
        exact ⟨began,by dsimp only; omega⟩
      · rw [mem_singleton.mp new]
        exact ⟨ends,Nat.le_refl _⟩
  · simp [level.agreeing.1]
  · simp only [level.agreeing.2,Bool.true_and,Bool.and_eq_true,all_eq_true,Bool.or_eq_true,Bool.not_eq_true']
    refine ⟨fun x inside => Or.inl ?_,fun x inside => ?_⟩
    · simpa using (mem_filter.mp (stored.mem inside)).2
    · cases failed : x.failed with
      | false => exact Or.inl rfl
      | true => exact Or.inr ((clear x (checked.mem inside)).2 failed)

def opening : State := ⟨0,[],0,none,none,[],true,true⟩

theorem openingLevel : Level n d opening :=
  ⟨⟨⟨[],rfl,forall_mem_nil _⟩,Nat.zero_le n⟩,⟨⟨[],rfl,forall_mem_nil _⟩,Nat.zero_le n⟩,.nil,forall_mem_nil _,forall_mem_nil _,rfl,rfl⟩

theorem limitersAgree (n d expiration) {events : List Event} (plain : Along (step n d expiration) (Plain n d expiration) opening events) :
    Always (step n d expiration) Agreeing opening events := by
  refine alwaysMono (fun s (level : Level n d s) => level.agreeing) (alwaysKept (fun s e level allowed => ?_) openingLevel plain)
  cases e with
  | request wait took failed => exact requestLevel level (Nat.le_add_right _ _) (Nat.le_add_right _ _) allowed.1 allowed.2
  | sweep wait => exact sweepLevel wait level allowed

theorem limitersAgreeOnce : Always (step 1 60 1200) Agreeing opening
    [.request 200 300 false,.request 30000 0 false,.request 60000 500 true,.sweep 1300000,.request 100 0 false] :=
  limitersAgree 1 60 1200 (by decide)

theorem failedCounted :
    (¬ Always (step 1 60 1200) Agreeing opening [.request 0 0 true,.request 1000 0 false]) ∧
    ¬ Always (step 1 3600 1200) Agreeing opening [.request 0 0 false,.sweep 1200000,.sweep 1200000,.request 0 0 false] := by
  refine ⟨fun always => ?_,fun always => ?_⟩
  · exact absurd (alwaysLast always).1 (by decide)
  · exact absurd (alwaysLast always).1 (by decide)

end NovaPuraRouter.ModelRateLimit
