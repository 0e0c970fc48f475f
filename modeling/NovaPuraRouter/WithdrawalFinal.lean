import NovaPuraRouter.PayoutSound

/-! The end of a withdrawal. No flip starts from paid, rejected, failed or canceled, and the
flips that pay back end in one of them, so a withdrawal is paid back once at most. A
reversal pays back what Stripe noted under its key, which no later call changes. -/
namespace NovaPuraRouter.WithdrawalFinal
open Withdrawal PayoutFlow PayoutSpec PayoutSound JobPool List Option Table

def creditsOf (sys : PayoutSystem) (id : Nat) : List Int :=
  (sys.credits.filter (fun credit => decide (credit.1 = id))).map Prod.snd

structure CreditedOnce (sys : PayoutSystem) (id : Nat) (r : WithdrawalRequest) : Prop where
  once : (creditsOf sys id).length ≤ 1
  within : (creditsOf sys id).sum ≤ r.amountCents
  paid : r.status = .paid → creditsOf sys id = []

def StaysFinal (s s' : CommissionStore) : Prop := ∀ id r, s.withdrawals.get? id = some r → Final r.status →
  ∃ r', s'.withdrawals.get? id = some r' ∧ r'.status = r.status

def PaidBack (status : WithdrawalStatus) : Prop := status = .failed ∨ status = .rejected

structure Logged (sys : PayoutSystem) (id : Nat) (r : WithdrawalRequest) : Prop where
  nonneg : 0 ≤ r.amountCents
  none : ¬ PaidBack r.status → creditsOf sys id = []
  once : (creditsOf sys id).length ≤ 1
  within : (creditsOf sys id).sum ≤ r.amountCents

def Within (s : CommissionStore) (id : Nat) (cents : Int) : Prop :=
  ∃ r, s.withdrawals.get? id = some r ∧ cents ≤ r.amountCents

def AnswerWithin (s : CommissionStore) : Job → Prop
  | .closeReversal v (.reversed amountReversed) => Within s v.requestId amountReversed
  | _ => True

structure Booked (sys : PayoutSystem) : Prop where
  sound : Sound sys
  logged : ∀ id r, sys.store.withdrawals.get? id = some r → Logged sys id r
  unknown : ∀ id, sys.store.withdrawals.get? id = none → creditsOf sys id = []
  reversals : ∀ id cents, sys.stripe.reversals.get? (reversalIdempotencyKey id) = some cents → Within sys.store id cents
  answers : All (AnswerWithin sys.store) sys.pool

theorem callLive (call : TransitionCall) : ¬ Final call.source := by
  cases call with
  | retryPayout source => cases source <;> simp [Final,TransitionCall.source,RetrySource.status]
  | payoutPaid source | payoutFailed source => cases source <;> simp [Final,TransitionCall.source,PayoutSource.status]
  | _ => simp [Final,TransitionCall.source]

variable {s s' : CommissionStore} {job : Job} {id : Nat} {r r' : WithdrawalRequest} {refund cents : Int} {sys after : PayoutSystem}

theorem stepFinal (step : RowStep job id r r' refund) (sound : JobSound s job) (final : Final r.status) : r'.status = r.status ∧ refund = 0 := by
  cases step with
  | fail source _ _ before => cases source <;> simp [before,Final,FailSource.status] at final
  | pay decision same before | reject decision same before => simp [before,Final] at final
  | flip call _ _ _ before => exact absurd (before ▸ final) (callLive call)
  | refresh _ _ after => exact ⟨after,rfl⟩
  | reversed _ _ same _ before =>
    subst same
    exact absurd (before ▸ final) sound.live
  | refused _ _ _ _ _ _ after => exact ⟨after,rfl⟩

theorem paidBackFinal {status} (back : PaidBack status) : Final status := by
  rcases back with failed | rejected
  · exact .inr (.inr (.inl failed))
  · exact .inr (.inl rejected)

theorem stepRefund (step : RowStep job id r r' refund) (answer : AnswerWithin s job) (row : s.withdrawals.get? id = some r)
    (nonneg : 0 ≤ r.amountCents) : refund ≤ r.amountCents ∧ (refund = 0 ∨ PaidBack r'.status) := by
  cases step with
  | fail _ _ _ _ after => exact ⟨max_le le_rfl nonneg,.inr (.inl after)⟩
  | pay => exact ⟨nonneg,.inl rfl⟩
  | reject _ _ _ after => exact ⟨le_rfl,.inr (.inr after)⟩
  | flip | refresh => exact ⟨nonneg,.inl rfl⟩
  | reversed _ _ same own _ after =>
    subst same own
    obtain ⟨_,row₀,bound⟩ := answer
    cases some.inj (row₀.symm.trans row)
    exact ⟨max_le bound nonneg,.inr (.inl after)⟩
  | refused => exact ⟨nonneg,.inl rfl⟩

theorem stepRequest (step : RowStep job id r r' refund) : job.requestId = id := by
  cases step with
  | fail _ _ same | pay _ same | reject _ same | flip _ _ _ same | refresh _ same => exact same ▸ rfl
  | reversed v amountReversed same own | refused v text insufficientFunds same own => exact same ▸ own

theorem paidTotal {owner} (paid : Paid s.users s'.users owner cents) :
    balanceTotal s' = balanceTotal s ∨ balanceTotal s' = balanceTotal s + cents := by
  unfold balanceTotal
  rcases paid with ⟨same,_⟩ | written
  · exact .inl (by rw [same])
  rw [written]
  cases found : s.users.get? owner with
  | none => exact .inl (by rw [modifyAbsent found])
  | some =>
    right
    rw [sumModify found]
    simp only [addBalance]
    omega

theorem turnCredit (turn : Turn job s s' id r r' refund) : creditOf s s' job = [] ∨ creditOf s s' job = [(id,refund)] ∧ refund ≠ 0 := by
  unfold creditOf
  split
  · exact .inl rfl
  rename_i moved
  obtain same | more := paidTotal turn.paid
  · exact absurd same moved
  right
  rw [stepRequest turn.step,more]
  refine ⟨by rw [add_sub_cancel_left],?_⟩
  omega

theorem withinGrows (grows : Grows s s') (within : Within s id cents) : Within s' id cents := by
  obtain ⟨r,row,bound⟩ := within
  obtain ⟨r',row',same,_⟩ := grows id r row
  exact ⟨r',row',same ▸ bound⟩

theorem answerGrows (grows : Grows s s') (job) (answer : AnswerWithin s job) : AnswerWithin s' job := by
  cases job with
  | closeReversal _ given =>
    cases given with
    | reversed => exact withinGrows grows answer
    | refused => trivial
  | _ => trivial

theorem loggedTurn (turn : Turn job sys.store after.store id r r' refund) (sound : JobSound sys.store job) (answer : AnswerWithin sys.store job)
    (logged : Logged sys id r) (log : after.credits = sys.credits ++ creditOf sys.store after.store job) : Logged after id r' := by
  obtain ⟨bound,back⟩ := stepRefund turn.step answer turn.found logged.nonneg
  have amount := turn.amount
  have credits : creditsOf after id = creditsOf sys id ++
      ((creditOf sys.store after.store job).filter (fun credit => decide (credit.1 = id))).map Prod.snd := by
    simp [creditsOf,log]
  obtain nothing | ⟨entry,moved⟩ := turnCredit turn
  · rw [nothing,filter_nil,map_nil,append_nil] at credits
    refine ⟨amount ▸ logged.nonneg,?_,credits ▸ logged.once,by rw [credits,amount]; exact logged.within⟩
    intro open'
    rw [credits]
    refine logged.none ?_
    intro before
    exact open' ((stepFinal turn.step sound (paidBackFinal before)).1 ▸ before)
  · have fresh : creditsOf sys id = [] := by
      refine logged.none ?_
      intro before
      exact moved (stepFinal turn.step sound (paidBackFinal before)).2
    have single : creditsOf after id = [refund] := by simp [credits,fresh,entry]
    refine ⟨amount ▸ logged.nonneg,?_,by simp [single],by simp [single,amount,bound]⟩
    intro open'
    exact absurd (back.resolve_left moved) open'

theorem otherCredits {k} (turn : Turn job sys.store after.store id r r' refund) (other : k ≠ id)
    (log : after.credits = sys.credits ++ creditOf sys.store after.store job) : creditsOf after k = creditsOf sys k := by
  obtain nothing | ⟨entry,_⟩ := turnCredit turn
  · simp [creditsOf,log,nothing]
  · simp [creditsOf,log,entry,Ne.symm other]

theorem loggedSame (same : creditsOf after id = creditsOf sys id) (logged : Logged sys id r) : Logged after id r :=
  ⟨logged.nonneg,fun open' => same.trans (logged.none open'),same ▸ logged.once,same ▸ logged.within⟩

theorem notedWithin {a} (booked : Booked sys) (sound : JobSound sys.store job)
    (noted : (stripeAfter sys a job).reversals.get? (reversalIdempotencyKey id) = some cents) : Within sys.store id cents := by
  cases stripeStep sys a job with
  | same _ reversals => exact booked.reversals id cents (reversals ▸ noted)
  | created _ _ _ _ _ reversals => exact booked.reversals id cents (reversals ▸ noted)
  | reversed v _ call _ asked _ _ reversals =>
    rw [reversals] at noted
    split at noted
    · rename_i ours
      cases some.inj noted
      subst call
      obtain ⟨r,row,_⟩ := sound.stored
      have whole := sound.unreversed
      rw [reversalKeyInj ours]
      refine ⟨r,row,?_⟩
      simp only [Reversal.amountToReverse] at asked
      omega
    · exact booked.reversals id cents noted

theorem plainAnswer (plain : Plain job) : AnswerWithin s job := by
  cases job with
  | closeReversal => exact plain.elim
  | _ => trivial

theorem nextAnswers {a} (booked : Booked sys) (sound : JobSound sys.store job) : ∀ new ∈ nextJobs sys a job, AnswerWithin sys.store new := by
  have follows := nextFollows sys a job
  generalize nextJobs sys a job = jobs at follows
  cases follows with
  | plain _ _ all => exact fun new mem => plainAnswer (all new mem)
  | answered v =>
    refine forall_mem_singleton.mpr ?_
    unfold reversalAnswer
    split
    · trivial
    cases noted : (stripeAfter sys a (.callReversal v)).reversals.get? (reversalIdempotencyKey v.requestId) with
    | some => exact notedWithin booked sound noted
    | none =>
      obtain ⟨r,row,_⟩ := sound.stored
      exact ⟨r,row,(booked.logged _ r row).nonneg⟩
  | _ => exact forall_mem_singleton.mpr trivial

theorem creditSame (s job) : creditOf s s job = [] := if_pos rfl

theorem bookedJob {i a} (booked : Booked sys) : Booked (stepPool sys i a) := by
  cases found : next sys.pool i with
  | none => simpa only [stepPool,found] using booked
  | some head =>
    obtain ⟨job,_⟩ := head
    have sound : JobSound sys.store job := allHead booked.sound.jobs found
    have answer : AnswerWithin sys.store job := allHead booked.answers found
    have grows := storeGrows sys job
    have kept := @soundJob sys i a booked.sound
    simp only [stepPool,found] at kept ⊢
    refine ⟨kept,?_,?_,fun id cents noted => withinGrows grows (notedWithin booked sound noted),
      allStep (allMono (answerGrows grows) booked.answers) found
        (fun new mem => answerGrows grows new (nextAnswers booked sound new mem))⟩
    · intro id r row
      obtain same | ⟨k,old,new,refund,turn⟩ := storeTurn sys job
      · refine loggedSame ?_ (booked.logged id r (same ▸ row))
        simp only [creditsOf,same,creditSame,append_nil]
      simp only [turn.rows] at row
      split at row
      · rename_i here
        cases some.inj row
        subst here
        exact loggedTurn turn sound answer (booked.logged id old turn.found) rfl
      · rename_i other
        exact loggedSame (otherCredits turn other rfl) (booked.logged id r row)
    · intro id absent
      obtain same | ⟨k,old,new,refund,turn⟩ := storeTurn sys job
      · have before := booked.unknown id (same ▸ absent)
        simpa only [creditsOf,same,creditSame,append_nil] using before
      simp only [turn.rows] at absent
      split at absent
      · cases absent
      · rename_i other
        exact (otherCredits turn other rfl).trans (booked.unknown id absent)

theorem loggedRest (booked : Booked sys) (store : after.store = sys.store)
    (log : after.credits = sys.credits) : ∀ id r, after.store.withdrawals.get? id = some r → Logged after id r := by
  intro id r row
  refine loggedSame ?_ (booked.logged id r (store ▸ row))
  simp only [creditsOf,log]

theorem bookedRequest (setting userId amountCents) (booked : Booked sys) :
    Booked { sys with store := requested sys setting userId amountCents } := by
  have kept := soundRequest setting userId amountCents booked.sound
  obtain ⟨w,s',ok,same⟩ | same := commitPairCases sys.store (createWithdrawalRequest setting sys.store userId amountCents sys.clock)
  · have rows := newRow ok
    have minimum : setting.minWithdrawalCents ≤ amountCents := by
      simp only [createWithdrawalRequest,bindOk,requireOk] at ok
      exact ok.choose_spec.2.choose_spec.1
    have grows : Grows sys.store s' := by
      intro k r row
      refine ⟨r,?_,rfl,fun asked => asked⟩
      rw [rows,if_neg (ne_of_lt (getLtNextId row))]
      exact row
    simp only [requested,same] at kept ⊢
    refine ⟨kept,?_,?_,fun id cents noted => withinGrows grows (booked.reversals id cents noted),
      allMono (answerGrows grows) booked.answers⟩
    · intro id r row
      simp only [rows] at row
      split at row
      · rename_i here
        cases some.inj row
        have fresh : creditsOf sys id = [] := booked.unknown id (here ▸ getNextId _)
        have nonneg : 0 ≤ amountCents := setting.minimum.trans minimum
        have empty : creditsOf { sys with store := s' } id = [] := fresh
        exact ⟨nonneg,fun _ => empty,by simp [empty],by simpa [empty,newRequest] using nonneg⟩
      · have same : creditsOf { sys with store := s' } id = creditsOf sys id := rfl
        exact loggedSame same (booked.logged id r row)
    · intro id absent
      simp only [rows] at absent
      split at absent
      · cases absent
      · exact booked.unknown id absent
  · simpa only [requested,same] using booked

theorem bookedStep (sys op) (booked : Booked sys) : Booked (payoutStep sys op) := by
  have kept := soundStep sys op booked.sound
  cases op with
  | elapse | setAccount | settlePayout => exact { booked with sound := kept, logged := loggedRest booked rfl rfl }
  | request setting userId amountCents => exact bookedRequest setting userId amountCents booked
  | start entry =>
    refine ⟨kept,loggedRest booked rfl rfl,booked.unknown,booked.reversals,
      allPush booked.answers ?_⟩
    exact fun job mem => plainAnswer (entryPlain entry job mem)
  | step => exact bookedJob booked
  | crash =>
    exact ⟨kept,loggedRest booked rfl rfl,booked.unknown,booked.reversals,
      allSet booked.answers (fun _ nothing => by cases nothing)⟩

theorem bookedOpening (users accounts clock) : Booked (payoutOpening users accounts clock) :=
  ⟨soundOpening users accounts clock,fun _ _ row => (by cases row),fun _ _ => rfl,fun _ _ noted => (by cases noted),
    fun _ nothing => (by cases nothing)⟩

theorem finalStep (sys op) (sound : Sound sys) : StaysFinal sys.store (payoutStep sys op).store := by
  intro id r row final
  cases op with
  | request setting userId amountCents =>
    obtain ⟨w,_,ok,same⟩ | same := commitPairCases sys.store
      (createWithdrawalRequest setting sys.store userId amountCents sys.clock)
    · simp only [payoutStep,requested,same,newRow ok,if_neg (ne_of_lt (getLtNextId row))]
      exact ⟨r,row,rfl⟩
    · simp only [payoutStep,requested,same]
      exact ⟨r,row,rfl⟩
  | step i =>
    simp only [payoutStep,stepPool]
    cases found : next sys.pool i with
    | none => exact ⟨r,row,rfl⟩
    | some head =>
      obtain ⟨job,_⟩ := head
      have job' : JobSound sys.store job := allHead sound.jobs found
      obtain same | ⟨k,old,new,refund,turn⟩ := storeTurn sys job
      · exact ⟨r,same.symm ▸ row,rfl⟩
      by_cases here : id = k
      · subst here
        cases some.inj (turn.found.symm.trans row)
        exact ⟨new,(turn.rows id).trans (if_pos rfl),(stepFinal turn.step job' final).1⟩
      · exact ⟨r,((turn.rows id).trans (if_neg here)).trans row,rfl⟩
  | _ => exact ⟨r,row,rfl⟩

theorem finalRun (ops) (sound : Sound sys) : StaysFinal sys.store (run payoutStep sys ops).store := by
  intro id r row final
  have kept := @runKeeps PayoutSystem PayoutOp payoutStep
    (fun s => Sound s ∧ ∃ r', s.store.withdrawals.get? id = some r' ∧ r'.status = r.status)
    (by
      rintro s op ⟨held,r₁,row₁,status₁⟩
      obtain ⟨r₂,row₂,status₂⟩ := finalStep s op held id r₁ row₁ (status₁ ▸ final)
      exact ⟨soundStep s op held,r₂,row₂,status₂.trans status₁⟩)
    sys ops ⟨sound,r,row,rfl⟩
  exact kept.2

theorem loggedOnce (logged : Logged sys id r) : CreditedOnce sys id r := by
  refine ⟨logged.once,logged.within,?_⟩
  intro paid
  refine logged.none ?_
  rw [paid]
  simp [PaidBack]

/-- In every state of every run a withdrawal has been credited once at most, within its
amount and not at all when it is paid; a final status it has is its status from then on. -/
theorem withdrawalExclusive (users : Table Nat Affiliate) (accounts : Table Nat ConnectAccount) (clock : Int) (ops later : List PayoutOp) :
    StaysFinal (run payoutStep (payoutOpening users accounts clock) ops).store
        (run payoutStep (payoutOpening users accounts clock) (ops ++ later)).store ∧
      ∀ id r, (run payoutStep (payoutOpening users accounts clock) ops).store.withdrawals.get? id = some r →
        CreditedOnce (run payoutStep (payoutOpening users accounts clock) ops) id r := by
  have booked : Booked (run payoutStep (payoutOpening users accounts clock) ops) :=
    runKeeps bookedStep ops (bookedOpening users accounts clock)
  constructor
  · have rest := finalRun later booked.sound
    simpa only [run,foldl_append] using rest
  · intro id r row
    exact loggedOnce (booked.logged id r row)

end NovaPuraRouter.WithdrawalFinal
