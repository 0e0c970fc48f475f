import NovaPuraRouter.TopUpFormula
import NovaPuraRouter.JobPool

/-! Top-up orders under several nodes. The callbacks and the administrator run as
goroutines; a transaction is one step, the Epay callback three, under a lock of its own
process. Any step may fail and any node may die between two. -/
namespace NovaPuraRouter.TopUpOnce
open TopUpCredit TopUpSpec TopUpFormula JobPool List Option Table

inductive TopUpJob
  | recharge (p : Payment)
  | rechargeCreem (p : Payment)
  | rechargeWaffo (p : Payment)
  | rechargeWaffoPancake (p : Payment)
  | manual (tradeNo : String) (settles : Bool)
  | epayRead (node : Nat) (tradeNo actualType : String)
  | epaySave (node : Nat) (tradeNo : String) (copy : TopUp)
  | epayIncrease (node : Nat) (tradeNo : String) (copy : TopUp)

def TopUpJob.tradeNo : TopUpJob → String
  | .recharge p | .rechargeCreem p | .rechargeWaffo p | .rechargeWaffoPancake p => p.tradeNo
  | .manual tradeNo _ | .epayRead _ tradeNo _ | .epaySave _ tradeNo _ | .epayIncrease _ tradeNo _ => tradeNo

def TopUpJob.runsOn (node : Nat) : TopUpJob → Bool
  | .epayRead n _ _ | .epaySave n _ _ | .epayIncrease n _ _ => n == node
  | _ => false

structure TopUpSystem where
  ledger : Ledger
  clock : Int
  locks : List (Nat × String)
  pool : List (List TopUpJob)
  credits : List (String × Int)

section System
variable (quotaPerUnit : Ratio) (stored : Ratio → Int) (convertAmountToUSDCents : Ratio → String → Int) (sys : TopUpSystem)

def ledgerAfter : TopUpJob → Ledger
  | .recharge p => commit sys.ledger (recharge quotaPerUnit stored sys.ledger p sys.clock)
  | .rechargeCreem p => commit sys.ledger (rechargeCreem sys.ledger p sys.clock)
  | .rechargeWaffo p => commit sys.ledger (rechargeWaffo quotaPerUnit sys.ledger p sys.clock)
  | .rechargeWaffoPancake p => commit sys.ledger (rechargeWaffoPancake quotaPerUnit sys.ledger p sys.clock)
  | .manual tradeNo settles =>
      commit sys.ledger (manualCompleteTopUp quotaPerUnit convertAmountToUSDCents sys.ledger tradeNo settles sys.clock)
  | .epayRead _ _ _ => sys.ledger
  | .epaySave _ tradeNo copy => epaySave sys.ledger tradeNo copy
  | .epayIncrease _ _ copy => epayIncrease quotaPerUnit sys.ledger copy

def nextJobs : TopUpJob → List TopUpJob
  | .epayRead node tradeNo actualType => match epayRead sys.ledger tradeNo actualType with
    | none => []
    | some copy => [.epaySave node tradeNo copy]
  | .epaySave node tradeNo copy => [.epayIncrease node tradeNo copy]
  | _ => []

/- The lock is held from the read to the return of the callback. -/
def locksAfter (locks : List (Nat × String)) (job : TopUpJob) (goesOn : Bool) : List (Nat × String) := match job with
  | .epayRead node tradeNo _ => if goesOn then (node,tradeNo) :: locks else locks
  | .epaySave node tradeNo _ => if goesOn then locks else locks.erase (node,tradeNo)
  | .epayIncrease node tradeNo _ => locks.erase (node,tradeNo)
  | _ => locks

def blocked : TopUpJob → Bool
  | .epayRead node tradeNo _ => sys.locks.contains (node,tradeNo)
  | _ => false

def quotaTotal (l : Ledger) : Int := l.users.sum (fun _ u => u.quota)

def creditOf (l l' : Ledger) (job : TopUpJob) : List (String × Int) :=
  if quotaTotal l' = quotaTotal l then [] else [(job.tradeNo,quotaTotal l' - quotaTotal l)]

inductive Entry
  | recharge (p : Payment)
  | rechargeCreem (p : Payment)
  | rechargeWaffo (p : Payment)
  | rechargeWaffoPancake (p : Payment)
  | manual (tradeNo : String) (settles : Bool)
  | epayNotify (node : Nat) (tradeNo actualType : String)

def Entry.job : Entry → TopUpJob
  | .recharge p => .recharge p
  | .rechargeCreem p => .rechargeCreem p
  | .rechargeWaffo p => .rechargeWaffo p
  | .rechargeWaffoPancake p => .rechargeWaffoPancake p
  | .manual tradeNo settles => .manual tradeNo settles
  | .epayNotify node tradeNo actualType => .epayRead node tradeNo actualType

inductive TopUpOp
  | elapse (seconds : Nat)
  | create (tradeNo : String) (order : TopUp)
  | close (tradeNo : String) (expected : Option PaymentProvider) (expired : Bool)
  | start (entry : Entry)
  | step (i : Nat) (fault : Bool)
  | crash (node : Nat)

/- A failed database call ends the goroutine and rolls its transaction back. -/
def stepJob (i : Nat) (fault : Bool) : TopUpSystem := match next sys.pool i with
  | none => sys
  | some (job,rest) =>
    if blocked sys job then sys
    else if fault then { sys with locks := locksAfter sys.locks job false, pool := sys.pool.set i rest }
    else { sys with
      ledger := ledgerAfter quotaPerUnit stored convertAmountToUSDCents sys job
      locks := locksAfter sys.locks job (!(nextJobs sys job).isEmpty)
      pool := sys.pool.set i (nextJobs sys job ++ rest)
      credits := sys.credits ++
        creditOf sys.ledger (ledgerAfter quotaPerUnit stored convertAmountToUSDCents sys job) job }

def placed (l : Ledger) (tradeNo : String) (order : TopUp) : Ledger :=
  { l with topUps := (l.topUps.insert? tradeNo { order with status := .pending }).getD l.topUps }

def topUpStep : TopUpOp → TopUpSystem
  | .elapse seconds => { sys with clock := sys.clock + seconds }
  | .create tradeNo order => { sys with ledger := placed sys.ledger tradeNo order }
  | .close tradeNo expected expired => { sys with
      ledger := commit sys.ledger (updatePendingTopUpStatus sys.ledger tradeNo expected (if expired then .expired else .failed)) }
  | .start entry => { sys with pool := sys.pool ++ [[entry.job]] }
  | .step i fault => stepJob quotaPerUnit stored convertAmountToUSDCents sys i fault
  | .crash node => { sys with
      pool := sys.pool.map (fun jobs => jobs.filter (fun job => !job.runsOn node))
      locks := sys.locks.filter (fun lock => !(lock.1 == node)) }

def topUpOpening (users : Table Nat Account) (clock : Int) : TopUpSystem := ⟨⟨empty,users⟩,clock,[],[],[]⟩

def creditsOf (tradeNo : String) : List Int :=
  (sys.credits.filter (fun c => decide (c.1 = tradeNo))).map Prod.snd

/- Credited once at most, and once whenever the order counts as successful and is worth anything. -/
def CreditedOnce : Prop := ∀ tradeNo t, sys.ledger.topUps.get? tradeNo = some t →
  (creditsOf sys tradeNo).length ≤ 1 ∧
    (t.status = .success → callbackQuota quotaPerUnit stored t ≠ 0 → creditsOf sys tradeNo ≠ [])

def userThere (l : Ledger) (tradeNo : String) : Bool :=
  (l.topUps.get? tradeNo).all (fun t => (l.users.get? t.userId).isSome)

def TopUpJob.marksOnly : TopUpJob → Bool
  | .epaySave _ _ _ => true
  | _ => false

def CreditsTogether : TopUpOp → Prop
  | .step i false => ∀ head ∈ next sys.pool i, head.1.marksOnly = false ∧ userThere sys.ledger head.1.tradeNo = true
  | _ => True

def Finished : TopUpJob → Prop
  | .epayIncrease _ _ _ => False
  | _ => True

structure Together (sys : TopUpSystem) : Prop where
  orders : ∀ tradeNo t, sys.ledger.topUps.get? tradeNo = some t → (creditsOf sys tradeNo).length ≤ 1 ∧
    (t.status = .success → callbackQuota quotaPerUnit stored t ≠ 0 → creditsOf sys tradeNo ≠ []) ∧
    (t.status ≠ .success → creditsOf sys tradeNo = [])
  unknown : ∀ tradeNo, sys.ledger.topUps.get? tradeNo = none → creditsOf sys tradeNo = []
  jobs : All Finished sys.pool

variable {quotaPerUnit stored convertAmountToUSDCents}

theorem sameQuota {t t'} (same : SameOrder t t') : callbackQuota quotaPerUnit stored t' = callbackQuota quotaPerUnit stored t := by
  unfold callbackQuota stripeQuota amountQuota
  rw [same.provider,same.money,same.amount]

theorem completionTotal {l l' tradeNo t quota user}
    (done : Completion l l' tradeNo t quota) (owner : l.users.get? t.userId = some user) : quotaTotal l' = quotaTotal l + quota := by
  obtain ⟨_,adds,written⟩ := done.users
  unfold quotaTotal
  rw [written,sumModify owner,adds]
  omega

theorem transactionCases {sys job} (alone : job.marksOnly = false) (finished : Finished job) :
    ledgerAfter quotaPerUnit stored convertAmountToUSDCents sys job = sys.ledger ∨
      ∃ t quota, Completion sys.ledger (ledgerAfter quotaPerUnit stored convertAmountToUSDCents sys job) job.tradeNo t quota ∧
        (quota = 0 → callbackQuota quotaPerUnit stored t = 0) := by
  have amounts : ∀ {provider : PaymentProvider} {p : Payment}, provider ≠ .stripe → provider ≠ .creem →
      commit sys.ledger (rechargeAmount quotaPerUnit provider sys.ledger p sys.clock) = sys.ledger ∨
        ∃ t quota, Completion sys.ledger (commit sys.ledger (rechargeAmount quotaPerUnit provider sys.ledger p sys.clock)) p.tradeNo t quota ∧
          (quota = 0 → callbackQuota quotaPerUnit stored t = 0) := by
    intro provider p notStripe notCreem
    obtain ⟨l',ok,same⟩ | same := commitCases sys.ledger (rechargeAmount quotaPerUnit provider sys.ledger p sys.clock)
    · obtain ⟨t,_,own,⟨_,rfl⟩ | done⟩ := rechargeAmountExact ok
      · exact .inl same
      refine .inr ⟨t,_,same.symm ▸ done,?_⟩
      intro zero
      unfold callbackQuota
      split
      · rename_i stripe
        exact absurd (own.symm.trans stripe) notStripe
      · rename_i creem
        exact absurd (own.symm.trans creem) notCreem
      · exact zero
    · exact .inl same
  cases job with
  | recharge p =>
    obtain ⟨l',ok,same⟩ | same := commitCases sys.ledger (recharge quotaPerUnit stored sys.ledger p sys.clock)
    · obtain ⟨t,own,done⟩ := rechargeExact ok
      refine .inr ⟨t,_,by simpa only [ledgerAfter,TopUpJob.tradeNo,same] using done,?_⟩
      intro zero
      simpa only [callbackQuota,own] using zero
    · exact .inl same
  | rechargeCreem p =>
    obtain ⟨l',ok,same⟩ | same := commitCases sys.ledger (rechargeCreem sys.ledger p sys.clock)
    · obtain ⟨t,own,done⟩ := rechargeCreemExact ok
      refine .inr ⟨t,_,by simpa only [ledgerAfter,TopUpJob.tradeNo,same] using done,?_⟩
      intro zero
      simpa only [callbackQuota,own] using zero
    · exact .inl same
  | rechargeWaffo | rechargeWaffoPancake => exact amounts (by simp) (by simp)
  | manual tradeNo settles =>
    obtain ⟨_,ok,same⟩ | same := commitCases sys.ledger
      (manualCompleteTopUp quotaPerUnit convertAmountToUSDCents sys.ledger tradeNo settles sys.clock)
    · obtain ⟨t,_,_,_,⟨_,rfl⟩ | ⟨_,done⟩⟩ := manualExact ok
      · exact .inl same
      · refine .inr ⟨t,_,by simpa only [ledgerAfter,TopUpJob.tradeNo,same] using done,?_⟩
        intro _
        omega
    · exact .inl same
  | epayRead => exact .inl rfl
  | epaySave => cases alone
  | epayIncrease => cases finished

theorem nextFinished (sys) {job} (alone : job.marksOnly = false) : ∀ new ∈ nextJobs sys job, Finished new := by
  intro _ mem
  cases job with
  | epayRead =>
    simp only [nextJobs] at mem
    split at mem
    · cases mem
    · cases mem_singleton.mp mem
      trivial
  | epaySave => cases alone
  | _ => cases mem

variable {sys after : TopUpSystem}

section
variable (together : Together quotaPerUnit stored sys)
include together

theorem togetherCompletion {job t quota user} (done : Completion sys.ledger after.ledger job.tradeNo t quota)
    (own : quota = 0 → callbackQuota quotaPerUnit stored t = 0) (owner : sys.ledger.users.get? t.userId = some user)
    (log : after.credits = sys.credits ++ creditOf sys.ledger after.ledger job)
    (jobs : All Finished after.pool) : Together quotaPerUnit stored after := by
  have total := completionTotal done owner
  obtain ⟨_,success,same,rows⟩ := done.orders
  have fresh : creditsOf sys job.tradeNo = [] := (together.orders _ t done.found).2.2 (by simp [done.pending])
  have others : ∀ k, k ≠ job.tradeNo → creditsOf after k = creditsOf sys k := by
    intro k other
    simp only [creditsOf,log,creditOf]
    split
    · simp
    · simp [Ne.symm other]
  have here : creditsOf after job.tradeNo = if quota = 0 then [] else [quota] := by
    simp only [creditsOf,log,creditOf,total] at fresh ⊢
    by_cases zero : quota = 0
    · simp [zero,fresh]
    · simp [zero,fresh]
  refine ⟨?_,?_,jobs⟩
  · intro k row found
    rw [rows] at found
    split at found
    · rename_i own'
      subst own'
      cases some.inj found
      rw [here]
      refine ⟨by split <;> simp,?_,fun open' => absurd success open'⟩
      intro _ worth
      rw [sameQuota same] at worth
      have nonzero : quota ≠ 0 := fun zero => worth (own zero)
      simp [nonzero]
    · rename_i other
      rw [others k other]
      exact together.orders k row found
  · intro k absent
    rw [rows] at absent
    split at absent
    · cases absent
    · rename_i other
      rw [others k other]
      exact together.unknown k absent

theorem togetherQuiet (log : after.credits = sys.credits) (jobs : All Finished after.pool)
    (rows : ∀ k t', after.ledger.topUps.get? k = some t' → sys.ledger.topUps.get? k = some t' ∨
      t'.status ≠ .success ∧ ∀ t, sys.ledger.topUps.get? k = some t → t.status ≠ .success)
    (gone : ∀ k, after.ledger.topUps.get? k = none → sys.ledger.topUps.get? k = none) : Together quotaPerUnit stored after := by
  have same : ∀ k, creditsOf after k = creditsOf sys k := fun k => by simp only [creditsOf,log]
  refine ⟨?_,fun k absent => (same k).trans (together.unknown k (gone k absent)),jobs⟩
  intro k t' found
  rw [same]
  obtain old | ⟨open',before⟩ := rows k t' found
  · exact together.orders k t' old
  have nothing : creditsOf sys k = [] := by
    cases row : sys.ledger.topUps.get? k with
    | none => exact together.unknown k row
    | some t => exact (together.orders k t row).2.2 (before t row)
  exact ⟨by simp [nothing],fun success => absurd success open',fun _ => nothing⟩

theorem togetherPlaced (tradeNo order) : Together quotaPerUnit stored { sys with ledger := placed sys.ledger tradeNo order } := by
  cases attempt : sys.ledger.topUps.insert? tradeNo { order with status := .pending } with
  | none =>
    simp only [placed,attempt,getD_none]
    exact together
  | some =>
    obtain ⟨fresh,rfl⟩ := insertExact attempt
    simp only [placed,attempt,getD_some]
    refine togetherQuiet together rfl together.jobs ?_ ?_
    · intro k _ found
      rw [getInsert] at found
      split at found
      · rename_i here
        cases some.inj found
        refine .inr ⟨by simp,?_⟩
        intro t old
        exact absurd (getKeys.mpr ⟨t,here ▸ old⟩) fresh
      · exact .inl found
    · intro k absent
      rw [getInsert] at absent
      split at absent
      · cases absent
      · exact absent

theorem togetherClosed {l' tradeNo expected target} (open' : target ≠ .success)
    (ok : updatePendingTopUpStatus sys.ledger tradeNo expected target = .ok l') : Together quotaPerUnit stored { sys with ledger := l' } := by
  simp only [updatePendingTopUpStatus,bindOk,requireOk,rowOk,pureOk] at ok
  obtain ⟨_,_,t,found,_,_,_,pending,rfl⟩ := ok
  refine togetherQuiet together rfl together.jobs ?_ ?_
  · intro k _ row
    obtain ⟨old,there,rfl,rfl⟩ | ⟨_,there⟩ := modifyCases row
    · cases found.symm.trans there
      refine .inr ⟨open',?_⟩
      intro _ row₀
      cases some.inj (row₀.symm.trans found)
      simp [pending]
    · exact .inl there
  · intro k absent
    simp only [Table.getModify] at absent
    split at absent
    · rename_i here
      rw [here]
      exact map_eq_none_iff.mp absent
    · exact absent

theorem togetherJob {i fault} (allowed : CreditsTogether sys (.step i fault)) :
    Together quotaPerUnit stored (stepJob quotaPerUnit stored convertAmountToUSDCents sys i fault) := by
  unfold stepJob
  cases found : next sys.pool i with
  | none => exact together
  | some head =>
    obtain ⟨job,rest⟩ := head
    have finished : Finished job := allHead together.jobs found
    simp only
    split
    · exact together
    split
    · refine togetherQuiet together rfl ?_ (fun _ _ row => .inl row) (fun _ absent => absent)
      exact @allStep TopUpJob Finished sys.pool i job rest [] together.jobs found (forall_mem_nil _)
    rename_i free succeeded
    cases fault with
    | true => exact absurd rfl succeeded
    | false =>
      obtain ⟨alone,there⟩ := allowed (job,rest) found
      have jobs := allStep together.jobs found (nextFinished sys alone)
      obtain same | ⟨t,quota,done,own⟩ :=
        @transactionCases quotaPerUnit stored convertAmountToUSDCents sys job alone finished
      · refine togetherQuiet together ?_ jobs ?_ ?_
        · simp [same,creditOf]
        · intro k _ row
          exact .inl (same ▸ row)
        · intro k absent
          exact same ▸ absent
      · have owner : (sys.ledger.users.get? t.userId).isSome = true := by
          simpa [userThere,done.found] using there
        obtain ⟨_,row⟩ := isSome_iff_exists.mp owner
        exact togetherCompletion together done own row rfl jobs

end

theorem togetherStep (sys op) (together : Together quotaPerUnit stored sys)
    (allowed : CreditsTogether sys op) : Together quotaPerUnit stored (topUpStep quotaPerUnit stored convertAmountToUSDCents sys op) := by
  cases op with
  | elapse => exact togetherQuiet together rfl together.jobs (fun _ _ found => .inl found) (fun _ absent => absent)
  | create tradeNo order => exact togetherPlaced together tradeNo order
  | close tradeNo expected expired =>
    obtain ⟨_,ok,same⟩ | same := commitCases sys.ledger
      (updatePendingTopUpStatus sys.ledger tradeNo expected (if expired then .expired else .failed))
    · have open' : (if expired then TopUpStatus.expired else .failed) ≠ .success := by cases expired <;> simp
      simp only [topUpStep,same]
      exact togetherClosed together open' ok
    · simp only [topUpStep,same]
      exact together
  | start entry =>
    refine togetherQuiet together rfl (allPush together.jobs ?_) (fun _ _ found => .inl found) (fun _ absent => absent)
    intro job mem
    cases mem_singleton.mp mem
    cases entry <;> trivial
  | step => exact togetherJob together allowed
  | crash =>
    refine togetherQuiet together rfl ?_ (fun _ _ found => .inl found) (fun _ absent => absent)
    intro _ mem job inJobs
    obtain ⟨old,inPool,rfl⟩ := List.mem_map.mp mem
    exact together.jobs old inPool job (mem_filter.mp inJobs).1

end System

instance (sys op) : Decidable (CreditsTogether sys op) := match op with
  | .step i false => decidable_of_iff ((next sys.pool i).all
      (fun head => head.1.marksOnly == false && userThere sys.ledger head.1.tradeNo) = true)
      (by simp [CreditsTogether,Option.all_eq_true])
  | .step _ true | .elapse _ | .create _ _ | .close _ _ _ | .start _ | .crash _ => .isTrue trivial

def epayOnNodes (second : Nat) : List TopUpOp :=
  [.create "T1" (orderOf .epay),.start (.epayNotify 1 "T1" "alipay"),.start (.epayNotify second "T1" "alipay"),
    .step 0 false,.step 1 false,.step 0 false,.step 1 false,.step 0 false,.step 1 false]

def epayCrashed : List TopUpOp :=
  [.create "T1" (orderOf .epay),.start (.epayNotify 1 "T1" "alipay"),.step 0 false,.step 0 false,.crash 1,
    .start (.epayNotify 1 "T1" "alipay"),.step 1 false,.start (.manual "T1" true),.step 2 false]

end NovaPuraRouter.TopUpOnce
