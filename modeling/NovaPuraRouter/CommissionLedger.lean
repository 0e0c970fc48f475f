import NovaPuraRouter.ReleaseSpec
import NovaPuraRouter.PayoutSpec

/-! The commission columns of a user against the rows behind them, along whole runs. One
release loop runs at a time, between whose read and transaction anything may happen; a
reversal waits for Stripe next to others of the same request. -/
namespace NovaPuraRouter.CommissionLedger
open CommissionPlan ReleaseSpec Withdrawal WithdrawalSpec PayoutSpec List Option Table

structure CommissionSystem where
  store : CommissionStore
  setting : CommissionSetting
  clock : Int
  releaser : Releaser
  reversals : List Reversal

inductive CommissionOp
  | elapse (seconds : Nat)
  | setAffCommissionRate (parsed : Option Ratio)
  | setMinWithdrawalCents (parsed : Option Int)
  | setCommissionFreezeDays (parsed : Option Int)
  | setCommissionApproved (userId : Nat) (approved : Bool)
  | settle (inviteeId : Nat) (topUpId : String) (paidAmountCents : Int) (paidCurrency : String)
  | release
  | abandonRelease (err : Failure)
  | request (userId : Nat) (amountCents : Int)
  | process (requestId : Nat) (review : Review)
  | markFailed (requestId : Nat) (source : FailSource) (reason : String)
  | transition (requestId : Nat) (call : TransitionCall)
  | reverse (requestId : Nat) (reason : String)
  | answer (index : Nat) (answer : ReversalAnswer)

variable (s : CommissionStore)

def approve (userId : Nat) (approved : Bool) : CommissionStore :=
  { s with users := s.users.modify userId (fun u => { u with commissionApproved := approved }) }

variable (sys : CommissionSystem)

def startReversal (requestId : Nat) (reason : String) : CommissionSystem :=
  match openReversal sys.store requestId reason with
  | .ok (some v) => { sys with reversals := sys.reversals ++ [v] }
  | _ => sys

def answerReversal (index : Nat) (answer : ReversalAnswer) : CommissionSystem :=
  match sys.reversals[index]? with
  | none => sys
  | some v => { sys with
      store := (closeReversal sys.store v sys.clock answer).2, reversals := sys.reversals.eraseIdx index }

def storeStep : CommissionOp → CommissionStore
  | .setCommissionApproved userId approved => approve sys.store userId approved
  | .settle inviteeId topUpId paidAmountCents paidCurrency => commit sys.store
      ((settleRechargeCommission sys.setting sys.store inviteeId topUpId paidAmountCents paidCurrency sys.clock).map Prod.snd)
  | .request userId amountCents =>
      commit sys.store ((createWithdrawalRequest sys.setting sys.store userId amountCents sys.clock).map Prod.snd)
  | .process requestId review => commit sys.store ((adminProcessWithdrawal sys.store requestId review sys.clock).map Prod.snd)
  | .markFailed requestId source reason =>
      commit sys.store ((markWithdrawalFailed sys.store requestId source.status reason sys.clock).map Prod.snd)
  | .transition requestId call => commit sys.store ((runTransition sys.store requestId call sys.clock).map Prod.snd)
  | _ => sys.store

def commissionStep : CommissionOp → CommissionSystem
  | .elapse seconds => { sys with clock := sys.clock + seconds }
  | .setAffCommissionRate parsed => { sys with setting := updateAffCommissionRate sys.setting parsed }
  | .setMinWithdrawalCents parsed => { sys with setting := updateMinWithdrawalCents sys.setting parsed }
  | .setCommissionFreezeDays parsed => { sys with setting := updateCommissionFreezeDays sys.setting parsed }
  | .release => { sys with
      releaser := (releaseStep sys.store sys.clock sys.releaser).1
      store := (releaseStep sys.store sys.clock sys.releaser).2 }
  | .abandonRelease err => { sys with releaser := abandon err sys.releaser }
  | .reverse requestId reason => startReversal sys requestId reason
  | .answer index answer => answerReversal sys index answer
  | op => { sys with store := storeStep sys op }

def WholeReversal : CommissionOp → Prop
  | .answer index answer => ∀ v, sys.reversals[index]? = some v → ExactAnswer v answer
  | _ => True

def pendingSum (userId : Nat) : Int :=
  s.commissions.sum (fun _ c => if c.inviterId = userId ∧ c.status = .pending then c.commissionCents else 0)

def openSum (userId : Nat) : Int :=
  s.withdrawals.sum (fun _ r => if r.userId = userId then openAmount r else 0)

structure Balanced (s : CommissionStore) (userId : Nat) (u : Affiliate) : Prop where
  pending : u.pendingCommissionCents = pendingSum s userId
  total : u.commissionTotalCents = u.pendingCommissionCents + u.commissionBalanceCents + openSum s userId
  pendingNonneg : 0 ≤ u.pendingCommissionCents
  balanceNonneg : 0 ≤ u.commissionBalanceCents
  totalNonneg : 0 ≤ u.commissionTotalCents

def Conserved : Prop :=
  ∀ userId u, sys.store.users.get? userId = some u → Balanced sys.store userId u

def opening (users : Table Nat Affiliate) (setting : CommissionSetting) (clock : Int) : CommissionSystem :=
  ⟨⟨users,empty,empty⟩,setting,clock,.returned 0 none,[]⟩

def NoCommission (users : Table Nat Affiliate) : Prop := ∀ userId u, users.get? userId = some u →
  u.pendingCommissionCents = 0 ∧ u.commissionBalanceCents = 0 ∧ u.commissionTotalCents = 0

structure Books (s : CommissionStore) : Prop where
  balanced : ∀ userId u, s.users.get? userId = some u → Balanced s userId u
  cents : ∀ id c, s.commissions.get? id = some c → 0 < c.commissionCents
  requests : RequestsSound s

structure Sound (sys : CommissionSystem) : Prop where
  books : Books sys.store
  batch : ∀ now released batch, sys.releaser = .holding now released batch → BatchHeld sys.store batch
  reversals : ∀ v ∈ sys.reversals, ReversalSound sys.store v

structure Keeps (s s' : CommissionStore) : Prop where
  commissions : ∀ id c, s.commissions.get? id = some c → s'.commissions.get? id = some c
  requests : ∀ id r, s.withdrawals.get? id = some r → ∃ r', s'.withdrawals.get? id = some r' ∧ r'.amountCents = r.amountCents

variable {s s' : CommissionStore} {requestId userId flipped : Nat} {r r' : WithdrawalRequest} {batch : List (Nat × Commission)}
    {setting : CommissionSetting} {sys : CommissionSystem}

section
variable {job : PayoutFlow.Job} {refund : Int} (turn : Turn job s s' requestId r r' refund)
include turn

/- What the balance gains is what the request no longer holds. -/
theorem turnRefund (nonneg : 0 ≤ r.amountCents) (whole : ∀ v cents, job = .closeReversal v (.reversed cents) →
      cents = r.amountCents ∧ v.req.status ≠ .rejected ∧ v.req.status ≠ .failed) :
    refund = openAmount r - openAmount r' ∧ openAmount r' ≤ openAmount r := by
  have held : ∀ {w : WithdrawalRequest}, w.status ≠ .rejected ∧ w.status ≠ .failed → openAmount w = w.amountCents := openLive
  have given : ∀ {w : WithdrawalRequest}, w.status = .rejected ∨ w.status = .failed → openAmount w = 0 := fun closed => if_pos closed
  have amount := turn.amount
  cases turn.step with
  | fail source _ _ before after => rw [held (before ▸ failSource source),given (.inr after)]; omega
  | pay _ _ before after => rw [held (by simp [before]),held (by simp [after])]; omega
  | reject _ _ before after => rw [held (by simp [before]),given (.inl after)]; omega
  | flip call _ _ _ before after =>
    rw [held (before ▸ callSource call),held (after ▸ ⟨(callTarget call).1,(callTarget call).2.1⟩)]
    omega
  | reversed v cents same _ before after =>
    obtain ⟨all,live⟩ := whole v cents same
    rw [held (before ▸ live),given (.inr after)]
    omega
  | refresh _ _ after | refused _ _ _ _ _ _ after =>
    simp only [openAmount,after,amount]
    omega

theorem turnOpen (userId) : openSum s' userId = openSum s userId + if r.userId = userId then openAmount r' - openAmount r else 0 := by
  obtain ⟨f,rfl,stored⟩ := turn.stored
  unfold openSum
  rw [stored,sumModify turn.found,turn.owner]
  split
  · rfl
  · simp

theorem turnKeeps : Keeps s s' := by
  refine ⟨fun id c found => turn.commissions ▸ found,?_⟩
  intro id row found
  rw [turn.rows]
  split
  · rename_i same
    subst id
    cases some.inj (turn.found.symm.trans found)
    exact ⟨r',rfl,turn.amount⟩
  · exact ⟨row,found,rfl⟩

theorem turnUser {userId u'} (found : s'.users.get? userId = some u') :
    ∃ u, s.users.get? userId = some u ∧ u' = if userId = r.userId then addBalance refund u else u := by
  obtain ⟨same,rfl⟩ | paid := turn.paid
  · exact ⟨u',same ▸ found,by simp [addBalance]⟩
  · rw [paid,Table.getModify] at found
    split at found
    · rename_i here
      obtain ⟨u,before,rfl⟩ := map_eq_some_iff.mp found
      exact ⟨u,here ▸ before,(if_pos here).symm⟩
    · rename_i other
      exact ⟨u',found,(if_neg other).symm⟩

theorem turnBooks (books : Books s) (whole : ∀ v cents, job = .closeReversal v (.reversed cents) →
      cents = r.amountCents ∧ v.req.status ≠ .rejected ∧ v.req.status ≠ .failed) : Books s' := by
  have sound := books.requests requestId r turn.found
  obtain ⟨credited,given⟩ := turnRefund turn sound.amount whole
  refine ⟨?_,fun id c found => books.cents id c (turn.commissions ▸ found),?_⟩
  · intro userId _ found
    obtain ⟨u,before,rfl⟩ := turnUser turn found
    obtain ⟨pending,_,pendingNonneg,balanceNonneg,totalNonneg⟩ := books.balanced userId u before
    have rows : pendingSum s' userId = pendingSum s userId := by
      unfold pendingSum
      rw [turn.commissions]
    have amount := turnOpen turn userId
    by_cases owner : userId = r.userId
    · rw [if_pos owner.symm] at amount
      rw [if_pos owner]
      exact ⟨pending.trans rows.symm,by simp only [addBalance]; omega,pendingNonneg,by simp only [addBalance]; omega,totalNonneg⟩
    · rw [if_neg (Ne.symm owner)] at amount
      rw [if_neg owner]
      exact ⟨pending.trans rows.symm,by omega,pendingNonneg,balanceNonneg,totalNonneg⟩
  · intro id row found
    rw [turn.rows] at found
    split at found
    · cases some.inj found
      exact ⟨turn.amount ▸ sound.amount,stepSettled turn.step sound.transfer,turnWhole turn sound.whole⟩
    · exact books.requests id row found

end

theorem keepsRefl (s) : Keeps s s := ⟨fun _ _ found => found,fun _ r found => ⟨r,found,rfl⟩⟩

theorem reversalKept {v} (keeps : Keeps s s') (held : ReversalSound s v) : ReversalSound s' v := by
  obtain ⟨r,found,amount⟩ := held.row
  obtain ⟨r',found',same⟩ := keeps.requests v.requestId r found
  exact ⟨held.live,held.whole,r',found',same.trans amount⟩

theorem batchKept (keeps : Keeps s s') (held : BatchHeld s batch) : BatchHeld s' batch :=
  ⟨held.1,fun r mem => ⟨keeps.commissions _ _ (held.2 r mem).1,(held.2 r mem).2⟩⟩

theorem approveBooks (userId approved) (books : Books s) : Books (approve s userId approved) := by
  refine ⟨?_,books.cents,books.requests⟩
  intro id u found
  obtain ⟨old,before,rfl,rfl⟩ | ⟨_,before⟩ := modifyCases found
  · obtain ⟨pending,total,pendingNonneg,balanceNonneg,totalNonneg⟩ := books.balanced _ old before
    exact ⟨pending,total,pendingNonneg,balanceNonneg,totalNonneg⟩
  · obtain ⟨pending,total,pendingNonneg,balanceNonneg,totalNonneg⟩ := books.balanced id u before
    exact ⟨pending,total,pendingNonneg,balanceNonneg,totalNonneg⟩

theorem creditBooks {c} (earned : 0 < c.commissionCents) (status : c.status = .pending) (books : Books s) : Books (creditPending s c) := by
  have rows : ∀ userId, pendingSum (creditPending s c) userId =
      pendingSum s userId + if c.inviterId = userId then c.commissionCents else 0 := by
    intro userId
    simp [pendingSum,creditPending,sumAppend,status]
  refine ⟨?_,?_,books.requests⟩
  · intro userId u found
    have row := rows userId
    obtain ⟨old,before,rfl,rfl⟩ | ⟨other,before⟩ := modifyCases found
    · obtain ⟨pending,total,pendingNonneg,balanceNonneg,totalNonneg⟩ := books.balanced c.inviterId old before
      change old.commissionTotalCents = old.pendingCommissionCents + old.commissionBalanceCents +
        openSum (creditPending s c) c.inviterId at total
      exact ⟨by dsimp only; omega,by dsimp only; omega,by dsimp only; omega,balanceNonneg,by dsimp only; omega⟩
    · obtain ⟨pending,total,pendingNonneg,balanceNonneg,totalNonneg⟩ := books.balanced userId u before
      rw [if_neg (Ne.symm other),add_zero] at row
      exact ⟨pending.trans row.symm,total,pendingNonneg,balanceNonneg,totalNonneg⟩
  · intro id row found
    simp only [creditPending,getAppend] at found
    split at found
    · cases some.inj found
      exact earned
    · exact books.cents id row found

theorem creditKeeps (s c) : Keeps s (creditPending s c) := by
  refine ⟨?_,(keepsRefl s).requests⟩
  intro id _ found
  have older : id ≠ s.commissions.nextId := ne_of_lt (getLtNextId found)
  simpa [creditPending,getAppend,older] using found

theorem newRequestSound {amountCents now} (nonneg : 0 ≤ amountCents) : RequestSound (newRequest userId amountCents now) :=
  ⟨nonneg,fun transfer => absurd rfl transfer,fun _ => rfl⟩

theorem requestSpec {amountCents now} {w} (ok : createWithdrawalRequest setting s userId amountCents now = .ok (w,s')) (books : Books s) :
    Books s' ∧ Keeps s s' := by
  simp only [createWithdrawalRequest,bindOk,requireOk,rowOk,pureOk,Prod.mk.injEq] at ok
  obtain ⟨_,_,_,least,user,found,_,_,_,_,_,rfl⟩ := ok
  have nonneg : 0 ≤ amountCents := setting.minimum.trans least
  have opened : ∀ id, openSum { s with
      users := s.users.modify userId (addBalance (-amountCents))
      withdrawals := s.withdrawals.append (newRequest userId amountCents now) } id =
        openSum s id + if userId = id then amountCents else 0 := by
    intro id
    simp [openSum,sumAppend,newRequest,openAmount]
  refine ⟨⟨?_,books.cents,?_⟩,?_⟩
  · intro id u got
    have row := opened id
    obtain ⟨_,there,rfl,rfl⟩ | ⟨_,there⟩ := modifyCases got
    · cases found.symm.trans there
      obtain ⟨pending,total,pendingNonneg,balanceNonneg,totalNonneg⟩ := books.balanced id user found
      exact ⟨pending,by simp only [addBalance]; omega,pendingNonneg,by simp only [addBalance]; omega,totalNonneg⟩
    · obtain ⟨pending,_,pendingNonneg,balanceNonneg,totalNonneg⟩ := books.balanced id u there
      exact ⟨pending,by omega,pendingNonneg,balanceNonneg,totalNonneg⟩
  · intro id row got
    simp only [getAppend] at got
    split at got
    · cases some.inj got
      exact newRequestSound nonneg
    · exact books.requests id row got
  · refine ⟨fun _ _ got => got,?_⟩
    intro id row got
    have older : id ≠ s.withdrawals.nextId := ne_of_lt (getLtNextId got)
    exact ⟨row,by simpa [getAppend,older] using got,rfl⟩

theorem batchCovered (held : BatchHeld s batch) (books : Books s) {u} (found : s.users.get? userId = some u) :
    Covers u (batchSum batch userId) := by
  unfold Covers
  rw [(books.balanced userId u found).pending,batchWithin held,pendingSum]
  refine sumMono ?_
  intro id c got
  have positive := books.cents id c got
  by_cases mem : id ∈ batch.map Prod.fst
  · simp [mem,heldPending held got mem]
  · rw [if_neg mem]
    split <;> omega

theorem movedAll (held : BatchHeld s batch) (books : Books s)
    (inviters : ∀ r ∈ batch, ∃ u, s.users.get? r.2.inviterId = some u) : movedIds s batch = batch.map Prod.fst := by
  refine congrArg (List.map Prod.fst) (filter_eq_self.mpr ?_)
  intro r mem
  obtain ⟨u,found⟩ := inviters r mem
  simp [covered,found,batchCovered held books found]

theorem releaseBooks (done : Released s batch flipped s') (held : BatchHeld s batch) (books : Books s) : Books s' := by
  have ids := movedAll held books done.inviters
  have rows : ∀ userId, pendingSum s' userId = pendingSum s userId - batchSum batch userId := by
    intro userId
    have parts : pendingSum s userId = pendingSum s' userId + batchSum batch userId := by
      unfold pendingSum
      rw [batchWithin held,done.commissions,sumUpdate,← sumAdd,ids]
      refine sumCongr ?_
      intro id c found
      by_cases mem : id ∈ batch.map Prod.fst
      · simp [mem,makeAvailable,heldPending held found mem]
      · simp [mem]
    omega
  refine ⟨?_,?_,fun id r found => books.requests id r (done.withdrawals ▸ found)⟩
  · intro userId _ found
    rw [done.users,map_eq_some_iff] at found
    obtain ⟨u,before,rfl⟩ := found
    obtain ⟨_,_,_,_,totalNonneg⟩ := books.balanced userId u before
    have covers := batchCovered held books before
    have opened : openSum s' userId = openSum s userId := by
      unfold openSum
      rw [done.withdrawals]
    have positive : 0 ≤ batchSum batch userId := by
      rw [batchWithin held]
      refine sumNonneg ?_
      intro id c got
      have := books.cents id c got
      split
      · split <;> omega
      · omega
    have row := rows userId
    rw [debited,if_pos covers]
    unfold Covers at covers
    exact ⟨by simp only [moveCents]; omega,by simp only [moveCents]; omega,by simp only [moveCents]; omega,
      by simp only [moveCents]; omega,totalNonneg⟩
  · intro id c found
    rw [done.commissions,getUpdate,map_eq_some_iff] at found
    obtain ⟨old,before,rfl⟩ := found
    have := books.cents id old before
    split
    · exact this
    · exact this

theorem releaseKeepsRequests (done : Released s batch flipped s') {v} (held : ReversalSound s v) : ReversalSound s' v :=
  ⟨held.live,held.whole,done.withdrawals ▸ held.row⟩

theorem soundRelease (sound : Sound sys) : Sound (commissionStep sys .release) := by
  simp only [commissionStep]
  cases at_ : sys.releaser with
  | returned => exact ⟨sound.books,fun _ _ _ held => (by cases held),sound.reversals⟩
  | reading =>
    simp only [releaseStep]
    split
    · exact ⟨sound.books,fun _ _ _ held => (by cases held),sound.reversals⟩
    refine ⟨sound.books,?_,sound.reversals⟩
    intro _ _ batch held
    cases held
    exact maturedHeld _ _
  | holding now released batch =>
    simp only [releaseStep]
    cases attempt : releaseBatch sys.store batch with
    | error => exact ⟨sound.books,fun _ _ _ held => (by cases held),sound.reversals⟩
    | ok result =>
      obtain ⟨_,s'⟩ := result
      have done := releaseExact attempt
      have books := releaseBooks done (sound.batch now released batch at_) sound.books
      have reversals : ∀ v ∈ sys.reversals, ReversalSound s' v := fun v mem => releaseKeepsRequests done (sound.reversals v mem)
      simp only
      split
      · exact ⟨books,fun _ _ _ held => (by cases held),reversals⟩
      · exact ⟨books,fun _ _ _ held => (by cases held),reversals⟩

def Safe (s s' : CommissionStore) : Prop := Books s' ∧ Keeps s s'

theorem turnSafe {job} (books : Books s) (turn : ∃ r r' refund, Turn job s s' requestId r r' refund)
    (whole : ∀ v cents, job ≠ .closeReversal v (.reversed cents)) : Safe s s' := by
  obtain ⟨r,_,_,turn⟩ := turn
  exact ⟨turnBooks turn books (fun v cents same => absurd same (whole v cents)),turnKeeps turn⟩

theorem storeSafe (books : Books sys.store) (op) : Safe sys.store (storeStep sys op) := by
  have idle : Safe sys.store sys.store := ⟨books,keepsRefl _⟩
  cases op with
  | setCommissionApproved userId approved =>
    exact ⟨approveBooks userId approved books,⟨fun _ _ found => found,fun _ r found => ⟨r,found,rfl⟩⟩⟩
  | settle =>
    refine commitPairOf idle ?_
    intro _ s' ok
    obtain rfl | ⟨c,u,rfl,_,earned,status⟩ := settleCases ok
    · exact idle
    · exact ⟨creditBooks earned status books,creditKeeps sys.store c⟩
  | request => exact commitPairOf idle (fun _ _ ok => requestSpec ok books)
  | process =>
    refine commitPairOf idle ?_
    intro w _ ok
    obtain rfl | turn := reviewTurn ok
    · exact idle
    · exact turnSafe books turn (by simp)
  | markFailed => exact commitPairOf idle (fun _ _ ok => turnSafe books (failTurn ok) (by simp))
  | transition => exact commitPairOf idle (fun _ _ ok => turnSafe books (flipTurn none ok) (by simp))
  | _ => exact idle

theorem soundStore (sound : Sound sys) (safe : Safe sys.store s') : Sound { sys with store := s' } :=
  ⟨safe.1,fun now released batch held => batchKept safe.2 (sound.batch now released batch held),
    fun v mem => reversalKept safe.2 (sound.reversals v mem)⟩

theorem soundAnswer (sound : Sound sys) {index answer}
    (whole : WholeReversal sys (.answer index answer)) : Sound (answerReversal sys index answer) := by
  unfold answerReversal
  cases found : sys.reversals[index]? with
  | none => exact sound
  | some v =>
    have held := sound.reversals v (mem_of_getElem? found)
    have safe : Safe sys.store (closeReversal sys.store v sys.clock answer).2 := by
      obtain same | ⟨r,_,_,turn⟩ := reversalTurn sys.store v sys.clock answer
      · rw [same]
        exact ⟨sound.books,keepsRefl _⟩
      refine ⟨turnBooks turn sound.books ?_,turnKeeps turn⟩
      rintro _ cents ⟨⟩
      obtain ⟨row,there,amount⟩ := held.row
      cases some.inj (there.symm.trans turn.found)
      have all := whole v found cents rfl
      rw [Reversal.amountToReverse,held.whole,← amount,sub_zero] at all
      exact ⟨all,held.live⟩
    have stored := soundStore sound safe
    exact ⟨stored.books,stored.batch,fun w mem => stored.reversals w (mem_of_mem_eraseIdx mem)⟩

theorem soundStep (sys op) (sound : Sound sys) (whole : WholeReversal sys op) : Sound (commissionStep sys op) := by
  cases op with
  | elapse | setAffCommissionRate | setMinWithdrawalCents | setCommissionFreezeDays => exact { sound with }
  | release => exact soundRelease sound
  | abandonRelease =>
    refine ⟨sound.books,?_,sound.reversals⟩
    intro _ _ _ held
    cases at_ : sys.releaser <;> simp [commissionStep,abandon,at_] at held
  | reverse =>
    simp only [commissionStep,startReversal]
    split
    · rename_i v opened
      refine ⟨sound.books,sound.batch,?_⟩
      intro w mem
      rcases mem_append.mp mem with old | new
      · exact sound.reversals w old
      · cases mem_singleton.mp new
        exact openReversalSound opened sound.books.requests
    · exact sound
  | answer => exact soundAnswer sound whole
  | setCommissionApproved | settle | request | process | markFailed | transition => exact soundStore sound (storeSafe sound.books _)

theorem openingSound {users clock} (nothing : NoCommission users) : Sound (opening users setting clock) := by
  refine ⟨⟨?_,?_,?_⟩,fun _ _ _ held => (by cases held),fun v mem => absurd mem not_mem_nil⟩
  · intro userId u found
    obtain ⟨_,_⟩ := nothing userId u found
    have rows : pendingSum (opening users setting clock).store userId = 0 := rfl
    have requests : openSum (opening users setting clock).store userId = 0 := rfl
    exact ⟨by omega,by omega,by omega,by omega,by omega⟩
  · intro id c found
    cases found
  · intro _ r found
    cases found

/-- Every cent an inviter ever earned is frozen, withdrawable or in a request that was not
given back, and the frozen ones are those of the pending rows. -/
theorem commissionConserved {users : Table Nat Affiliate} {setting : CommissionSetting} {clock : Int} {ops : List CommissionOp}
    (nothing : NoCommission users) (whole : Along commissionStep WholeReversal (opening users setting clock) ops) :
    Always commissionStep Conserved (opening users setting clock) ops := by
  have sound : Always commissionStep Sound (opening users setting clock) ops := alwaysKept soundStep (openingSound nothing) whole
  exact alwaysMono (fun _ sound => sound.books.balanced) sound

theorem quarter : 0 < 4 := by decide

theorem tenDollars : (0 : Int) ≤ 1000 := by decide

def shipped : CommissionSetting := ⟨some ⟨1,4,quarter⟩,1000,0,tenDollars⟩

def roundTrip : List CommissionOp :=
  [.settle 1 "topup-1" 10000 "USD",.release,.release,.release,.request 2 2000,
    .transition 1 (.startTransfer "acct" 9),.transition 1 (.storeTransfer "tr" true),.reverse 1 "stuck"]

theorem invitingFresh : NoCommission inviting := by
  intro _ u found
  rcases mem_cons.mp (getMem.mp found) with first | rest
  · cases first
    decide
  · cases mem_singleton.mp rest
    decide

theorem roundTripConserved : ((run commissionStep (opening inviting shipped 0) roundTrip).reversals.map Reversal.amountToReverse = [2000]) ∧
      Always commissionStep Conserved (opening inviting shipped 0) (roundTrip ++ [.answer 0 (.reversed 2000)]) := by
  have asked : (run commissionStep (opening inviting shipped 0) roundTrip).reversals.map Reversal.amountToReverse = [2000] := by decide
  refine ⟨asked,commissionConserved invitingFresh ⟨trivial,trivial,trivial,trivial,trivial,trivial,trivial,trivial,?_,trivial⟩⟩
  intro v found _ same
  cases same
  have waiting : (run commissionStep (opening inviting shipped 0) roundTrip).reversals[0]? = some v := found
  have first := congrArg (fun amounts => amounts[0]?) asked
  simp only [getElem?_map,waiting,map_some,getElem?_cons_zero,some.injEq] at first
  exact first.symm

end NovaPuraRouter.CommissionLedger
