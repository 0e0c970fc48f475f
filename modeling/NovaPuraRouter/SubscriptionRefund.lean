import NovaPuraRouter.SubscriptionQuota

/-! Refund of a pre-consume by repeated calls whose statements may fail. The counter is
lowered by a transaction of its own, which stays committed when the outer one is rolled
back: the record then still reads as consumed and the next call lowers it again. -/
namespace NovaPuraRouter.SubscriptionRefund
open SubscriptionUsage SubscriptionQuota Option

variable (requestId : String)

def attempt (s : Store) (f : RefundFaults) : Store := (refundSubscriptionPreConsume s requestId f).2

def Unchanged (s t : Store) : Prop :=
  t.records.get? requestId = s.records.get? requestId ∧ ∀ id, t.subs.get? id = s.subs.get? id

def Atomic (s : Store) (f : RefundFaults) : Prop :=
  ∀ e, (refundSubscriptionPreConsume s requestId f).1 = .error e → Unchanged requestId s (attempt requestId s f)

def reduced (record : SubscriptionPreConsumeRecord) (sub : UserSubscription) : UserSubscription :=
  { sub with amountUsed := clampUsed sub.amountUsed (-record.preConsumed) }

/-- Of the counters only the record's own may differ, and that by its amount taken off once. -/
def ReducedOnce (s t : Store) : Prop := ∀ id, t.subs.get? id = s.subs.get? id ∨
  ∃ record sub, s.records.get? requestId = some record ∧ record.userSubscriptionId = id ∧
    s.subs.get? id = some sub ∧ t.subs.get? id = some (reduced record sub)

structure DeltaCommits (s : Store) (requestId : String) (f : RefundFaults) (record : SubscriptionPreConsumeRecord)
    (sub : UserSubscription) : Prop where
  named : trimmed requestId ≠ ""
  reads : f.readRecord = false
  starts : f.beginDelta = false ∧ f.readSub = false
  writes : f.saveSub = false ∧ f.commitDelta = false
  found : s.records.get? requestId = some record
  consumed : record.status = .consumed
  positive : 0 < record.preConsumed
  real : record.userSubscriptionId ≠ 0
  row : s.subs.get? record.userSubscriptionId = some sub
  within : 0 < sub.amountTotal → (reduced record sub).amountUsed ≤ sub.amountTotal

def RecordFollows (s : Store) (f : RefundFaults) : Prop :=
  ∀ record sub, DeltaCommits s requestId f record sub → (reduced record sub).amountUsed ≠ sub.amountUsed → f.afterDelta = false

section Call
variable {s : Store} {requestId : String} {f : RefundFaults} {record : SubscriptionPreConsumeRecord} {sub : UserSubscription}

theorem notRefunded (h : ¬ record.status = .refunded) : record.status = .consumed := by
  cases status : record.status with
  | consumed => rfl
  | refunded => exact absurd status h

theorem deltaIff {s' id delta} (moves : delta ≠ 0) : deltaWithFaults s id delta f = .ok s' ↔
    id ≠ 0 ∧ (f.beginDelta = false ∧ f.readSub = false) ∧ (f.saveSub = false ∧ f.commitDelta = false) ∧
    ∃ sub, s.subs.get? id = some sub ∧ (0 < sub.amountTotal → clampUsed sub.amountUsed delta ≤ sub.amountTotal) ∧
      s.save id { sub with amountUsed := clampUsed sub.amountUsed delta } = s' := by
  simp only [deltaWithFaults,postConsumeUserSubscriptionDelta,bindOk,rowOk,requireOk,pureOk,movedOk,if_neg moves]
  constructor
  · rintro ⟨_,real,_,starts,t,⟨_,_,sub,row,_,⟨within,rfl⟩,rfl⟩,_,writes,rfl⟩
    exact ⟨real,starts,writes,sub,row,within,rfl⟩
  · rintro ⟨real,starts,writes,sub,row,within,rfl⟩
    exact ⟨(),real,(),starts,_,⟨(),real,sub,row,_,⟨within,rfl⟩,rfl⟩,(),writes,rfl⟩

theorem commitsCall (h : DeltaCommits s requestId f record sub) : refundSubscriptionPreConsume s requestId f =
    closeRefund (s.save record.userSubscriptionId (reduced record sub)) requestId f := by
  have positive := h.positive
  have delta := (deltaIff (by omega)).mpr ⟨h.real,h.starts,h.writes,sub,h.row,h.within,rfl⟩
  simp only [refundSubscriptionPreConsume,if_neg h.named,h.reads,h.found,h.consumed,delta,Bool.false_eq_true,if_false,
    reduceCtorEq,if_neg (show ¬ record.preConsumed ≤ 0 by omega)]
  rfl

theorem refundCases (s requestId f) : attempt requestId s f = s ∨
    (∃ record, s.records.get? requestId = some record) ∧ refundSubscriptionPreConsume s requestId f = (.ok (),markRefunded s requestId) ∨
    ∃ record sub, DeltaCommits s requestId f record sub := by
  unfold attempt refundSubscriptionPreConsume
  split
  · exact .inl rfl
  rename_i named
  split
  · exact .inl rfl
  rename_i reads
  split
  · exact .inl rfl
  rename_i record found
  split
  · exact .inl rfl
  rename_i consumed
  split
  · unfold closeRefund
    split
    · exact .inl rfl
    · exact .inr (.inl ⟨⟨record,found⟩,rfl⟩)
  rename_i positive
  split
  · exact .inl rfl
  · rename_i s' delta
    obtain ⟨real,starts,writes,sub,row,within,_⟩ := (deltaIff (by omega)).mp delta
    exact .inr (.inr ⟨record,sub,named,Bool.not_eq_true _ ▸ reads,starts,writes,found,notRefunded consumed,by omega,real,row,within⟩)

theorem reducedSave (row : s.subs.get? record.userSubscriptionId = some sub)
    (same : (reduced record sub).amountUsed = sub.amountUsed) (id) :
    (s.save record.userSubscriptionId (reduced record sub)).subs.get? id = s.subs.get? id := by
  by_cases here : id = record.userSubscriptionId
  · have unmoved : reduced record sub = sub := by
      unfold reduced at same ⊢
      rw [show clampUsed sub.amountUsed (-record.preConsumed) = sub.amountUsed from same]
    rw [here,saveSelf row,row,unmoved]
  · exact saveOther here

theorem atomicIff (s requestId f) : Atomic requestId s f ↔ RecordFollows requestId s f := by
  constructor
  · intro atomic record sub commits changes
    by_contra torn
    have call := commitsCall commits
    rw [closeRefund,if_pos (by simpa using torn)] at call
    have kept := (atomic .statementFailed (by rw [call])).2 record.userSubscriptionId
    rw [attempt,call,saveSelf commits.row,commits.row] at kept
    exact changes (congrArg UserSubscription.amountUsed (some.inj kept))
  · intro follows e failed
    obtain same | ⟨_,call⟩ | ⟨record,sub,commits⟩ := refundCases s requestId f
    · rw [same]
      exact ⟨rfl,fun _ => rfl⟩
    · rw [call] at failed
      cases failed
    have call := commitsCall commits
    have torn : f.afterDelta = true := by
      by_contra fine
      rw [call,closeRefund,if_neg fine] at failed
      cases failed
    rw [closeRefund,if_pos torn] at call
    rw [attempt,call]
    refine ⟨rfl,reducedSave commits.row ?_⟩
    by_contra changes
    exact Bool.eq_false_iff.mp (follows record sub commits changes) torn

end Call

section Calls
variable {requestId : String}

def Stage (requestId : String) (s t : Store) : Prop :=
  Unchanged requestId s t ∨
  (∃ record, t.records.get? requestId = some record ∧ record.status = .refunded) ∧ ReducedOnce requestId s t

variable {s t : Store} {record : SubscriptionPreConsumeRecord}

theorem stageOnce (h : Stage requestId s t) : ReducedOnce requestId s t := by
  obtain ⟨_,same⟩ | ⟨_,once⟩ := h
  · exact fun id => .inl (same id)
  · exact once

theorem markedRecord (found : s.records.get? requestId = some record) :
    ∃ marked, (markRefunded s requestId).records.get? requestId = some marked ∧ marked.status = .refunded :=
  ⟨{ record with status := .refunded },by rw [markRefunded,Table.getModifySelf,found]; rfl,rfl⟩

theorem refundedKept {f} (found : t.records.get? requestId = some record) (refunded : record.status = .refunded) :
    attempt requestId t f = t := by
  unfold attempt refundSubscriptionPreConsume
  split
  · rfl
  split
  · rfl
  simp only [found,refunded,if_true]

theorem stageStep {f} (h : Stage requestId s t) (follows : RecordFollows requestId t f) : Stage requestId s (attempt requestId t f) := by
  obtain ⟨record?,subs⟩ | ⟨⟨record,found,refunded⟩,once⟩ := h
  · obtain same | ⟨⟨record,found⟩,call⟩ | ⟨record,sub,commits⟩ := refundCases t requestId f
    · rw [same]
      exact .inl ⟨record?,subs⟩
    · rw [attempt,call]
      exact .inr ⟨markedRecord found,fun id => .inl (subs id)⟩
    by_cases torn : f.afterDelta = true
    · have call := commitsCall commits
      rw [closeRefund,if_pos torn] at call
      obtain ⟨same,rows⟩ := (atomicIff t requestId f).mpr follows .statementFailed (by rw [call])
      exact .inl ⟨same.trans record?,fun id => (rows id).trans (subs id)⟩
    · have call := commitsCall commits
      rw [closeRefund,if_neg torn] at call
      rw [attempt,call]
      refine .inr ⟨markedRecord commits.found,fun id => ?_⟩
      by_cases here : record.userSubscriptionId = id
      · subst here
        exact .inr ⟨record,sub,record? ▸ commits.found,rfl,(subs _).symm.trans commits.row,saveSelf commits.row⟩
      · exact .inl ((saveOther (Ne.symm here)).trans (subs id))
  · rw [refundedKept found refunded]
    exact .inr ⟨⟨record,found,refunded⟩,once⟩

theorem stageRun {calls} (h : Stage requestId s t) (follows : Along (attempt requestId) (RecordFollows requestId) t calls) :
    Stage requestId s (run (attempt requestId) t calls) := by
  induction calls generalizing t with
  | nil => exact h
  | cons _ _ ih =>
    obtain ⟨here,later⟩ := follows
    exact ih (stageStep h here) later

theorem retryCalls (s requestId first second third) : ∃ calls, calls <+: [first,second,third] ∧
      (refundWithRetry s requestId first second third).2 = run (attempt requestId) s calls := by
  simp only [refundWithRetry]
  split
  · exact ⟨[first],⟨[second,third],rfl⟩,rfl⟩
  split
  · exact ⟨[first,second],⟨[third],rfl⟩,rfl⟩
  · exact ⟨[first,second,third],List.prefix_rfl,rfl⟩

/-- Any number of calls with any failures: each is atomic and the counter goes down at
most once, exactly where no outer statement fails after the inner transaction changed
the counter. The attempts of a retry are such calls. -/
theorem refundOnceIffRecordFollows (s : Store) (requestId : String) :
    (∀ calls, Along (attempt requestId) (Atomic requestId) s calls ∧ ReducedOnce requestId s (run (attempt requestId) s calls) ↔
      Along (attempt requestId) (RecordFollows requestId) s calls) ∧ (∀ first second third, ∃ calls, calls <+: [first,second,third] ∧
      (refundWithRetry s requestId first second third).2 = run (attempt requestId) s calls) := by
  refine ⟨fun calls => ?_,retryCalls s requestId⟩
  rw [alongIff (atomicIff · requestId ·)]
  constructor
  · exact fun h => h.1
  · intro follows
    exact ⟨follows,stageOnce (stageRun (.inl ⟨rfl,fun _ => rfl⟩) follows)⟩

def spent : Store := run (step .utc) subscribed [.preConsume ⟨"first",1,"gpt",60⟩ 130000, .preConsume ⟨"second",1,"gpt",40⟩ 130001]

def saveLost : RefundFaults := { RefundFaults.none with saveRecord := true }

theorem refundedTwice : ((spent.subs.get? 1).map UserSubscription.amountUsed = some 100) ∧
    (refundWithRetry spent "first" saveLost .none .none).1 = .ok () ∧
    (((refundWithRetry spent "first" saveLost .none .none).2.subs.get? 1).map UserSubscription.amountUsed = some 0) ∧
    ¬ Atomic "first" spent saveLost ∧ ¬ ReducedOnce "first" spent (refundWithRetry spent "first" saveLost .none .none).2 := by
  refine ⟨by decide,by decide,by decide,?_,?_⟩
  · intro atomic
    have kept := (atomic .statementFailed (by decide)).2 1
    exact absurd (congrArg (Option.map UserSubscription.amountUsed) kept) (by decide)
  · intro once
    obtain same | ⟨record,sub,found,_,row,lowered⟩ := once 1
    · exact absurd (congrArg (Option.map UserSubscription.amountUsed) same) (by decide)
    have sixty : record.preConsumed = 60 :=
      some.inj ((congrArg (Option.map SubscriptionPreConsumeRecord.preConsumed) found).symm.trans (by decide))
    have hundred : sub.amountUsed = 100 :=
      some.inj ((congrArg (Option.map UserSubscription.amountUsed) row).symm.trans (by decide))
    have forty : (reduced record sub).amountUsed = 40 := by
      simp only [reduced,sixty,hundred]
      decide
    have left := congrArg (Option.map UserSubscription.amountUsed) lowered
    rw [map_some,forty] at left
    exact absurd left (by decide)

end Calls
end NovaPuraRouter.SubscriptionRefund
