import NovaPuraRouter.TaskSpec

/-! The stages of a charged task. Between the update that fails it and its refund one refund is
due; between the refund of a Suno poller and its save one save is. Each write moves the
task from one stage to another, as long as it is asked for in the right one. -/
namespace NovaPuraRouter.TaskStage
open TaskPolling TaskSpec JobPool List Option Table

section Property
variable (start : Tasks)

def charged (id : Nat) : Option Task :=
  (start.get? id).filter (fun t => unfinished t && decide (t.quota ≠ 0) && !legacy t)

variable (sys : TaskSystem)

def refundsOf (id : Nat) : List Int := (sys.refunds.filter (fun r => decide (r.1 = id))).map Prod.snd

def Refunding (id : Nat) : Prop := ∃ jobs ∈ sys.pool, ∃ task saves, .refund id task saves ∈ jobs

structure TaskRefunded (sys : TaskSystem) (id : Nat) (quota : Int) (now : Task) : Prop where
  atMostOnce : refundsOf sys id = [] ∨ refundsOf sys id = [quota]
  notSuccess : now.status = .success → refundsOf sys id = []
  failure : now.status = .failure → refundsOf sys id = [quota] ∨ Refunding sys id

def RefundedOnce : Prop := ∀ id, ∀ t ∈ charged start id, ∀ now ∈ sys.tasks.get? id, TaskRefunded sys id t.quota now

def due (id : Nat) : TaskJob → Nat
  | .refund k _ false => if k = id then 1 else 0
  | _ => 0

def unsaved (id : Nat) : TaskJob → Nat
  | .save k _ true => if k = id then 1 else 0
  | _ => 0

def owes : TaskJob → Bool
  | .refund _ _ false | .save _ _ true => true
  | _ => false

def Running (status : TaskStatus) : Prop := status ≠ .failure ∧ status ≠ .success
instance (status) : Decidable (Running status) := by unfold Running; infer_instance

def Untouched (id : Nat) : Prop :=
  (∀ t ∈ sys.tasks.get? id, Running t.status) ∧ load (unsaved id) sys.pool = 0

def Reply.missing : Reply → Bool
  | .channelMissing _ => true
  | _ => false

def SunoOrderly (task : Task) : Reply → Prop
  | .suno item => ¬ (0 < item.submitTime ∧ item.submitTime < legacyTaskCutoff) ∧
      (item.failReason ≠ "" → item.status.getD task.status = .failure)
  | _ => True

def JobOrderly (reply : Reply) (fault : Bool) : TaskJob → Prop
  | .sweep id _ _ => fault = true ∨ load (unsaved id) sys.pool = 0
  | .failNull _ => fault = true
  | .video _ _ _ => fault = true ∨ Reply.missing reply = false
  | .suno _ task => (fault = true ∨ Reply.missing reply = false) ∧ SunoOrderly task reply
  | .refund _ _ false => fault = false
  | .refund id _ true => fault = false ∧ Untouched sys id
  | .save id _ false => fault = true ∨ Untouched sys id
  | .save _ _ true => fault = false
  | _ => True

def Orderly : TaskOp → Prop
  | .sweep _ _ => True
  | .poll platform upstreamTaskId limit => platform = .video → (polled sys.tasks platform upstreamTaskId limit).length ≤ 1
  | .step i reply _ fault => ∀ head ∈ next sys.pool i, (charged start head.1.taskId).isSome = true → JobOrderly sys reply fault head.1
  | .crash i => ∀ jobs ∈ sys.pool[i]?, ∀ job ∈ jobs, (charged start job.taskId).isSome = true → owes job = false

end Property

variable {id refunded dues unsaveds : Nat} {job : TaskJob} {status : TaskStatus} {t now task updated : Task} {tasks : Tasks} {fault : Bool}
    {reply : Reply}

theorem dueOther (other : job.taskId ≠ id) : due id job = 0 := by
  cases job with
  | refund _ _ saves =>
    cases saves with
    | false => exact if_neg other
    | true => rfl
  | _ => rfl

theorem unsavedOther (other : job.taskId ≠ id) : unsaved id job = 0 := by
  cases job with
  | save _ _ refunded =>
    cases refunded with
    | true => exact if_neg other
    | false => rfl
  | _ => rfl

theorem owesNothing {id job} (clear : owes job = false) : due id job = 0 ∧ unsaved id job = 0 := by
  cases job with
  | refund _ _ saves =>
    cases saves with
    | false => cases clear
    | true => exact ⟨rfl,rfl⟩
  | save _ _ refunded =>
    cases refunded with
    | true => cases clear
    | false => exact ⟨rfl,rfl⟩
  | _ => exact ⟨rfl,rfl⟩

structure Copy (t task : Task) : Prop where
  platform : task.platform = t.platform
  quota : task.quota = t.quota
  recent : legacy task = false

section Sound
variable (start : Tasks)

def CopySound (t : Task) (tasks : Tasks) : TaskJob → Prop
  | .sweep _ task _ => Copy t task ∧ Running task.status
  | .failNull _ => True
  | .video _ task _ => Copy t task ∧ Running task.status ∧ t.platform = .video
  | .settle id _ _ | .updateQuota id _ _ => t.platform = .video ∧ ∃ now, tasks.get? id = some now ∧ now.status = .success
  | .suno _ task => Copy t task ∧ t.platform = .suno
  | .refund _ task saves => task.quota = t.quota ∧ (saves = true → Copy t task ∧ t.platform = .suno ∧ task.status = .failure)
  | .save _ task refunded => Copy t task ∧ t.platform = .suno ∧ (refunded = true ↔ task.status = .failure)

def JobSound (tasks : Tasks) (job : TaskJob) : Prop := ∀ t ∈ charged start job.taskId, CopySound t tasks job

structure RowSound (t now : Task) : Prop where
  platform : now.platform = t.platform
  quota : now.status ≠ .success → now.quota = t.quota
  recent : legacy now = false

/- Refunds that were carried out, are due, and are not followed by their save yet. -/
structure Stage (status : TaskStatus) (refunded due unsaved : Nat) : Prop where
  failed : status = .failure → refunded + due = 1 ∧ unsaved = 0
  succeeded : status = .success → refunded = 0 ∧ due = 0 ∧ unsaved = 0
  running : Running status → due = 0 ∧ refunded = unsaved ∧ unsaved ≤ 1

structure TaskSound (sys : TaskSystem) (id : Nat) (t now : Task) : Prop where
  row : RowSound t now
  stage : Stage now.status (refundsOf sys id).length (load (due id) sys.pool) (load (unsaved id) sys.pool)
  amounts : ∀ quota ∈ refundsOf sys id, quota = t.quota
  video : t.platform ≠ .suno → load (unsaved id) sys.pool = 0

structure Sound (sys : TaskSystem) : Prop where
  tasks : ∀ id, ∀ t ∈ charged start id, ∃ now, sys.tasks.get? id = some now ∧ TaskSound sys id t now
  jobs : All (JobSound start sys.tasks) sys.pool
  single : All Single sys.pool

structure Handled (t now : Task) (job : TaskJob) (e : Effect) (refunded dues unsaveds : Nat) : Prop where
  row : ∃ now', e.tasks.get? job.taskId = some now' ∧ RowSound t now' ∧ (now.status = .success → now'.status = .success) ∧
    ∀ dues' unsaveds', dues' + due job.taskId job = dues + (e.next.map (due job.taskId)).sum →
      unsaveds' + unsaved job.taskId job = unsaveds + (e.next.map (unsaved job.taskId)).sum →
      Stage now'.status (refunded + e.refunds.length) dues' unsaveds'
  amounts : ∀ r ∈ e.refunds, r.2 = t.quota
  jobs : ∀ j ∈ e.next, CopySound t e.tasks j
  video : t.platform ≠ .suno → (e.next.map (unsaved job.taskId)).sum = 0

end Sound

theorem stageFailed (failure : status = .failure) (once : refunded + dues = 1) (saved : unsaveds = 0) : Stage status refunded dues unsaveds :=
  ⟨fun _ => ⟨once,saved⟩,fun success => absurd (failure.symm.trans success) (by simp),fun running => absurd failure running.1⟩

theorem stageRunning (running : Running status) (nothing : dues = 0)
    (paired : refunded = unsaveds) (once : unsaveds ≤ 1) : Stage status refunded dues unsaveds :=
  ⟨fun failure => absurd failure running.1,fun success => absurd success running.2,fun _ => ⟨nothing,paired,once⟩⟩

theorem stageClear (other : status ≠ .failure) (refunds : refunded = 0)
    (nothing : dues = 0) (saved : unsaveds = 0) : Stage status refunded dues unsaveds :=
  ⟨fun failure => absurd failure other,fun _ => ⟨refunds,nothing,saved⟩,fun _ => ⟨nothing,by omega,by omega⟩⟩

theorem handledQuiet {next} (found : tasks.get? job.taskId = some now) (row : RowSound t now) (stage : Stage now.status refunded dues unsaveds)
    (clear : owes job = false) (nextClear : ∀ j ∈ next, owes j = false) (jobs : ∀ j ∈ next, CopySound t tasks j) :
    Handled t now job ⟨tasks,next,[]⟩ refunded dues unsaveds := by
  have nothing : ∀ w : TaskJob → Nat, (∀ j ∈ next, w j = 0) → (next.map w).sum = 0 := by
    intro w zero
    refine sum_eq_zero ?_
    intro x mem
    obtain ⟨j,inNext,rfl⟩ := List.mem_map.mp mem
    exact zero j inNext
  have noDue := nothing (due job.taskId) (fun j mem => (owesNothing (nextClear j mem)).1)
  have noUnsaved := nothing (unsaved job.taskId) (fun j mem => (owesNothing (nextClear j mem)).2)
  refine ⟨⟨now,found,row,id,?_⟩,forall_mem_nil _,jobs,fun _ => noUnsaved⟩
  intro _ _ duesEq unsavedsEq
  obtain ⟨dueZero,unsavedZero⟩ := @owesNothing job.taskId job clear
  simp only [noDue,noUnsaved,dueZero,unsavedZero,add_zero] at duesEq unsavedsEq
  subst duesEq
  subst unsavedsEq
  exact stage

theorem handledIdle {t now job tasks refunded dues unsaveds}
    (found : tasks.get? job.taskId = some now) (row : RowSound t now) (stage : Stage now.status refunded dues unsaveds)
    (clear : owes job = false) : Handled t now job ⟨tasks,[],[]⟩ refunded dues unsaveds :=
  handledQuiet found row stage clear (forall_mem_nil _) (forall_mem_nil _)

theorem Copy.row (copy : Copy t task) : RowSound t task := ⟨copy.platform,fun _ => copy.quota,copy.recent⟩

theorem sweepHandled {minutes started} (found : tasks.get? id = some now) (row : RowSound t now)
    (stage : Stage now.status refunded dues unsaveds)
    (nonzero : t.quota ≠ 0) (copy : Copy t task) (running : Running task.status) (alone : fault = true ∨ unsaveds = 0) :
    Handled t now (.sweep id task started) (sweepTask minutes tasks id task started fault) refunded dues unsaveds := by
  unfold sweepTask
  dsimp only
  obtain lost | ⟨noFault,stored,same,status,won⟩ := attemptCases tasks id (timedOut minutes task started) task.status fault
  · rw [lost]
    exact @handledIdle t now (.sweep id task started) tasks _ _ _ found row stage rfl
  rw [won]
  cases some.inj (found.symm.trans same)
  have wasRunning : Running now.status := status ▸ running
  obtain ⟨_,_⟩ := stage.running wasRunning
  have saved : unsaveds = 0 := alone.resolve_left (by simp [noFault])
  have pays : ((true = true) ∧ ¬ legacy task = true ∧ task.quota ≠ 0) := by
    refine ⟨rfl,by simp [copy.recent],?_⟩
    rw [copy.quota]
    exact nonzero
  rw [if_pos pays]
  refine ⟨⟨timedOut minutes task started,?_,{ copy.row with quota := fun _ => copy.quota },fun success => absurd success wasRunning.2,?_⟩,
    forall_mem_nil _,?_,fun _ => rfl⟩
  · rw [TaskJob.taskId,getModifySelf,found,map_some]
  · intro _ _ duesEq unsavedsEq
    simp only [TaskJob.taskId,due,unsaved,map_cons,map_nil,sum_cons,sum_nil,if_true] at duesEq unsavedsEq
    exact stageFailed rfl (by simp only [length_nil]; omega) (by omega)
  · exact forall_mem_singleton.mpr ⟨copy.quota,fun saves => by cases saves⟩

theorem videoUpdatedCopy {r now} (copy : Copy t task) (ok : videoUpdated task r now = some updated) : Copy t updated := by
  unfold videoUpdated at ok
  dsimp only at ok
  split at ok <;> cases ok
  all_goals exact { copy with }

theorem finishedHandled (found : tasks.get? id = some now) (status : now.status = task.status) (stage : Stage now.status refunded dues unsaveds)
    (nonzero : t.quota ≠ 0) (video : t.platform = .video) (copy : Copy t updated) (running : Running task.status)
    (finished : updated.status = .success ∨ updated.status = .failure) (saved : unsaveds = 0) :
    Handled t now (.video id task 0) ⟨tasks.modify id (fun _ => updated),billed id updated 0,[]⟩ refunded dues unsaveds := by
  have wasRunning : Running now.status := status ▸ running
  obtain ⟨_,_⟩ := stage.running wasRunning
  have row : (tasks.modify id (fun _ => updated)).get? id = some updated := by
    rw [getModifySelf,found,map_some]
  cases finished with
  | inl success =>
    have next : billed id updated 0 = [.settle id updated 0] := by
      unfold billed
      rw [if_pos success]
    rw [next]
    refine ⟨⟨updated,row,copy.row,fun earlier => absurd earlier wasRunning.2,?_⟩,forall_mem_nil _,?_,fun _ => rfl⟩
    · intro dues' unsaveds' duesEq unsavedsEq
      simp only [due,unsaved,map_cons,map_nil,sum_cons,sum_nil] at duesEq unsavedsEq
      exact stageClear (by simp [success]) (by simp only [length_nil]; omega) (by omega) (by omega)
    · exact forall_mem_singleton.mpr ⟨video,updated,row,success⟩
  | inr failure =>
    have next : billed id updated 0 = [.refund id updated false] := by
      unfold billed
      rw [if_neg (by simp [failure]),if_pos ⟨failure,copy.quota ▸ nonzero⟩]
      rfl
    rw [next]
    refine ⟨⟨updated,row,copy.row,fun earlier => absurd earlier wasRunning.2,?_⟩,forall_mem_nil _,?_,fun _ => rfl⟩
    · intro _ _ duesEq unsavedsEq
      simp only [TaskJob.taskId,due,unsaved,map_cons,map_nil,sum_cons,sum_nil,if_true] at duesEq unsavedsEq
      exact stageFailed failure (by simp only [length_nil]; omega) (by omega)
    · exact forall_mem_singleton.mpr ⟨copy.quota,fun saves => by cases saves⟩

theorem advancedHandled {t now updated : Task} {tasks : Tasks} {job : TaskJob} {refunded dues unsaveds}
    (found : tasks.get? job.taskId = some now) (wasRunning : Running now.status) (stage : Stage now.status refunded dues unsaveds)
    (copy : Copy t updated) (running : Running updated.status) (clear : owes job = false) :
    Handled t now job ⟨tasks.modify job.taskId (fun _ => updated),[],[]⟩ refunded dues unsaveds := by
  obtain ⟨_,_⟩ := stage.running wasRunning
  obtain ⟨dueZero,unsavedZero⟩ := @owesNothing job.taskId job clear
  refine ⟨⟨updated,?_,copy.row,fun success => absurd success wasRunning.2,?_⟩,
    forall_mem_nil _,forall_mem_nil _,fun _ => rfl⟩
  · rw [getModifySelf,found,map_some]
  · intro _ _ duesEq unsavedsEq
    simp only [dueZero,unsavedZero,map_nil,sum_nil,add_zero] at duesEq unsavedsEq
    exact stageRunning running (by omega) (by simp only [length_nil]; omega) (by omega)

theorem sunoUpdatedCopy {item} (copy : Copy t task)
    (submitted : ¬ (0 < item.submitTime ∧ item.submitTime < legacyTaskCutoff)) : Copy t (sunoUpdated task item) := by
  refine ⟨copy.platform,copy.quota,?_⟩
  have recent := copy.recent
  unfold legacy at recent ⊢
  simp only [sunoUpdated,orElse]
  split
  · exact recent
  · exact decide_eq_false_iff_not.mpr submitted

section
variable (found : tasks.get? id = some now) (row : RowSound t now) (stage : Stage now.status refunded dues unsaveds)
include found row stage

theorem singleHandled (nonzero : t.quota ≠ 0) (video : t.platform = .video) (copy : Copy t updated) (running : Running task.status)
    (saved : unsaveds = 0) : Handled t now (.video id task 0) (updateVideoSingleTask tasks id task updated 0 fault) refunded dues unsaveds := by
  have quiet : Handled t now (.video id task 0) ⟨tasks,[],[]⟩ refunded dues unsaveds :=
    handledIdle found row stage rfl
  unfold updateVideoSingleTask
  split
  · rename_i finishes
    obtain lost | ⟨_,stored,same,status,won⟩ := attemptCases tasks id updated task.status fault
    · rw [lost]
      exact quiet
    · rw [won]
      cases some.inj (found.symm.trans same)
      exact finishedHandled found status stage nonzero video copy running finishes.1 saved
  · rename_i stays
    have unfinished : Running updated.status := by
      refine ⟨?_,?_⟩
      · intro failure
        exact stays ⟨.inr failure,fun equal => running.1 (equal.trans failure)⟩
      · intro success
        exact stays ⟨.inl success,fun equal => running.2 (equal.trans success)⟩
    have next : billed id updated 0 = [] := by
      unfold billed
      rw [if_neg unfinished.2,if_neg (fun both => unfinished.1 both.1)]
      rfl
    rw [next]
    split
    · exact quiet
    obtain lost | ⟨_,stored,same,status,won⟩ := attemptCases tasks id updated task.status fault
    · rw [lost]
      exact quiet
    · rw [won]
      cases some.inj (found.symm.trans same)
      exact @advancedHandled t now updated tasks (.video id task 0) _ _ _ found (status ▸ running) stage copy unfinished rfl

theorem videoHandled {clock} (nonzero : t.quota ≠ 0) (video : t.platform = .video) (copy : Copy t task) (running : Running task.status)
    (saved : unsaveds = 0) (channel : fault = true ∨ Reply.missing reply = false) :
    Handled t now (.video id task 0) (handleVideo tasks id task 0 clock fault reply) refunded dues unsaveds := by
  have quiet : Handled t now (.video id task 0) ⟨tasks,[],[]⟩ refunded dues unsaveds :=
    handledIdle found row stage rfl
  unfold handleVideo
  split
  · obtain rfl | there := channel
    · exact quiet
    · cases there
  · exact quiet
  · split
    · exact quiet
    split
    · exact quiet
    · rename_i updated ok
      have withData : ∀ data, Copy t { task with data := data } := fun _ => { copy with }
      exact singleHandled found row stage nonzero video (videoUpdatedCopy (withData _) ok) running saved
  · exact quiet

theorem settleHandled (video : t.platform = .video) (success : now.status = .success) :
    Handled t now (.settle id task 0) (recalculateTaskQuota tasks id task 0 fault reply) refunded dues unsaveds := by
  have quiet : Handled t now (.settle id task 0) ⟨tasks,[],[]⟩ refunded dues unsaveds :=
    handledIdle found row stage rfl
  unfold recalculateTaskQuota
  split
  · split
    · exact quiet
    refine handledQuiet found row stage rfl ?_ ?_
    · intro j mem
      cases mem_singleton.mp mem
      rfl
    · exact forall_mem_singleton.mpr ⟨video,now,found,success⟩
  · exact quiet

theorem quotaHandled (success : now.status = .success) : Handled t now (.updateQuota id task 0)
      ⟨if fault then tasks else tasks.modify id (fun t => { t with quota := task.quota }),[],[]⟩ refunded dues unsaveds := by
  cases fault with
  | true =>
    exact handledIdle found row stage rfl
  | false =>
    refine ⟨⟨{ now with quota := task.quota },?_,⟨row.platform,fun other => absurd success other,row.recent⟩,fun _ => success,?_⟩,
      forall_mem_nil _,forall_mem_nil _,fun _ => rfl⟩
    · simp only [TaskJob.taskId,Bool.false_eq_true,if_false,getModifySelf,found,map_some]
    · intro _ _ duesEq unsavedsEq
      obtain ⟨nothing,_⟩ := stage.succeeded success
      simp only [due,unsaved,map_nil,sum_nil,add_zero] at duesEq unsavedsEq
      exact stageClear (by simp [success]) nothing (by omega) (by omega)

theorem sunoHandled (suno : t.platform = .suno) (copy : Copy t task) (channel : fault = true ∨ Reply.missing reply = false)
    (orderly : SunoOrderly task reply) : Handled t now (.suno id task) (handleSuno tasks id task fault reply) refunded dues unsaveds := by
  have quiet : Handled t now (.suno id task) ⟨tasks,[],[]⟩ refunded dues unsaveds :=
    handledIdle found row stage rfl
  unfold handleSuno
  split
  · obtain rfl | there := channel
    · exact quiet
    · cases there
  · rename_i item
    obtain ⟨submitted,failing⟩ := orderly
    have updated : Copy t (sunoUpdated task item) := sunoUpdatedCopy copy submitted
    refine handledQuiet found row stage rfl ?_ ?_
    · intro j mem
      split at mem
      · split at mem <;> cases mem_singleton.mp mem <;> rfl
      · cases mem_singleton.mp mem
        rfl
    · intro j mem
      split at mem
      · split at mem
        · rename_i fails
          cases mem_singleton.mp mem
          refine ⟨updated.quota,fun _ => ⟨updated,suno,?_⟩⟩
          simp only [sunoFails,decide_eq_true_eq] at fails
          exact fails.elim failing (fun failure => failure)
        · rename_i passes
          cases mem_singleton.mp mem
          refine ⟨updated,suno,?_⟩
          simp only [sunoFails,decide_eq_true_eq,not_or] at passes
          exact ⟨fun refunded => (by cases refunded),fun failure => absurd failure passes.2⟩
      · cases mem_singleton.mp mem
        exact ⟨copy,suno⟩
  · exact quiet

theorem refundHandled {saves} (nonzero : t.quota ≠ 0) (quota : task.quota = t.quota)
    (copy : saves = true → Copy t task ∧ t.platform = .suno ∧ task.status = .failure) (owed : saves = false → 0 < dues)
    (free : saves = true → Running now.status ∧ unsaveds = 0) :
    Handled t now (.refund id task saves) (refundTaskQuota tasks id task saves false) refunded dues unsaveds := by
  have pays : ¬ ((false : Bool) = true ∨ task.quota = 0) := by
    rw [quota]
    simp [nonzero]
  unfold refundTaskQuota
  rw [if_neg pays]
  cases saves with
  | false =>
    have failure : now.status = .failure := by
      have some' := owed rfl
      by_contra other
      by_cases success : now.status = .success
      · have := stage.succeeded success
        omega
      · have := stage.running ⟨other,success⟩
        omega
    obtain ⟨_,saved⟩ := stage.failed failure
    refine ⟨⟨now,found,row,fun success => success,?_⟩,?_,forall_mem_nil _,fun _ => rfl⟩
    · intro dues' unsaveds' duesEq unsavedsEq
      have some' := owed rfl
      simp only [TaskJob.taskId,due,unsaved,Bool.false_eq_true,if_false,map_nil,sum_nil,if_true,add_zero] at duesEq unsavedsEq
      exact stageFailed failure (by simp only [length_cons,length_nil]; omega) (by omega)
    · exact forall_mem_singleton.mpr quota
  | true =>
    obtain ⟨running,_⟩ := free rfl
    obtain ⟨_,_⟩ := stage.running running
    obtain ⟨copied,suno,failure⟩ := copy rfl
    refine ⟨⟨now,found,row,fun success => success,?_⟩,?_,?_,fun other => absurd suno other⟩
    · intro _ _ duesEq unsavedsEq
      simp only [TaskJob.taskId,due,unsaved,map_cons,map_nil,sum_cons,sum_nil,if_true,add_zero] at duesEq unsavedsEq
      exact stageRunning running (by omega) (by simp only [length_cons,length_nil]; omega) (by omega)
    · exact forall_mem_singleton.mpr quota
    · exact forall_mem_singleton.mpr ⟨copied,suno,⟨fun _ => failure,fun _ => rfl⟩⟩

theorem saveHandled {refunds} (suno : t.platform = .suno) (copy : Copy t task) (failure : refunds = true ↔ task.status = .failure)
    (owed : refunds = true → 0 < unsaveds ∧ fault = false) (free : refunds = false → fault = true ∨ Running now.status ∧ unsaveds = 0) :
    Handled t now (.save id task refunds)
      ⟨if fault then tasks else tasks.modify id (fun _ => task),[.suno id task],[]⟩ refunded dues unsaveds := by
  have kept : ∀ tasks', ∀ j ∈ [TaskJob.suno id task], CopySound t tasks' j := fun _ => forall_mem_singleton.mpr ⟨copy,suno⟩
  have written : (tasks.modify id (fun _ => task)).get? id = some task := by
    rw [getModifySelf,found,map_some]
  cases refunds with
  | false =>
    cases fault with
    | true =>
      refine handledQuiet found row stage rfl ?_ (kept _)
      intro j mem
      cases mem_singleton.mp mem
      rfl
    | false =>
      obtain ⟨running,_⟩ := (free rfl).resolve_left (by simp)
      obtain ⟨noDue,paired,_⟩ := stage.running running
      have other : task.status ≠ .failure := fun failed => by cases failure.mpr failed
      refine ⟨⟨task,written,copy.row,fun success => absurd success running.2,?_⟩,forall_mem_nil _,kept _,fun _ => rfl⟩
      intro dues' unsaveds' duesEq unsavedsEq
      simp only [due,unsaved,map_cons,map_nil,sum_cons,sum_nil,add_zero] at duesEq unsavedsEq
      exact stageClear other (by simp only [length_nil]; omega) (by omega) (by omega)
  | true =>
    obtain ⟨_,rfl⟩ := owed rfl
    have running : Running now.status := by
      refine ⟨?_,?_⟩
      · intro failed
        have := stage.failed failed
        omega
      · intro success
        have := stage.succeeded success
        omega
    obtain ⟨_,_⟩ := stage.running running
    refine ⟨⟨task,written,copy.row,fun success => absurd success running.2,?_⟩,forall_mem_nil _,kept _,fun _ => rfl⟩
    intro _ _ duesEq unsavedsEq
    simp only [TaskJob.taskId,due,unsaved,map_cons,map_nil,sum_cons,sum_nil,if_true,add_zero] at duesEq unsavedsEq
    exact stageFailed (failure.mp rfl) (by simp only [length_nil]; omega) (by omega)

end

theorem chargedFacts {start} (here : t ∈ charged start id) : start.get? id = some t ∧ unfinished t = true ∧ t.quota ≠ 0 ∧ legacy t = false := by
  obtain ⟨found,passes⟩ := filter_eq_some_iff.mp here
  simp only [Bool.and_eq_true,decide_eq_true_eq,Bool.not_eq_true'] at passes
  exact ⟨found,passes.1.1,passes.1.2,passes.2⟩

theorem unfinishedRunning (open' : unfinished t = true) : Running t.status := by
  simp only [unfinished,decide_eq_true_eq] at open'
  exact open'.2

end NovaPuraRouter.TaskStage
