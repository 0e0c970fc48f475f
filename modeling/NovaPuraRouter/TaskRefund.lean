import NovaPuraRouter.TaskStage

/-! Refunds of failed tasks. A charged task is refunded at most once, never when it
succeeded, and has been, or is about to be, whenever its row says it failed, as long as
every failure goes through a conditional update whose refund is carried out, and Suno
pollers of one task do not meet between a refund and its save. -/
namespace NovaPuraRouter.TaskRefund
open TaskPolling TaskSpec TaskStage JobPool List Option

section Step
variable {start : Tasks} {sys : TaskSystem}

variable {i id limit : Nat} {job : TaskJob} {rest : List TaskJob} {t stored now task : Task} {platform : TaskPlatform} {upstreamTaskId : String}
    {rows : List (Nat × Task)}

theorem effectHandled {minutes reply now fault}
    (taken : next sys.pool i = some (job,rest)) (here : t ∈ charged start job.taskId) (found : sys.tasks.get? job.taskId = some stored)
    (task : TaskSound sys job.taskId t stored) (sound : CopySound t sys.tasks job) (single : Single job)
    (orderly : JobOrderly sys reply fault job) :
    Handled t stored job (effect minutes sys.tasks reply now fault job) (refundsOf sys job.taskId).length
      (load (due job.taskId) sys.pool) (load (unsaved job.taskId) sys.pool) := by
  have nonzero := (chargedFacts here).2.2.1
  have inPool : (job::rest) ∈ sys.pool := mem_of_getElem? (nextExact taken)
  have weighs : ∀ w : TaskJob → Nat, w job ≤ load w sys.pool := fun w => loadMem w inPool mem_cons_self
  cases job with
  | sweep => exact sweepHandled found task.row task.stage nonzero sound.1 sound.2 orderly
  | failNull =>
    cases orderly
    exact handledIdle found task.row task.stage rfl
  | video =>
    cases single
    have saved := task.video (by rw [sound.2.2]; simp)
    exact videoHandled found task.row task.stage nonzero sound.2.2 sound.1 sound.2.1 saved orderly
  | settle =>
    cases single
    obtain ⟨video,other,same,success⟩ := sound
    cases some.inj (found.symm.trans same)
    exact settleHandled found task.row task.stage video success
  | updateQuota =>
    cases single
    obtain ⟨_,_,same,success⟩ := sound
    cases some.inj (found.symm.trans same)
    exact quotaHandled found task.row task.stage success
  | suno => exact sunoHandled found task.row task.stage sound.2 sound.1 orderly.1 orderly.2
  | refund id _ saves =>
    have faultless : fault = false := by
      cases saves with
      | false => exact orderly
      | true => exact orderly.1
    subst faultless
    refine refundHandled found task.row task.stage nonzero sound.1 sound.2 ?_ ?_
    · rintro rfl
      have one := weighs (due id)
      simp only [due,if_true] at one
      exact one
    · rintro rfl
      exact ⟨orderly.2.1 stored found,orderly.2.2⟩
  | save id =>
    refine saveHandled found task.row task.stage sound.2.1 sound.1 sound.2.2 ?_ ?_
    · rintro rfl
      have one := weighs (unsaved id)
      simp only [unsaved,if_true] at one
      exact ⟨one,orderly⟩
    · rintro rfl
      exact orderly.imp_right (fun free => ⟨free.1 stored found,free.2⟩)

theorem jobSoundMono {tasks tasks'} (stays : ∀ id, ∀ t ∈ charged start id, ∀ now, tasks.get? id = some now →
      now.status = .success → ∃ now', tasks'.get? id = some now' ∧ now'.status = .success)
    (job) (sound : JobSound start tasks job) : JobSound start tasks' job := by
  intro t here
  have before := sound t here
  cases job with
  | settle id | updateQuota id =>
    obtain ⟨video,now,found,success⟩ := before
    exact ⟨video,stays id t here now found success⟩
  | _ => exact before

theorem ownSound {e}
    (taken : next sys.pool i = some (job,rest)) (task : TaskSound sys job.taskId t stored)
    (stays : Local sys.tasks job.taskId (TaskJob.left job) e)
    (handled : Handled t stored job e (refundsOf sys job.taskId).length (load (due job.taskId) sys.pool) (load (unsaved job.taskId) sys.pool)) :
    ∃ now', e.tasks.get? job.taskId = some now' ∧ (stored.status = .success → now'.status = .success) ∧
      TaskSound ⟨e.tasks,sys.pool.set i (e.next ++ rest),sys.refunds ++ e.refunds⟩ job.taskId t now' := by
  obtain ⟨now',found,row,success,stage⟩ := handled.row
  have log : refundsOf ⟨e.tasks,sys.pool.set i (e.next ++ rest),sys.refunds ++ e.refunds⟩ job.taskId =
      refundsOf sys job.taskId ++ e.refunds.map Prod.snd := by
    have all : e.refunds.filter (fun r => decide (r.1 = job.taskId)) = e.refunds :=
      filter_eq_self.mpr (fun r mem => decide_eq_true (stays.refunds r mem))
    simp only [refundsOf,filter_append,map_append,all]
  have dues := loadStep (due job.taskId) taken e.next
  have unsaveds := loadStep (unsaved job.taskId) taken e.next
  refine ⟨now',found,success,row,?_,?_,?_⟩
  · rw [log,length_append,length_map]
    exact stage _ _ dues unsaveds
  · intro quota mem
    rw [log] at mem
    obtain old | new := mem_append.mp mem
    · exact task.amounts quota old
    · obtain ⟨r,inRefunds,rfl⟩ := List.mem_map.mp new
      exact handled.amounts r inRefunds
  · intro video
    have before := task.video video
    have nothing := handled.video video
    dsimp only
    omega

theorem otherSound {e}
    (taken : next sys.pool i = some (job,rest)) (task : TaskSound sys id t now) (stays : Local sys.tasks job.taskId (TaskJob.left job) e)
    (other : job.taskId ≠ id) : TaskSound ⟨e.tasks,sys.pool.set i (e.next ++ rest),sys.refunds ++ e.refunds⟩ id t now := by
  have log : refundsOf ⟨e.tasks,sys.pool.set i (e.next ++ rest),sys.refunds ++ e.refunds⟩ id = refundsOf sys id := by
    have nothing : e.refunds.filter (fun r => decide (r.1 = id)) = [] :=
      filter_eq_nil_iff.mpr (fun r mem => by simpa [stays.refunds r mem] using other)
    simp only [refundsOf,filter_append,nothing,append_nil]
  have still : ∀ w : TaskJob → Nat, (∀ j, j.taskId ≠ id → w j = 0) → load w (sys.pool.set i (e.next ++ rest)) = load w sys.pool := by
    intro w zero
    have sum : (e.next.map w).sum = 0 :=
      sum_eq_zero (forall_mem_map.mpr (fun j inNext => zero j (by rw [(stays.next j inNext).1]; exact other)))
    have step := loadStep w taken e.next
    have own := zero job other
    omega
  have dues := still (due id) (fun _ => dueOther)
  have unsaveds := still (unsaved id) (fun _ => unsavedOther)
  refine ⟨task.row,?_,?_,?_⟩
  · rw [log]
    rw [dues,unsaveds]
    exact task.stage
  · rw [log]
    exact task.amounts
  · dsimp only
    rw [unsaveds]
    exact task.video

theorem soundJob {i minutes job rest reply now fault} (sound : Sound start sys) (taken : next sys.pool i = some (job,rest))
    (orderly : (charged start job.taskId).isSome = true → JobOrderly sys reply fault job) :
    Sound start ⟨(effect minutes sys.tasks reply now fault job).tasks,
      sys.pool.set i ((effect minutes sys.tasks reply now fault job).next ++ rest),
      sys.refunds ++ (effect minutes sys.tasks reply now fault job).refunds⟩ := by
  have stays := effectLocal minutes sys.tasks reply now fault job
  have handled : ∀ t ∈ charged start job.taskId, ∀ stored, sys.tasks.get? job.taskId = some stored → TaskSound sys job.taskId t stored →
      Handled t stored job (effect minutes sys.tasks reply now fault job) (refundsOf sys job.taskId).length
        (load (due job.taskId) sys.pool) (load (unsaved job.taskId) sys.pool) := fun t here stored found task =>
    effectHandled taken here found task (allHead sound.jobs taken t here) (allHead sound.single taken)
      (orderly (isSome_iff_exists.mpr ⟨t,here⟩))
  generalize effect minutes sys.tasks reply now fault job = e at stays handled ⊢
  have rows : ∀ id, ∀ t ∈ charged start id, ∃ before after, sys.tasks.get? id = some before ∧ e.tasks.get? id = some after ∧
      (before.status = .success → after.status = .success) ∧
      TaskSound ⟨e.tasks,sys.pool.set i (e.next ++ rest),sys.refunds ++ e.refunds⟩ id t after := by
    intro id t here
    obtain ⟨before,found,task⟩ := sound.tasks id t here
    by_cases own : job.taskId = id
    · subst own
      obtain ⟨after,row,success,task'⟩ := ownSound taken task stays (handled t here before found task)
      exact ⟨before,after,found,row,success,task'⟩
    · exact ⟨before,before,found,(stays.rows id (Ne.symm own)).trans found,fun success => success,otherSound taken task stays own⟩
  have mono : ∀ j, JobSound start sys.tasks j → JobSound start e.tasks j := by
    refine jobSoundMono ?_
    intro id t here stored found success
    obtain ⟨_,after,same,row,kept,_⟩ := rows id t here
    cases some.inj (found.symm.trans same)
    exact ⟨after,row,kept success⟩
  refine ⟨?_,?_,?_⟩
  · intro id t here
    obtain ⟨_,after,_,row,_,task⟩ := rows id t here
    exact ⟨after,row,task⟩
  · refine allStep (allMono mono sound.jobs) taken ?_
    intro j mem t here
    rw [(stays.next j mem).1] at here
    obtain ⟨stored,found,task⟩ := sound.tasks job.taskId t here
    exact (handled t here stored found task).jobs j mem
  · have last : Single job := allHead sound.single taken
    exact allStep sound.single taken (fun j mem => (stays.next j mem).2 last)

theorem samePool {pool} (task : TaskSound sys id t now)
    (dues : load (due id) pool = load (due id) sys.pool) (unsaveds : load (unsaved id) pool = load (unsaved id) sys.pool) :
    TaskSound { sys with pool := pool } id t now := by
  refine ⟨task.row,?_,task.amounts,?_⟩
  · dsimp only
    rw [dues,unsaveds]
    exact task.stage
  · dsimp only
    rw [unsaveds]
    exact task.video

theorem soundSpawn {more} (sound : Sound start sys) (clear : All (fun job => owes job = false) more)
    (jobs : All (JobSound start sys.tasks) more) (single : All Single more) : Sound start { sys with pool := sys.pool ++ more } := by
  refine ⟨?_,allAppend sound.jobs jobs,allAppend sound.single single⟩
  intro id t here
  obtain ⟨now,found,task⟩ := sound.tasks id t here
  have dues : load (due id) more = 0 := loadZero (fun jobs' inPool job mem => (owesNothing (clear jobs' inPool job mem)).1)
  have unsaveds : load (unsaved id) more = 0 := loadZero (fun jobs' inPool job mem => (owesNothing (clear jobs' inPool job mem)).2)
  refine ⟨now,found,samePool task ?_ ?_⟩
  · rw [loadAppend,dues,add_zero]
  · rw [loadAppend,unsaveds,add_zero]

theorem soundCrash (sound : Sound start sys)
    (clear : ∀ jobs ∈ sys.pool[i]?, ∀ job ∈ jobs, (charged start job.taskId).isSome = true → owes job = false) :
    Sound start { sys with pool := sys.pool.set i [] } := by
  refine ⟨?_,allSet sound.jobs (fun _ nothing => absurd nothing not_mem_nil),allSet sound.single (fun _ nothing => absurd nothing not_mem_nil)⟩
  intro id t here
  obtain ⟨now,found,task⟩ := sound.tasks id t here
  have still : ∀ w : TaskJob → Nat, (∀ job, (job.taskId = id → owes job = false) → w job = 0) →
      load w (sys.pool.set i []) = load w sys.pool := by
    intro w zero
    cases row : sys.pool[i]? with
    | none => rw [set_eq_of_length_le (List.getElem?_eq_none_iff.mp row)]
    | some jobs =>
      have sum : (jobs.map w).sum = 0 := by
        refine sum_eq_zero ?_
        intro x mem
        obtain ⟨job,inJobs,rfl⟩ := List.mem_map.mp mem
        refine zero job (fun own => clear jobs row job inJobs ?_)
        rw [own]
        exact isSome_iff_exists.mpr ⟨t,here⟩
      have set := loadSet w row []
      simp only [map_nil,sum_nil] at set
      omega
  refine ⟨now,found,samePool task ?_ ?_⟩
  · refine still _ ?_
    intro job own
    by_cases same : job.taskId = id
    · exact (owesNothing (own same)).1
    · exact dueOther same
  · refine still _ ?_
    intro job own
    by_cases same : job.taskId = id
    · exact (owesNothing (own same)).2
    · exact unsavedOther same

theorem readCopy (sound : Sound start sys) (here : t ∈ charged start id) (read : sys.tasks.get? id = some task)
    (open' : unfinished task = true) : Copy t task ∧ Running task.status := by
  obtain ⟨_,found,sound'⟩ := sound.tasks id t here
  cases some.inj (read.symm.trans found)
  have running := unfinishedRunning open'
  exact ⟨⟨sound'.row.platform,sound'.row.quota running.2,sound'.row.recent⟩,running⟩

theorem polledRow (mem : (id,task) ∈ polled sys.tasks platform upstreamTaskId limit) :
    sys.tasks.get? id = some task ∧ unfinished task = true ∧ task.platform = platform := by
  obtain ⟨row,selected⟩ := Table.memSelect.mp (mem_of_mem_take mem)
  simp only [Bool.and_eq_true,decide_eq_true_eq] at selected
  exact ⟨row,selected.1,selected.2.1⟩

theorem dispatchedAll {good} (null : ∀ r ∈ rows, good (.failNull r.1))
    (suno : ∀ id task, platform = .suno → rows.getLast? = some (id,task) → good (.suno id task))
    (video : ∀ id task, platform = .video → rows.getLast? = some (id,task) → good (.video id task (rows.length - 1))) :
    All good (dispatched platform upstreamTaskId rows) := by
  unfold dispatched
  split
  · intro _ inPool _ mem
    obtain ⟨r,there,rfl⟩ := List.mem_map.mp inPool
    cases mem_singleton.mp mem
    exact null r there
  split
  · exact allOne (suno _ _ rfl ‹_›)
  · exact allOne (video _ _ rfl ‹_›)
  · exact forall_mem_nil _

theorem dispatchedClear : All (fun job => owes job = false) (dispatched platform upstreamTaskId rows) :=
  dispatchedAll (fun _ _ => rfl) (fun _ _ _ _ => rfl) (fun _ _ _ _ => rfl)

theorem dispatchedSound (sound : Sound start sys) :
    All (JobSound start sys.tasks) (dispatched platform upstreamTaskId (polled sys.tasks platform upstreamTaskId limit)) := by
  refine dispatchedAll (fun _ _ _ _ => trivial) (fun id task own last t here => ?_) (fun id task own last t here => ?_)
  · obtain ⟨row,open',same⟩ := polledRow (mem_of_getLast? last)
    have copy := (readCopy sound here row open').1
    exact ⟨copy,copy.platform.symm.trans (same.trans own)⟩
  · obtain ⟨row,open',same⟩ := polledRow (mem_of_getLast? last)
    obtain ⟨copy,running⟩ := readCopy sound here row open'
    exact ⟨copy,running,copy.platform.symm.trans (same.trans own)⟩

theorem dispatchedSingle (distinct : platform = .video → rows.length ≤ 1) : All Single (dispatched platform upstreamTaskId rows) := by
  refine dispatchedAll (fun _ _ => rfl) (fun _ _ _ _ => rfl) (fun id task own _ => ?_)
  have one := distinct own
  simp only [Single,TaskJob.left]
  omega

theorem soundStep (minutes op) (sound : Sound start sys) (orderly : Orderly start sys op) : Sound start (taskStep minutes sys op) := by
  cases op with
  | sweep =>
    simp only [taskStep]
    split
    · rename_i task found
      split
      · rename_i due'
        have open' : unfinished task = true := (Bool.and_eq_true_iff.mp due').1
        exact soundSpawn sound (allOne rfl) (allOne (fun t here => readCopy sound here found open')) (allOne rfl)
      · exact sound
    · exact sound
  | poll => exact soundSpawn sound dispatchedClear (dispatchedSound sound) (dispatchedSingle orderly)
  | step =>
    simp only [taskStep]
    split
    · exact sound
    · rename_i job rest taken
      exact soundJob sound taken (orderly (job,rest) taken)
  | crash => exact soundCrash sound orderly

theorem soundRefunded (sound : Sound start sys) : RefundedOnce start sys := by
  intro id t here now found
  obtain ⟨_,row,task⟩ := sound.tasks id t here
  cases some.inj (found.symm.trans row)
  have stage := task.stage
  have one : (refundsOf sys id).length = 1 → refundsOf sys id = [t.quota] := by
    intro single
    obtain ⟨quota,only⟩ := length_eq_one_iff.mp single
    rw [only,task.amounts quota (by rw [only]; exact mem_singleton_self _)]
  refine ⟨?_,?_,?_⟩
  · have few : (refundsOf sys id).length = 0 ∨ (refundsOf sys id).length = 1 := by
      by_cases failure : now.status = .failure
      · have := stage.failed failure
        omega
      by_cases success : now.status = .success
      · have := stage.succeeded success
        omega
      · have := stage.running ⟨failure,success⟩
        omega
    exact few.imp length_eq_zero_iff.mp one
  · intro success
    exact length_eq_zero_iff.mp (stage.succeeded success).1
  · intro failure
    obtain ⟨_,_⟩ := stage.failed failure
    by_cases refunded : (refundsOf sys id).length = 1
    · exact .inl (one refunded)
    right
    obtain ⟨jobs,inPool,job,mem,owed⟩ := @loadPos _ (due id) sys.pool (by omega)
    cases job with
    | refund _ task saves =>
      cases saves with
      | false =>
        simp only [due] at owed
        split at owed
        · rename_i same
          exact ⟨jobs,inPool,task,false,same ▸ mem⟩
        · exact absurd owed (lt_irrefl 0)
      | true => exact absurd owed (lt_irrefl 0)
    | _ => exact absurd owed (lt_irrefl 0)

end Step

def opening (start : Tasks) : TaskSystem := ⟨start,[],[]⟩

theorem soundOpening (start) : Sound start (opening start) := by
  refine ⟨?_,fun _ nothing => absurd nothing not_mem_nil,fun _ nothing => absurd nothing not_mem_nil⟩
  intro _ t here
  obtain ⟨found,open',_,recent⟩ := chargedFacts here
  have running := unfinishedRunning open'
  exact ⟨t,found,⟨rfl,fun _ => rfl,recent⟩,stageRunning running rfl rfl (Nat.zero_le 1),fun _ nothing => absurd nothing not_mem_nil,
    fun _ => rfl⟩

theorem tasksRefundedOnce {start : Tasks} {minutes : Nat} {ops : List TaskOp}
    (orderly : Along (taskStep minutes) (Orderly start) (opening start) ops) :
    Always (taskStep minutes) (RefundedOnce start) (opening start) ops :=
  alwaysMono (fun _ => soundRefunded) (alwaysKept (fun _ op => soundStep minutes op) (soundOpening start) orderly)

instance (sys : TaskSystem) (id : Nat) : Decidable (Untouched sys id) := by unfold Untouched; infer_instance

instance (task reply) : Decidable (SunoOrderly task reply) := by cases reply <;> (unfold SunoOrderly; infer_instance)

instance (sys reply fault job) : Decidable (JobOrderly sys reply fault job) := by unfold JobOrderly; split <;> infer_instance

instance (start sys op) : Decidable (Orderly start sys op) := by cases op <;> (unfold Orderly; infer_instance)

def submittedTask (platform : TaskPlatform) (upstreamTaskId : String) : Task :=
  ⟨platform,upstreamTaskId,500,.submitted,"",1800000000,0,0,"10%",.unset,[]⟩

def twoTasks : Tasks := ⟨[(1,submittedTask .video "v"),(2,submittedTask .suno "s")],by decide⟩

def sunoFailure : SunoDataResponse := ⟨some .failure,"no lyrics",0,0,0,[]⟩

theorem eachRefundedOnce : Always (taskStep 60) (RefundedOnce twoTasks) (opening twoTasks)
    [.poll .video "v" 100,.sweep 1 1800010000,.step 0 (.video (.info (failTaskInfo "bad prompt")) []) 1800010000 false,
      .step 1 .nothing 1800010000 false,.step 0 .nothing 1800010001 false,.poll .suno "s" 100,
      .step 2 (.suno sunoFailure) 1800010002 false,.step 2 .nothing 1800010002 false,.step 2 .nothing 1800010002 false,.crash 2] :=
  tasksRefundedOnce (by decide)

def sunoOnTwoNodes : List TaskOp :=
  [.poll .suno "s" 100,.poll .suno "s" 100,.step 0 (.suno sunoFailure) 1800010000 false,.step 1 (.suno sunoFailure) 1800010000 false,
    .step 0 .nothing 1800010000 false,.step 1 .nothing 1800010000 false]

def sunoSaveFails : List TaskOp :=
  [.poll .suno "s" 100,.step 0 (.suno sunoFailure) 1800010000 false,.step 0 .nothing 1800010000 false,.step 0 .nothing 1800010000 true,
    .poll .suno "s" 100,.step 1 (.suno sunoFailure) 1800010030 false,.step 1 .nothing 1800010030 false]

def channelDeleted : List TaskOp := [.poll .video "v" 100,.step 0 (.channelMissing 7) 1800010000 false]

def refundFails : List TaskOp :=
  [.sweep 1 1800010000,.step 0 .nothing 1800010000 false,.step 0 .nothing 1800010000 true]

def sunoSucceedsWithReason : List TaskOp :=
  [.poll .suno "s" 100,.step 0 (.suno ⟨some .success,"partly",0,0,0,[]⟩) 1800010000 false,.step 0 .nothing 1800010000 false,
    .step 0 .nothing 1800010000 false]

theorem taskRefundsBroken : refundsOf (run (taskStep 60) (opening twoTasks) sunoOnTwoNodes) 2 = [500,500] ∧
    refundsOf (run (taskStep 60) (opening twoTasks) sunoSaveFails) 2 = [500,500] ∧
    ¬ Always (taskStep 60) (RefundedOnce twoTasks) (opening twoTasks) sunoOnTwoNodes ∧
    ¬ Always (taskStep 60) (RefundedOnce twoTasks) (opening twoTasks) channelDeleted ∧
    ¬ Always (taskStep 60) (RefundedOnce twoTasks) (opening twoTasks) refundFails ∧
    ¬ Always (taskStep 60) (RefundedOnce twoTasks) (opening twoTasks) sunoSucceedsWithReason := by
  refine ⟨by decide,by decide,?_,?deleted,?fails,?_⟩
  · intro always
    have once := ((alwaysLast always) 2 _ rfl _ rfl).atMostOnce
    exact absurd once (by decide)
  case deleted | fails =>
    intro always
    obtain refunded | ⟨jobs,inPool,task,saves,mem⟩ := ((alwaysLast always) 1 _ rfl _ rfl).failure rfl
    · exact absurd refunded (by decide)
    · cases mem_singleton.mp inPool
      exact absurd mem not_mem_nil
  · intro always
    exact absurd (((alwaysLast always) 2 _ rfl _ rfl).notSuccess rfl) (by decide)

end NovaPuraRouter.TaskRefund