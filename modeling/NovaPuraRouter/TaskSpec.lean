import NovaPuraRouter.TaskPolling

/-! What the write of one job can do: a conditional update that is lost or won, and an effect that
stays with the task of the job. A copy that was to be handled once is not handled again. -/
namespace NovaPuraRouter.TaskSpec
open TaskPolling List

theorem updateCases (tasks id task fromStatus) : updateWithStatus tasks id task fromStatus = (tasks,false) ∨
    ∃ t, tasks.get? id = some t ∧ t.status = fromStatus ∧
      updateWithStatus tasks id task fromStatus = (tasks.modify id (fun _ => task),true) := by
  unfold updateWithStatus
  split
  · rename_i there
    obtain ⟨t,found,status⟩ := Option.map_eq_some_iff.mp there
    exact .inr ⟨t,found,status,rfl⟩
  · exact .inl rfl

theorem attemptCases (tasks id task fromStatus fault) : attempt tasks id task fromStatus fault = (tasks,false) ∨
    fault = false ∧ ∃ t, tasks.get? id = some t ∧ t.status = fromStatus ∧
      attempt tasks id task fromStatus fault = (tasks.modify id (fun _ => task),true) := by
  cases fault with
  | true => exact .inl rfl
  | false =>
    obtain lost | won := updateCases tasks id task fromStatus
    · exact .inl lost
    · exact .inr ⟨rfl,won⟩

def TaskJob.left : TaskJob → Nat
  | .video _ _ left | .settle _ _ left | .updateQuota _ _ left => left
  | _ => 0

def Single (job : TaskJob) : Prop := TaskJob.left job = 0

def Follows (id left : Nat) (j : TaskJob) : Prop := j.taskId = id ∧ (left = 0 → Single j)

structure Local (tasks : Tasks) (id left : Nat) (e : Effect) : Prop where
  rows : ∀ k, k ≠ id → e.tasks.get? k = tasks.get? k
  next : ∀ j ∈ e.next, Follows id left j
  refunds : ∀ r ∈ e.refunds, r.1 = id

variable {tasks : Tasks} {id left : Nat}

theorem localOf {e : Effect} (rows : e.tasks = tasks ∨ ∃ f, e.tasks = tasks.modify id f)
    (next : ∀ j ∈ e.next, Follows id left j) (refunds : ∀ r ∈ e.refunds, r.1 = id) : Local tasks id left e := by
  refine ⟨?_,next,refunds⟩
  intro k other
  obtain same | ⟨f,changed⟩ := rows
  · rw [same]
  · rw [changed,Table.getModifyOther _ other]

theorem localQuiet {next} (own : ∀ j ∈ next, Follows id left j) : Local tasks id left ⟨tasks,next,[]⟩ :=
  localOf (.inl rfl) own (fun _ nothing => absurd nothing not_mem_nil)

theorem followsNone : ∀ j ∈ ([] : List TaskJob), Follows id left j := fun _ nothing => absurd nothing not_mem_nil

theorem followsOne {job} (own : Follows id left job) : ∀ j ∈ [job], Follows id left j := by
  intro j mem
  cases mem_singleton.mp mem
  exact own

theorem againFollows {task} : ∀ j ∈ again id task left, Follows id left j := by
  cases left with
  | zero => exact followsNone
  | succ => exact followsOne ⟨rfl,fun zero => by cases zero⟩

theorem billedFollows {task} : ∀ j ∈ billed id task left, Follows id left j := by
  unfold billed
  split
  · exact followsOne ⟨rfl,fun zero => zero⟩
  split
  · intro j mem
    obtain rfl | later := mem_cons.mp mem
    · exact ⟨rfl,fun _ => rfl⟩
    · exact againFollows j later
  · exact againFollows

theorem writtenRows {fault : Bool} {f : Task → Task} :
    (if fault then tasks else tasks.modify id f) = tasks ∨ ∃ g, (if fault then tasks else tasks.modify id f) = tasks.modify id g := by
  cases fault with
  | true => exact .inl rfl
  | false => exact .inr ⟨f,rfl⟩

theorem attemptRows (tasks id task fromStatus fault) :
    (attempt tasks id task fromStatus fault).1 = tasks ∨ ∃ f, (attempt tasks id task fromStatus fault).1 = tasks.modify id f := by
  obtain lost | ⟨_,_,_,_,won⟩ := attemptCases tasks id task fromStatus fault
  · exact .inl (by rw [lost])
  · exact .inr ⟨_,by rw [won]⟩

theorem sweepLocal (minutes tasks id task now fault) : Local tasks id 0 (sweepTask minutes tasks id task now fault) := by
  refine localOf (attemptRows tasks id _ _ fault) ?_ (fun _ nothing => absurd nothing not_mem_nil)
  unfold sweepTask
  dsimp only
  split
  · exact followsOne ⟨rfl,fun _ => rfl⟩
  · exact followsNone

theorem singleLocal (tasks id task updated left fault) : Local tasks id left (updateVideoSingleTask tasks id task updated left fault) := by
  unfold updateVideoSingleTask
  split
  · refine localOf (attemptRows tasks id _ _ fault) ?_ (fun _ nothing => absurd nothing not_mem_nil)
    dsimp only
    split
    · exact billedFollows
    · exact againFollows
  · refine localOf ?_ billedFollows (fun _ nothing => absurd nothing not_mem_nil)
    dsimp only
    split
    · exact .inl rfl
    · exact attemptRows tasks id _ _ fault

theorem videoLocal (tasks id task left now fault reply) : Local tasks id left (handleVideo tasks id task left now fault reply) := by
  unfold handleVideo
  split
  · exact localOf writtenRows followsNone (fun _ nothing => absurd nothing not_mem_nil)
  · exact localQuiet againFollows
  · split
    · exact localQuiet againFollows
    · split
      · exact localQuiet againFollows
      · exact singleLocal tasks id task _ left fault
  · exact localQuiet againFollows

theorem settleLocal (tasks id task left fault reply) : Local tasks id left (recalculateTaskQuota tasks id task left fault reply) := by
  unfold recalculateTaskQuota
  split
  · split
    · exact localQuiet againFollows
    · exact localQuiet (followsOne ⟨rfl,fun zero => zero⟩)
  · exact localQuiet againFollows

theorem sunoLocal (tasks id task fault reply) : Local tasks id 0 (handleSuno tasks id task fault reply) := by
  unfold handleSuno
  split
  · exact localOf writtenRows followsNone (fun _ nothing => absurd nothing not_mem_nil)
  · refine localQuiet ?_
    split
    · split
      · exact followsOne ⟨rfl,fun _ => rfl⟩
      · exact followsOne ⟨rfl,fun _ => rfl⟩
    · exact followsOne ⟨rfl,fun _ => rfl⟩
  · exact localQuiet followsNone

theorem refundLocal (tasks id task saves fault) : Local tasks id 0 (refundTaskQuota tasks id task saves fault) := by
  unfold refundTaskQuota
  refine localOf (.inl rfl) ?_ ?_
  · dsimp only
    split
    · exact followsOne ⟨rfl,fun _ => rfl⟩
    · exact followsNone
  · intro r mem
    dsimp only at mem
    split at mem
    · exact absurd mem not_mem_nil
    · cases mem_singleton.mp mem
      rfl

theorem effectLocal (minutes tasks reply now fault job) :
    Local tasks job.taskId (TaskJob.left job) (effect minutes tasks reply now fault job) := by
  cases job with
  | sweep id task started => exact sweepLocal minutes tasks id task started fault
  | failNull => exact localOf writtenRows followsNone (fun _ nothing => absurd nothing not_mem_nil)
  | video id task left => exact videoLocal tasks id task left now fault reply
  | settle id task left => exact settleLocal tasks id task left fault reply
  | updateQuota => exact localOf writtenRows againFollows (fun _ nothing => absurd nothing not_mem_nil)
  | suno id task => exact sunoLocal tasks id task fault reply
  | refund id task saves => exact refundLocal tasks id task saves fault
  | save => exact localOf writtenRows (followsOne ⟨rfl,fun _ => rfl⟩) (fun _ nothing => absurd nothing not_mem_nil)

end NovaPuraRouter.TaskSpec
