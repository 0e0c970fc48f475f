import NovaPuraRouter.Table
import NovaPuraRouter.Execution
import NovaPuraRouter.JobPool

/-! Asynchronous tasks and the three ways they end: the sweep of timed out tasks, the
pollers of video tasks and those of Suno tasks, on any number of nodes. The first two move a
task by a conditional update and refund afterwards; a Suno poller refunds first and then
saves its copy whole. A poller that finds no channel fails its tasks without a refund. -/
namespace NovaPuraRouter.TaskPolling
open JobPool

-- Other texts come from Suno only.
inductive TaskStatus | notStart | submitted | queued | inProgress | failure | success | unknown | other (text : String)
  deriving DecidableEq, Repr

inductive TaskPlatform | suno | midjourney | video
  deriving DecidableEq, Repr

inductive ResultUrl | unset | proxied | direct (url : String)
  deriving DecidableEq, Repr

structure Task where
  platform : TaskPlatform
  upstreamTaskId : String
  quota : Int
  status : TaskStatus
  failReason : String
  submitTime : Int
  startTime : Int
  finishTime : Int
  progress : String
  resultUrl : ResultUrl
  data : List Char
  deriving DecidableEq, Repr

structure TaskSnapshot where
  status : TaskStatus
  progress : String
  startTime : Int
  finishTime : Int
  failReason : String
  resultUrl : ResultUrl
  data : List Char
  deriving DecidableEq, Repr

def Task.snapshot (t : Task) : TaskSnapshot :=
  ⟨t.status,t.progress,t.startTime,t.finishTime,t.failReason,t.resultUrl,t.data⟩

abbrev Tasks := Table Nat Task

def unfinished (t : Task) : Bool := decide (t.progress ≠ "100%" ∧ t.status ≠ .failure ∧ t.status ≠ .success)

def legacyTaskCutoff : Int := 1740182400

def legacy (t : Task) : Bool := decide (0 < t.submitTime ∧ t.submitTime < legacyTaskCutoff)

def legacyReason : String := "任务超时（旧系统遗留任务，不进行退款，请联系管理员）"

variable (minutes : Nat)

def timeoutReason : String := "任务超时（" ++ toString minutes ++ "分钟）"

def timedOut (task : Task) (now : Int) : Task := { task with
  status := .failure
  progress := "100%"
  finishTime := now
  failReason := if legacy task then legacyReason else timeoutReason minutes }

variable (tasks : Tasks) (id : Nat) (task : Task)

def updateWithStatus (fromStatus : TaskStatus) : Tasks × Bool :=
  if (tasks.get? id).map Task.status = some fromStatus then (tasks.modify id (fun _ => task),true) else (tasks,false)

def attempt (fromStatus : TaskStatus) (fault : Bool) : Tasks × Bool :=
  if fault then (tasks,false) else updateWithStatus tasks id task fromStatus

def bulkFailed (reason : Option String) (t : Task) : Task :=
  { t with status := .failure, progress := "100%", failReason := reason.getD t.failReason }

structure TaskInfo where
  status : TaskStatus
  url : String
  progress : String
  reason : String
  deriving DecidableEq, Repr

def failTaskInfo (reason : String) : TaskInfo := ⟨.failure,"","",reason⟩

inductive VideoAnswer
  | unreadable
  | tooManyRequests
  | errorBody (recognized : Bool)
  | info (taskResult : TaskInfo)
  deriving DecidableEq, Repr

def VideoAnswer.taskResult : VideoAnswer → Option TaskInfo
  | .errorBody true => some (failTaskInfo "upstream returned error")
  | .errorBody false => some (failTaskInfo "upstream returned unrecognized message")
  | .info taskResult => some taskResult
  | _ => none

def resultUrlOf (url : String) : ResultUrl :=
  if url = "" ∨ url.toList.take 5 = "data:".toList then .proxied else .direct url

def orNow (time now : Int) : Int := if time = 0 then now else time

/- The copy after one of the five statuses; any other is an error that leaves the status in the copy. -/
def videoUpdated (r : TaskInfo) (now : Int) : Option Task :=
  let shown (usual : String) : String := if r.progress = "" then usual else r.progress
  match r.status with
  | .submitted => some { task with status := .submitted, progress := shown "10%" }
  | .queued => some { task with status := .queued, progress := shown "20%" }
  | .inProgress => some { task with status := .inProgress, progress := shown "30%", startTime := orNow task.startTime now }
  | .success => some { task with
      status := .success, progress := shown "100%", finishTime := orNow task.finishTime now, resultUrl := resultUrlOf r.url }
  | .failure => some { task with
      status := .failure, progress := "100%", finishTime := orNow task.finishTime now, failReason := r.reason }
  | _ => none

-- No text stands for an empty field.
structure SunoDataResponse where
  status : Option TaskStatus
  failReason : String
  submitTime : Int
  startTime : Int
  finishTime : Int
  data : List Char
  deriving DecidableEq, Repr

variable (item : SunoDataResponse)

-- The data are compared with their bytes sorted.
def taskNeedsUpdate : Bool :=
  decide (task.submitTime ≠ item.submitTime ∨ task.startTime ≠ item.startTime ∨ task.finishTime ≠ item.finishTime ∨
    some task.status ≠ item.status ∨ task.failReason ≠ item.failReason ∨
    (task.status = .failure ∨ task.status = .success) ∧ task.progress ≠ "100%") || !task.data.isPerm item.data

def sunoFails : Bool :=
  decide (item.failReason ≠ "" ∨ item.status.getD task.status = .failure)

def orElse (new old : Int) : Int := if new = 0 then old else new

def sunoUpdated : Task := { task with
  status := item.status.getD task.status
  failReason := if item.failReason = "" then task.failReason else item.failReason
  submitTime := orElse item.submitTime task.submitTime
  startTime := orElse item.startTime task.startTime
  finishTime := orElse item.finishTime task.finishTime
  progress := if sunoFails task item ∨ item.status = some .success then "100%" else task.progress
  data := item.data }

/- A copy of a task and what its goroutine is about to do with it. Two tasks of one upstream id
share a copy in a pass of the video pollers, which then handles it `left` more times. -/
inductive TaskJob
  | sweep (id : Nat) (task : Task) (now : Int)
  | failNull (id : Nat)
  | video (id : Nat) (task : Task) (left : Nat)
  | settle (id : Nat) (task : Task) (left : Nat)
  | updateQuota (id : Nat) (task : Task) (left : Nat)
  | suno (id : Nat) (task : Task)
  | refund (id : Nat) (task : Task) (saves : Bool)
  | save (id : Nat) (task : Task) (refunded : Bool)

def TaskJob.taskId : TaskJob → Nat
  | .sweep id _ _ | .failNull id | .video id _ _ | .settle id _ _ | .updateQuota id _ _ | .suno id _ | .refund id _ _ | .save id _ _ => id

/- What reaches a job from outside: whether there is a channel, what the upstream answers, and
what the adaptor or the tokens make of the quota. -/
inductive Reply
  | nothing
  | channelMissing (channelId : Nat)
  | video (answer : VideoAnswer) (data : List Char)
  | suno (item : SunoDataResponse)
  | actualQuota (quota : Int)

structure Effect where
  tasks : Tasks
  next : List TaskJob
  refunds : List (Nat × Int)

def again : Nat → List TaskJob
  | 0 => []
  | left + 1 => [.video id task left]

def billed (left : Nat) : List TaskJob :=
  if task.status = .success then [.settle id task left]
  else if task.status = .failure ∧ task.quota ≠ 0 then .refund id task false :: again id task left
  else again id task left

-- Only the update that finishes the task is asked whether it was the one.
def updateVideoSingleTask (task updated : Task) (left : Nat) (fault : Bool) : Effect :=
  let written := attempt tasks id updated task.status fault
  if (updated.status = .success ∨ updated.status = .failure) ∧ task.status ≠ updated.status then
    ⟨written.1,if written.2 then billed id updated left else again id updated left,[]⟩
  else ⟨if task.snapshot = updated.snapshot then tasks else written.1,billed id updated left,[]⟩

def handleVideo (left : Nat) (now : Int) (fault : Bool) : Reply → Effect
  | .channelMissing channelId =>
    let reason := "Failed to get channel info, channel ID: " ++ toString channelId
    ⟨if fault then tasks else tasks.modify id (bulkFailed (some reason)),[],[]⟩
  | .video .unreadable _ => ⟨tasks,again id task left,[]⟩
  | .video answer data => match answer.taskResult with
    | none => ⟨tasks,again id { task with data := data } left,[]⟩
    | some r => match videoUpdated { task with data := data } r now with
      | none => ⟨tasks,again id { task with data := data, status := r.status } left,[]⟩
      | some updated => updateVideoSingleTask tasks id task updated left fault
  | _ => ⟨tasks,again id task left,[]⟩

def handleSuno (fault : Bool) : Reply → Effect
  | .channelMissing channelId =>
    let reason := "获取渠道信息失败，请联系管理员，渠道ID：" ++ toString channelId
    ⟨if fault then tasks else tasks.modify id (bulkFailed (some reason)),[],[]⟩
  | .suno item =>
    let updated := sunoUpdated task item
    ⟨tasks,if taskNeedsUpdate task item then
        if sunoFails task item then [.refund id updated true] else [.save id updated false]
      else [.suno id task],[]⟩
  | _ => ⟨tasks,[],[]⟩

def refundTaskQuota (saves fault : Bool) : Effect :=
  ⟨tasks,if saves then [.save id task true] else [],if fault ∨ task.quota = 0 then [] else [(id,task.quota)]⟩

def sweepTask (tasks : Tasks) (id : Nat) (task : Task) (now : Int) (fault : Bool) : Effect :=
  let failed := timedOut minutes task now
  let written := attempt tasks id failed task.status fault
  ⟨written.1,if written.2 ∧ ¬ legacy task ∧ task.quota ≠ 0 then [.refund id failed false] else [],[]⟩

def recalculateTaskQuota (left : Nat) (fault : Bool) : Reply → Effect
  | .actualQuota actualQuota =>
    if actualQuota ≤ 0 ∨ actualQuota = task.quota ∨ fault then ⟨tasks,again id task left,[]⟩
    else ⟨tasks,[.updateQuota id { task with quota := actualQuota } left],[]⟩
  | _ => ⟨tasks,again id task left,[]⟩

def effect (tasks : Tasks) (reply : Reply) (now : Int) (fault : Bool) : TaskJob → Effect
  | .sweep id task started => sweepTask minutes tasks id task started fault
  | .failNull id => ⟨if fault then tasks else tasks.modify id (bulkFailed none),[],[]⟩
  | .video id task left => handleVideo tasks id task left now fault reply
  | .settle id task left => recalculateTaskQuota tasks id task left fault reply
  | .updateQuota id task left =>
      ⟨if fault then tasks else tasks.modify id (fun t => { t with quota := task.quota }),again id task left,[]⟩
  | .suno id task => handleSuno tasks id task fault reply
  | .refund id task saves => refundTaskQuota tasks id task saves fault
  | .save id task _ => ⟨if fault then tasks else tasks.modify id (fun _ => task),[.suno id task],[]⟩

structure TaskSystem where
  tasks : Tasks
  pool : List (List TaskJob)
  refunds : List (Nat × Int)

inductive TaskOp
  | sweep (id : Nat) (now : Int)
  | poll (platform : TaskPlatform) (upstreamTaskId : String) (limit : Nat)
  | step (i : Nat) (reply : Reply) (now : Int) (fault : Bool)
  | crash (i : Nat)

def sweepable (now : Int) (t : Task) : Bool :=
  unfinished t && decide (minutes ≠ 0 ∧ t.submitTime < now - minutes * 60)

/- The unfinished tasks of one upstream id among the first that a pass reads. -/
def polled (platform : TaskPlatform) (upstreamTaskId : String) (limit : Nat) : List (Nat × Task) :=
  (tasks.select (fun _ t => unfinished t && decide (t.platform = platform ∧ t.upstreamTaskId = upstreamTaskId))).take limit

/- The goroutines that handle them: the map of a pass keeps the last task of an upstream id. -/
def dispatched (platform : TaskPlatform) (upstreamTaskId : String) (rows : List (Nat × Task)) : List (List TaskJob) :=
  if upstreamTaskId = "" then rows.map (fun r => [.failNull r.1])
  else match platform, rows.getLast? with
    | .suno, some (id,task) => [[.suno id task]]
    | .video, some (id,task) => [[.video id task (rows.length - 1)]]
    | _, _ => []

def taskStep (sys : TaskSystem) : TaskOp → TaskSystem
  | .sweep id now => match sys.tasks.get? id with
    | some task => if sweepable minutes now task then { sys with pool := sys.pool ++ [[.sweep id task now]] } else sys
    | none => sys
  | .poll platform upstreamTaskId limit =>
    { sys with pool := sys.pool ++ dispatched platform upstreamTaskId (polled sys.tasks platform upstreamTaskId limit) }
  | .step i reply now fault => match next sys.pool i with
    | none => sys
    | some (job,rest) =>
      let done := effect minutes sys.tasks reply now fault job
      ⟨done.tasks,sys.pool.set i (done.next ++ rest),sys.refunds ++ done.refunds⟩
  | .crash i => { sys with pool := sys.pool.set i [] }

end NovaPuraRouter.TaskPolling
