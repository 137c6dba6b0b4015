import GpuScheduler.Core.Preemptor
/-
# The scheduler (`core.Scheduler`)

The request paths `SubmitJob`, `CancelJob` and `GetJobStatus`, the start-up replay
`loadPendingJobs`, and one `schedulingCycle`: age the queue, then, while the queue is not empty,
peek at its head, try to allocate for it, and on success dequeue and start it; on a resource
error with preemption enabled, preempt a victim and retry the same head.

The `for !s.queue.IsEmpty()` loop of `schedulingCycle` carries an explicit fuel: a run with
fuel `n` is the cycle cut after `n` iterations, and every complete cycle is a run with enough
fuel.  Logging, metrics counters and the fields only logs read (`CompletedAt`, `StartedAt`, ...)
are left out (`MODEL_MAP.json`).
-/

namespace GpuScheduler

/-- The fields of `utils.SchedulerConfig` the scheduler reads. -/
structure SchedulerConfig where
  maxQueueSize : Int
  enablePreemption : Bool

/-- The string value of a `JobState` constant. -/
def JobState.name : JobState → String
  | .pending => "pending"
  | .running => "running"
  | .completed => "completed"
  | .failed => "failed"
  | .preempted => "preempted"
  | .cancelled => "cancelled"

/-- What `GetJobStatus` reports (`models.JobStatus`, without the fields it never sets). -/
structure JobStatus where
  jobID : String
  state : JobState
  allocatedGPUs : List String
  nodeName : String
  queuePosition : Int
  estimatedWait : Int
  deriving DecidableEq, Repr

namespace Scheduler

open Prog (lift)

/-- Go's `validateJob`. -/
def validateJob (job : Job) : Except Err Unit :=
  if job.gpuCount.sle 0 then .error (.text "GPU count must be positive")
  else if (8 : BitVec 64).slt job.gpuCount then .error (.text "GPU count cannot exceed 8")
  else if job.tenantID = "" then .error (.text "tenant ID is required")
  else .ok ()

/-- Go's `SubmitJob(job)`. -/
def submitJob (job : Job) : Prog (Except Err Unit) := do
  match validateJob job with
  | .error e => return .error (.wrap "job validation failed" e)
  | .ok () =>
  match ← lift (.getTenant job.tenantID) with
  | .error e => return .error (.wrap "failed to get tenant" e)
  | .ok tenant =>
  if !tenant.hasAvailableQuota job.gpuCount job.gpuMemoryMB job.cpuCores job.memoryMB then
    return .error (.quotaExceeded tenant.id "GPUs" job.gpuCount tenant.maxGPUs tenant.currentGPUs)
  let submittedAt ← lift .now
  let job := { job with state := .pending, submittedAt }
  match ← lift (.createJob job) with
  | .error e => return .error (.wrap "failed to create job" e)
  | .ok () =>
  match ← lift (.enqueue job) with
  | .error e => return .error (.wrap "failed to enqueue job" e)
  | .ok () => return .ok ()

/-- The allocation loop of `freeJobResources` (a failed `Free` is only logged). -/
def freeAll : List Allocation → Prog Unit
  | [] => pure ()
  | alloc :: allocs => do
    let _ ← Allocator.free alloc.id
    freeAll allocs

/-- Go's `freeJobResources(job)`. -/
def freeJobResources (job : Job) : Prog (Except Err Unit) := do
  match ← lift (.getJobAllocations job.id) with
  | .error e => return .error e
  | .ok allocations =>
  freeAll allocations
  match ← lift (.getTenant job.tenantID) with
  | .error e => return .error e
  | .ok tenant =>
  lift (.updateTenant
    (tenant.updateUsage (-job.gpuCount) (-job.gpuMemoryMB) (-job.cpuCores) (-job.memoryMB) (-1)))

/-- Go's `CancelJob(jobID)`; the `UpdateJob` after the `switch` ends both accepted cases. -/
def cancelJob (jobID : String) : Prog (Except Err Unit) := do
  match ← lift (.getJob jobID) with
  | .error e => return .error e
  | .ok job =>
  match job.state with
  | .pending =>
    let _ ← lift (.remove jobID)
    lift (.updateJob { job with state := .cancelled })
  | .running =>
    let job := { job with state := .cancelled }
    let _ ← freeJobResources job
    lift (.updateJob job)
  | state => return .error (.text ("cannot cancel job in state: " ++ state.name))

/-- Go's `estimateWaitTime(job)`: five minutes per job ahead, in Go's wrapping `Duration`. -/
def estimateWaitTime (job : Job) : Prog Int := do
  let position ← lift (.getPosition job.id)
  if position ≤ 0 then return 0
  return (BitVec.ofInt 64 (position - 1) * 5 * BitVec.ofInt 64 minute).toInt

/-- Go's `GetJobStatus(jobID)`. -/
def getJobStatus (jobID : String) : Prog (Except Err JobStatus) := do
  match ← lift (.getJob jobID) with
  | .error e => return .error e
  | .ok job =>
  let (queuePosition, estimatedWait) ← if job.state = .pending then do
      let position ← lift (.getPosition jobID)
      let wait ← estimateWaitTime job
      pure (position, wait)
    else pure (0, 0)
  let (allocatedGPUs, nodeName) ← if job.state = .running then do
      match ← lift (.getJobAllocations jobID) with
      | .ok (allocation :: _) => pure (allocation.gpuIDs, allocation.nodeID)
      | _ => pure ([], "")
    else pure ([], "")
  let status : JobStatus :=
    { jobID := job.id, state := job.state, allocatedGPUs, nodeName, queuePosition, estimatedWait }
  return .ok status

/-- Go's `tryAllocateJob(job)`. -/
def tryAllocateJob (job : Job) : Prog (Except Err Bool) := do
  let request : AllocationRequest :=
    { jobID := job.id, tenantID := job.tenantID, gpuCount := job.gpuCount,
      gpuMemoryMB := job.gpuMemoryMB, cpuCores := job.cpuCores, memoryMB := job.memoryMB,
      gangScheduling := job.gangScheduling }
  match ← Allocator.allocate request with
  | .error e => return .error e
  | .ok result => return .ok result.success

/-- Go's `startJob(job)`. -/
def startJob (job : Job) : Prog (Except Err Unit) := do
  let job := { job with state := .running }
  match ← lift (.updateJob job) with
  | .error e => return .error e
  | .ok () =>
  match ← lift (.getTenant job.tenantID) with
  | .error e => return .error e
  | .ok tenant =>
  lift (.updateTenant
    (tenant.updateUsage job.gpuCount job.gpuMemoryMB job.cpuCores job.memoryMB 1))

/-- The victim loop of `tryPreemption`: stop at the first failed `Preempt`. -/
def preemptAll (preemptorID : String) : List Job → Prog Bool
  | [] => pure true
  | victim :: victims => do
    match ← Preemptor.preempt victim preemptorID with
    | .error _ => return false
    | .ok () => preemptAll preemptorID victims

/-- Go's `tryPreemption(job)`. -/
def tryPreemption (config : SchedulerConfig) (job : Job) : Prog Bool := do
  if !config.enablePreemption then return false
  match ← Preemptor.selectVictims job with
  | .error _ => return false
  | .ok [] => return false
  | .ok victims => preemptAll job.id victims

/-- The `for !s.queue.IsEmpty()` loop of `schedulingCycle`, cut after `fuel` iterations. -/
def cycleLoop (config : SchedulerConfig) : Nat → Prog Unit
  | 0 => pure ()
  | fuel + 1 => do
    let size ← lift .size
    if size = 0 then return ()
    match ← lift .peek with
    | none => return ()
    | some job =>
    match ← tryAllocateJob job with
    | .error e =>
      if config.enablePreemption && isResourceError e then
        if ← tryPreemption config job then cycleLoop config fuel else return ()
      else return ()
    | .ok allocated =>
      if allocated then
        let _ ← lift .dequeue
        let _ ← startJob job
        cycleLoop config fuel
      else return ()

/-- Go's `schedulingCycle`: aging with factor `10` past five minutes, then the loop. -/
def schedulingCycle (config : SchedulerConfig) (fuel : Nat) : Prog (Except Err Unit) := do
  lift (.applyAging 10 (5 * minute))
  cycleLoop config fuel
  return .ok ()

/-- The loop of `loadPendingJobs` (a refused `Enqueue` is only logged). -/
def enqueueAll : List Job → Prog Unit
  | [] => pure ()
  | job :: jobs => do
    let _ ← lift (.enqueue job)
    enqueueAll jobs

/-- Go's `loadPendingJobs`. -/
def loadPendingJobs : Prog (Except Err Unit) := do
  match ← lift (.listJobsByState .pending) with
  | .error e => return .error e
  | .ok jobs =>
  enqueueAll jobs
  return .ok ()

end Scheduler

end GpuScheduler
