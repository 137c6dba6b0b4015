import GpuScheduler.Basic
/-
# The data model: jobs, tenants, GPUs, nodes and allocations

One structure per type of `pkg/models`, with the fields the modelled functions read or write
(`MODEL_MAP.json` lists the rest and why they are left out), and the methods those functions call:
`GPU.IsAvailable`, `Node.HasCapacity`, `Tenant.HasAvailableQuota`, `Tenant.UpdateUsage`.

The states are the Go string constants; nothing in the modelled code writes any other string.
-/

namespace GpuScheduler

/-- The `JobState` constants of `models/job.go`. -/
inductive JobState where
  | pending
  | running
  | completed
  | failed
  | preempted
  | cancelled
  deriving DecidableEq, Repr, Inhabited

/-- The `AllocationState` constants of `models/allocation.go`. -/
inductive AllocationState where
  | pending
  | active
  | preempted
  | checkpointed
  | migrating
  | completed
  | failed
  deriving DecidableEq, Repr, Inhabited

/-- The `GPUHealth` constants of `models/gpu.go`. -/
inductive GPUHealth where
  | healthy
  | warning
  | degraded
  | unhealthy
  deriving DecidableEq, Repr, Inhabited

/-- A job, as stored and as queued (`models.Job`). -/
structure Job where
  id : String
  tenantID : String
  state : JobState
  priority : BitVec 64
  gpuCount : BitVec 64
  gpuMemoryMB : BitVec 64
  cpuCores : BitVec 64
  memoryMB : BitVec 64
  gangScheduling : Bool
  submittedAt : Int
  preemptedCount : BitVec 64
  deriving DecidableEq, Repr, Inhabited

/-- A tenant with its quota ceilings and current usage (`models.Tenant`). -/
structure Tenant where
  id : String
  maxGPUs : BitVec 64
  maxGPUMemoryMB : BitVec 64
  maxCPUCores : BitVec 64
  maxMemoryMB : BitVec 64
  maxConcurrentJobs : BitVec 64
  currentGPUs : BitVec 64
  currentGPUMemory : BitVec 64
  currentCPUCores : BitVec 64
  currentMemory : BitVec 64
  currentJobs : BitVec 64
  allowPreemption : Bool
  deriving DecidableEq, Repr, Inhabited

/-- A physical GPU and its allocation pointer (`models.GPU`). -/
structure GPU where
  id : String
  nodeID : String
  allocated : Bool
  allocationID : String
  jobID : String
  tenantID : String
  coolingPeriod : Int
  thermalThrottle : Bool
  health : GPUHealth
  deriving DecidableEq, Repr, Inhabited

/-- A node and its availability counters (`models.Node`). -/
structure Node where
  id : String
  totalGPUs : BitVec 64
  availableGPUs : BitVec 64
  totalCPUCores : BitVec 64
  availableCPUCores : BitVec 64
  totalMemoryMB : BitVec 64
  availableMemoryMB : BitVec 64
  online : Bool
  schedulable : Bool
  drainingMode : Bool
  deriving DecidableEq, Repr, Inhabited

/-- A resource allocation (`models.Allocation`). -/
structure Allocation where
  id : String
  jobID : String
  tenantID : String
  state : AllocationState
  gpuIDs : List String
  nodeID : String
  cpuCores : BitVec 64
  memoryMB : BitVec 64
  preemptedBy : String
  deriving DecidableEq, Repr, Inhabited

/-- What the scheduler asks the allocator for (`models.AllocationRequest`). -/
structure AllocationRequest where
  jobID : String
  tenantID : String
  gpuCount : BitVec 64
  gpuMemoryMB : BitVec 64
  cpuCores : BitVec 64
  memoryMB : BitVec 64
  gangScheduling : Bool
  deriving DecidableEq, Repr, Inhabited

/-- The answer of a successful allocation (`models.AllocationResult`). -/
structure AllocationResult where
  success : Bool
  allocationID : String
  gpuIDs : List String
  nodeID : String
  deriving DecidableEq, Repr, Inhabited

/-! ## The methods -/

/-- Go's `GPU.IsAvailable`, at the instant `now` that `time.Since` reads. -/
def GPU.isAvailable (g : GPU) (now : Int) : Bool :=
  !g.allocated && g.health == .healthy && !g.thermalThrottle && decide (0 < Time.sub now g.coolingPeriod)

/-- Go's `Node.HasCapacity`. -/
def Node.hasCapacity (n : Node) (gpus cpus memoryMB : BitVec 64) : Bool :=
  n.online && n.schedulable && !n.drainingMode && gpus.sle n.availableGPUs &&
    cpus.sle n.availableCPUCores && memoryMB.sle n.availableMemoryMB

/-- Go's `Tenant.HasAvailableQuota`. -/
def Tenant.hasAvailableQuota (t : Tenant) (gpus gpuMemory cpus memory : BitVec 64) : Bool :=
  (t.currentGPUs + gpus).sle t.maxGPUs && (t.currentGPUMemory + gpuMemory).sle t.maxGPUMemoryMB &&
    (t.currentCPUCores + cpus).sle t.maxCPUCores && (t.currentMemory + memory).sle t.maxMemoryMB &&
    (t.currentJobs + 1).sle t.maxConcurrentJobs

/-- Go's `Tenant.UpdateUsage`. -/
def Tenant.updateUsage (t : Tenant) (gpuDelta gpuMemDelta cpuDelta memDelta jobDelta : BitVec 64) :
    Tenant :=
  { t with
    currentGPUs := t.currentGPUs + gpuDelta
    currentGPUMemory := t.currentGPUMemory + gpuMemDelta
    currentCPUCores := t.currentCPUCores + cpuDelta
    currentMemory := t.currentMemory + memDelta
    currentJobs := t.currentJobs + jobDelta }

end GpuScheduler
