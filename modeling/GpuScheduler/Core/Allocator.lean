import GpuScheduler.Prog
/-
# The allocator (`core.Allocator`)

`Allocate` lists the online nodes, keeps those with capacity for the request, and hands them to
`gangSchedule` or to `bestFitSchedule`; both end in `createAllocation`, which writes the
allocation, then each GPU, then the node.  `Free` undoes the three writes in the same order,
re-reading each GPU and the node.

Each `for` loop of the source is a structural recursion over the list it ranges over.  The
calls `IsAvailable` makes to `time.Now()` are calls here too, so the clock sees them.  Go's
slice expression `availGPUs[:request.GPUCount]` panics on a negative count, and so does
`bestFitLoop`.

`Allocate` returns a result AND an error; its caller reads the result only when the error is
`nil`, so the model returns `Except Err AllocationResult`.
-/

namespace GpuScheduler

/-- The node after `Free` or `Preempt` gives back what `allocation` held on it. -/
def Node.restore (node : Node) (allocation : Allocation) : Node :=
  { node with
    availableGPUs := node.availableGPUs + BitVec.ofNat 64 allocation.gpuIDs.length
    availableCPUCores := node.availableCPUCores + allocation.cpuCores
    availableMemoryMB := node.availableMemoryMB + allocation.memoryMB }

namespace Allocator

open Prog (lift)

/-- Go's `generateAllocationID`: `"alloc-"` and the instant in nanoseconds. -/
def generateAllocationID : Prog String := do
  let now ← lift .now
  return "alloc-" ++ toString now

/-- The GPU loop of `createAllocation`: bind each GPU to the allocation (a failed write is only
logged). -/
def markGPUs (allocation : Allocation) (request : AllocationRequest) : List GPU → Prog Unit
  | [] => pure ()
  | gpu :: gpus => do
    let _ ← lift (.updateGPU { gpu with
      allocated := true, allocationID := allocation.id, jobID := request.jobID,
      tenantID := request.tenantID })
    markGPUs allocation request gpus

/-- The record `createAllocation` builds (without its timestamps and planned duration). -/
def newAllocation (request : AllocationRequest) (node : Node) (gpuIDs : List String) (id : String) :
    Allocation :=
  { id, jobID := request.jobID, tenantID := request.tenantID, state := .active, gpuIDs,
    nodeID := node.id, cpuCores := request.cpuCores, memoryMB := request.memoryMB,
    preemptedBy := "" }

/-- Go's `createAllocation`. -/
def createAllocation (request : AllocationRequest) (node : Node) (gpus : List GPU) :
    Prog (Except Err AllocationResult) := do
  let gpuIDs := gpus.map (·.id)
  let id ← generateAllocationID
  let allocation := newAllocation request node gpuIDs id
  match ← lift (.createAllocation allocation) with
  | .error e => return .error (.wrap "failed to create allocation" e)
  | .ok () =>
  markGPUs allocation request gpus
  let node := { node with
    availableGPUs := node.availableGPUs - BitVec.ofNat 64 gpus.length
    availableCPUCores := node.availableCPUCores - request.cpuCores
    availableMemoryMB := node.availableMemoryMB - request.memoryMB }
  let _ ← lift (.updateNode node)
  return .ok { success := true, allocationID := allocation.id, gpuIDs, nodeID := node.id }

/-- The `IsAvailable` filter of `bestFitSchedule`; each test reads the clock. -/
def availableGPUs : List GPU → Prog (List GPU)
  | [] => pure []
  | gpu :: gpus => do
    let now ← lift .now
    let rest ← availableGPUs gpus
    return if gpu.isAvailable now then gpu :: rest else rest

/-- The node loop of `bestFitSchedule`: the least waste so far, and the node and GPUs that
have it. -/
def bestFitLoop (request : AllocationRequest) :
    List Node → BitVec 64 → Option (Node × List GPU) → Prog (Option (Node × List GPU))
  | [], _, best => pure best
  | node :: nodes, minWaste, best => do
    match ← lift (.listGPUsByNode node.id) with
    | .error _ => bestFitLoop request nodes minWaste best
    | .ok gpus =>
    let availGPUs ← availableGPUs gpus
    if request.gpuCount.sle (BitVec.ofNat 64 availGPUs.length) then
      let waste := BitVec.ofNat 64 availGPUs.length - request.gpuCount
      if waste.slt minWaste then
        if request.gpuCount.slt 0 then Prog.panic "slice bounds out of range"
        else bestFitLoop request nodes waste (some (node, availGPUs.take request.gpuCount.toNat))
      else bestFitLoop request nodes minWaste best
    else bestFitLoop request nodes minWaste best

/-- Go's `bestFitSchedule`. -/
def bestFitSchedule (request : AllocationRequest) (nodes : List Node) :
    Prog (Except Err AllocationResult) := do
  match ← bestFitLoop request nodes 999999 none with
  | none => return .error (.sentinel .insufficientResources)
  | some (bestNode, bestGPUs) => createAllocation request bestNode bestGPUs

/-- The inner loop of `gangSchedule`: collect available GPUs until there are `gpuCount`. -/
def collectGPUs (gpuCount : BitVec 64) : List GPU → List GPU → Prog (List GPU)
  | [], availGPUs => pure availGPUs
  | gpu :: gpus, availGPUs => do
    let now ← lift .now
    if gpu.isAvailable now then
      if BitVec.ofNat 64 (availGPUs ++ [gpu]).length = gpuCount then return availGPUs ++ [gpu]
      else collectGPUs gpuCount gpus (availGPUs ++ [gpu])
    else collectGPUs gpuCount gpus availGPUs

/-- Go's `gangSchedule`: the first node with enough free GPUs. -/
def gangSchedule (request : AllocationRequest) : List Node → Prog (Except Err AllocationResult)
  | [] => return .error (.sentinel .gangSchedulingFailed)
  | node :: nodes => do
    if request.gpuCount.sle node.availableGPUs then
      match ← lift (.listGPUsByNode node.id) with
      | .error _ => gangSchedule request nodes
      | .ok gpus =>
      let availGPUs ← collectGPUs request.gpuCount gpus []
      if BitVec.ofNat 64 availGPUs.length = request.gpuCount then
        createAllocation request node availGPUs
      else gangSchedule request nodes
    else gangSchedule request nodes

/-- Go's `Allocate`. -/
def allocate (request : AllocationRequest) : Prog (Except Err AllocationResult) := do
  match ← lift .listNodes with
  | .error e => return .error (.wrap "failed to list nodes" e)
  | .ok nodes =>
  let availableNodes :=
    nodes.filter (·.hasCapacity request.gpuCount request.cpuCores request.memoryMB)
  if availableNodes.isEmpty then return .error (.sentinel .insufficientResources)
  if request.gangScheduling then gangSchedule request availableNodes
  else bestFitSchedule request availableNodes

/-- The GPU loop of `Free` and of `Preempt`: unbind each GPU that can be read (a failed write
is only logged). -/
def releaseGPUs : List String → Prog Unit
  | [] => pure ()
  | gpuID :: gpuIDs => do
    match ← lift (.getGPU gpuID) with
    | .error _ => releaseGPUs gpuIDs
    | .ok gpu =>
    let _ ← lift (.updateGPU { gpu with
      allocated := false, allocationID := "", jobID := "", tenantID := "" })
    releaseGPUs gpuIDs

/-- Go's `Free(allocationID)`. -/
def free (allocationID : String) : Prog (Except Err Unit) := do
  match ← lift (.getAllocation allocationID) with
  | .error e => return .error e
  | .ok allocation =>
  let allocation := { allocation with state := .completed }
  match ← lift (.updateAllocation allocation) with
  | .error e => return .error e
  | .ok () =>
  releaseGPUs allocation.gpuIDs
  match ← lift (.getNode allocation.nodeID) with
  | .error e => return .error e
  | .ok node =>
  lift (.updateNode (node.restore allocation))

end Allocator

end GpuScheduler
