import GpuScheduler.Core.Allocator
/-
# The preemptor (`core.Preemptor`)

`SelectVictims` lists the running jobs, keeps those of lower priority whose tenant allows
preemption, and picks the one of lowest priority below the constant `999999`.  `Preempt` writes
the victim as `Preempted`, then marks EVERY allocation of the victim `Preempted` and gives its
GPUs and node capacity back, re-reading each GPU and node.
-/

namespace GpuScheduler

namespace Preemptor

open Prog (lift)

/-- The candidate loop of `SelectVictims`: lower priority, and a tenant that can be read and
allows preemption. -/
def candidatesLoop (requestingJob : Job) : List Job → Prog (List Job)
  | [] => pure []
  | job :: jobs => do
    if job.priority.slt requestingJob.priority then
      match ← lift (.getTenant job.tenantID) with
      | .error _ => candidatesLoop requestingJob jobs
      | .ok tenant =>
        let rest ← candidatesLoop requestingJob jobs
        return if tenant.allowPreemption then job :: rest else rest
    else candidatesLoop requestingJob jobs

/-- The victim loop of `SelectVictims`: the first candidate of least priority below the
starting bound. -/
def lowestLoop : List Job → BitVec 64 → Option Job → Option Job
  | [], _, victim => victim
  | candidate :: candidates, lowestPriority, victim =>
    if candidate.priority.slt lowestPriority then
      lowestLoop candidates candidate.priority (some candidate)
    else lowestLoop candidates lowestPriority victim

/-- Go's `SelectVictims(requestingJob)`; `nil` is the empty list. -/
def selectVictims (requestingJob : Job) : Prog (Except Err (List Job)) := do
  match ← lift (.listJobsByState .running) with
  | .error e => return .error e
  | .ok runningJobs =>
  let candidates ← candidatesLoop requestingJob runningJobs
  if candidates.isEmpty then return .ok []
  match lowestLoop candidates 999999 none with
  | some victim => return .ok [victim]
  | none => return .ok []

/-- The allocation loop of `Preempt` (failed writes and missing nodes are only logged). -/
def preemptAllocations (preemptorID : String) : List Allocation → Prog Unit
  | [] => pure ()
  | alloc :: allocs => do
    let alloc := { alloc with state := .preempted, preemptedBy := preemptorID }
    let _ ← lift (.updateAllocation alloc)
    Allocator.releaseGPUs alloc.gpuIDs
    match ← lift (.getNode alloc.nodeID) with
    | .error _ => preemptAllocations preemptorID allocs
    | .ok node =>
    let _ ← lift (.updateNode (node.restore alloc))
    preemptAllocations preemptorID allocs

/-- Go's `Preempt(victim, preemptorID)`. -/
def preempt (victim : Job) (preemptorID : String) : Prog (Except Err Unit) := do
  let victim := { victim with state := .preempted, preemptedCount := victim.preemptedCount + 1 }
  match ← lift (.updateJob victim) with
  | .error e => return .error (.wrap "failed to update victim job" e)
  | .ok () =>
  match ← lift (.getJobAllocations victim.id) with
  | .error e => return .error e
  | .ok allocations =>
  preemptAllocations preemptorID allocations
  return .ok ()

end Preemptor

end GpuScheduler
