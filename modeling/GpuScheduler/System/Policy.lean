import GpuScheduler.System.Action
/-
# Why each transition is taken

`Action` says what a step of the scheduler does to the store and the queue; `Move` adds why the
code takes it, the guards it checked on the way:

* `create`: `SubmitJob` stores a job only once `validateJob` accepts it (one to eight GPUs, a
  tenant id) and the job's tenant has quota for it;
* `start` (a `CycleMove`): the allocation committed for the head of the queue is one `Allocate`
  `Grants` it, of exactly the GPUs, cores and memory the job asks for;
* `preempt` (a `CycleMove`): the preempted job is a `Victim` `SelectVictims` may name for the
  head: Running, of lower priority, of a tenant that allows preemption.

Every `Move` is an `Action` (`Move.action`), so the invariants proved over `Action` hold over
`Move`; `System/Run.lean` proves that the programs make only these moves, and
`Invariant/Policy.lean` proves what the guards buy over whole runs.
-/

namespace GpuScheduler

/-- The cycle's transitions, each with its reason: `start` an allocation `Allocate` grants the
head of the queue; `preempt`, when preemption is on, a victim of the head. -/
inductive CycleMove (preemption : Bool) : Store × Queue → Store × Queue → Prop where
  | start {s : Store} {q : Queue} (job : Job) (a : Allocation) (head : q.peek = some job)
      (grants : Grants s job a) :
      CycleMove preemption (s, q) ((s.commit a).startJob job, q.dequeue.2)
  | preempt {s : Store} {q : Queue} (enabled : preemption = true) (job v : Job)
      (head : q.peek = some job) (victim : Victim s job v) :
      CycleMove preemption (s, q) (s.preempt v job.id, q)

/-- The transitions of `Action`, each with the guards the code checked before taking it. -/
inductive Move : Store × Queue → Store × Queue → Prop where
  | create {s : Store} {q : Queue} (job : Job) (fresh : ∀ j ∈ s.jobs, j.id ≠ job.id)
      (pending : job.state = .pending) (valid : Scheduler.validateJob job = .ok ())
      (admitted : ∃ t ∈ s.tenants, t.id = job.tenantID ∧
        t.hasAvailableQuota job.gpuCount job.gpuMemoryMB job.cpuCores job.memoryMB = true) :
      Move (s, q) ({ s with jobs := s.jobs ++ [job] }, q)
  | enqueue {s : Store} {q q' : Queue} (job : Job) (now : Int) (stored : job ∈ s.jobs)
      (pending : job.state = .pending) (accepted : q.enqueue job now = .ok q') :
      Move (s, q) (s, q')
  | cancelPending {s : Store} {q : Queue} (job : Job) (stored : job ∈ s.jobs)
      (pending : job.state = .pending) :
      Move (s, q) (s.updateJob { job with state := .cancelled }, (q.remove job.id).2)
  | cancelRunning {s : Store} {q : Queue} (job : Job) (stored : job ∈ s.jobs)
      (running : job.state = .running) :
      Move (s, q) ((s.freeJobResources { job with state := .cancelled }).updateJob
        { job with state := .cancelled }, q)
  | cycle {preemption : Bool} {st st' : Store × Queue} (h : CycleMove preemption st st') :
      Move st st'
  | age {s : Store} {q : Queue} (agingFactor : BitVec 64) (ageThreshold now : Int) :
      Move (s, q) (s, q.applyAging agingFactor ageThreshold now)

/-- A cycle move is a transition of the cycle. -/
theorem CycleMove.cycleAction {preemption : Bool} {st st' : Store × Queue}
    (h : CycleMove preemption st st') : CycleAction preemption st st' := by
  cases h with
  | start job a head grants => exact .inl ⟨job, a, head, grants.fits, grants.owner, rfl⟩
  | preempt enabled job v head victim =>
    exact .inr ⟨enabled, v, victim.stored, job.id, victim.running, rfl⟩

/-- **`Move` refines `Action`**: a move is the transition it takes, its reasons forgotten. -/
theorem Move.action {st st' : Store × Queue} (h : Move st st') : Action st st' := by
  cases h with
  | create job fresh pending => exact .create job fresh pending
  | enqueue job now stored pending accepted => exact .enqueue job now stored pending accepted
  | cancelPending job stored pending => exact .cancelPending job stored pending
  | cancelRunning job stored running => exact .cancelRunning job stored running
  | cycle h => exact h.cycleAction.action
  | age agingFactor ageThreshold now => exact .age agingFactor ageThreshold now

end GpuScheduler
