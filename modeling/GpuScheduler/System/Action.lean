import GpuScheduler.Spec.Scheduler
/-
# The scheduler as a transition system on the store and the queue

Every sequential run of the scheduler is a sequence of seven kinds of transitions of the pair
(store, queue), each the whole effect of one step of the code:

* `create`: `SubmitJob` stores the job as Pending under an id no stored job has;
* `enqueue`: a stored Pending job enters the queue (`SubmitJob`, `loadPendingJobs`);
* `cancelPending`, `cancelRunning`: the two accepted cases of `CancelJob`;
* `start`: one successful iteration of the cycle: commit an allocation for the job at the head
  of the queue, dequeue it, run `startJob`;
* `preempt`: `Preempt` of a Running victim;
* `age`: the cycle's `ApplyAging`.

`System/Run.lean` proves that the programs make only these transitions; the invariant modules
prove what each transition keeps.
-/

namespace GpuScheduler

/-- The store-level transitions of the scheduler. -/
inductive Action : Store × Queue → Store × Queue → Prop where
  | create {s : Store} {q : Queue} (job : Job) (fresh : ∀ j ∈ s.jobs, j.id ≠ job.id)
      (pending : job.state = .pending) :
      Action (s, q) ({ s with jobs := s.jobs ++ [job] }, q)
  | enqueue {s : Store} {q q' : Queue} (job : Job) (now : Int) (stored : job ∈ s.jobs)
      (pending : job.state = .pending) (accepted : q.enqueue job now = .ok q') :
      Action (s, q) (s, q')
  | cancelPending {s : Store} {q : Queue} (job : Job) (stored : job ∈ s.jobs)
      (pending : job.state = .pending) :
      Action (s, q) (s.updateJob { job with state := .cancelled }, (q.remove job.id).2)
  | cancelRunning {s : Store} {q : Queue} (job : Job) (stored : job ∈ s.jobs)
      (running : job.state = .running) :
      Action (s, q) ((s.freeJobResources { job with state := .cancelled }).updateJob
        { job with state := .cancelled }, q)
  | start {s : Store} {q : Queue} (job : Job) (a : Allocation) (head : q.peek = some job)
      (fits : s.Fits a) (owner : a.jobID = job.id) :
      Action (s, q) ((s.commit a).startJob job, q.dequeue.2)
  | preempt {s : Store} {q : Queue} (victim : Job) (preemptorID : String) (stored : victim ∈ s.jobs)
      (running : victim.state = .running) :
      Action (s, q) (s.preempt victim preemptorID, q)
  | age {s : Store} {q : Queue} (agingFactor : BitVec 64) (ageThreshold now : Int) :
      Action (s, q) (s, q.applyAging agingFactor ageThreshold now)

/-- The pairs reachable by transitions. -/
def Reach : Store × Queue → Store × Queue → Prop := Relation.ReflTransGen Action

/-- The transitions of the cycle's loop: `start`, and `preempt` when `preemption` is on. -/
def CycleAction (preemption : Bool) (st st' : Store × Queue) : Prop :=
  (∃ job a, st.2.peek = some job ∧ st.1.Fits a ∧ a.jobID = job.id ∧
    st' = ((st.1.commit a).startJob job, st.2.dequeue.2)) ∨
  preemption = true ∧ ∃ victim ∈ st.1.jobs, ∃ preemptorID, victim.state = .running ∧
    st' = (st.1.preempt victim preemptorID, st.2)

theorem CycleAction.action {preemption : Bool} {st st' : Store × Queue}
    (h : CycleAction preemption st st') : Action st st' := by
  rcases h with ⟨job, a, hp, hf, ho, rfl⟩ | ⟨-, v, hv, preemptorID, hr, rfl⟩
  · exact .start job a hp hf ho
  · exact .preempt v preemptorID hv hr

/-- The pair a world holds. -/
def World.state (w : World) : Store × Queue := (w.store, w.queue)

@[simp] theorem World.state_fst (w : World) : w.state.1 = w.store := rfl
@[simp] theorem World.state_snd (w : World) : w.state.2 = w.queue := rfl

/-! ## Unique keys survive every transition -/

theorem Action.keys {st st' : Store × Queue} (h : Action st st') (hk : st.1.Keys) : st'.1.Keys := by
  cases h with
  | create job fresh =>
    exact { hk with jobs := Table.keys_create hk.jobs fun j hj => by simpa using fresh j hj }
  | enqueue | age => exact hk
  | cancelPending job => exact hk.updateJob _
  | cancelRunning job =>
    exact ((hk.releaseAll _ _).charge _ _ _ _ _ _).updateJob _
  | start job a _ fits => exact ((hk.commit fits.fresh).updateJob _).charge _ _ _ _ _ _
  | preempt victim => exact (hk.updateJob _).releaseAll _ _

theorem Reach.keys {st st' : Store × Queue} (h : Reach st st') (hk : st.1.Keys) : st'.1.Keys := by
  induction h with
  | refl => exact hk
  | tail _ ha ih => exact ha.keys ih

end GpuScheduler
