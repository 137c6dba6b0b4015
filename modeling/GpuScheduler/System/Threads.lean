import GpuScheduler.System.Run
import GpuScheduler.Queue.Refinement
/-
# Interleavings: the scheduler's programs run call by call

Go serves each `SubmitJob` and `CancelJob` request on a goroutine of its own while the cycle runs
on another; the atomic steps are the calls of `Prog` (one repository call, one queue method under
the queue's lock, one reading of the clock).  `Threads.run` runs a list of programs under a
schedule: each entry of the schedule names the thread that makes the next call, and an entry
naming a thread that has ended does nothing.

A schedule that runs each operation alone to its end is a sequential run (`Threads.run_serial`),
and every sequential run is such a schedule (`Run.serial`): the interleavings extend the
sequential runs of `System/Run.lean`.  The three races of section 2 need schedules that are not
serial.
-/

namespace GpuScheduler

/-- One atomic step of a program: its next call made against `w`, and what remains; nothing once
the program has returned or panicked. -/
def Prog.step {α : Type} : Prog α → World → Option (Prog α × World)
  | .call c k, w => some (k (c.exec w).1, (c.exec w).2)
  | _, _ => none

/-- The number of calls of the sequential run of `p` from `w`. -/
def Prog.calls {α : Type} : Prog α → World → Nat
  | .pure _, _ => 0
  | .call c k, w => (k (c.exec w).1).calls (c.exec w).2 + 1
  | .panic _, _ => 0

/-- The threads and the world after `sched`: for each entry `i`, thread `i` makes its next call. -/
def Threads.run : List (Prog (Except Err Unit)) → World → List Nat →
    List (Prog (Except Err Unit)) × World
  | ts, w, [] => (ts, w)
  | ts, w, i :: sched =>
    match ts[i]? with
    | some t =>
      match t.step w with
      | some (t', w') => Threads.run (ts.set i t') w' sched
      | none => Threads.run ts w sched
    | none => Threads.run ts w sched

namespace Threads

/-! ## 1. Schedules -/

/-- Writing back the thread a list holds changes nothing. -/
theorem set_self {α : Type _} : ∀ {l : List α} {i : Nat} {a : α}, l[i]? = some a → l.set i a = l
  | [], _, _, h => by simp at h
  | _ :: _, 0, _, h => by simp only [List.getElem?_cons_zero, Option.some.injEq] at h; simp [h]
  | _ :: _, _ + 1, _, h => by
    simp only [List.getElem?_cons_succ] at h
    simp [set_self h]

theorem run_append (ts : List (Prog (Except Err Unit))) (w : World) (s₁ s₂ : List Nat) :
    run ts w (s₁ ++ s₂) = run (run ts w s₁).1 (run ts w s₁).2 s₂ := by
  induction s₁ generalizing ts w with
  | nil => rfl
  | cons i s₁ ih =>
    simp only [List.cons_append, run]
    split
    · split <;> exact ih _ _
    · exact ih _ _

/-- A schedule of the threads after `t`, shifted past it, leaves `t` alone. -/
theorem run_shift (t : Prog (Except Err Unit)) (ts : List (Prog (Except Err Unit))) (w : World)
    (sched : List Nat) :
    run (t :: ts) w (sched.map (· + 1)) = (t :: (run ts w sched).1, (run ts w sched).2) := by
  induction sched generalizing ts w with
  | nil => rfl
  | cons i sched ih =>
    simp only [List.map_cons, run, List.getElem?_cons_succ]
    split
    · split
      · rw [List.set_cons_succ]
        exact ih _ _
      · exact ih _ _
    · exact ih _ _

/-- **A thread alone.**  Scheduling thread `i` once per call of its sequential run runs it to its
end, with that run's answer and world. -/
theorem run_serial {p : Prog (Except Err Unit)} {w w' : World} {r : Except Err Unit}
    (h : p.run w = some (r, w')) {ts : List (Prog (Except Err Unit))} {i : Nat}
    (hi : ts[i]? = some p) (sched : List Nat) :
    run ts w (List.replicate (p.calls w) i ++ sched) = run (ts.set i (.pure r)) w' sched := by
  induction p generalizing w ts with
  | pure a =>
    obtain ⟨rfl, rfl⟩ := Prod.mk.inj (Option.some.inj h)
    rw [set_self hi]
    rfl
  | call c k ih =>
    obtain ⟨hlt, -⟩ := List.getElem?_eq_some_iff.mp hi
    rw [Prog.calls, List.replicate_succ, List.cons_append, run, hi]
    simp only [Prog.step]
    rw [ih _ h (List.getElem?_set_self (by simpa using hlt)), List.set_set]
  | panic msg => cases h

end Threads

/-- **Every sequential run is a serial interleaving** of its operations' programs: some schedule
runs each to its end in turn, with the run's answers and end. -/
theorem Run.serial {config : SchedulerConfig} {w w' : World} {trace : List (Op × Except Err Unit)}
    (h : Run config w trace w') :
    ∃ sched, Threads.run (trace.map fun p => p.1.prog config) w sched =
      (trace.map fun p => .pure p.2, w') := by
  induction h with
  | nil w => exact ⟨[], rfl⟩
  | @cons w w₁ w'' op r trace hs _ ih =>
    obtain ⟨sched, e⟩ := ih
    refine ⟨List.replicate ((op.prog config).calls w) 0 ++ sched.map (· + 1), ?_⟩
    rw [List.map_cons, Threads.run_serial hs (List.getElem?_cons_zero ..), List.set_cons_zero,
      Threads.run_shift, e]
    rfl

/-! ## 2. Three races

Each is a schedule of the sample cluster (two free GPUs on one node) from the fresh scheduler. -/

/-- The cycle peeks at `j1`, then `SubmitJob(j2)` runs to its end, then the cycle goes on. -/
def dequeueRace : List (Prog (Except Err Unit)) × World :=
  Threads.run [Scheduler.submitJob (sampleJob "j1" 1), Scheduler.schedulingCycle (sampleConfig 10) 3,
    Scheduler.submitJob (sampleJob "j2" 2)] (sampleWorld 4 ["g1", "g2"] 10)
    ([0, 0, 0, 0, 1, 1, 1, 2, 2, 2, 2] ++ List.replicate 100 1)

/-- **`Peek`, then `Dequeue`.**  `j1` is submitted; the cycle peeks at it; `SubmitJob(j2)`, of
higher priority, runs to its end; the cycle allocates for `j1`, and its `Dequeue` removes `j2`,
the head by then.  `j2` is left Pending and out of the queue, and `j1`, still queued though
Running, is allocated a second time by the next iteration. -/
theorem dequeue_race_sample :
    (∃ j ∈ dequeueRace.2.store.jobs, j.id = "j2" ∧ j.state = .pending) ∧
      "j2" ∉ dequeueRace.2.queue.ids ∧ (dequeueRace.2.store.getJobAllocations "j1").length = 2 ∧
      ∀ a ∈ dequeueRace.2.store.getJobAllocations "j1", a.state = .active := by
  decide

/-- The cycle peeks at `j1`, then `CancelJob(j1)` runs to its end. -/
def cancelRace : List (Prog (Except Err Unit)) × World :=
  Threads.run [Scheduler.submitJob (sampleJob "j1" 1), Scheduler.schedulingCycle (sampleConfig 10) 3,
    Scheduler.cancelJob "j1"] (sampleWorld 4 ["g1", "g2"] 10) [0, 0, 0, 0, 1, 1, 1, 2, 2, 2]

/-- **`CancelJob` between `Peek` and `startJob`.**  The cycle peeks at `j1`; `CancelJob(j1)` runs
to its end and writes `j1` Cancelled; the cycle then allocates for the `j1` it peeked at, and
`startJob` writes it Running. -/
theorem cancel_race_sample :
    cancelRace.2.store.jobs.map (·.state) = [.cancelled] ∧
      (Threads.run cancelRace.1 cancelRace.2 (List.replicate 100 1)).2.store.jobs.map (·.state) =
        [.running] := by
  decide

/-- `j0` started; then the second cycle lists the nodes, `CancelJob(j0)` runs to its end, and the
cycle goes on. -/
def nodeRace : List (Prog (Except Err Unit)) × World :=
  Threads.run [Scheduler.submitJob (sampleJob "j0" 1), Scheduler.schedulingCycle (sampleConfig 10) 1,
    Scheduler.submitJob (sampleJob "j1" 1), Scheduler.schedulingCycle (sampleConfig 10) 1,
    Scheduler.cancelJob "j0"] (sampleWorld 4 ["g1", "g2"] 10)
    ([0, 0, 0, 0] ++ List.replicate 40 1 ++ [2, 2, 2, 2, 3, 3, 3, 3] ++ List.replicate 40 4 ++
      List.replicate 40 3)

/-- **A lost node update.**  `j0` runs on one GPU; `j1` is submitted; the next cycle's `Allocate`
lists the node with one GPU available; `CancelJob(j0)` runs to its end and gives the GPU back;
the cycle's `createAllocation` then writes back the node it listed, less one GPU.  The node shows
no GPU available, while the one Active allocation on it holds one of its two. -/
theorem node_race_sample :
    nodeRace.2.store.nodes.map (fun n => (n.totalGPUs, n.availableGPUs)) = [(2, 0)] ∧
      (nodeRace.2.store.allocations.filter (·.state = .active)).map (·.gpuIDs.length) = [1] := by
  decide

end GpuScheduler
