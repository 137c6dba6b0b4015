import GpuScheduler.System.Threads
/-
# The queue is linearizable

Every method of `core.Queue` runs under the queue's lock, and the scheduler reaches its queue
only through those methods.  So whatever goroutines run at once (`SubmitJob` and `CancelJob`
requests, the cycle, the start-up replay) and however their calls interleave, the queue serves
one method at a time: the calls it serves, in the order the lock grants them, each with the
answer its caller receives, form a sequential history of the abstract keyed set of
`Queue/Abstract.lean`, and between any two calls the heap is valid (`queue_linearizable`).

The races of `System/Threads.lean` are therefore not the queue's: in `dequeueRace` every answer
the queue gives is one the abstract queue allows.  What breaks is the cycle's assumption that
the job `Peek` returned is still the head when it calls `Dequeue`, two calls apart.

`Call.queueEvent` reads the queue method a call makes off the call, the world it runs in and
the answer it gets; `Threads.history` collects those events along a schedule.  One call is one
abstract step, or leaves the queue alone (`Call.queue_step`); the schedule is then an induction.
-/

namespace GpuScheduler

/-- The queue method a call makes, with the instant `time.Now()` gives it under the lock, and
the answer its caller receives; `none` for a repository call, a reading of the clock, and
`GetPosition`, which only reads the queue. -/
def Call.queueEvent : {β : Type} → Call β → β → World → Option (QueueOp × QueueOut)
  | _, .enqueue job, r, w =>
    some (.enqueue job w.now, .error (match r with | .ok () => none | .error e => some e))
  | _, .dequeue, r, _ => some (.dequeue, .job r)
  | _, .peek, r, _ => some (.peek, .job r)
  | _, .remove jobID, r, _ => some (.remove jobID, .found r)
  | _, .size, r, _ => some (.size, .count r)
  | _, .applyAging agingFactor ageThreshold, _, w =>
    some (.applyAging agingFactor ageThreshold w.now, .done)
  | _, _, _, _ => none

/-- The queue calls the threads make under `sched`, in the order they are made, each with its
answer. -/
def Threads.history : List (Prog (Except Err Unit)) → World → List Nat → List (QueueOp × QueueOut)
  | _, _, [] => []
  | ts, w, i :: sched =>
    match ts[i]? with
    | some (.call c k) => (c.queueEvent (c.exec w).1 w).toList ++
        Threads.history (ts.set i (k (c.exec w).1)) (c.exec w).2 sched
    | _ => Threads.history ts w sched

@[simp] theorem tryWrite_queue (w : World) (x : Except Err Store) : (tryWrite w x).2.queue = w.queue := by
  cases x <;> rfl

/-- **One call is one step of the abstract queue, or leaves the queue alone**, and keeps the heap
valid. -/
theorem Call.queue_step {β : Type} (c : Call β) {w : World} (hv : w.queue.Valid) :
    (c.exec w).2.queue.Valid ∧ AbsQueue.History (Queue.abs w.queue)
      (c.queueEvent (c.exec w).1 w).toList (Queue.abs (c.exec w).2.queue) := by
  -- a queue method: the abstract step of `Queue.exec`, one element of history
  have method : ∀ op, (w.queue.exec op).2.Valid ∧ AbsQueue.History (Queue.abs w.queue)
      [(op, (w.queue.exec op).1)] (Queue.abs (w.queue.exec op).2) :=
    fun op => ⟨hv.exec op, .cons (Queue.exec_step hv op) (.nil _)⟩
  cases c with
  | enqueue job =>
    have h := method (.enqueue job w.now)
    cases he : w.queue.enqueue job w.now <;>
      simpa only [Queue.exec, he, Call.exec, queueEvent, World.advance_queue, World.withQueue_queue,
        Option.toList_some] using h
  | dequeue => exact method .dequeue
  | peek => exact method .peek
  | remove jobID => exact method (.remove jobID)
  | size => exact method .size
  | applyAging agingFactor ageThreshold => exact method (.applyAging agingFactor ageThreshold w.now)
  | createJob | createAllocation => exact ⟨by simpa [Call.exec] using hv, by simpa [Call.exec] using .nil _⟩
  | getJob | updateJob | listJobs | listJobsByState | getTenant | updateTenant | getGPU | updateGPU
  | listGPUsByNode | getNode | updateNode | listNodes | getAllocation | updateAllocation
  | getJobAllocations | getPosition | now => exact ⟨hv, .nil _⟩

/-- **The queue is linearizable.**  From a valid queue, under every schedule of any programs
over the scheduler's calls, the queue stays valid, and the queue methods the threads call, in
the order the lock serves them and with the answers the threads receive, are a sequential
history of the abstract queue from where it started to where it ends. -/
theorem queue_linearizable (ts : List (Prog (Except Err Unit))) (w : World) (hv : w.queue.Valid)
    (sched : List Nat) : (Threads.run ts w sched).2.queue.Valid ∧
      AbsQueue.History (Queue.abs w.queue) (Threads.history ts w sched)
        (Queue.abs (Threads.run ts w sched).2.queue) := by
  induction sched generalizing ts w with
  | nil => exact ⟨hv, .nil _⟩
  | cons i sched ih =>
    cases hi : ts[i]? with
    | none => simpa only [Threads.run, Threads.history, hi] using ih ts w hv
    | some t =>
      cases t with
      | call c k =>
        obtain ⟨hv', h⟩ := c.queue_step hv
        obtain ⟨hv'', h'⟩ := ih (ts.set i (k (c.exec w).1)) (c.exec w).2 hv'
        simp only [Threads.run, Threads.history, hi, Prog.step]
        exact ⟨hv'', h.append h'⟩
      | pure | panic => simpa only [Threads.run, Threads.history, hi, Prog.step] using ih ts w hv

theorem queue_linearizable_sample :
    (Threads.run [Scheduler.submitJob (sampleJob "j1" 1), Scheduler.schedulingCycle (sampleConfig 10) 3,
      Scheduler.submitJob (sampleJob "j2" 2)] (sampleWorld 4 ["g1", "g2"] 10)
      ([0, 0, 0, 0, 1, 1, 1, 2, 2, 2, 2] ++ List.replicate 100 1)).2.queue.Valid ∧
    AbsQueue.History (Queue.abs (Queue.new 10))
      (Threads.history [Scheduler.submitJob (sampleJob "j1" 1),
        Scheduler.schedulingCycle (sampleConfig 10) 3, Scheduler.submitJob (sampleJob "j2" 2)]
        (sampleWorld 4 ["g1", "g2"] 10) ([0, 0, 0, 0, 1, 1, 1, 2, 2, 2, 2] ++ List.replicate 100 1))
      (Queue.abs (Threads.run [Scheduler.submitJob (sampleJob "j1" 1),
        Scheduler.schedulingCycle (sampleConfig 10) 3, Scheduler.submitJob (sampleJob "j2" 2)]
        (sampleWorld 4 ["g1", "g2"] 10)
        ([0, 0, 0, 0, 1, 1, 1, 2, 2, 2, 2] ++ List.replicate 100 1)).2.queue) :=
  queue_linearizable _ (sampleWorld 4 ["g1", "g2"] 10) (Queue.new_valid 10) _

end GpuScheduler
