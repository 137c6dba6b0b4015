import GpuScheduler.Store
import GpuScheduler.Queue.Queue
/-
# Programs over atomic calls

The scheduler's Go functions are written here once, as programs over the ATOMIC steps they take:
one repository call, one method of the queue (each runs under the queue's lock), or one reading
of the clock.  A `Prog` is the finite tree of those calls (an interaction tree without
divergence): `call c k` performs `c` and continues with `k` on its answer.  Loops of the source
are structural recursions over the list they range over, or over an explicit fuel.

The same program has three semantics.

* `Prog.run`: the calls one after another against a `World` (the sequential runs, over which
  the invariants of reachable states are proved), with `Prog.wp` its weakest precondition;
  `Prog.NoPanic` says that a run ends, whatever the calls answer.
* `Prog.runFailing`: the same, but one repository call, chosen by its position, fails and
  writes nothing (what the code does when the repository answers an error).
* `Threads.run` (in `System/Threads.lean`): several programs, interleaved call by call.

`time.Now()` reads `clock tick` and advances `tick`; the clock is any function, so nothing is
assumed about the instants the code sees.
-/

namespace GpuScheduler

/-- The atomic steps of the scheduler's code, each with the type of its answer. -/
inductive Call : Type → Type where
  | createJob (job : Job) : Call (Except Err Unit)
  | getJob (jobID : String) : Call (Except Err Job)
  | updateJob (job : Job) : Call (Except Err Unit)
  | listJobs (limit offset : Nat) : Call (Except Err (List Job))
  | listJobsByState (state : JobState) : Call (Except Err (List Job))
  | getTenant (tenantID : String) : Call (Except Err Tenant)
  | updateTenant (tenant : Tenant) : Call (Except Err Unit)
  | getGPU (gpuID : String) : Call (Except Err GPU)
  | updateGPU (gpu : GPU) : Call (Except Err Unit)
  | listGPUsByNode (nodeID : String) : Call (Except Err (List GPU))
  | getNode (nodeID : String) : Call (Except Err Node)
  | updateNode (node : Node) : Call (Except Err Unit)
  | listNodes : Call (Except Err (List Node))
  | createAllocation (allocation : Allocation) : Call (Except Err Unit)
  | getAllocation (allocationID : String) : Call (Except Err Allocation)
  | updateAllocation (allocation : Allocation) : Call (Except Err Unit)
  | getJobAllocations (jobID : String) : Call (Except Err (List Allocation))
  | enqueue (job : Job) : Call (Except Err Unit)
  | dequeue : Call (Option Job)
  | peek : Call (Option Job)
  | remove (jobID : String) : Call Bool
  | size : Call Nat
  | applyAging (agingFactor : BitVec 64) (ageThreshold : Int) : Call Unit
  | getPosition (jobID : String) : Call Int
  | now : Call Int

/-- Everything the calls read and write: the database, the scheduler's queue, and the clock. -/
structure World where
  store : Store
  queue : Queue
  clock : Nat → Int
  tick : Nat

namespace World

/-- What `time.Now()` returns. -/
def now (w : World) : Int := w.clock w.tick

/-- The world after reading the clock. -/
def advance (w : World) : World := { w with tick := w.tick + 1 }

/-- The world with a new store. -/
def withStore (w : World) (s : Store) : World := { w with store := s }

/-- The world with a new queue. -/
def withQueue (w : World) (q : Queue) : World := { w with queue := q }

@[simp] theorem withStore_self (w : World) : w.withStore w.store = w := rfl
@[simp] theorem withStore_withStore (w : World) (s s' : Store) :
    (w.withStore s).withStore s' = w.withStore s' := rfl
@[simp] theorem advance_store (w : World) : w.advance.store = w.store := rfl
@[simp] theorem advance_queue (w : World) : w.advance.queue = w.queue := rfl
@[simp] theorem withStore_store (w : World) (s : Store) : (w.withStore s).store = s := rfl
@[simp] theorem withStore_queue (w : World) (s : Store) : (w.withStore s).queue = w.queue := rfl
@[simp] theorem withQueue_store (w : World) (q : Queue) : (w.withQueue q).store = w.store := rfl
@[simp] theorem withQueue_queue (w : World) (q : Queue) : (w.withQueue q).queue = q := rfl
@[simp] theorem withStore_now (w : World) (s : Store) : (w.withStore s).now = w.now := rfl

end World

/-- A write the finite-map store may refuse, as a call's answer and the world after it. -/
def tryWrite (w : World) : Except Err Store → Except Err Unit × World
  | .ok s => (.ok (), w.withStore s)
  | .error e => (.error e, w)

/-- One atomic step against the world. -/
def Call.exec : {β : Type} → Call β → World → β × World
  | _, .createJob job, w => tryWrite w (w.store.createJob job)
  | _, .getJob jobID, w => (w.store.getJob jobID, w)
  | _, .updateJob job, w => (.ok (), w.withStore (w.store.updateJob job))
  | _, .listJobs limit offset, w => (.ok (w.store.listJobs limit offset), w)
  | _, .listJobsByState state, w => (.ok (w.store.listJobsByState state), w)
  | _, .getTenant tenantID, w => (w.store.getTenant tenantID, w)
  | _, .updateTenant tenant, w => (.ok (), w.withStore (w.store.updateTenant tenant))
  | _, .getGPU gpuID, w => (w.store.getGPU gpuID, w)
  | _, .updateGPU gpu, w => (.ok (), w.withStore (w.store.updateGPU gpu))
  | _, .listGPUsByNode nodeID, w => (.ok (w.store.listGPUsByNode nodeID), w)
  | _, .getNode nodeID, w => (w.store.getNode nodeID, w)
  | _, .updateNode node, w => (.ok (), w.withStore (w.store.updateNode node))
  | _, .listNodes, w => (.ok w.store.listNodes, w)
  | _, .createAllocation allocation, w => tryWrite w (w.store.createAllocation allocation)
  | _, .getAllocation allocationID, w => (w.store.getAllocation allocationID, w)
  | _, .updateAllocation allocation, w =>
    (.ok (), w.withStore (w.store.updateAllocation allocation))
  | _, .getJobAllocations jobID, w => (.ok (w.store.getJobAllocations jobID), w)
  | _, .enqueue job, w =>
    match w.queue.enqueue job w.now with
    | .ok q => (.ok (), (w.withQueue q).advance)
    | .error e => (.error e, w.advance)
  | _, .dequeue, w => (w.queue.dequeue.1, w.withQueue w.queue.dequeue.2)
  | _, .peek, w => (w.queue.peek, w)
  | _, .remove jobID, w => ((w.queue.remove jobID).1, w.withQueue (w.queue.remove jobID).2)
  | _, .size, w => (w.queue.size, w)
  | _, .applyAging agingFactor ageThreshold, w =>
    ((), (w.withQueue (w.queue.applyAging agingFactor ageThreshold w.now)).advance)
  | _, .getPosition jobID, w => (w.queue.getPosition jobID, w)
  | _, .now, w => (w.now, w.advance)

/-- The answer of a repository call that fails with `e`: the error, and nothing written.  The
queue's methods run in memory and the clock is always read, so they have no failing answer. -/
def Call.failWith : {β : Type} → Call β → Err → Option β
  | _, .createJob _, e => some (.error e)
  | _, .getJob _, e => some (.error e)
  | _, .updateJob _, e => some (.error e)
  | _, .listJobs _ _, e => some (.error e)
  | _, .listJobsByState _, e => some (.error e)
  | _, .getTenant _, e => some (.error e)
  | _, .updateTenant _, e => some (.error e)
  | _, .getGPU _, e => some (.error e)
  | _, .updateGPU _, e => some (.error e)
  | _, .listGPUsByNode _, e => some (.error e)
  | _, .getNode _, e => some (.error e)
  | _, .updateNode _, e => some (.error e)
  | _, .listNodes, e => some (.error e)
  | _, .createAllocation _, e => some (.error e)
  | _, .getAllocation _, e => some (.error e)
  | _, .updateAllocation _, e => some (.error e)
  | _, .getJobAllocations _, e => some (.error e)
  | _, _, _ => none

/-- A program: a finite tree of atomic calls, ending in a value or in a Go `panic`. -/
inductive Prog : Type → Type 1 where
  | pure {α : Type} (a : α) : Prog α
  | call {α β : Type} (c : Call β) (k : β → Prog α) : Prog α
  | panic {α : Type} (msg : String) : Prog α

namespace Prog

/-- Sequencing: graft the continuation onto every leaf. -/
def bind {α β : Type} : Prog α → (α → Prog β) → Prog β
  | .pure a, f => f a
  | .call c k, f => .call c fun b => (k b).bind f
  | .panic msg, _ => .panic msg

instance : Monad Prog where
  pure := .pure
  bind := Prog.bind

/-- Perform one call and return its answer. -/
def lift {β : Type} (c : Call β) : Prog β := .call c .pure

/-- The sequential run: `none` when the program panics. -/
def run {α : Type} : Prog α → World → Option (α × World)
  | .pure a, w => some (a, w)
  | .call c k, w => (k (c.exec w).1).run (c.exec w).2
  | .panic _, _ => none

/-- The sequential run in which the call at position `n` (the first is `0`) fails with `e` if it
is a repository call (`Call.failWith`); a failure at a method of the queue, at the clock, or past
the last call leaves the run as it is. -/
def runFailing {α : Type} (e : Err) : Prog α → Nat → World → Option (α × World)
  | .pure a, _, w => some (a, w)
  | .call c k, 0, w =>
    match c.failWith e with
    | some b => (k b).run w
    | none => (k (c.exec w).1).run (c.exec w).2
  | .call c k, n + 1, w => (k (c.exec w).1).runFailing e n (c.exec w).2
  | .panic _, _, _ => none

/-- The weakest precondition for `Q` to hold of the answer and the world after a sequential run
(a panic ends the process, so it leaves no state to speak of). -/
def wp {α : Type} : Prog α → (α → World → Prop) → World → Prop
  | .pure a, Q, w => Q a w
  | .call c k, Q, w => (k (c.exec w).1).wp Q (c.exec w).2
  | .panic _, _, _ => True

variable {α β : Type}

@[simp] theorem pure_eq (a : α) : (Pure.pure a : Prog α) = .pure a := rfl

@[simp] theorem bind_eq (x : Prog α) (f : α → Prog β) : x >>= f = x.bind f := rfl

@[simp] theorem pure_bind (a : α) (f : α → Prog β) : (Prog.pure a).bind f = f a := rfl

@[simp] theorem call_bind {γ : Type} (c : Call γ) (k : γ → Prog α) (f : α → Prog β) :
    (Prog.call c k).bind f = .call c fun b => (k b).bind f := rfl

@[simp] theorem lift_bind (c : Call α) (f : α → Prog β) : (lift c).bind f = .call c f := rfl

@[simp] theorem wp_pure (a : α) (Q : α → World → Prop) (w : World) : (Prog.pure a).wp Q w = Q a w :=
  rfl

@[simp] theorem wp_call (c : Call β) (k : β → Prog α) (Q : α → World → Prop) (w : World) :
    (Prog.call c k).wp Q w = (k (c.exec w).1).wp Q (c.exec w).2 := rfl

@[simp] theorem wp_panic (msg : String) (Q : α → World → Prop) (w : World) :
    (Prog.panic msg).wp Q w := trivial

@[simp] theorem wp_lift (c : Call α) (Q : α → World → Prop) (w : World) :
    (lift c).wp Q w = Q (c.exec w).1 (c.exec w).2 := rfl

@[simp] theorem run_pure (a : α) (w : World) : (Prog.pure a).run w = some (a, w) := rfl

@[simp] theorem run_call (c : Call β) (k : β → Prog α) (w : World) :
    (Prog.call c k).run w = (k (c.exec w).1).run (c.exec w).2 := rfl

/-- A program that runs to its end has, as weakest precondition, the postcondition of that end. -/
theorem wp_of_run {x : Prog α} {w w' : World} {a : α} (hr : x.run w = some (a, w'))
    (Q : α → World → Prop) : x.wp Q w ↔ Q a w' := by
  induction x generalizing w with
  | pure b => cases hr; exact Iff.rfl
  | call c k ih => exact ih _ hr
  | panic msg => cases hr

theorem wp_bind (x : Prog α) (f : α → Prog β) (Q : β → World → Prop) (w : World) :
    (x.bind f).wp Q w = x.wp (fun a w' => (f a).wp Q w') w := by
  induction x generalizing w with
  | pure a => rfl
  | call c k ih => exact ih _ _
  | panic msg => rfl

theorem wp_mono {x : Prog α} {Q Q' : α → World → Prop} (h : ∀ a w, Q a w → Q' a w) :
    ∀ {w}, x.wp Q w → x.wp Q' w := by
  induction x with
  | pure a => exact fun hq => h _ _ hq
  | call c k ih => exact fun hq => ih _ hq
  | panic msg => exact fun _ => trivial

/-- **A run ends where the weakest precondition promised.** -/
theorem wp_run {x : Prog α} {Q : α → World → Prop} {w w' : World} {a : α} (hwp : x.wp Q w)
    (hr : x.run w = some (a, w')) : Q a w' := by
  induction x generalizing w with
  | pure b => cases hr; exact hwp
  | call c k ih => exact ih _ hwp hr
  | panic msg => cases hr

/-- A run that panics promises every postcondition. -/
theorem wp_of_run_none {x : Prog α} {w : World} (hr : x.run w = none) (Q : α → World → Prop) :
    x.wp Q w := by
  induction x generalizing w with
  | pure b => cases hr
  | call c k ih => exact ih _ hr
  | panic msg => trivial

/-- The weakest precondition depends on the run only. -/
theorem wp_iff_of_run_eq {x y : Prog α} {w w' : World} (h : x.run w = y.run w')
    (Q : α → World → Prop) : x.wp Q w ↔ y.wp Q w' := by
  cases hx : x.run w with
  | none => exact iff_of_true (wp_of_run_none hx Q) (wp_of_run_none (h.symm.trans hx) Q)
  | some p => rw [wp_of_run hx, wp_of_run (h.symm.trans hx)]

@[simp] theorem bind_assoc {γ : Type} (x : Prog α) (f : α → Prog β) (g : β → Prog γ) :
    (x.bind f).bind g = x.bind fun a => (f a).bind g := by
  induction x with
  | pure a => rfl
  | call c k ih => exact congrArg (Prog.call c) (funext ih)
  | panic msg => rfl

@[simp] theorem bind_pure (x : Prog α) : x.bind Prog.pure = x := by
  induction x with
  | pure a => rfl
  | call c k ih => exact congrArg (Prog.call c) (funext ih)
  | panic msg => rfl

theorem run_bind (x : Prog α) (f : α → Prog β) (w : World) :
    (x.bind f).run w = (x.run w).bind fun p => (f p.1).run p.2 := by
  induction x generalizing w with
  | pure a => rfl
  | call c k ih => exact ih _ _
  | panic msg => rfl

/-- The program ends without panicking, whatever its calls answer. -/
inductive NoPanic : {α : Type} → Prog α → Prop
  | pure {α : Type} (a : α) : NoPanic (.pure a)
  | call {α β : Type} (c : Call β) (k : β → Prog α) : (∀ b, NoPanic (k b)) → NoPanic (.call c k)

theorem NoPanic.run {x : Prog α} (h : x.NoPanic) (w : World) : ∃ a w', x.run w = some (a, w') := by
  induction h generalizing w with
  | pure a => exact ⟨a, w, rfl⟩
  | call c k _ ih => exact ih _ _

theorem NoPanic.bind {x : Prog α} {f : α → Prog β} (hx : x.NoPanic) (hf : ∀ a, (f a).NoPanic) :
    (x.bind f).NoPanic := by
  induction hx with
  | pure a => exact hf a
  | call c k _ ih => exact .call c _ ih

theorem NoPanic.lift (c : Call α) : (lift c).NoPanic := .call c _ .pure

end Prog

end GpuScheduler
