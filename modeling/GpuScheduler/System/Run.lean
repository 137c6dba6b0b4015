import GpuScheduler.System.Policy
import GpuScheduler.Queue.Refinement
/-
# Sequential runs, and the transitions they are made of

A sequential run executes `SubmitJob`, `CancelJob`, `schedulingCycle` and `loadPendingJobs` one
at a time, each to completion, against the world.  A cycle is run with a fuel bound on its loop:
with fuel `n` it is the cycle cut after `n` iterations, so the states a run passes through are
those at the cycle's iteration boundaries as well as between operations.

`cycleLoop_succ` inverts one iteration of the cycle's loop, whatever fuel is left: it panics,
stops, starts the head, or preempts on the head's behalf.  `step_reach` is the refinement: from a
store with unique keys, every operation's run is a sequence of `Action`s.
-/

namespace GpuScheduler

open Prog Scheduler

/-- The operations of a sequential run. -/
inductive Op where
  | submitJob (job : Job)
  | cancelJob (jobID : String)
  | schedulingCycle (fuel : Nat)
  | loadPendingJobs
  deriving Repr

/-- The program of an operation. -/
def Op.prog (config : SchedulerConfig) : Op → Prog (Except Err Unit)
  | .submitJob job => Scheduler.submitJob job
  | .cancelJob jobID => Scheduler.cancelJob jobID
  | .schedulingCycle fuel => Scheduler.schedulingCycle config fuel
  | .loadPendingJobs => Scheduler.loadPendingJobs

/-- One operation run to completion: from `w`, `op` answers `r` and leaves `w'`. -/
def Step (config : SchedulerConfig) (w : World) (op : Op) (r : Except Err Unit) (w' : World) : Prop :=
  (op.prog config).run w = some (r, w')

/-- A sequential run: operations one after the other, each with its answer. -/
inductive Run (config : SchedulerConfig) : World → List (Op × Except Err Unit) → World → Prop where
  | nil (w : World) : Run config w [] w
  | cons {w w' w'' : World} {op : Op} {r : Except Err Unit} {trace : List (Op × Except Err Unit)} :
      Step config w op r w' → Run config w' trace w'' → Run config w ((op, r) :: trace) w''

/-- A scheduler as `NewScheduler` leaves it: its queue empty, of the configured capacity. -/
def Fresh (config : SchedulerConfig) (w : World) : Prop := w.queue = Queue.new config.maxQueueSize

/-- What a `SubmitJob` step did, from the outcome of its program. -/
theorem Step.submitJob_outcome {config : SchedulerConfig} {w w' : World} {job : Job}
    {r : Except Err Unit} (hk : w.store.Keys) (h : Step config w (.submitJob job) r w') :
    SubmitOutcome job w r w' := by
  obtain ⟨r', w'', hrun, ho⟩ := submitJob_run hk job
  obtain ⟨rfl, rfl⟩ : r' = r ∧ w'' = w' := by simpa [Step, Op.prog, hrun] using h
  exact ho

/-! ## 1. The cycle -/

/-- **One iteration of the loop on a non-empty queue**, whatever fuel is left: it panics in
`tryAllocateJob`; or the head's allocation fails with `e` and the loop stops having written
nothing, because preemption is off, or `e` is not a resource error, or `tryPreemption` did
nothing; or it starts the head and goes on; or it preempts a Running job on the head's behalf
and goes on. -/
theorem cycleLoop_succ (config : SchedulerConfig) {w : World} (hk : w.store.Keys)
    (h0 : w.queue.size ≠ 0) :
    ((tryAllocateJob w.queue.front.job).run w = none ∧
      ∀ n, (cycleLoop config (n + 1)).run w = none) ∨
    (∃ e w', (∀ n, (cycleLoop config (n + 1)).run w = some ((), w')) ∧ w'.state = w.state ∧
      (tryAllocateJob w.queue.front.job).run w = some (.error e, w') ∧
      (config.enablePreemption = false ∨ isResourceError e = false ∨
        (tryPreemption config w.queue.front.job).run w' = some (false, w'))) ∨
    (∃ a w₂, Grants w.store w.queue.front.job a ∧
      w₂.state = ((w.store.commit a).startJob w.queue.front.job, w.queue.dequeue.2) ∧
      ∀ n, (cycleLoop config (n + 1)).run w = (cycleLoop config n).run w₂) ∨
    (∃ v w₂, config.enablePreemption = true ∧ Victim w.store w.queue.front.job v ∧
      w₂.state = (w.store.preempt v w.queue.front.job.id, w.queue) ∧
      ∀ n, (cycleLoop config (n + 1)).run w = (cycleLoop config n).run w₂) := by
  simp only [cycleLoop, bind_eq, lift_bind, run_call, Call.exec, if_neg h0, pure_eq, pure_bind,
    Queue.peek_front h0, run_bind]
  rcases @tryAllocateJob_run w.queue.front.job w hk with
    hr | ⟨e, w₁, hr, hs, hq⟩ | ⟨a, w₁, hr, hg, hs, hq⟩
  · -- the allocation panicked
    exact .inl ⟨hr, fun _ => by rw [hr]; rfl⟩
  · -- the allocation failed: stop, or preempt and go on
    have hst : w₁.state = w.state := by simp only [World.state, hs, hq]
    simp only [hr, Option.some_bind]
    by_cases hpre : (config.enablePreemption && isResourceError e) = true
    · simp only [hpre, if_true, run_bind]
      rcases tryPreemption_run (hs ▸ hk) config w.queue.front.job with hp | ⟨v, hv, hp⟩
      · simp only [hp, Option.some_bind, Bool.false_eq_true, if_false, pure_eq, run_pure]
        exact .inr (.inl ⟨e, w₁, fun _ => rfl, hst, rfl, .inr (.inr hp)⟩)
      · simp only [hp, Option.some_bind, if_true]
        exact .inr (.inr (.inr ⟨v, _, ((Bool.and_eq_true _ _).mp hpre).1, hs ▸ hv,
          by simp only [World.state, World.withStore_store, World.withStore_queue, hs, hq],
          fun _ => rfl⟩))
    · simp only [hpre, Bool.false_eq_true, if_false, pure_eq, run_pure]
      simp only [Bool.and_eq_true, not_and_or, Bool.not_eq_true] at hpre
      exact .inr (.inl ⟨e, w₁, fun _ => rfl, hst, rfl, hpre.elim .inl (.inr ∘ .inl)⟩)
  · -- the allocation was committed: dequeue, start and go on
    obtain ⟨r, hr'⟩ := startJob_run w.queue.front.job (w₁.withQueue w₁.queue.dequeue.2)
    simp only [hr, Option.some_bind, if_true, run_call, Call.exec, run_bind, hr']
    exact .inr (.inr (.inl ⟨a, _, hg, by simp [World.state, hs, hq], fun _ => rfl⟩))

/-- Every iteration of the cycle's loop that goes on is a `CycleMove`. -/
theorem cycleLoop_moves (config : SchedulerConfig) : ∀ (fuel : Nat) {w : World}, w.store.Keys →
    (cycleLoop config fuel).wp
      (fun _ w' => Relation.ReflTransGen (CycleMove config.enablePreemption) w.state w'.state) w
  | 0, w, _ => Relation.ReflTransGen.refl
  | fuel + 1, w, hk => by
    by_cases h0 : w.queue.size = 0
    · simp only [cycleLoop, bind_eq, lift_bind, wp_call, Call.exec, h0, if_true, pure_eq, wp_pure]
      exact .refl
    -- an iteration that goes on has made one move of the cycle from `w`
    have next : ∀ {w₂ : World}, CycleMove config.enablePreemption w.state w₂.state →
        (∀ n, (cycleLoop config (n + 1)).run w = (cycleLoop config n).run w₂) →
        (cycleLoop config (fuel + 1)).wp
          (fun _ w' => Relation.ReflTransGen (CycleMove config.enablePreemption) w.state w'.state) w :=
      fun hm hr => (wp_iff_of_run_eq (hr fuel) _).mpr (wp_mono (fun _ _ h => .head hm h)
        (cycleLoop_moves config fuel (hm.cycleAction.action.keys hk)))
    rcases cycleLoop_succ config hk h0 with ⟨-, hr⟩ | ⟨-, w', hr, hst, -⟩ |
      ⟨a, w₂, hg, hst, hr⟩ | ⟨v, w₂, he, hv, hst, hr⟩
    · exact wp_of_run_none (hr fuel) _
    · exact (wp_of_run (hr fuel) _).mpr (hst ▸ .refl)
    · exact next (hst ▸ .start _ a (Queue.peek_front h0) hg) hr
    · exact next (hst ▸ .preempt he _ v (Queue.peek_front h0) hv) hr

/-- **A cycle** ages the queue, then makes `start` moves, and `preempt` ones when the
configuration enables preemption. -/
theorem schedulingCycle_moves {config : SchedulerConfig} {w w' : World} {fuel : Nat}
    {r : Except Err Unit} (hk : w.store.Keys) (h : Step config w (.schedulingCycle fuel) r w') :
    Relation.ReflTransGen (CycleMove config.enablePreemption)
      (w.store, w.queue.applyAging 10 (5 * minute) w.now) w'.state := by
  refine wp_run (Q := fun _ w' => Relation.ReflTransGen (CycleMove config.enablePreemption)
    (w.store, w.queue.applyAging 10 (5 * minute) w.now) w'.state) ?_ h
  simp only [Op.prog, schedulingCycle, bind_eq, lift_bind, wp_call, Call.exec, wp_bind]
  exact wp_mono (fun _ _ h => h)
    (cycleLoop_moves config fuel (w := (w.withQueue (w.queue.applyAging 10 (5 * minute) w.now)).advance) hk)

/-- The same, its reasons forgotten: `start` and `preempt` transitions. -/
theorem schedulingCycle_steps {config : SchedulerConfig} {w w' : World} {fuel : Nat}
    {r : Except Err Unit} (hk : w.store.Keys) (h : Step config w (.schedulingCycle fuel) r w') :
    Relation.ReflTransGen (CycleAction config.enablePreemption)
      (w.store, w.queue.applyAging 10 (5 * minute) w.now) w'.state :=
  (schedulingCycle_moves hk h).mono fun _ _ => CycleMove.cycleAction

/-! ## 2. Every operation -/

/-- **Refinement: from a store with unique keys, every operation is a sequence of moves.** -/
theorem step_moves {config : SchedulerConfig} {w w' : World} {op : Op} {r : Except Err Unit}
    (hk : w.store.Keys) (h : Step config w op r w') : Relation.ReflTransGen Move w.state w'.state := by
  have refl : ∀ w' : World, w'.store = w.store → w'.queue = w.queue →
      Relation.ReflTransGen Move w.state w'.state :=
    fun w' hs hq => by simp only [World.state, hs, hq]; exact Relation.ReflTransGen.refl
  cases op with
  | submitJob job =>
    rcases h.submitJob_outcome hk with
      ⟨hs, hq, -⟩ | ⟨tenant, htm, htid, hv, hquota, t, now, hfresh, hs, he⟩
    · exact refl w' hs hq
    have hm : Move w.state ({ w.store with
        jobs := w.store.jobs ++ [{ job with state := .pending, submittedAt := t }] }, w.queue) :=
      .create _ hfresh rfl hv ⟨tenant, htm, htid, hquota⟩
    split at he <;> rename_i q hq
    · refine .head hm (.single ?_)
      simp only [World.state, hs, he.1]
      exact .enqueue _ now (List.mem_append_right _ (List.mem_singleton_self _)) rfl hq
    · simp only [World.state, hs, he.1]
      exact Relation.ReflTransGen.single hm
  | cancelJob jobID =>
    refine wp_run (Q := fun _ w' => Relation.ReflTransGen Move w.state w'.state)
      (cancelJob_wp hk (fun _ => refl w rfl rfl) (fun job hj hid hp => ?_) fun job hj hid hr => ?_) h
    · subst hid
      exact Relation.ReflTransGen.single (.cancelPending job hj hp)
    · subst hid
      exact Relation.ReflTransGen.single (.cancelRunning job hj hr)
  | schedulingCycle fuel =>
    exact .head (.age _ _ _) ((schedulingCycle_moves hk h).mono fun _ _ => Move.cycle)
  | loadPendingJobs =>
    refine wp_run (Q := fun _ w' => Relation.ReflTransGen Move w.state w'.state)
      (loadPendingJobs_wp (fun q => Relation.ReflTransGen Move w.state (w.store, q))
        (fun w' hs h => ?_) Relation.ReflTransGen.refl
        fun job hj hp q now q' h he => h.tail (.enqueue job now hj hp he)) h
    simpa [World.state, hs] using h

/-- **Refinement of whole runs**: a sequential run from a store with unique keys is a sequence
of moves. -/
theorem run_moves {config : SchedulerConfig} {w w' : World} {trace : List (Op × Except Err Unit)}
    (hk : w.store.Keys) (h : Run config w trace w') : Relation.ReflTransGen Move w.state w'.state := by
  induction h with
  | nil => exact Relation.ReflTransGen.refl
  | cons hs _ ih =>
    have hm := step_moves hk hs
    exact hm.trans (ih (Reach.keys (hm.mono fun _ _ => Move.action) hk))

/-- Every operation is a sequence of transitions. -/
theorem step_reach {config : SchedulerConfig} {w w' : World} {op : Op} {r : Except Err Unit}
    (hk : w.store.Keys) (h : Step config w op r w') : Reach w.state w'.state :=
  (step_moves hk h).mono fun _ _ => Move.action

/-- Every sequential run is a sequence of transitions. -/
theorem run_reach {config : SchedulerConfig} {w w' : World} {trace : List (Op × Except Err Unit)}
    (hk : w.store.Keys) (h : Run config w trace w') : Reach w.state w'.state :=
  (run_moves hk h).mono fun _ _ => Move.action

/-! ## 3. Runs that compute -/

/-- The sequential run of `ops` with the answers it collects; `none` if an operation panics. -/
def runOps (config : SchedulerConfig) : List Op → World → Option (List (Op × Except Err Unit) × World)
  | [], w => some ([], w)
  | op :: ops, w =>
    match (op.prog config).run w with
    | some (r, w') => (runOps config ops w').map fun p => ((op, r) :: p.1, p.2)
    | none => none

theorem run_of_runOps {config : SchedulerConfig} : ∀ {ops : List Op} {w w' : World}
    {trace : List (Op × Except Err Unit)}, runOps config ops w = some (trace, w') → Run config w trace w'
  | [], w, _, _, h => by
    cases h
    exact .nil w
  | op :: ops, w, w', trace, h => by
    simp only [runOps] at h
    split at h
    · obtain ⟨⟨t, w''⟩, hr, he⟩ := Option.map_eq_some'.mp h
      cases he
      exact .cons ‹_› (run_of_runOps hr)
    · cases h

/-- A computed value that satisfies `p` is a value. -/
theorem exists_of_any {β : Type _} {o : Option β} {p : β → Bool} (h : o.any p = true) :
    ∃ x, o = some x ∧ p x = true := by
  cases o with
  | none => cases h
  | some x => exact ⟨x, rfl, h⟩

/-- Whether a computed run answers `ok` with `P` of its answer and end is decided by computing
it. -/
instance decidableExistsOk {α : Type} (o : Option (Except Err α × World)) (P : α → World → Prop)
    [∀ r w, Decidable (P r w)] : Decidable (∃ r w', o = some (.ok r, w') ∧ P r w') :=
  match o with
  | some (.ok r, w') =>
    decidable_of_iff (P r w') ⟨fun h => ⟨r, w', rfl, h⟩, fun ⟨_, _, he, h⟩ => by cases he; exact h⟩
  | some (.error _, _) => isFalse fun ⟨_, _, he, _⟩ => by cases he
  | none => isFalse fun ⟨_, _, he, _⟩ => by cases he

/-- Whether a computed run of a Go function that returns only an `error` answers nil with `P` of
its end is decided by computing it. -/
instance decidableExistsNil (o : Option (Except Err Unit × World)) (P : World → Prop)
    [DecidablePred P] : Decidable (∃ w', o = some (.ok (), w') ∧ P w') :=
  match o with
  | some (.ok (), w') =>
    decidable_of_iff (P w') ⟨fun h => ⟨w', rfl, h⟩, fun ⟨_, he, h⟩ => by cases he; exact h⟩
  | some (.error _, _) => isFalse fun ⟨_, he, _⟩ => by cases he
  | none => isFalse fun ⟨_, he, _⟩ => by cases he

/-- Whether a computed run answers an error with `P` of the error and the end is decided by
computing it. -/
instance decidableExistsError {α : Type} (o : Option (Except Err α × World)) (P : Err → World → Prop)
    [∀ e w, Decidable (P e w)] : Decidable (∃ e w', o = some (.error e, w') ∧ P e w') :=
  match o with
  | some (.error e, w') =>
    decidable_of_iff (P e w') ⟨fun h => ⟨e, w', rfl, h⟩, fun ⟨_, _, he, h⟩ => by cases he; exact h⟩
  | some (.ok _, _) => isFalse fun ⟨_, _, he, _⟩ => by cases he
  | none => isFalse fun ⟨_, _, he, _⟩ => by cases he

/-- A computed run whose answers and end satisfy `P` is a run with such answers and end. -/
theorem exists_run (config : SchedulerConfig) (ops : List Op) (w : World)
    {P : List (Op × Except Err Unit) × World → Prop} [DecidablePred P]
    (h : (runOps config ops w).any (fun p => decide (P p)) = true) :
    ∃ trace w', Run config w trace w' ∧ P (trace, w') := by
  obtain ⟨⟨trace, w'⟩, hr, hp⟩ := exists_of_any h
  exact ⟨trace, w', run_of_runOps hr, of_decide_eq_true hp⟩

/-- `exists_run` for a property of the end alone, which the goal then determines. -/
theorem exists_run_to (config : SchedulerConfig) (ops : List Op) (w : World) {P : World → Prop}
    [DecidablePred P] (h : (runOps config ops w).any (fun p => decide (P p.2)) = true) :
    ∃ trace w', Run config w trace w' ∧ P w' :=
  exists_run config ops w (P := fun p => P p.2) h

/-! ## 4. A sample cluster

One tenant `t1` that allows preemption, one online node `n1` whose GPUs are all free, and jobs of
one GPU each; the clock reads `1, 2, 3, ...`.  The witnesses and counterexamples of the later
modules run on it. -/

/-- Tenant `t1`, with no usage and a ceiling of `maxGPUs` GPUs. -/
def sampleTenant (maxGPUs : BitVec 64) : Tenant :=
  { id := "t1", maxGPUs, maxGPUMemoryMB := 100000, maxCPUCores := 64, maxMemoryMB := 100000,
    maxConcurrentJobs := 10, currentGPUs := 0, currentGPUMemory := 0, currentCPUCores := 0,
    currentMemory := 0, currentJobs := 0, allowPreemption := true }

/-- A free, healthy GPU of node `n1`. -/
def sampleGPU (id : String) : GPU :=
  { id, nodeID := "n1", allocated := false, allocationID := "", jobID := "", tenantID := "",
    coolingPeriod := 0, thermalThrottle := false, health := .healthy }

/-- Node `n1` with `gpus` GPUs, all of its capacity available. -/
def sampleNode (gpus : BitVec 64) : Node :=
  { id := "n1", totalGPUs := gpus, availableGPUs := gpus, totalCPUCores := 16,
    availableCPUCores := 16, totalMemoryMB := 1000, availableMemoryMB := 1000, online := true,
    schedulable := true, drainingMode := false }

/-- A one-GPU job of tenant `t1`. -/
def sampleJob (id : String) (priority : BitVec 64) : Job :=
  { id, tenantID := "t1", state := .pending, priority, gpuCount := 1, gpuMemoryMB := 0,
    cpuCores := 1, memoryMB := 10, gangScheduling := false, submittedAt := 0, preemptedCount := 0 }

/-- The request `tryAllocateJob` builds for `sampleJob "j1" 1`. -/
def sampleRequest : AllocationRequest :=
  { jobID := "j1", tenantID := "t1", gpuCount := 1, gpuMemoryMB := 0, cpuCores := 1,
    memoryMB := 10, gangScheduling := false }

/-- The scheduler's configuration, preemption enabled. -/
def sampleConfig (maxQueueSize : Int) : SchedulerConfig :=
  { maxQueueSize := maxQueueSize, enablePreemption := true }

/-- The sample cluster with GPUs `gpuIDs` and no job, and a fresh scheduler of it. -/
def sampleWorld (maxGPUs : BitVec 64) (gpuIDs : List String) (maxQueueSize : Int) : World where
  store :=
    { jobs := [], tenants := [sampleTenant maxGPUs], gpus := gpuIDs.map sampleGPU,
      nodes := [sampleNode (BitVec.ofNat 64 gpuIDs.length)], allocations := [] }
  queue := Queue.new maxQueueSize
  clock n := n + 1
  tick := 0

theorem sampleWorld_keys (maxGPUs : BitVec 64) {gpuIDs : List String} (h : gpuIDs.Nodup)
    (maxQueueSize : Int) : (sampleWorld maxGPUs gpuIDs maxQueueSize).store.Keys where
  jobs := List.nodup_nil
  tenants := List.nodup_singleton "t1"
  gpus := by simpa [Table.Keys, sampleWorld, sampleGPU, Function.comp_def] using h
  nodes := List.nodup_singleton "n1"
  allocations := List.nodup_nil

theorem sampleWorld_fresh (maxGPUs : BitVec 64) (gpuIDs : List String) (maxQueueSize : Int) :
    Fresh (sampleConfig maxQueueSize) (sampleWorld maxGPUs gpuIDs maxQueueSize) := Eq.refl _

/-- Job `j1` submitted and started on the cluster's one GPU; then `j2`, of higher priority,
submitted, and a cycle that preempts `j1` for it and starts it. -/
def samplePreemption : List Op :=
  [.submitJob (sampleJob "j1" 1), .schedulingCycle 5, .submitJob (sampleJob "j2" 2), .schedulingCycle 5]

end GpuScheduler
