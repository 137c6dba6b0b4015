import GpuScheduler.Invariant.Core
/-
# The queue and the stored Pending jobs

`Core.queued` says every queued id is the id of a stored Pending job.  `Synced` is the converse:
every stored Pending job is queued.  Every transition but `create` keeps it.  `SubmitJob` creates
the job and then offers it to the queue: when the queue accepts, `Synced` holds again; when the
queue is full, `SubmitJob` answers its refusal wrapped as `"failed to enqueue job"` and leaves the
job stored as Pending and unqueued (`orphan_sample`).  `loadPendingJobs` on the empty queue of a
fresh scheduler queues every stored Pending job when they fit the queue (`loadPendingJobs_run`).
So the queued ids are the stored Pending ids along a run that starts with that replay, over any
store an earlier run can leave, and in which the queue refuses no `SubmitJob`
(`queue_pending_run`).
-/

namespace GpuScheduler

open Prog Scheduler

/-- Every stored Pending job is queued. -/
def Synced (st : Store × Queue) : Prop := ∀ j ∈ st.1.jobs, j.state = .pending → j.id ∈ st.2.ids

/-! ## 1. The transitions -/

section Step

variable {s : Store} {q : Queue}

/-- Rewriting a row as one that is not Pending, the queue keeping every other id. -/
theorem Synced.update {s' : Store} {q' : Queue} (h : Synced (s, q)) (hk : s.Keys) (j : Job)
    (hnp : j.state ≠ .pending) (hjobs : s'.jobs = Table.save j s.jobs)
    (hq : ∀ id ∈ q.ids, id ≠ j.id → id ∈ q'.ids) : Synced (s', q') := by
  intro x hx hp
  rw [hjobs, Table.mem_save hk.jobs] at hx
  rcases hx with rfl | ⟨hx, hne⟩
  · exact absurd hp hnp
  · exact hq _ (h x hx hp) hne

theorem Synced.age (h : Synced (s, q)) (hv : q.Valid) (agingFactor : BitVec 64)
    (ageThreshold now : Int) : Synced (s, q.applyAging agingFactor ageThreshold now) :=
  fun j hj hp => (hv.mem_ids_applyAging _ _ _ _).mpr (h j hj hp)

theorem Synced.cancelPending (h : Synced (s, q)) (hc : Core (s, q)) (job : Job) :
    Synced (s.updateJob { job with state := .cancelled }, (q.remove job.id).2) :=
  h.update hc.keys { job with state := .cancelled } (by simp) rfl
    fun id hm hne => (hc.valid.mem_ids_remove _ _).mpr ⟨hm, hne⟩

theorem Synced.cancelRunning (h : Synced (s, q)) (hc : Core (s, q)) (job : Job) :
    Synced ((s.freeJobResources { job with state := .cancelled }).updateJob
      { job with state := .cancelled }, q) :=
  h.update hc.keys { job with state := .cancelled } (by simp)
    (by simp [Store.updateJob, Store.freeJobResources]) fun id hm _ => hm

/-- **The cycle's transitions keep `Synced`**: `start` dequeues the job it writes Running, and
`preempt` rewrites a Running job. -/
theorem CycleAction.synced {preemption : Bool} {st st' : Store × Queue}
    (h : CycleAction preemption st st') (hc : Core st)
    (hs : Synced st) : Synced st' := by
  obtain ⟨s, q⟩ := st
  rcases h with ⟨job, a, hp, -, -, rfl⟩ | ⟨-, v, -, preemptorID, -, rfl⟩
  · exact hs.update hc.keys { job with state := .running } (by simp)
      (by simp [Store.startJob, Store.updateJob, Store.commit])
      fun id hm hne => (hc.valid.mem_ids_dequeue hp id).mpr ⟨hm, hne⟩
  · exact hs.update hc.keys { v with state := .preempted, preemptedCount := v.preemptedCount + 1 }
      (by simp) (by simp [Store.preempt, Store.updateJob]) fun id hm _ => hm

theorem cycle_synced {preemption : Bool} {st st' : Store × Queue}
    (h : Relation.ReflTransGen (CycleAction preemption) st st')
    (hc : Core st) (hs : Synced st) : Synced st' := by
  induction h with
  | refl => exact hs
  | tail hr ha ih => exact ha.synced (Reach.core (hr.mono fun _ _ => CycleAction.action) hc) ih

end Step

/-! ## 2. The operations -/

/-- **Every operation keeps `Synced`**, but a `SubmitJob` the queue refuses. -/
theorem Step.synced {config : SchedulerConfig} {w w' : World} {op : Op} {r : Except Err Unit}
    (hc : Core w.state) (hs : Synced w.state) (h : Step config w op r w')
    (hr : ∀ e, r ≠ .error (.wrap "failed to enqueue job" e)) : Synced w'.state := by
  cases op with
  | submitJob job =>
    rcases h.submitJob_outcome hc.keys with ⟨hst, hq, -⟩ | ⟨-, -, -, -, -, t, now, -, hst, he⟩
    · simpa [Synced, World.state, hst, hq] using hs
    split at he <;> rename_i q' hq'
    · intro j hj hp
      simp only [World.state, hst, he.1, List.mem_append, List.mem_singleton] at hj ⊢
      exact (hc.valid.mem_ids_enqueue hq' _).mpr (hj.imp (hs j · hp) (congrArg Job.id))
    · exact absurd he.2 (hr _)
  | cancelJob jobID =>
    refine wp_run (Q := fun _ w' => Synced w'.state) (cancelJob_wp hc.keys (fun _ => hs)
      (fun job _ hid _ => ?_) fun job _ hid _ => ?_) h
    · exact hid ▸ hs.cancelPending hc job
    · exact hs.cancelRunning hc job
  | schedulingCycle fuel =>
    exact cycle_synced (schedulingCycle_steps hc.keys h) ((Action.age _ _ _).core hc)
      (hs.age hc.valid _ _ _)
  | loadPendingJobs =>
    refine wp_run (Q := fun _ w' => Synced w'.state)
      (loadPendingJobs_wp (w := w) (fun q => q.Valid ∧ ∀ id ∈ w.queue.ids, id ∈ q.ids)
        (fun w' hst hp j hj hpend => hp.2 _ (hs j (show j ∈ w.store.jobs from hst ▸ hj) hpend)) ⟨hc.valid, fun _ h => h⟩
        fun _ _ _ q now q' hp he => ⟨(Queue.enqueue_ok hp.1 he).2.2.1,
          fun id hm => (hp.1.mem_ids_enqueue he id).mpr (.inl (hp.2 id hm))⟩) h

/-- A `SubmitJob` answered with an error other than the queue's refusal writes nothing. -/
theorem Step.submitJob_error {config : SchedulerConfig} {w w' : World} {job : Job} {e : Err}
    (hk : w.store.Keys) (h : Step config w (.submitJob job) (.error e) w')
    (he : ∀ e', e ≠ .wrap "failed to enqueue job" e') : w'.store = w.store := by
  rcases h.submitJob_outcome hk with ⟨hst, -⟩ | ⟨-, -, -, -, -, t, now, -, -, hm⟩
  · exact hst
  · split at hm
    · cases hm.2
    · exact absurd (Except.error.inj hm.2) (he _)

/-! ## 3. The start-up replay -/

/-- The entries `Enqueue` makes for `jobs` offered one after the other from tick `t`: each of
boost `0`, stamped with the clock's reading at its call. -/
def stamped (clock : Nat → Int) : Nat → List Job → List Entry
  | _, [] => []
  | t, job :: jobs => newEntry job (clock t) :: stamped clock (t + 1) jobs

@[simp] theorem stamped_map_job (clock : Nat → Int) : ∀ (t : Nat) (jobs : List Job),
    (stamped clock t jobs).map (·.job) = jobs
  | _, [] => rfl
  | t, job :: jobs => by simp [stamped, newEntry, stamped_map_job clock (t + 1) jobs]

/-- `loadPendingJobs`' loop, from a queue with room for all of `jobs` and none of their ids,
queues every one of them, stamped with the clock's successive readings, and writes nothing. -/
theorem enqueueAll_run : ∀ (jobs : List Job) (w : World), w.queue.Valid →
    (jobs.map (·.id)).Nodup → (∀ j ∈ jobs, j.id ∉ w.queue.ids) →
    (w.queue.size + jobs.length : Int) ≤ w.queue.maxSize →
    ∃ q', (enqueueAll jobs).run w = some ((), { w with queue := q', tick := w.tick + jobs.length }) ∧
      q'.Valid ∧ List.Perm q'.entries (w.queue.entries ++ stamped w.clock w.tick jobs)
  | [], w, hv, _, _, _ => ⟨w.queue, rfl, hv, by simp [stamped]⟩
  | job :: jobs, w, hv, hnd, hfresh, hroom => by
    obtain ⟨q₁, he⟩ := hv.enqueue_accepts job
      (by simp only [List.length_cons, Nat.cast_add, Nat.cast_one] at hroom; omega)
      (hfresh job (List.mem_cons_self _ _)) w.now
    have hmem := hv.mem_ids_enqueue he
    obtain ⟨-, -, hv₁, hmax, hperm₁⟩ := Queue.enqueue_ok hv he
    rw [List.map_cons, List.nodup_cons] at hnd
    have hfresh' : ∀ j ∈ jobs, j.id ∉ q₁.ids := fun j hj hm => by
      rcases (hmem _).mp hm with hm | hm
      · exact hfresh j (List.mem_cons_of_mem _ hj) hm
      · exact hnd.1 (hm ▸ List.mem_map_of_mem _ hj)
    have hroom' : (q₁.size + jobs.length : Int) ≤ q₁.maxSize := by
      simp only [List.length_cons, Nat.cast_add, Nat.cast_one] at hroom
      rw [hv.size_enqueue he, hmax]
      push_cast
      omega
    obtain ⟨q', hrun, hv', hperm⟩ :=
      enqueueAll_run jobs (w.withQueue q₁).advance hv₁ hnd.2 hfresh' hroom'
    refine ⟨q', ?_, hv', hperm.trans ?_⟩
    · simp only [enqueueAll, bind_eq, lift_bind, run_call, Call.exec, he, hrun]
      simp [World.advance, World.withQueue, Nat.add_assoc, Nat.add_comm 1]
    · simpa [stamped, World.now, World.advance, World.withQueue] using hperm₁.append_right _

/-- **The start-up replay** on a fresh scheduler whose stored Pending jobs fit its queue answers
nil, writes nothing, and queues every one of them, stamped in the order `ListJobsByState`
returns them. -/
theorem loadPendingJobs_run {config : SchedulerConfig} {w : World} (hk : w.store.Keys)
    (hq : Fresh config w)
    (hcap : ((w.store.listJobsByState .pending).length : Int) ≤ config.maxQueueSize) :
    ∃ q', Step config w .loadPendingJobs (.ok ())
        { w with queue := q', tick := w.tick + (w.store.listJobsByState .pending).length } ∧
      q'.Valid ∧ List.Perm q'.entries (stamped w.clock w.tick (w.store.listJobsByState .pending)) := by
  have hq : w.queue = Queue.new config.maxQueueSize := hq
  obtain ⟨q', hrun, hv, hperm⟩ :=
    enqueueAll_run (w.store.listJobsByState .pending) w (hq ▸ Queue.new_valid _)
    (((List.filter_sublist _).map _).nodup hk.jobs) (fun j _ hm => by simp [hq, Queue.ids] at hm)
    (by simpa [hq, Queue.size_eq] using hcap)
  refine ⟨q', ?_, hv, by simpa [hq] using hperm⟩
  simp only [Step, Op.prog, loadPendingJobs, bind_eq, lift_bind, run_call, Call.exec, run_bind, hrun,
    Option.some_bind, pure_eq, run_pure]

/-- The start-up replay on a fresh scheduler whose stored Pending jobs fit its queue writes
nothing and queues every one of them. -/
theorem loadPendingJobs_synced {config : SchedulerConfig} {w w' : World} {r : Except Err Unit}
    (hk : w.store.Keys) (hq : Fresh config w)
    (hcap : ((w.store.listJobsByState .pending).length : Int) ≤ config.maxQueueSize)
    (h : Step config w .loadPendingJobs r w') : w'.store = w.store ∧ Synced w'.state := by
  obtain ⟨q', hrun, -, hperm⟩ := loadPendingJobs_run hk hq hcap
  obtain ⟨-, rfl⟩ := Prod.mk.inj (Option.some.inj (h.symm.trans hrun))
  refine ⟨rfl, fun j hj hp => ?_⟩
  have hj' : j ∈ q'.entries.map (·.job) := by
    rw [(hperm.map _).mem_iff, stamped_map_job]
    simpa [Store.listJobsByState] using ⟨hj, hp⟩
  obtain ⟨e, he, rfl⟩ := List.mem_map.mp hj'
  exact List.mem_map_of_mem _ he

/-! ## 4. Along a run -/

/-- **Queued jobs are stored Pending jobs** in every state of a sequential run of a fresh scheduler
over a store with no allocation, whatever the queue refuses. -/
theorem queued_pending_run {config : SchedulerConfig} {w₀ w : World}
    {trace : List (Op × Except Err Unit)} (hk : w₀.store.Keys) (hq : Fresh config w₀)
    (hnone : w₀.store.allocations = []) (hrun : Run config w₀ trace w) :
    ∀ id ∈ w.queue.ids, ∃ j ∈ w.store.jobs, j.id = id ∧ j.state = .pending :=
  (Reach.core (run_reach hk hrun) (Core.initial hk hq (.of_none hnone))).queued

/-- After two submissions and a cycle on the one-GPU cluster, `j1` waits in the queue. -/
theorem queued_pending_sample : ∃ trace w, Run (sampleConfig 10) (sampleWorld 4 ["g1"] 10) trace w ∧
    w.queue.ids = ["j1"] ∧ ∀ id ∈ w.queue.ids, ∃ j ∈ w.store.jobs, j.id = id ∧ j.state = .pending := by
  obtain ⟨trace, w, hrun, hids⟩ := exists_run (sampleConfig 10)
    [.submitJob (sampleJob "j1" 1), .submitJob (sampleJob "j2" 2), .schedulingCycle 5]
    (sampleWorld 4 ["g1"] 10) (P := fun p => p.2.queue.ids = ["j1"]) (by decide)
  exact ⟨trace, w, hrun, hids, queued_pending_run (sampleWorld_keys 4 (by decide) 10)
    (sampleWorld_fresh 4 ["g1"] 10) rfl hrun⟩

/-- **The queue holds the stored Pending jobs**, along a run that starts with the start-up replay
of a fresh scheduler, over a consistent store (`Store.Lifecycle`, as every run leaves it, so a
restart after any earlier run) whose Pending jobs fit the queue, as long as the queue refuses no
`SubmitJob`; and a `SubmitJob` answered with any other error writes nothing. -/
theorem queue_pending_run {config : SchedulerConfig} {w₀ w₁ w : World} {r : Except Err Unit}
    {trace : List (Op × Except Err Unit)} (hk : w₀.store.Keys) (hq : Fresh config w₀)
    (hl : w₀.store.Lifecycle)
    (hcap : ((w₀.store.listJobsByState .pending).length : Int) ≤ config.maxQueueSize)
    (hload : Step config w₀ .loadPendingJobs r w₁) (hrun : Run config w₁ trace w)
    (hacc : ∀ p ∈ trace, ∀ e, p.2 ≠ .error (.wrap "failed to enqueue job" e)) :
    (∀ id, id ∈ w.queue.ids ↔ ∃ j ∈ w.store.jobs, j.id = id ∧ j.state = .pending) ∧
    ∀ (job : Job) (e : Err) (w₂ w₃ : World), w₂.store.Keys →
      Step config w₂ (.submitJob job) (.error e) w₃ → (∀ e', e ≠ .wrap "failed to enqueue job" e') →
      w₃.store = w₂.store := by
  have hc₁ := Reach.core (step_reach hk hload) (Core.initial hk hq hl)
  have hs := Run.invariant (P := fun w => Synced w.state)
    (Q := fun r => ∀ e, r ≠ .error (.wrap "failed to enqueue job" e))
    (fun hc h hr hs => h.synced hc hs hr) hrun hc₁ hacc (loadPendingJobs_synced hk hq hcap hload).2
  have hc := Reach.core (run_reach hc₁.keys hrun) hc₁
  exact ⟨fun id => ⟨hc.queued id, fun ⟨j, hj, hid, hp⟩ => hid ▸ hs j hj hp⟩,
    fun _ _ _ _ hk₂ h he => h.submitJob_error hk₂ he⟩

/-- The sample cluster under preemption, after the replay: `j2` runs, `j1` waits in the queue. -/
theorem queue_pending_sample : ∃ trace w,
    Step (sampleConfig 10) (sampleWorld 4 ["g1"] 10) .loadPendingJobs (.ok ()) (sampleWorld 4 ["g1"] 10) ∧
    Run (sampleConfig 10) (sampleWorld 4 ["g1"] 10) trace w ∧ w.queue.ids = ["j1"] ∧
    ∀ id, id ∈ w.queue.ids ↔ ∃ j ∈ w.store.jobs, j.id = id ∧ j.state = .pending := by
  obtain ⟨trace, w, hrun, hok, hids⟩ := exists_run (sampleConfig 10)
    [.submitJob (sampleJob "j1" 1), .submitJob (sampleJob "j2" 2), .schedulingCycle 5]
    (sampleWorld 4 ["g1"] 10) (P := fun p => (∀ x ∈ p.1, x.2.isOk = true) ∧ p.2.queue.ids = ["j1"])
    (by decide)
  have hload : Step (sampleConfig 10) (sampleWorld 4 ["g1"] 10) .loadPendingJobs (.ok ())
      (sampleWorld 4 ["g1"] 10) := rfl
  refine ⟨trace, w, hload, hrun, hids, (queue_pending_run (sampleWorld_keys 4 (by decide) 10)
    (sampleWorld_fresh 4 ["g1"] 10) (.of_none rfl) (by decide) hload hrun fun p hp e he => ?_).1⟩
  have h := hok p hp
  rw [he] at h
  exact Bool.false_ne_true h

/-- A fresh scheduler whose queue has one slot: after the replay and `SubmitJob(j1)`,
`SubmitJob(j2)` is refused by the queue, and `j2` is left stored as Pending and not queued. -/
theorem orphan_sample : ∃ trace w, Run (sampleConfig 1) (sampleWorld 4 ["g1"] 1) trace w ∧
    (trace.map fun p => p.2.isOk) = [true, true, false] ∧
    ∃ j ∈ w.store.jobs, j.state = .pending ∧ j.id ∉ w.queue.ids :=
  exists_run (sampleConfig 1)
    [.loadPendingJobs, .submitJob (sampleJob "j1" 1), .submitJob (sampleJob "j2" 1)]
    (sampleWorld 4 ["g1"] 1) (P := fun p => (p.1.map fun x => x.2.isOk) = [true, true, false] ∧
      ∃ j ∈ p.2.store.jobs, j.state = .pending ∧ j.id ∉ p.2.queue.ids) (by decide)

end GpuScheduler
