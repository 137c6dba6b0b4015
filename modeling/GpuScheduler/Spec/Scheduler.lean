import GpuScheduler.Spec.Preemptor
import GpuScheduler.Core.Scheduler
/-
# The scheduler's programs

One lemma per function of `core.Scheduler`, giving the store and the queue it leaves.  The
store-level effects of `startJob`, `freeJobResources` and `Preempt` get names of their own
(`Store.startJob`, `Store.freeJobResources`, `Store.preempt`), so that the transitions of
`System/Action.lean` can speak of them without the programs.
-/

namespace GpuScheduler

open Prog Scheduler

/-! ## 1. Usage accounting -/

namespace Store

/-- Reading tenant `tenantID` and writing it back with `UpdateUsage(...)`; a tenant that cannot
be read is left alone (`startJob` and `freeJobResources` both return before writing). -/
def charge (s : Store) (tenantID : String) (gpuDelta gpuMemDelta cpuDelta memDelta jobDelta : BitVec 64) :
    Store :=
  match s.getTenant tenantID with
  | .ok tenant => s.updateTenant (tenant.updateUsage gpuDelta gpuMemDelta cpuDelta memDelta jobDelta)
  | .error _ => s

/-- A charge writes the tenants only. -/
theorem charge_eq (s : Store) (tenantID : String) (gpuDelta gpuMemDelta cpuDelta memDelta jobDelta : BitVec 64) :
    ∃ tenants, s.charge tenantID gpuDelta gpuMemDelta cpuDelta memDelta jobDelta = { s with tenants } := by
  unfold charge
  split
  · exact ⟨_, rfl⟩
  · exact ⟨s.tenants, rfl⟩

@[simp] theorem charge_jobs (s : Store) (tenantID : String)
    (gpuDelta gpuMemDelta cpuDelta memDelta jobDelta : BitVec 64) :
    (s.charge tenantID gpuDelta gpuMemDelta cpuDelta memDelta jobDelta).jobs = s.jobs := by
  obtain ⟨ts, e⟩ := s.charge_eq tenantID gpuDelta gpuMemDelta cpuDelta memDelta jobDelta
  rw [e]

@[simp] theorem charge_allocations (s : Store) (tenantID : String)
    (gpuDelta gpuMemDelta cpuDelta memDelta jobDelta : BitVec 64) :
    (s.charge tenantID gpuDelta gpuMemDelta cpuDelta memDelta jobDelta).allocations = s.allocations := by
  obtain ⟨ts, e⟩ := s.charge_eq tenantID gpuDelta gpuMemDelta cpuDelta memDelta jobDelta
  rw [e]

@[simp] theorem charge_gpus (s : Store) (tenantID : String)
    (gpuDelta gpuMemDelta cpuDelta memDelta jobDelta : BitVec 64) :
    (s.charge tenantID gpuDelta gpuMemDelta cpuDelta memDelta jobDelta).gpus = s.gpus := by
  obtain ⟨ts, e⟩ := s.charge_eq tenantID gpuDelta gpuMemDelta cpuDelta memDelta jobDelta
  rw [e]

@[simp] theorem charge_nodes (s : Store) (tenantID : String)
    (gpuDelta gpuMemDelta cpuDelta memDelta jobDelta : BitVec 64) :
    (s.charge tenantID gpuDelta gpuMemDelta cpuDelta memDelta jobDelta).nodes = s.nodes := by
  obtain ⟨ts, e⟩ := s.charge_eq tenantID gpuDelta gpuMemDelta cpuDelta memDelta jobDelta
  rw [e]

theorem Keys.charge {s : Store} (h : s.Keys) (tenantID : String)
    (gpuDelta gpuMemDelta cpuDelta memDelta jobDelta : BitVec 64) :
    (s.charge tenantID gpuDelta gpuMemDelta cpuDelta memDelta jobDelta).Keys := by
  unfold Store.charge
  split
  · exact h.updateTenant _
  · exact h

/-- The store after `startJob(job)`: the job written as Running, its tenant charged. -/
def startJob (s : Store) (job : Job) : Store :=
  (s.updateJob { job with state := .running }).charge job.tenantID job.gpuCount job.gpuMemoryMB
    job.cpuCores job.memoryMB 1

/-- The store after `freeJobResources(job)`: every allocation of the job released as
`Completed`, its tenant given the usage back. -/
def freeJobResources (s : Store) (job : Job) : Store :=
  (s.releaseAll (s.getJobAllocations job.id) fun a => { a with state := .completed }).charge
    job.tenantID (-job.gpuCount) (-job.gpuMemoryMB) (-job.cpuCores) (-job.memoryMB) (-1)

end Store

/-! ## 2. Starting and freeing a job -/

theorem startJob_run (job : Job) (w : World) :
    ∃ r, (Scheduler.startJob job).run w = some (r, w.withStore (w.store.startJob job)) := by
  simp only [Scheduler.startJob, bind_eq, lift_bind, run_call, Call.exec, World.withStore_store,
    Store.startJob, Store.charge]
  cases (w.store.updateJob { job with state := .running }).getTenant job.tenantID <;>
    exact ⟨_, rfl⟩

/-- The allocation loop of `freeJobResources` releases each listed allocation as `Completed`. -/
theorem freeAll_run : ∀ (allocs : List Allocation) (w : World), w.store.Keys →
    (∀ a ∈ allocs, a ∈ w.store.allocations) → (allocs.map (·.id)).Nodup →
    (freeAll allocs).run w =
      some ((), w.withStore (w.store.releaseAll allocs fun a => { a with state := .completed }))
  | [], w, _, _, _ => by
    simp only [freeAll, pure_eq, run_pure, Store.releaseAll_nil, World.withStore_self]
  | a :: allocs, w, hk, hmem, hnd => by
    obtain ⟨r, hr⟩ := free_run hk (hmem a (List.mem_cons_self _ _))
    simp only [freeAll, bind_eq, run_bind, hr, Option.some_bind, Store.releaseAll_cons]
    exact freeAll_run allocs _ (hk.release _ _)
      (mem_release_tail hk a { a with state := .completed } rfl hmem hnd)
      (List.nodup_cons.mp hnd).2

theorem freeJobResources_run {w : World} (hk : w.store.Keys) (job : Job) :
    ∃ r, (Scheduler.freeJobResources job).run w =
      some (r, w.withStore (w.store.freeJobResources job)) := by
  simp only [Scheduler.freeJobResources, bind_eq, lift_bind, run_call, Call.exec, run_bind]
  rw [freeAll_run _ _ hk (jobAllocations_keys hk _).1 (jobAllocations_keys hk _).2]
  simp only [Option.some_bind, World.withStore_store, Store.freeJobResources, Store.charge]
  cases (w.store.releaseAll (w.store.getJobAllocations job.id) fun a =>
    { a with state := .completed }).getTenant job.tenantID <;> exact ⟨_, rfl⟩

theorem freeAll_noPanic : ∀ allocs, (freeAll allocs).NoPanic
  | [] => .pure ()
  | _ :: allocs => .bind (free_noPanic _) fun _ => freeAll_noPanic allocs

theorem freeJobResources_noPanic (job : Job) : (Scheduler.freeJobResources job).NoPanic := by
  simp only [Scheduler.freeJobResources, bind_eq, lift_bind]
  refine .call _ _ fun r => ?_
  cases r
  · exact .pure _
  refine .bind (freeAll_noPanic _) fun _ => .call _ _ fun r => ?_
  cases r
  · exact .pure _
  · exact .call _ _ fun _ => .pure _

/-! ## 3. `CancelJob` -/

/-- **`CancelJob(jobID)`**: a Pending job leaves the queue and is written `Cancelled`; a Running one
has its resources freed and is written `Cancelled`; anything else is refused, writing nothing. -/
theorem cancelJob_wp {jobID : String} {w : World} {Q : Except Err Unit → World → Prop}
    (hk : w.store.Keys) (hrefused : ∀ e, Q (.error e) w)
    (hpending : ∀ job ∈ w.store.jobs, job.id = jobID → job.state = .pending →
      Q (.ok ()) ((w.withQueue (w.queue.remove jobID).2).withStore
        (w.store.updateJob { job with state := .cancelled })))
    (hrunning : ∀ job ∈ w.store.jobs, job.id = jobID → job.state = .running →
      Q (.ok ()) (w.withStore ((w.store.freeJobResources { job with state := .cancelled }).updateJob
        { job with state := .cancelled }))) :
    (cancelJob jobID).wp Q w := by
  simp only [cancelJob, bind_eq, lift_bind, wp_call, Call.exec]
  cases hg : w.store.getJob jobID with
  | error e => exact hrefused e
  | ok job =>
    obtain ⟨hm, hid⟩ := (Table.get_eq_ok hk.jobs _).mp hg
    simp only [Keyed.key_job] at hid
    dsimp only
    split <;> rename_i hs
    · simp only [bind_eq, lift_bind, wp_call, Call.exec, lift, wp_pure, World.withQueue_store]
      exact hpending job hm hid hs
    · obtain ⟨r, hr⟩ := freeJobResources_run hk { job with state := .cancelled }
      simp only [bind_eq, wp_bind, wp_of_run hr, lift, wp_call, Call.exec, wp_pure,
        World.withStore_store, World.withStore_withStore]
      exact hrunning job hm hid hs
    · exact hrefused _

/-- `CancelJob` ends for every id. -/
theorem cancelJob_noPanic (jobID : String) : (cancelJob jobID).NoPanic := by
  simp only [cancelJob, bind_eq, lift_bind]
  refine .call _ _ fun r => ?_
  cases r
  · exact .pure _
  dsimp only
  split
  · exact .call _ _ fun _ => .call _ _ fun _ => .pure _
  · exact .bind (freeJobResources_noPanic _) fun _ => .call _ _ fun _ => .pure _
  · exact .pure _

/-- **`CancelJob(jobID)`, exactly**: the not-found error of `GetJob`, or a refusal naming the state
of a job neither Pending nor Running, both writing nothing; otherwise the job leaves the queue
(Pending) or frees its resources (Running), and is written `Cancelled`. -/
theorem cancelJob_run {w : World} (hk : w.store.Keys) (jobID : String) :
    ∃ r w', (cancelJob jobID).run w = some (r, w') ∧
      match w.store.getJob jobID with
      | .error e => r = .error e ∧ w' = w
      | .ok job =>
        if job.state = .pending then r = .ok () ∧
          w' = (w.withQueue (w.queue.remove jobID).2).withStore
            (w.store.updateJob { job with state := .cancelled })
        else if job.state = .running then r = .ok () ∧
          w' = w.withStore ((w.store.freeJobResources { job with state := .cancelled }).updateJob
            { job with state := .cancelled })
        else r = .error (.text ("cannot cancel job in state: " ++ job.state.name)) ∧ w' = w := by
  simp only [cancelJob, bind_eq, lift_bind, run_call, Call.exec]
  cases w.store.getJob jobID with
  | error e => exact ⟨_, _, rfl, rfl, rfl⟩
  | ok job =>
    obtain ⟨r, hr⟩ := freeJobResources_run hk { job with state := .cancelled }
    cases hs : job.state <;>
      simp [hs, bind_eq, run_bind, hr, lift, Call.exec, JobState.name]

/-! ## 4. One iteration of the cycle -/

/-- What the scheduler grants `job` when `Allocate` succeeds for it: a fitting allocation of the
job and its tenant, of exactly the GPUs, cores and memory the job asks for. -/
structure Grants (s : Store) (job : Job) (a : Allocation) : Prop where
  fits : s.Fits a
  owner : a.jobID = job.id
  tenant : a.tenantID = job.tenantID
  gpus : BitVec.ofNat 64 a.gpuIDs.length = job.gpuCount
  cores : a.cpuCores = job.cpuCores
  memory : a.memoryMB = job.memoryMB

/-- `tryAllocateJob(job)` either writes nothing or commits one allocation it `Grants` the job. -/
theorem tryAllocateJob_wp {job : Job} {w : World} {Q : Except Err Bool → World → Prop}
    (hk : w.store.Keys)
    (hrefused : ∀ e w', w'.store = w.store → w'.queue = w.queue → Q (.error e) w')
    (hcommitted : ∀ a w', Grants w.store job a →
      w'.store = w.store.commit a → w'.queue = w.queue → Q (.ok true) w') :
    (tryAllocateJob job).wp Q w := by
  simp only [tryAllocateJob, bind_eq, wp_bind]
  refine allocate_wp hk fun r w' h => ?_
  cases r with
  | error e => exact hrefused e w' h.1 h.2
  | ok r =>
    obtain ⟨a, hf, hj, ht, hc, hm, hg, rfl, hs, hq⟩ := h
    exact hcommitted a w' ⟨hf, hj, ht, hg, hc, hm⟩ hs hq

/-- `tryAllocateJob(job)` ends for a job whose GPU count is not negative. -/
theorem tryAllocateJob_noPanic {job : Job} (hc : job.gpuCount.slt 0 = false) :
    (tryAllocateJob job).NoPanic :=
  .bind (allocate_noPanic hc) fun r => by split <;> exact .pure _

/-- `tryAllocateJob(job)` panics, or refuses having written nothing, or commits one fitting
allocation; the first only for a negative GPU count (`tryAllocateJob_noPanic`). -/
theorem tryAllocateJob_run {job : Job} {w : World} (hk : w.store.Keys) :
    (tryAllocateJob job).run w = none ∨
    (∃ e w₁, (tryAllocateJob job).run w = some (.error e, w₁) ∧ w₁.store = w.store ∧
      w₁.queue = w.queue) ∨
      ∃ a w₁, (tryAllocateJob job).run w = some (.ok true, w₁) ∧ Grants w.store job a ∧
        w₁.store = w.store.commit a ∧ w₁.queue = w.queue := by
  rcases hr : (tryAllocateJob job).run w with _ | ⟨r, w₁⟩
  · exact .inl rfl
  have hQ := wp_run (Q := fun r w₁ => (∃ e, r = .error e ∧ w₁.store = w.store ∧ w₁.queue = w.queue) ∨
      r = .ok true ∧ ∃ a, Grants w.store job a ∧ w₁.store = w.store.commit a ∧ w₁.queue = w.queue)
    (tryAllocateJob_wp hk (fun e _ hs hq => .inl ⟨e, rfl, hs, hq⟩)
      (fun a _ hg hs hq => .inr ⟨rfl, a, hg, hs, hq⟩)) hr
  rcases hQ with ⟨e, rfl, hs, hq⟩ | ⟨rfl, a, hg, hs, hq⟩
  · exact .inr (.inl ⟨e, w₁, rfl, hs, hq⟩)
  · exact .inr (.inr ⟨a, w₁, rfl, hg, hs, hq⟩)

/-- **`tryPreemption(job)`** answers `false` having written nothing, or preempts one `Victim`
on the job's behalf and answers `true`. -/
theorem tryPreemption_run {w : World} (hk : w.store.Keys) (config : SchedulerConfig) (job : Job) :
    (tryPreemption config job).run w = some (false, w) ∨
      ∃ v, Victim w.store job v ∧
        (tryPreemption config job).run w = some (true, w.withStore (w.store.preempt v job.id)) := by
  unfold tryPreemption
  cases hp : config.enablePreemption
  · exact .inl rfl
  · obtain ⟨victims, hrun, hlen, hv⟩ := selectVictims_run job w
    simp only [Bool.not_true, Bool.false_eq_true, if_false, bind_eq, pure_eq, run_bind, run_pure,
      Option.some_bind, hrun]
    rcases victims with _ | ⟨v, _ | ⟨_, _⟩⟩
    · exact .inl rfl
    · refine .inr ⟨v, hv v (List.mem_singleton_self v), ?_⟩
      simp only [preemptAll, bind_eq, run_bind, preempt_run hk, Option.some_bind]
      rfl
    · simp at hlen

/-! ## 5. `SubmitJob` and the start-up replay -/

/-- What `SubmitJob(job)` may do: refuse, writing nothing; or, once the job is valid and its tenant
admits it, store it as Pending (stamped `t`) under an id no stored job has, then try to enqueue
it, answering the queue's refusal, wrapped, if there is one. -/
def SubmitOutcome (job : Job) (w : World) (r : Except Err Unit) (w' : World) : Prop :=
  (w'.store = w.store ∧ w'.queue = w.queue ∧ ∃ e, r = .error e) ∨
    ∃ tenant ∈ w.store.tenants, tenant.id = job.tenantID ∧ validateJob job = .ok () ∧
      tenant.hasAvailableQuota job.gpuCount job.gpuMemoryMB job.cpuCores job.memoryMB = true ∧
      ∃ t now, (∀ j ∈ w.store.jobs, j.id ≠ job.id) ∧
        w'.store = { w.store with
          jobs := w.store.jobs ++ [{ job with state := .pending, submittedAt := t }] } ∧
        match w.queue.enqueue { job with state := .pending, submittedAt := t } now with
        | .ok q => w'.queue = q ∧ r = .ok ()
        | .error e => w'.queue = w.queue ∧ r = .error (.wrap "failed to enqueue job" e)

theorem submitJob_run {w : World} (hk : w.store.Keys) (job : Job) :
    ∃ r w', (submitJob job).run w = some (r, w') ∧ SubmitOutcome job w r w' := by
  unfold submitJob
  cases hv : validateJob job with
  | error e => exact ⟨_, _, rfl, .inl ⟨rfl, rfl, _, rfl⟩⟩
  | ok u =>
    simp only [bind_eq, lift_bind, run_call, Call.exec]
    cases ht : w.store.getTenant job.tenantID with
    | error e => exact ⟨_, _, rfl, .inl ⟨rfl, rfl, _, rfl⟩⟩
    | ok tenant =>
      obtain ⟨htm, htid⟩ := (Table.get_eq_ok hk.tenants _).mp ht
      simp only [Keyed.key_tenant] at htid
      dsimp only
      split_ifs with hq
      · exact ⟨_, _, rfl, .inl ⟨rfl, rfl, _, rfl⟩⟩
      simp only [pure_eq, pure_bind, lift_bind, run_call, Call.exec, World.advance_store]
      cases hc : w.store.createJob { job with state := .pending, submittedAt := w.now } with
      | error e => exact ⟨_, _, rfl, .inl ⟨rfl, rfl, _, rfl⟩⟩
      | ok s =>
        obtain ⟨hfresh, rfl⟩ := Store.createJob_eq_ok.mp hc
        have hq' : tenant.hasAvailableQuota job.gpuCount job.gpuMemoryMB job.cpuCores
            job.memoryMB = true := by simpa using hq
        simp only [tryWrite, run_call, Call.exec, World.withStore_queue, World.advance_queue,
          World.withStore_now]
        cases he : w.queue.enqueue { job with state := .pending, submittedAt := w.now }
            w.advance.now <;>
          exact ⟨_, _, rfl, .inr ⟨tenant, htm, htid, hv, hq', w.now, w.advance.now, hfresh, rfl,
            by rw [he]; exact ⟨rfl, rfl⟩⟩⟩

/-- **`SubmitJob` answers a quota error exactly when the job is valid and its stored tenant's
`HasAvailableQuota` refuses it.**  That error is the `QuotaExceededError` naming the tenant's GPU
ceiling and usage, returned having written nothing; every later refusal wraps a key or a queue
error. -/
theorem submitJob_quota {w w' : World} (hk : w.store.Keys) {job : Job} {r : Except Err Unit}
    (h : (submitJob job).run w = some (r, w')) :
    ((∃ e, r = .error e ∧ isQuotaExceeded e = true) ↔ validateJob job = .ok () ∧
      ∃ t ∈ w.store.tenants, t.id = job.tenantID ∧
        t.hasAvailableQuota job.gpuCount job.gpuMemoryMB job.cpuCores job.memoryMB = false) ∧
    ∀ e, r = .error e → isQuotaExceeded e = true → w' = w ∧ ∃ t ∈ w.store.tenants,
      t.id = job.tenantID ∧ e = .quotaExceeded t.id "GPUs" job.gpuCount t.maxGPUs t.currentGPUs := by
  unfold submitJob at h
  cases hv : validateJob job with
  | error e₀ =>
    -- `validateJob`'s errors are texts, no quota error even wrapped
    rw [hv] at h
    cases h
    have hqe : isQuotaExceeded (.wrap "job validation failed" e₀) = false := by
      unfold validateJob at hv
      split_ifs at hv <;> cases hv <;> rfl
    simp [hqe]
  | ok u =>
    rw [hv] at h
    simp only [bind_eq, lift_bind, run_call, Call.exec] at h
    cases ht : w.store.getTenant job.tenantID with
    | error e₀ =>
      rw [ht] at h
      cases h
      obtain ⟨rfl, hno⟩ := Table.get_eq_error_iff.mp ht
      have hqe : isQuotaExceeded (.wrap "failed to get tenant" (.sentinel .tenantNotFound)) =
        false := rfl
      refine ⟨iff_of_false (by simp [hqe]) ?_, by simp [hqe]⟩
      rintro ⟨-, t, ht, hid, -⟩
      exact hno t ht (by simpa using hid)
    | ok tenant =>
      rw [ht] at h
      obtain ⟨htm, htid⟩ := (Table.get_eq_ok hk.tenants _).mp ht
      simp only [Keyed.key_tenant] at htid
      dsimp only at h
      split_ifs at h with hq
      · cases h
        exact ⟨iff_of_true ⟨_, rfl, rfl⟩ ⟨rfl, tenant, htm, htid, by simpa using hq⟩,
          fun e he _ => ⟨rfl, tenant, htm, htid, (Except.error.inj he).symm⟩⟩
      simp only [Prog.pure_eq, Prog.pure_bind] at h
      -- past the quota check every refusal wraps a key or queue error
      have hfalse : ∀ e, r = .error e → isQuotaExceeded e = false := by
        simp only [lift_bind, run_call, Call.exec, World.advance_store] at h
        cases hc : w.store.createJob { job with state := .pending, submittedAt := w.now } with
        | error e₀ =>
          rw [hc] at h
          cases h
          rintro _ ⟨⟩
          rw [Store.createJob_eq_error hc]
          rfl
        | ok s =>
          rw [hc] at h
          simp only [tryWrite, run_call, Call.exec] at h
          split at h <;> rename_i he <;> cases h
          · rintro _ ⟨⟩
            split at he <;> cases he
            rcases Queue.enqueue_eq_error ‹_› with rfl | rfl <;> rfl
          · rintro _ ⟨⟩
      refine ⟨iff_of_false (fun ⟨e, he, hqe⟩ => by simp [hfalse e he] at hqe) ?_,
        fun e he hqe => by simp [hfalse e he] at hqe⟩
      rintro ⟨-, t, ht', hid, hq'⟩
      rw [hk.tenants.inj ht' htm (by simpa [htid] using hid)] at hq'
      simp [hq'] at hq

/-- `loadPendingJobs`' loop leaves the store alone; any property of the queue that every accepted
`Enqueue` of one of the jobs keeps holds at its end. -/
theorem enqueueAll_wp (P : Queue → Prop) : ∀ (jobs : List Job) {w : World} {Q : Unit → World → Prop},
    (∀ w', w'.store = w.store → P w'.queue → Q () w') → P w.queue →
    (∀ job ∈ jobs, ∀ q now q', P q → q.enqueue job now = .ok q' → P q') →
    (enqueueAll jobs).wp Q w
  | [], w, _, hQ, h0, _ => hQ w rfl h0
  | job :: jobs, w, Q, hQ, h0, hstep => by
    simp only [enqueueAll, bind_eq, lift_bind, wp_call, Call.exec]
    have hrest := fun job' (h : job' ∈ jobs) => hstep job' (List.mem_cons_of_mem _ h)
    split <;> rename_i he
    · exact enqueueAll_wp P jobs (fun w' hs => hQ w' hs) (hstep job (List.mem_cons_self _ _) _ _ _ h0 he) hrest
    · exact enqueueAll_wp P jobs (fun w' hs => hQ w' hs) h0 hrest

/-- **`loadPendingJobs`** offers every stored Pending job to the queue and writes nothing. -/
theorem loadPendingJobs_wp (P : Queue → Prop) {w : World} {Q : Except Err Unit → World → Prop}
    (hQ : ∀ w', w'.store = w.store → P w'.queue → Q (.ok ()) w') (h0 : P w.queue)
    (hstep : ∀ job ∈ w.store.jobs, job.state = .pending →
      ∀ q now q', P q → q.enqueue job now = .ok q' → P q') :
    loadPendingJobs.wp Q w := by
  simp only [loadPendingJobs, bind_eq, lift_bind, wp_call, Call.exec, wp_bind]
  refine enqueueAll_wp P _ (fun w' hs hp => hQ w' hs hp) h0 fun job hj => ?_
  simp only [Store.listJobsByState, List.mem_filter, beq_iff_eq] at hj
  exact hstep job hj.1 hj.2

theorem enqueueAll_noPanic : ∀ jobs, (enqueueAll jobs).NoPanic
  | [] => .pure ()
  | _ :: jobs => .call _ _ fun _ => enqueueAll_noPanic jobs

/-- The start-up replay ends. -/
theorem loadPendingJobs_noPanic : loadPendingJobs.NoPanic := by
  simp only [loadPendingJobs, bind_eq, lift_bind]
  refine .call _ _ fun r => ?_
  cases r
  · exact .pure _
  · exact .bind (enqueueAll_noPanic _) fun _ => .pure _

/-! ## 6. `GetJobStatus` -/

theorem estimateWaitTime_run (job : Job) (w : World) :
    ∃ t, (estimateWaitTime job).run w = some (t, w) := by
  simp only [estimateWaitTime, bind_eq, lift_bind, run_call, Call.exec]
  split <;> exact ⟨_, rfl⟩

/-- **`GetJobStatus(jobID)`** writes nothing; it answers the stored job's id and state, and for a
Running job the GPUs and node of the first allocation listed for it, for any other none. -/
theorem getJobStatus_run (jobID : String) (w : World) :
    ∃ r, (getJobStatus jobID).run w = some (r, w) ∧
      match r with
      | .error e => w.store.getJob jobID = .error e
      | .ok st => ∃ j, w.store.getJob jobID = .ok j ∧ st.jobID = j.id ∧ st.state = j.state ∧
          (j.state = .running → ∀ a rest, w.store.getJobAllocations jobID = a :: rest →
            st.allocatedGPUs = a.gpuIDs ∧ st.nodeName = a.nodeID) ∧
          (j.state ≠ .running → st.allocatedGPUs = [] ∧ st.nodeName = "") := by
  simp only [getJobStatus, bind_eq, lift_bind, run_call, Call.exec]
  cases w.store.getJob jobID with
  | error e => exact ⟨_, rfl, rfl⟩
  | ok job =>
    dsimp only
    by_cases hp : job.state = .pending
    · obtain ⟨t, ht⟩ := estimateWaitTime_run job w
      simp [hp, run_bind, Call.exec, ht]
    by_cases hr : job.state = .running
    · simp [hp, hr, run_bind, Call.exec]
      split <;> simp_all
    · simp [hp, hr, run_bind]

end GpuScheduler
