import GpuScheduler.System.Startup
/-
# What the scheduler's guards buy over whole runs

`Move` (`System/Policy.lean`) records the guards the code checks before each transition.  This
file proves what they give over every sequential run of a fresh scheduler:

* **No run rewrites what a job asks for** (`job_requests_run`): every stored job stays stored
  with the same `Job.request` (tenant, priority, GPUs, GPU memory, cores, memory, gang flag), and
  every job a run stores is one `validateJob` accepted.
* **Preemption only ever favours a higher priority** (`preempted_fairly_run`): every allocation
  in state `Preempted` is of a job of a tenant that allows preemption, and names as
  `PreemptedBy` a stored job of strictly higher priority.
* **Every allocation holds exactly what its job asks for** (`allocations_sized_run`): its
  tenant, its cores and memory, and as many GPUs as the job's `GPUCount`.
* **No reachable state makes an operation panic** (`operations_complete_run`): from a store
  whose jobs ask for no negative number of GPUs, every stored job keeps asking for a
  non-negative number, so `bestFitSchedule` never slices with a negative bound, and every
  operation returns, a cycle with any fuel included.

All four rest on `Faithful`: the core invariant, and every queued entry carries its job exactly
as the store holds it.  The cycle starts the job `Peek` returned and preempts on its behalf, so
without it what the cycle decides about the head would be decided about a copy.
-/

namespace GpuScheduler

/-! ## 1. What a job asks for -/

/-- What a job asks for and on whose behalf: the fields of `models.Job` that no step of the
scheduler rewrites. -/
structure JobRequest where
  id : String
  tenantID : String
  priority : BitVec 64
  gpuCount : BitVec 64
  gpuMemoryMB : BitVec 64
  cpuCores : BitVec 64
  memoryMB : BitVec 64
  gangScheduling : Bool
  deriving DecidableEq

/-- The request of a job. -/
def Job.request (j : Job) : JobRequest :=
  ⟨j.id, j.tenantID, j.priority, j.gpuCount, j.gpuMemoryMB, j.cpuCores, j.memoryMB, j.gangScheduling⟩

/-- `validateJob` reads only the request. -/
theorem Scheduler.validateJob_congr {j j' : Job} (h : j.request = j'.request) :
    Scheduler.validateJob j = Scheduler.validateJob j' := by
  simp only [Scheduler.validateJob, show j.gpuCount = j'.gpuCount from congrArg JobRequest.gpuCount h,
    show j.tenantID = j'.tenantID from congrArg JobRequest.tenantID h]

/-- `validateJob` accepts only jobs asking for a positive number of GPUs. -/
theorem Scheduler.gpuCount_pos_of_validateJob {j : Job} (h : Scheduler.validateJob j = .ok ()) :
    0 < j.gpuCount.toInt := by
  unfold Scheduler.validateJob at h
  split_ifs at h with hle
  simpa [BitVec.sle] using hle

namespace Store

/-- Every job of `s` is still stored in `s'`, asking for the same. -/
def Keeps (s s' : Store) : Prop := ∀ j ∈ s.jobs, ∃ j' ∈ s'.jobs, j'.request = j.request

/-- Every job of `s'` was stored in `s`, asking for the same, or is one `validateJob` accepts. -/
def Admitted (s s' : Store) : Prop :=
  ∀ j' ∈ s'.jobs, (∃ j ∈ s.jobs, j.request = j'.request) ∨ Scheduler.validateJob j' = .ok ()

/-- Every tenant of `s` is still stored in `s'`, with the same `AllowPreemption`. -/
def KeepsTenants (s s' : Store) : Prop :=
  ∀ t ∈ s.tenants, ∃ t' ∈ s'.tenants, t'.id = t.id ∧ t'.allowPreemption = t.allowPreemption

theorem Keeps.trans {s₁ s₂ s₃ : Store} (h₁ : s₁.Keeps s₂) (h₂ : s₂.Keeps s₃) : s₁.Keeps s₃ :=
  fun j hj => by
    obtain ⟨j₂, hj₂, e₂⟩ := h₁ j hj
    obtain ⟨j₃, hj₃, e₃⟩ := h₂ j₂ hj₂
    exact ⟨j₃, hj₃, e₃.trans e₂⟩

theorem Admitted.trans {s₁ s₂ s₃ : Store} (h₁ : s₁.Admitted s₂) (h₂ : s₂.Admitted s₃) :
    s₁.Admitted s₃ := fun j₃ hj₃ => by
  rcases h₂ j₃ hj₃ with ⟨j₂, hj₂, e₂⟩ | hv
  · rcases h₁ j₂ hj₂ with ⟨j₁, hj₁, e₁⟩ | hv
    · exact .inl ⟨j₁, hj₁, e₁.trans e₂⟩
    · exact .inr ((Scheduler.validateJob_congr e₂).symm.trans hv)
  · exact .inr hv

theorem KeepsTenants.trans {s₁ s₂ s₃ : Store} (h₁ : s₁.KeepsTenants s₂) (h₂ : s₂.KeepsTenants s₃) :
    s₁.KeepsTenants s₃ := fun t ht => by
  obtain ⟨t₂, ht₂, i₂, a₂⟩ := h₁ t ht
  obtain ⟨t₃, ht₃, i₃, a₃⟩ := h₂ t₂ ht₂
  exact ⟨t₃, ht₃, i₃.trans i₂, a₃.trans a₂⟩

theorem KeepsTenants.of_eq {s s' : Store} (h : s'.tenants = s.tenants) : s.KeepsTenants s' :=
  fun t ht => ⟨t, h ▸ ht, rfl, rfl⟩

/-- Writing a stored job's row back, asking for the same, keeps and admits every job. -/
theorem keeps_save {s s' : Store} (hk : Table.Keys s.jobs) {j₀ : Job} (hj₀ : j₀ ∈ s.jobs)
    (j : Job) (hreq : j.request = j₀.request) (hjobs : s'.jobs = Table.save j s.jobs) :
    s.Keeps s' ∧ s.Admitted s' := by
  rw [Keeps, Admitted, hjobs]
  refine ⟨fun x hx => ?_, fun x' hx' => .inl ?_⟩
  · by_cases e : x.id = j.id
    · obtain rfl := hk.inj hx hj₀ (e.trans (congrArg JobRequest.id hreq))
      exact ⟨j, (Table.mem_save hk).mpr (.inl rfl), hreq⟩
    · exact ⟨x, (Table.mem_save hk).mpr (.inr ⟨hx, e⟩), rfl⟩
  · rcases (Table.mem_save hk).mp hx' with rfl | ⟨hx', -⟩
    · exact ⟨j₀, hj₀, hreq.symm⟩
    · exact ⟨x', hx', rfl⟩

/-- A charge rewrites one tenant's usage and nothing else of it. -/
theorem keepsTenants_charge {s b s' : Store} {tenantID : String} {dg dgm dc dm dj : BitVec 64}
    (hk : Table.Keys s.tenants) (hs' : s'.tenants = (b.charge tenantID dg dgm dc dm dj).tenants)
    (hb : b.tenants = s.tenants) : s.KeepsTenants s' :=
  fun t ht => by
    rw [hs', charge]
    rw [← hb] at hk ht
    split
    · rename_i t₀ hg
      by_cases e : t.id = t₀.id
      · obtain rfl := hk.inj ht ((Table.get_eq_ok hk _).mp hg).1 e
        exact ⟨_, (Table.mem_save hk).mpr (.inl rfl), rfl, rfl⟩
      · exact ⟨t, (Table.mem_save hk).mpr (.inr ⟨ht, e⟩), rfl, rfl⟩
    · exact ⟨t, ht, rfl, rfl⟩

/-- The allocation rows after releasing `allocs`: rows that were there, and released ones. -/
theorem mem_releaseAll {f : Allocation → Allocation} :
    ∀ {s : Store} {allocs : List Allocation} {b : Allocation}, s.Keys →
      b ∈ (s.releaseAll allocs f).allocations → b ∈ s.allocations ∨ ∃ c ∈ allocs, b = f c
  | _, [], _, _, hb => .inl hb
  | _, c :: _, _, hk, hb => by
    rcases mem_releaseAll (hk.release c (f c)) hb with hb | ⟨c', hc', rfl⟩
    · rcases (mem_release hk).mp hb with rfl | ⟨hb, -⟩
      · exact .inr ⟨c, List.mem_cons_self _ _, rfl⟩
      · exact .inl hb
    · exact .inr ⟨c', List.mem_cons_of_mem _ hc', rfl⟩

end Store

/-! ## 2. Queued entries are the stored jobs -/

/-- The core invariant, and every queued entry carries its job exactly as the store holds it. -/
structure Faithful (st : Store × Queue) : Prop where
  core : Core st
  stored : ∀ e ∈ st.2.entries, e.job ∈ st.1.jobs

namespace Queue

variable {q : Queue}

/-- The entries `Remove` leaves are entries it found, none of them of the removed id. -/
theorem Valid.entries_remove (h : q.Valid) (jobID : String) {e : Entry}
    (he : e ∈ (q.remove jobID).2.entries) : e ∈ q.entries ∧ e.job.id ≠ jobID := by
  refine ⟨?_, ((h.mem_ids_remove jobID e.job.id).mp (List.mem_map_of_mem _ he)).2⟩
  rcases remove_spec h jobID with ⟨-, -, hq⟩ | ⟨_, -, -, hp⟩
  · rwa [hq] at he
  · exact hp.subset (List.mem_cons_of_mem _ he)

/-- The entries `Dequeue` leaves are entries it found, none of them of the head's id. -/
theorem Valid.entries_dequeue (h : q.Valid) {job : Job} (hp : q.peek = some job) {e : Entry}
    (he : e ∈ q.dequeue.2.entries) : e ∈ q.entries ∧ e.job.id ≠ job.id := by
  have h0 : q.size ≠ 0 := fun h0 => by simp [peek, h0] at hp
  refine ⟨(dequeue_entries (Nat.pos_of_ne_zero h0)).subset (List.mem_cons_of_mem _ he), ?_⟩
  exact ((h.mem_ids_dequeue hp e.job.id).mp (List.mem_map_of_mem _ he)).2

end Queue

/-- The head of a faithful queue is a stored job. -/
theorem Faithful.head {s : Store} {q : Queue} (hf : Faithful (s, q)) {job : Job}
    (hp : q.peek = some job) : job ∈ s.jobs := by
  have h0 : q.size ≠ 0 := fun h0 => by simp [Queue.peek, h0] at hp
  obtain rfl := Option.some.inj ((Queue.peek_front h0).symm.trans hp)
  exact hf.stored _ (Queue.front_mem (Nat.pos_of_ne_zero h0))

/-- Queued entries keep their stored job when the row of a job they do not name is rewritten. -/
theorem stored_save {s s' : Store} {q q' : Queue} (hk : Table.Keys s.jobs)
    (hq : ∀ e ∈ q.entries, e.job ∈ s.jobs) (j : Job) (hjobs : s'.jobs = Table.save j s.jobs)
    (hq' : ∀ e ∈ q'.entries, e ∈ q.entries ∧ e.job.id ≠ j.id) : ∀ e ∈ q'.entries, e.job ∈ s'.jobs :=
  fun e he => by
    obtain ⟨he, hne⟩ := hq' e he
    rw [hjobs]
    exact (Table.mem_save hk).mpr (.inr ⟨hq e he, hne⟩)

/-- A Running job is not queued: its row can be rewritten under a faithful queue. -/
theorem Faithful.not_queued {s : Store} {q : Queue} (hf : Faithful (s, q)) {j : Job}
    (hj : j ∈ s.jobs) (hr : j.state = .running) : ∀ e ∈ q.entries, e ∈ q.entries ∧ e.job.id ≠ j.id :=
  fun _ he => ⟨he, (hf.core.not_queued hj hr _ (List.mem_map_of_mem _ he)).2⟩

/-- **Every move keeps the queue faithful.** -/
theorem Move.faithful {st st' : Store × Queue} (h : Move st st') (hf : Faithful st) : Faithful st' := by
  refine ⟨h.action.core hf.core, ?_⟩
  have hk := hf.core.keys.jobs
  cases h with
  | create job fresh => exact fun e he => List.mem_append_left _ (hf.stored e he)
  | enqueue job now stored pending accepted =>
    intro e he
    rcases List.mem_append.mp ((Queue.enqueue_ok hf.core.valid accepted).2.2.2.2.subset he) with
      he | he
    · exact hf.stored e he
    · rw [List.mem_singleton.mp he]
      exact stored
  | cancelPending job =>
    exact stored_save hk hf.stored { job with state := .cancelled } rfl
      fun _ => hf.core.valid.entries_remove job.id
  | cancelRunning job stored running =>
    exact stored_save hk hf.stored { job with state := .cancelled }
      (by simp [Store.updateJob, Store.freeJobResources])
      (hf.not_queued stored running :)
  | cycle h =>
    cases h with
    | start job a head =>
      exact stored_save hk hf.stored { job with state := .running }
        (by simp [Store.startJob, Store.updateJob, Store.commit])
        fun _ => hf.core.valid.entries_dequeue head
    | preempt _ job v _ victim =>
      exact stored_save hk hf.stored
        { v with state := .preempted, preemptedCount := v.preemptedCount + 1 }
        (by simp [Store.preempt, Store.updateJob])
        (hf.not_queued victim.stored victim.running :)
  | age =>
    intro e he
    obtain ⟨x, hx, hjob⟩ := Queue.applyAging_job he
    exact hjob ▸ hf.stored x hx

/-- **No move rewrites what a stored job asks for**, and every job a move stores is one
`validateJob` accepted. -/
theorem Move.jobs {st st' : Store × Queue} (h : Move st st') (hf : Faithful st) :
    st.1.Keeps st'.1 ∧ st.1.Admitted st'.1 := by
  have hk := hf.core.keys.jobs
  cases h with
  | create job fresh pending valid =>
    refine ⟨fun j hj => ⟨j, List.mem_append_left _ hj, rfl⟩, fun j' hj' => ?_⟩
    rcases List.mem_append.mp hj' with hj' | hj'
    · exact .inl ⟨j', hj', rfl⟩
    · exact .inr (List.mem_singleton.mp hj' ▸ valid)
  | enqueue | age => exact ⟨fun j hj => ⟨j, hj, rfl⟩, fun j hj => .inl ⟨j, hj, rfl⟩⟩
  | cancelPending job stored => exact Store.keeps_save hk stored { job with state := .cancelled } rfl rfl
  | cancelRunning job stored =>
    exact Store.keeps_save hk stored { job with state := .cancelled } rfl
      (by simp [Store.updateJob, Store.freeJobResources])
  | cycle h =>
    cases h with
    | start job a head =>
      exact Store.keeps_save hk (hf.head head) { job with state := .running } rfl
        (by simp [Store.startJob, Store.updateJob, Store.commit])
    | preempt _ job v _ victim =>
      exact Store.keeps_save hk victim.stored
        { v with state := .preempted, preemptedCount := v.preemptedCount + 1 } rfl
        (by simp [Store.preempt, Store.updateJob])

/-- **No move drops a tenant or changes whether it allows preemption.** -/
theorem Move.tenants {st st' : Store × Queue} (h : Move st st') (hc : Core st) :
    st.1.KeepsTenants st'.1 := by
  cases h with
  | create | enqueue | cancelPending | age => exact Store.KeepsTenants.of_eq rfl
  | cancelRunning job => exact Store.keepsTenants_charge hc.keys.tenants rfl (Store.releaseAll_tenants _ _ _)
  | cycle h =>
    cases h with
    | start job a =>
      exact Store.keepsTenants_charge hc.keys.tenants rfl rfl
    | preempt _ job v => exact Store.KeepsTenants.of_eq (Store.preempt_tenants _ _ _)

/-- Every sequence of moves from a faithful state keeps the queue faithful and any property that
every move from a faithful state keeps. -/
theorem Moves.invariant {P : Store × Queue → Prop}
    (hstep : ∀ {st st' : Store × Queue}, Faithful st → Move st st' → P st → P st')
    {st st' : Store × Queue} (h : Relation.ReflTransGen Move st st') (hf : Faithful st)
    (hp : P st) : Faithful st' ∧ P st' := by
  induction h with
  | refl => exact ⟨hf, hp⟩
  | tail _ hm ih => exact ⟨hm.faithful ih.1, hstep ih.1 hm ih.2⟩

/-- A fresh scheduler's queue is empty, so faithful. -/
theorem Faithful.initial {config : SchedulerConfig} {w : World} (hk : w.store.Keys)
    (hq : Fresh config w) (hnone : w.store.allocations = []) : Faithful w.state :=
  ⟨Core.initial hk hq (.of_none hnone), fun e he => by
    rw [World.state_snd, hq, Queue.new_entries] at he
    exact absurd he (List.not_mem_nil e)⟩

/-- Along every sequence of moves from a faithful state, every job stays stored asking for the
same, and every job stored at the end was stored at the start or is one `validateJob` accepted. -/
theorem Moves.jobs {st st' : Store × Queue} (h : Relation.ReflTransGen Move st st')
    (hf : Faithful st) : st.1.Keeps st'.1 ∧ st.1.Admitted st'.1 ∧ st.1.KeepsTenants st'.1 := by
  refine (Moves.invariant (P := fun st' => st.1.Keeps st'.1 ∧ st.1.Admitted st'.1 ∧
    st.1.KeepsTenants st'.1) (fun hf hm ⟨hj, ha, ht⟩ => ?_) h hf
    ⟨fun j hj => ⟨j, hj, rfl⟩, fun j hj => .inl ⟨j, hj, rfl⟩, Store.KeepsTenants.of_eq rfl⟩).2
  obtain ⟨hj', ha'⟩ := hm.jobs hf
  exact ⟨hj.trans hj', ha.trans ha', ht.trans (hm.tenants hf.core)⟩

/-- **No run rewrites what a job asks for.**  Between any two states of a sequential run of a
fresh scheduler over a store with unique keys and no allocation, every stored job stays stored
asking for the same (id, tenant, priority, GPUs, GPU memory, cores, memory, gang flag), and
every job stored at the later state was stored at the earlier one asking for the same, or is
one `validateJob` accepted: one to eight GPUs, a tenant id. -/
theorem job_requests_run {config : SchedulerConfig} {w₀ w₁ w₂ : World}
    {t₁ t₂ : List (Op × Except Err Unit)} (hk : w₀.store.Keys) (hq : Fresh config w₀)
    (hnone : w₀.store.allocations = []) (h₁ : Run config w₀ t₁ w₁) (h₂ : Run config w₁ t₂ w₂) :
    (∀ j ∈ w₁.store.jobs, ∃ j' ∈ w₂.store.jobs, j'.request = j.request) ∧
      ∀ j' ∈ w₂.store.jobs, (∃ j ∈ w₁.store.jobs, j.request = j'.request) ∨
        Scheduler.validateJob j' = .ok () := by
  have hf₁ := (Moves.invariant (P := fun _ => True) (fun _ _ _ => trivial) (run_moves hk h₁)
    (Faithful.initial hk hq hnone) trivial).1
  obtain ⟨hj, ha, -⟩ := Moves.jobs (run_moves hf₁.core.keys h₂) hf₁
  exact ⟨hj, ha⟩

theorem reloadWorld_keys : reloadWorld.store.Keys :=
  { sampleWorld_keys 4 (List.nodup_singleton _) 10 with
    jobs := show ([pendingJob "j2" 2, pendingJob "j1" 1].map Keyed.key).Nodup by decide }

/-- After a restart the replay queues `j2` and `j1` and a cycle starts `j2`, which keeps what
it asked for. -/
theorem job_requests_sample : ∃ t w, Run (sampleConfig 10) reloadWorld t w ∧
    (∃ j ∈ w.store.jobs, j.id = "j2" ∧ j.state = .running) ∧
    (∀ j ∈ reloadWorld.store.jobs, ∃ j' ∈ w.store.jobs, j'.request = j.request) ∧
      ∀ j' ∈ w.store.jobs, (∃ j ∈ reloadWorld.store.jobs, j.request = j'.request) ∨
        Scheduler.validateJob j' = .ok () := by
  obtain ⟨t, w, h, hp⟩ := exists_run_to (sampleConfig 10) [.loadPendingJobs, .schedulingCycle 5]
    reloadWorld (P := fun w => ∃ j ∈ w.store.jobs, j.id = "j2" ∧ j.state = .running) (by decide)
  exact ⟨t, w, h, hp, job_requests_run reloadWorld_keys (by exact rfl) rfl (.nil _) h⟩

/-! ## 3. Preemption only favours a higher priority -/

namespace Store

/-- Allocation `a` was taken fairly in `s`: its job is stored, of a tenant that allows
preemption, and its preemptor is a stored job of strictly higher priority. -/
def FairlyPreempted (s : Store) (a : Allocation) : Prop :=
  ∃ v ∈ s.jobs, v.id = a.jobID ∧ (∃ t ∈ s.tenants, t.id = v.tenantID ∧ t.allowPreemption = true) ∧
    ∃ k ∈ s.jobs, k.id = a.preemptedBy ∧ v.priority.slt k.priority = true

/-- Every allocation in state `Preempted` was taken fairly. -/
def PreemptedFairly (s : Store) : Prop :=
  ∀ a ∈ s.allocations, a.state = .preempted → s.FairlyPreempted a

/-- A fair preemption stays fair while the jobs keep their requests and the tenants their flag. -/
theorem FairlyPreempted.keep {s s' : Store} {a : Allocation} (h : s.FairlyPreempted a)
    (hj : s.Keeps s') (ht : s.KeepsTenants s') : s'.FairlyPreempted a := by
  obtain ⟨v, hv, hvid, ⟨t, hten, htid, hallow⟩, k, hk, hkid, hlt⟩ := h
  obtain ⟨v', hv', ev⟩ := hj v hv
  obtain ⟨t', ht', et, ea⟩ := ht t hten
  obtain ⟨k', hk', ek⟩ := hj k hk
  refine ⟨v', hv', (congrArg JobRequest.id ev).trans hvid,
    ⟨t', ht', et.trans (htid.trans (congrArg JobRequest.tenantID ev).symm), ea.trans hallow⟩,
    k', hk', (congrArg JobRequest.id ek).trans hkid, ?_⟩
  rw [show v'.priority = v.priority from congrArg JobRequest.priority ev,
    show k'.priority = k.priority from congrArg JobRequest.priority ek]
  exact hlt

end Store

/-- **Every move keeps every preemption fair.**  `CancelJob` releases allocations as Completed and
a start adds an Active one; a `preempt` move takes the allocations of a `Victim` of the head of
the queue, a stored job of strictly higher priority. -/
theorem Move.preemptedFairly {st st' : Store × Queue} (h : Move st st') (hf : Faithful st)
    (hp : st.1.PreemptedFairly) : st'.1.PreemptedFairly := by
  obtain ⟨hj, -⟩ := h.jobs hf
  have old : ∀ b ∈ st.1.allocations, b.state = .preempted → st'.1.FairlyPreempted b :=
    fun b hb hs => (hp b hb hs).keep hj (h.tenants hf.core)
  have hk := hf.core.keys
  cases h with
  | create | enqueue | cancelPending | age => exact old
  | @cancelRunning s q job =>
    intro b hb hs
    have hb : b ∈ (s.releaseAll (s.getJobAllocations job.id) fun a => { a with state := .completed }).allocations := by
      simpa [Store.updateJob, Store.freeJobResources] using hb
    rcases Store.mem_releaseAll hk hb with hb | ⟨c, -, rfl⟩
    · exact old b hb hs
    · cases hs
  | cycle h =>
    cases h with
    | @start s q job a head grants =>
      intro b hb hs
      have hb : b ∈ s.allocations ++ [a] := by
        simpa [Store.startJob, Store.updateJob, Store.commit] using hb
      rcases List.mem_append.mp hb with hb | hb
      · exact old b hb hs
      · rw [List.mem_singleton.mp hb, grants.fits.active] at hs
        cases hs
    | @preempt s q _ job v head victim =>
      intro b hb hs
      rcases Store.mem_releaseAll (hk.updateJob _) hb with hb | ⟨c, hc, rfl⟩
      · exact old b hb hs
      -- taken now: the victim's new row, its tenant, and the head of the queue, all stored
      obtain ⟨t, hten, htid, hallow⟩ := victim.allowed
      obtain ⟨k, hk', ek⟩ := hj job (hf.head head)
      have hv' : { v with state := .preempted, preemptedCount := v.preemptedCount + 1 } ∈
          (s.preempt v job.id).jobs := by
        simpa [Store.preempt, Store.updateJob] using (Table.mem_save hk.jobs).mpr (.inl rfl)
      refine ⟨_, hv', (Store.mem_getJobAllocations.mp hc).2.symm,
        ⟨t, by simpa using hten, htid, hallow⟩, k, hk', congrArg JobRequest.id ek, ?_⟩
      rw [show k.priority = job.priority from congrArg JobRequest.priority ek]
      exact victim.lower

/-- **Preemption only ever favours a higher priority.**  In every state of a sequential run of a
fresh scheduler over a store with unique keys and no allocation, every allocation in state
`Preempted` is of a stored job of a tenant that allows preemption, and its `PreemptedBy` is the
id of a stored job of strictly higher priority (signed 64-bit comparison). -/
theorem preempted_fairly_run {config : SchedulerConfig} {w₀ w : World}
    {trace : List (Op × Except Err Unit)} (hk : w₀.store.Keys) (hq : Fresh config w₀)
    (hnone : w₀.store.allocations = []) (h : Run config w₀ trace w) :
    ∀ a ∈ w.store.allocations, a.state = .preempted → ∃ v ∈ w.store.jobs, v.id = a.jobID ∧
      (∃ t ∈ w.store.tenants, t.id = v.tenantID ∧ t.allowPreemption = true) ∧
      ∃ k ∈ w.store.jobs, k.id = a.preemptedBy ∧ v.priority.slt k.priority = true :=
  (Moves.invariant (fun hf hm hp => hm.preemptedFairly hf hp) (run_moves hk h)
    (Faithful.initial hk hq hnone) fun a ha => by simp [World.state, hnone] at ha).2

/-- In the sample preemption `j1`'s allocation is taken for `j2`. -/
theorem preempted_fairly_sample : ∃ trace w,
    Run (sampleConfig 10) (sampleWorld 4 ["g1"] 10) trace w ∧
    (∃ a ∈ w.store.allocations, a.state = .preempted) ∧
    ∀ a ∈ w.store.allocations, a.state = .preempted → ∃ v ∈ w.store.jobs, v.id = a.jobID ∧
      (∃ t ∈ w.store.tenants, t.id = v.tenantID ∧ t.allowPreemption = true) ∧
      ∃ k ∈ w.store.jobs, k.id = a.preemptedBy ∧ v.priority.slt k.priority = true := by
  obtain ⟨trace, w, hrun, hp⟩ := exists_run_to (sampleConfig 10) samplePreemption
    (sampleWorld 4 ["g1"] 10) (P := fun w => ∃ a ∈ w.store.allocations, a.state = .preempted)
    (by decide)
  exact ⟨trace, w, hrun, hp, preempted_fairly_run (sampleWorld_keys 4 (by decide) 10)
    (sampleWorld_fresh 4 ["g1"] 10) rfl hrun⟩

/-! ## 4. Every allocation holds what its job asks for -/

/-- Allocation `a` holds exactly what request `r` asks for, as `Allocate` grants it: its job, its
tenant, as many distinct GPUs as `GPUCount` (read as Go's `int`), its cores and its memory. -/
structure Allocation.Holds (a : Allocation) (r : JobRequest) : Prop where
  owner : a.jobID = r.id
  tenant : a.tenantID = r.tenantID
  distinct : a.gpuIDs.Nodup
  gpus : BitVec.ofNat 64 a.gpuIDs.length = r.gpuCount
  cores : a.cpuCores = r.cpuCores
  memory : a.memoryMB = r.memoryMB

/-- Every allocation holds exactly what a stored job asks for. -/
def Store.Sized (s : Store) : Prop := ∀ a ∈ s.allocations, ∃ j ∈ s.jobs, a.Holds j.request

/-- **Every move keeps every allocation sized**: released rows keep their job, tenant, GPUs,
cores and memory, and a start commits one that `Allocate` `Grants` the head, a stored job. -/
theorem Move.sized {st st' : Store × Queue} (h : Move st st') (hf : Faithful st) (hs : st.1.Sized) :
    st'.1.Sized := by
  obtain ⟨hj, -⟩ := h.jobs hf
  have old : ∀ b ∈ st.1.allocations, ∃ j ∈ st'.1.jobs, b.Holds j.request := fun b hb => by
    obtain ⟨j, hj₀, hh⟩ := hs b hb
    obtain ⟨j', hj', e⟩ := hj j hj₀
    exact ⟨j', hj', e ▸ hh⟩
  have hk := hf.core.keys
  cases h with
  | create | enqueue | cancelPending | age => exact old
  | @cancelRunning s q job =>
    intro b hb
    have hb : b ∈ (s.releaseAll (s.getJobAllocations job.id) fun a => { a with state := .completed }).allocations := by
      simpa [Store.updateJob, Store.freeJobResources] using hb
    rcases Store.mem_releaseAll hk hb with hb | ⟨c, hc, rfl⟩
    · exact old b hb
    · obtain ⟨j, hj', hh⟩ := old c (Store.mem_getJobAllocations.mp hc).1
      exact ⟨j, hj', hh.owner, hh.tenant, hh.distinct, hh.gpus, hh.cores, hh.memory⟩
  | cycle h =>
    cases h with
    | @start s q job a head grants =>
      intro b hb
      have hb : b ∈ s.allocations ++ [a] := by
        simpa [Store.startJob, Store.updateJob, Store.commit] using hb
      rcases List.mem_append.mp hb with hb | hb
      · exact old b hb
      · obtain rfl := List.mem_singleton.mp hb
        obtain ⟨j', hj', e⟩ := hj job (hf.head head)
        have hh : b.Holds job.request :=
          ⟨grants.owner, grants.tenant, grants.fits.nodup, grants.gpus, grants.cores, grants.memory⟩
        exact ⟨j', hj', e ▸ hh⟩
    | preempt _ job v head victim =>
      intro b hb
      rcases Store.mem_releaseAll (hk.updateJob _) hb with hb | ⟨c, hc, rfl⟩
      · exact old b hb
      · obtain ⟨j, hj', hh⟩ := old c (Store.mem_getJobAllocations.mp hc).1
        exact ⟨j, hj', hh.owner, hh.tenant, hh.distinct, hh.gpus, hh.cores, hh.memory⟩

/-- **Every allocation holds exactly what its job asks for.**  In every state of a sequential
run of a fresh scheduler over a store with unique keys and no allocation, every allocation,
Active, Completed or Preempted, is of a stored job, of that job's tenant, and holds as many
distinct GPUs as the job's `GPUCount`, and the job's `CPUCores` and `MemoryMB`. -/
theorem allocations_sized_run {config : SchedulerConfig} {w₀ w : World}
    {trace : List (Op × Except Err Unit)} (hk : w₀.store.Keys) (hq : Fresh config w₀)
    (hnone : w₀.store.allocations = []) (h : Run config w₀ trace w) :
    ∀ a ∈ w.store.allocations, ∃ j ∈ w.store.jobs, j.id = a.jobID ∧ a.tenantID = j.tenantID ∧
      a.gpuIDs.Nodup ∧ BitVec.ofNat 64 a.gpuIDs.length = j.gpuCount ∧ a.cpuCores = j.cpuCores ∧
      a.memoryMB = j.memoryMB := fun a ha => by
  obtain ⟨j, hj, hh⟩ := (Moves.invariant (fun hf hm hs => hm.sized hf hs) (run_moves hk h)
    (Faithful.initial hk hq hnone) fun a ha => by simp [World.state, hnone] at ha).2 a ha
  exact ⟨j, hj, hh.owner.symm, hh.tenant, hh.distinct, hh.gpus, hh.cores, hh.memory⟩

/-- After the sample preemption both allocations, `j1`'s Preempted and `j2`'s Active, hold one
GPU. -/
theorem allocations_sized_sample : ∃ trace w,
    Run (sampleConfig 10) (sampleWorld 4 ["g1"] 10) trace w ∧ w.store.allocations.length = 2 ∧
    ∀ a ∈ w.store.allocations, ∃ j ∈ w.store.jobs, j.id = a.jobID ∧ a.tenantID = j.tenantID ∧
      a.gpuIDs.Nodup ∧ BitVec.ofNat 64 a.gpuIDs.length = j.gpuCount ∧ a.cpuCores = j.cpuCores ∧
      a.memoryMB = j.memoryMB := by
  obtain ⟨trace, w, hrun, hp⟩ := exists_run_to (sampleConfig 10) samplePreemption
    (sampleWorld 4 ["g1"] 10) (P := fun w => w.store.allocations.length = 2) (by decide)
  exact ⟨trace, w, hrun, hp, allocations_sized_run (sampleWorld_keys 4 (by decide) 10)
    (sampleWorld_fresh 4 ["g1"] 10) rfl hrun⟩

/-! ## 5. No reachable state makes an operation panic -/

/-- Every stored job asks for a non-negative number of GPUs. -/
def Store.NonnegGPUs (s : Store) : Prop := ∀ j ∈ s.jobs, 0 ≤ j.gpuCount.toInt

/-- Jobs kept asking for the same, or accepted by `validateJob`, ask for no negative number of
GPUs. -/
theorem Store.Admitted.nonnegGPUs {s s' : Store} (h : s.Admitted s') (hn : s.NonnegGPUs) :
    s'.NonnegGPUs := fun j' hj' => by
  rcases h j' hj' with ⟨j, hj, e⟩ | hv
  · rw [← show j.gpuCount = j'.gpuCount from congrArg JobRequest.gpuCount e]
    exact hn j hj
  · exact (Scheduler.gpuCount_pos_of_validateJob hv).le

/-- From a faithful state whose jobs ask for no negative number of GPUs, every operation
returns: only the cycle can panic, on a queued job's negative GPU count, and every queued job is
a stored one. -/
theorem Faithful.step {config : SchedulerConfig} {w : World} (hf : Faithful w.state)
    (hn : w.store.NonnegGPUs) (op : Op) : ∃ r w', Step config w op r w' := by
  cases op with
  | submitJob job =>
    obtain ⟨r, w', h, -⟩ := submitJob_run hf.core.keys job
    exact ⟨r, w', h⟩
  | cancelJob jobID => exact (cancelJob_noPanic jobID).run w
  | schedulingCycle fuel =>
    obtain ⟨w', h⟩ := schedulingCycle_returns config fuel hf.core.keys fun e he =>
      hn _ (hf.stored e he)
    exact ⟨_, w', h⟩
  | loadPendingJobs => exact loadPendingJobs_noPanic.run w

/-- **No reachable state makes an operation panic.**  After any sequential run of a fresh
scheduler over a store with unique keys, no allocation and no job asking for a negative number
of GPUs, every operation returns an answer: `SubmitJob` of any job, `CancelJob` of any id, a
scheduling cycle with any fuel, and `loadPendingJobs`.  `SubmitJob` stores only jobs
`validateJob` accepts, no move rewrites a job's `GPUCount`, and the queue holds stored jobs, so
`bestFitSchedule` never slices with a negative bound. -/
theorem operations_complete_run {config : SchedulerConfig} {w₀ w : World}
    {trace : List (Op × Except Err Unit)} (hk : w₀.store.Keys) (hq : Fresh config w₀)
    (hnone : w₀.store.allocations = []) (hg : ∀ j ∈ w₀.store.jobs, 0 ≤ j.gpuCount.toInt)
    (h : Run config w₀ trace w) (op : Op) : ∃ r w', Step config w op r w' := by
  obtain ⟨hf, hn⟩ := Moves.invariant (P := fun st => st.1.NonnegGPUs)
    (fun hf hm hn => (hm.jobs hf).2.nonnegGPUs hn) (run_moves hk h) (Faithful.initial hk hq hnone) hg
  exact hf.step hn op

/-- After the replay and a cycle over `reloadWorld`, a cycle with any fuel answers. -/
theorem operations_complete_sample : ∃ trace w,
    Run (sampleConfig 10) reloadWorld trace w ∧ (∃ j ∈ w.store.jobs, j.state = .pending) ∧
    ∃ r w', Step (sampleConfig 10) w (.schedulingCycle 1000) r w' := by
  obtain ⟨trace, w, hrun, hp⟩ := exists_run_to (sampleConfig 10) [.loadPendingJobs, .schedulingCycle 5]
    reloadWorld (P := fun w => ∃ j ∈ w.store.jobs, j.state = .pending) (by decide)
  exact ⟨trace, w, hrun, hp, operations_complete_run reloadWorld_keys (by exact rfl) rfl (by decide)
    hrun _⟩

end GpuScheduler
