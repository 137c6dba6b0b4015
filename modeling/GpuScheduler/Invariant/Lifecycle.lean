import GpuScheduler.Invariant.Core
/-
# Jobs and their allocations along a run

Two facts on top of `Core`.  `Store.Started`: a Running job has an allocation, which holds from a
store with no Running job, since the scheduler makes a job Running only right after committing
its allocation.  `Store.Settles`: an allocation row, once written, stays, and its state only
moves from Active to Completed (`Free`) or to Preempted (`Preempt`).
-/

namespace GpuScheduler

namespace Store

/-- Every Running job has an allocation. -/
def Started (s : Store) : Prop := ∀ j ∈ s.jobs, j.state = .running → s.getJobAllocations j.id ≠ []

/-- Every allocation row of `s` is still in `s'`, in the same state or moved from Active to
Completed or Preempted. -/
def Settles (s s' : Store) : Prop :=
  ∀ a ∈ s.allocations, ∃ a' ∈ s'.allocations, a'.id = a.id ∧
    (a'.state = a.state ∨ a.state = .active ∧ (a'.state = .completed ∨ a'.state = .preempted))

theorem Settles.refl (s : Store) : s.Settles s := fun a ha => ⟨a, ha, rfl, .inl rfl⟩

theorem Settles.trans {s₁ s₂ s₃ : Store} (h₁ : s₁.Settles s₂) (h₂ : s₂.Settles s₃) :
    s₁.Settles s₃ := by
  intro a ha
  obtain ⟨b, hb, hba, hs₁⟩ := h₁ a ha
  obtain ⟨c, hc, hcb, hs₂⟩ := h₂ b hb
  refine ⟨c, hc, hcb.trans hba, ?_⟩
  rcases hs₁ with e₁ | ⟨hx, e₁⟩ <;> rcases hs₂ with e₂ | ⟨hy, e₂⟩
  · exact .inl (e₂.trans e₁)
  · exact .inr ⟨e₁ ▸ hy, e₂⟩
  · exact .inr ⟨hx, e₂ ▸ e₁⟩
  · rcases e₁ with e₁ | e₁ <;> rw [hy] at e₁ <;> cases e₁

/-- A change that keeps the allocation rows. -/
theorem Settles.of_eq {s s' : Store} (h : s'.allocations = s.allocations) : s.Settles s' :=
  fun a ha => ⟨a, h ▸ ha, rfl, .inl rfl⟩

theorem Settles.commit (s : Store) (a : Allocation) : s.Settles (s.commit a) :=
  fun b hb => ⟨b, List.mem_append_left _ hb, rfl, .inl rfl⟩

/-- Releasing a Running job's allocations into Completed or Preempted. -/
theorem Settles.releaseRunning {s : Store} {q : Queue} (hc : Core (s, q)) {job : Job}
    (hj : job ∈ s.jobs) (hr : job.state = .running) (f : Allocation → Allocation)
    (hid : ∀ a, (f a).id = a.id) (hf : ∀ a, (f a).state = .completed ∨ (f a).state = .preempted) :
    s.Settles (s.releaseAll (s.getJobAllocations job.id) f) := by
  rcases hc.lifecycle.running hj hr with hL | ⟨a, hL, hax⟩ <;> rw [hL]
  · exact Settles.refl s
  · intro b hb
    by_cases hba : b.id = a.id
    · refine ⟨f a, (mem_release hc.keys).mpr (.inl rfl), (hid a).trans hba.symm, .inr ?_⟩
      have ha := (mem_getJobAllocations.mp (hL ▸ List.mem_singleton_self a)).1
      rw [hc.keys.allocations.inj hb ha (by simpa using hba)]
      exact ⟨hax, hf a⟩
    · exact ⟨b, (mem_release hc.keys).mpr (.inr ⟨hb, by rw [hid]; exact hba⟩), rfl, .inl rfl⟩

/-- The allocation lists of the jobs other than `job` are those of `s`, and `job`'s row is
rewritten as `j'`. -/
theorem Started.update {s s' : Store} (h : s.Started) (hk : s.Keys) {job : Job} (j' : Job)
    (hid : j'.id = job.id) (hjobs : s'.jobs = Table.save j' s.jobs)
    (hother : ∀ k, k ≠ job.id → s'.getJobAllocations k = s.getJobAllocations k)
    (hnew : j'.state = .running → s'.getJobAllocations j'.id ≠ []) : s'.Started := by
  intro x hx hr
  rw [hjobs, Table.mem_save hk.jobs] at hx
  rcases hx with rfl | ⟨hx, hne⟩
  · exact hnew hr
  · rw [hother _ (by simpa [hid] using hne)]
    exact h x hx hr

/-- Rewriting a Running job's row as a job that is not Running while releasing its allocations. -/
theorem Started.release {s : Store} {q : Queue} (h : s.Started) (hc : Core (s, q)) {job : Job}
    (hj : job ∈ s.jobs) (hr : job.state = .running) (j' : Job) (hid : j'.id = job.id)
    (hnr : j'.state ≠ .running) (f : Allocation → Allocation) (hfid : ∀ a, (f a).id = a.id)
    (hfj : ∀ a, (f a).jobID = a.jobID) (s' : Store) (hjobs : s'.jobs = Table.save j' s.jobs)
    (hal : s'.allocations = (s.releaseAll (s.getJobAllocations job.id) f).allocations) :
    s'.Started := by
  have hL' := hc.lifecycle.atMostOne hj hr
  refine h.update hc.keys j' hid hjobs (fun k hk => ?_) (fun h => absurd h hnr)
  have e := Store.getJobAllocations_releaseAll hc.keys hL' hfid hfj k
  rw [if_neg hk] at e
  rw [← e]
  simp only [getJobAllocations, hal]

end Store

/-- **Every transition keeps Running jobs with an allocation, and moves allocation states only
from Active to Completed or Preempted.** -/
theorem Action.started {st st' : Store × Queue} (h : Action st st') (hc : Core st)
    (hs : st.1.Started) : st'.1.Started ∧ st.1.Settles st'.1 := by
  cases h with
  | create job fresh pending =>
    refine ⟨fun x hx hr => ?_, Store.Settles.of_eq rfl⟩
    rcases List.mem_append.mp hx with hx | hx
    · exact hs x hx hr
    · rw [List.mem_singleton.mp hx, pending] at hr
      cases hr
  | enqueue | age => exact ⟨hs, Store.Settles.refl _⟩
  | cancelPending job stored pending =>
    exact ⟨hs.update hc.keys { job with state := .cancelled } rfl rfl (fun _ _ => rfl)
      (fun h => by cases h), Store.Settles.of_eq rfl⟩
  | cancelRunning job stored running =>
    refine ⟨hs.release hc stored running { job with state := .cancelled } rfl (by simp)
      (fun a => { a with state := .completed }) (fun _ => rfl) (fun _ => rfl) _
      (by simp [Store.updateJob, Store.freeJobResources])
      (by simp [Store.updateJob, Store.freeJobResources]), ?_⟩
    exact (Store.Settles.releaseRunning hc stored running (fun a => { a with state := .completed })
      (fun _ => rfl) fun _ => .inl rfl).trans
      (Store.Settles.of_eq (by simp [Store.updateJob, Store.freeJobResources]))
  | start job a head fits owner =>
    obtain ⟨j₀, hj₀, hid, hpend⟩ := hc.queued job.id (Queue.peek_mem_ids head)
    refine ⟨hs.update hc.keys { job with state := .running } (hid.symm : _ = j₀.id)
      (by simp [Store.startJob, Store.updateJob, Store.commit]) (fun k hk => ?_) fun _ => ?_,
      (Store.Settles.commit _ a).trans (Store.Settles.of_eq ?_)⟩
    · rw [Store.getJobAllocations_startJob, Store.getJobAllocations_commit,
        if_neg (by rw [owner, ← hid]; exact Ne.symm hk), List.append_nil]
    · rw [Store.getJobAllocations_startJob, Store.getJobAllocations_commit, if_pos owner]
      simp
    · simp [Store.startJob, Store.updateJob]
  | preempt victim preemptorID stored running =>
    refine ⟨hs.release hc stored running
      { victim with state := .preempted, preemptedCount := victim.preemptedCount + 1 } rfl
      (by simp) (fun a => { a with state := .preempted, preemptedBy := preemptorID })
      (fun _ => rfl) (fun _ => rfl) _ (by simp [Store.preempt, Store.updateJob])
      (by rw [Store.preempt, Store.releaseAll_updateJob]; rfl), ?_⟩
    rw [Store.preempt, Store.releaseAll_updateJob]
    exact (Store.Settles.releaseRunning hc stored running
      (fun a => { a with state := .preempted, preemptedBy := preemptorID })
      (fun _ => rfl) fun _ => .inr rfl).trans (Store.Settles.of_eq rfl)

/-- Along a run of transitions from `Core`, Running jobs keep an allocation, and allocation
states only settle. -/
theorem Reach.started {st st' : Store × Queue} (h : Reach st st') (hc : Core st)
    (hs : st.1.Started) : st'.1.Started ∧ st.1.Settles st'.1 := by
  induction h with
  | refl => exact ⟨hs, Store.Settles.refl _⟩
  | tail hr ha ih =>
    obtain ⟨hs', hset'⟩ := ha.started (Reach.core hr hc) ih.1
    exact ⟨hs', ih.2.trans hset'⟩

/-- **Jobs and their allocations.**  In every state `w₂` of a sequential run of a fresh scheduler
over a store with no allocation and no Running job, a Pending job has no allocation, a Running
job has exactly one and it is Active, and a job in any other state has none Active; and from any
earlier state `w₁` of the run, every allocation is still there, in the same state or moved from
Active to Completed or Preempted. -/
theorem job_allocations_run {config : SchedulerConfig} {w₀ w₁ w₂ : World}
    {t₁ t₂ : List (Op × Except Err Unit)} (hk : w₀.store.Keys) (hq : Fresh config w₀)
    (hnone : w₀.store.allocations = []) (hidle : ∀ j ∈ w₀.store.jobs, j.state ≠ .running)
    (h₁ : Run config w₀ t₁ w₁) (h₂ : Run config w₁ t₂ w₂) :
    (∀ j ∈ w₂.store.jobs, j.state = .pending → ∀ a ∈ w₂.store.allocations, a.jobID ≠ j.id) ∧
    (∀ j ∈ w₂.store.jobs, j.state = .running →
      ∃ a, w₂.store.getJobAllocations j.id = [a] ∧ a.state = .active) ∧
    (∀ j ∈ w₂.store.jobs, j.state ≠ .pending → j.state ≠ .running →
      ∀ a ∈ w₂.store.allocations, a.jobID = j.id → a.state ≠ .active) ∧
    w₁.store.Settles w₂.store := by
  have hc₀ := Core.initial hk hq (.of_none hnone)
  have hr₁ := run_reach hk h₁
  have hc₁ := Reach.core hr₁ hc₀
  have hr₂ := run_reach hc₁.keys h₂
  have hl := (Reach.core hr₂ hc₁).lifecycle
  obtain ⟨hs₂, hset⟩ := hr₂.started hc₁ (hr₁.started hc₀ fun j hj hr => absurd hr (hidle j hj)).1
  refine ⟨fun j hj hp a ha e => ?_, fun j hj hr => ?_, fun j hj hp hr a ha e =>
    hl.settled hj hp hr a (Store.mem_getJobAllocations.mpr ⟨ha, e⟩), hset⟩
  · have := hl.pending hj hp
    rw [List.eq_nil_iff_forall_not_mem] at this
    exact this a (Store.mem_getJobAllocations.mpr ⟨ha, e⟩)
  · rcases hl.running hj hr with h | h
    · exact absurd h (hs₂ j hj hr)
    · exact h

/-- The preemption scenario satisfies the hypotheses; after it, `j1`'s allocation has settled as
Preempted and `j2` runs on the other. -/
theorem job_allocations_sample : ∃ trace w, Run (sampleConfig 10) (sampleWorld 4 ["g1"] 10) trace w ∧
    w.store.allocations.length = 2 ∧
    (∀ j ∈ w.store.jobs, j.state = .pending → ∀ a ∈ w.store.allocations, a.jobID ≠ j.id) ∧
    (∀ j ∈ w.store.jobs, j.state = .running →
      ∃ a, w.store.getJobAllocations j.id = [a] ∧ a.state = .active) ∧
    (∀ j ∈ w.store.jobs, j.state ≠ .pending → j.state ≠ .running →
      ∀ a ∈ w.store.allocations, a.jobID = j.id → a.state ≠ .active) ∧
    (sampleWorld 4 ["g1"] 10).store.Settles w.store := by
  obtain ⟨trace, w, hrun, hlen⟩ := exists_run (sampleConfig 10) samplePreemption
    (sampleWorld 4 ["g1"] 10) (P := fun p => p.2.store.allocations.length = 2) (by decide)
  exact ⟨trace, w, hrun, hlen, job_allocations_run (sampleWorld_keys 4 (by decide) 10)
    (sampleWorld_fresh 4 ["g1"] 10) rfl (by decide) (.nil _) hrun⟩

/-! ## Job states move forward -/

/-- The moves of a job's stored state that the scheduler makes: `startJob`, the two accepted cases
of `CancelJob`, and `Preempt`. -/
inductive JobState.Moves : JobState → JobState → Prop
  | start : JobState.Moves .pending .running
  | cancelPending : JobState.Moves .pending .cancelled
  | cancelRunning : JobState.Moves .running .cancelled
  | preempt : JobState.Moves .running .preempted

/-- No move leaves a state other than Pending and Running. -/
theorem JobState.moves_sink {a b : JobState} (h : Relation.ReflTransGen JobState.Moves a b)
    (hp : a ≠ .pending) (hr : a ≠ .running) : b = a := by
  rcases Relation.ReflTransGen.cases_head h with rfl | ⟨c, hc, -⟩
  · rfl
  · cases hc <;> contradiction

namespace Store

/-- Every job of `s` is still stored in `s'`, its state moved forward. -/
def Advances (s s' : Store) : Prop :=
  ∀ j ∈ s.jobs, ∃ j' ∈ s'.jobs, j'.id = j.id ∧ Relation.ReflTransGen JobState.Moves j.state j'.state

theorem Advances.refl (s : Store) : s.Advances s := fun j hj => ⟨j, hj, rfl, .refl⟩

theorem Advances.trans {s₁ s₂ s₃ : Store} (h₁ : s₁.Advances s₂) (h₂ : s₂.Advances s₃) :
    s₁.Advances s₃ := by
  intro j hj
  obtain ⟨j', hj', hid, hm⟩ := h₁ j hj
  obtain ⟨j'', hj'', hid', hm'⟩ := h₂ j' hj'
  exact ⟨j'', hj'', hid'.trans hid, hm.trans hm'⟩

/-- Rewriting the row `j₀` as `j` by one move. -/
theorem Advances.save {s s' : Store} (hk : Table.Keys s.jobs) {j₀ : Job} (hj₀ : j₀ ∈ s.jobs)
    (j : Job) (hid : j.id = j₀.id) (hm : JobState.Moves j₀.state j.state)
    (hjobs : s'.jobs = Table.save j s.jobs) : s.Advances s' := by
  intro x hx
  by_cases e : x.id = j.id
  · obtain rfl := hk.inj hx hj₀ (e.trans hid)
    exact ⟨j, hjobs ▸ (Table.mem_save hk).mpr (.inl rfl), hid, .single hm⟩
  · exact ⟨x, hjobs ▸ (Table.mem_save hk).mpr (.inr ⟨hx, e⟩), rfl, .refl⟩

end Store

/-- **Every transition moves job states forward.** -/
theorem Action.advances {st st' : Store × Queue} (h : Action st st') (hc : Core st) :
    st.1.Advances st'.1 := by
  cases h with
  | create job fresh pending =>
    exact fun j hj => ⟨j, List.mem_append_left _ hj, rfl, .refl⟩
  | enqueue | age => exact Store.Advances.refl _
  | cancelPending job stored pending =>
    exact .save hc.keys.jobs stored { job with state := .cancelled } rfl (pending ▸ .cancelPending) rfl
  | cancelRunning job stored running =>
    exact .save hc.keys.jobs stored { job with state := .cancelled } rfl (running ▸ .cancelRunning)
      (by simp [Store.updateJob, Store.freeJobResources])
  | start job a head fits owner =>
    obtain ⟨j₀, hj₀, hid, hp⟩ := hc.queued job.id (Queue.peek_mem_ids head)
    exact .save hc.keys.jobs hj₀ { job with state := .running } hid.symm (hp ▸ .start)
      (by simp [Store.startJob, Store.updateJob, Store.commit])
  | preempt victim preemptorID stored running =>
    exact .save hc.keys.jobs stored
      { victim with state := .preempted, preemptedCount := victim.preemptedCount + 1 } rfl
      (running ▸ .preempt) (by simp [Store.preempt, Store.updateJob])

theorem Reach.advances {st st' : Store × Queue} (h : Reach st st') (hc : Core st) :
    st.1.Advances st'.1 := by
  induction h with
  | refl => exact Store.Advances.refl _
  | tail hr ha ih => exact ih.trans (ha.advances (Reach.core hr hc))

/-- **Job states only move forward.**  Between any two states `w₁` and `w₂` of a sequential run of a
fresh scheduler over a store with no allocation, every job stored at `w₁` is still stored at
`w₂`, its state moved along Pending → Running, Pending → Cancelled, Running → Cancelled and
Running → Preempted; a job in any other state keeps it. -/
theorem job_states_run {config : SchedulerConfig} {w₀ w₁ w₂ : World}
    {t₁ t₂ : List (Op × Except Err Unit)} (hk : w₀.store.Keys) (hq : Fresh config w₀)
    (hnone : w₀.store.allocations = []) (h₁ : Run config w₀ t₁ w₁) (h₂ : Run config w₁ t₂ w₂) :
    ∀ j ∈ w₁.store.jobs, ∃ j' ∈ w₂.store.jobs, j'.id = j.id ∧
      Relation.ReflTransGen JobState.Moves j.state j'.state ∧
      (j.state ≠ .pending → j.state ≠ .running → j'.state = j.state) := by
  have hc₁ := Reach.core (run_reach hk h₁) (Core.initial hk hq (.of_none hnone))
  intro j hj
  obtain ⟨j', hj', hid, hm⟩ := (run_reach hc₁.keys h₂).advances hc₁ j hj
  exact ⟨j', hj', hid, hm, JobState.moves_sink hm⟩

/-- The preemption scenario satisfies the hypotheses; after it, `j1` is stored Preempted. -/
theorem job_states_sample : ∃ t₁ w₁ t₂ w₂,
    Run (sampleConfig 10) (sampleWorld 4 ["g1"] 10) t₁ w₁ ∧ Run (sampleConfig 10) w₁ t₂ w₂ ∧
    (∀ j ∈ w₂.store.jobs, j.id = "j1" → j.state = .preempted) ∧
    ∀ j ∈ w₁.store.jobs, ∃ j' ∈ w₂.store.jobs, j'.id = j.id ∧
      Relation.ReflTransGen JobState.Moves j.state j'.state ∧
      (j.state ≠ .pending → j.state ≠ .running → j'.state = j.state) := by
  obtain ⟨t₂, w₂, h₂, hp⟩ := exists_run (sampleConfig 10) samplePreemption
    (sampleWorld 4 ["g1"] 10) (P := fun p => ∀ j ∈ p.2.store.jobs, j.id = "j1" → j.state = .preempted)
    (by decide)
  exact ⟨[], _, t₂, w₂, .nil _, h₂, hp, job_states_run (sampleWorld_keys 4 (by decide) 10)
    (sampleWorld_fresh 4 ["g1"] 10) rfl (.nil _) h₂⟩

end GpuScheduler
