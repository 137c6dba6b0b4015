import GpuScheduler.System.Run
import GpuScheduler.Queue.Refinement
/-
# The core invariant: what a job's state says about its allocations

`Store.JobLife` relates a stored job to the rows `GetJobAllocations` lists for it: none while it
is Pending; while it is Running, at most one, and that one Active; in every other state, none
Active.  `Store.Lifecycle` asks it of every stored job, and that every allocation belongs to a
stored job.  `Core` adds unique keys and a valid queue that holds only stored Pending jobs.

Every transition keeps `Core` (`Action.core`), so every sequential run does (`Run.core`); the
invariants of the other modules are proved under it.  A Running job may have NO allocation here:
a store may hold Running jobs the scheduler never started (`Invariant/Lifecycle.lean` rules them
out when the run starts without any).
-/

namespace GpuScheduler

namespace Store

/-- What the stored state of job `j` says about its allocations. -/
def JobLife (s : Store) (j : Job) : Prop :=
  match j.state with
  | .pending => s.getJobAllocations j.id = []
  | .running => s.getJobAllocations j.id = [] ∨
      ∃ a, s.getJobAllocations j.id = [a] ∧ a.state = .active
  | _ => ∀ a ∈ s.getJobAllocations j.id, a.state ≠ .active

/-- Every stored job's allocations agree with its state, and every allocation has a stored job. -/
structure Lifecycle (s : Store) : Prop where
  life : ∀ j ∈ s.jobs, s.JobLife j
  owned : ∀ a ∈ s.allocations, ∃ j ∈ s.jobs, j.id = a.jobID

theorem JobLife.congr {s s' : Store} {j : Job}
    (h : s'.getJobAllocations j.id = s.getJobAllocations j.id) (hl : s.JobLife j) : s'.JobLife j := by
  unfold JobLife at *
  rwa [h]

/-- A job that is neither Pending nor Running, without Active allocations. -/
theorem jobLife_settled {s : Store} {j : Job} (hp : j.state ≠ .pending) (hr : j.state ≠ .running)
    (h : ∀ a ∈ s.getJobAllocations j.id, a.state ≠ .active) : s.JobLife j := by
  unfold JobLife
  split <;> simp_all

theorem mem_getJobAllocations {s : Store} {a : Allocation} {jobID : String} :
    a ∈ s.getJobAllocations jobID ↔ a ∈ s.allocations ∧ a.jobID = jobID := by
  simp [getJobAllocations]

theorem getJobAllocations_commit (s : Store) (a : Allocation) (jobID : String) :
    (s.commit a).getJobAllocations jobID =
      s.getJobAllocations jobID ++ if a.jobID = jobID then [a] else [] := by
  simp only [getJobAllocations, commit, List.filter_append, List.filter_cons, List.filter_nil,
    beq_iff_eq]

@[simp] theorem getJobAllocations_updateJob (s : Store) (job : Job) (jobID : String) :
    (s.updateJob job).getJobAllocations jobID = s.getJobAllocations jobID := rfl

@[simp] theorem getJobAllocations_charge (s : Store) (tenantID : String)
    (gpuDelta gpuMemDelta cpuDelta memDelta jobDelta : BitVec 64) (jobID : String) :
    (s.charge tenantID gpuDelta gpuMemDelta cpuDelta memDelta jobDelta).getJobAllocations jobID =
      s.getJobAllocations jobID := by
  simp [getJobAllocations]

@[simp] theorem getJobAllocations_startJob (s : Store) (job : Job) (jobID : String) :
    (s.startJob job).getJobAllocations jobID = s.getJobAllocations jobID := by
  simp [startJob]

/-- Releasing the only allocation of job `jobID` rewrites that one row and no other job's. -/
theorem getJobAllocations_release_single {s : Store} (hk : s.Keys) {jobID : String}
    {a a' : Allocation} (hL : s.getJobAllocations jobID = [a]) (hid : a'.id = a.id)
    (hj : a'.jobID = a.jobID) (k : String) :
    (s.release a a').getJobAllocations k = if k = jobID then [a'] else s.getJobAllocations k := by
  have ha := mem_getJobAllocations.mp (hL ▸ List.mem_singleton_self a)
  have hmap : (s.release a a').getJobAllocations k =
      (s.getJobAllocations k).map fun b => if b.id = a.id then a' else b := by
    simp only [getJobAllocations, release]
    rw [Table.save_eq_map hk.allocations ha.1 (by simpa using hid), List.filter_map]
    simp only [Keyed.key_allocation, hid]
    refine congrArg _ (List.filter_congr fun x hx => ?_)
    simp only [Function.comp]
    split_ifs with hx'
    · rw [hj, hk.allocations.inj hx ha.1 (by simpa using hx')]
    · rfl
  rw [hmap]
  split_ifs with hk'
  · subst hk'
    rw [hL]
    simp
  · refine List.map_congr_left (fun b hb => if_neg fun e => hk' ?_) |>.trans (List.map_id' _)
    have hb := mem_getJobAllocations.mp hb
    rw [← hb.2, hk.allocations.inj hb.1 ha.1 (by simpa using e), ha.2]

/-- What `Free` or `Preempt` does to the allocation lists of the jobs, when the released job has
at most one allocation and the new rows keep their ids and owners. -/
theorem getJobAllocations_releaseAll {s : Store} (hk : s.Keys) {jobID : String}
    (hL : s.getJobAllocations jobID = [] ∨ ∃ a, s.getJobAllocations jobID = [a])
    {f : Allocation → Allocation} (hid : ∀ a, (f a).id = a.id) (hj : ∀ a, (f a).jobID = a.jobID)
    (k : String) :
    (s.releaseAll (s.getJobAllocations jobID) f).getJobAllocations k =
      if k = jobID then (s.getJobAllocations jobID).map f else s.getJobAllocations k := by
  rcases hL with hL | ⟨a, hL⟩ <;> rw [hL]
  · split_ifs with hk'
    · subst hk'
      exact hL
    · rfl
  · simp only [releaseAll_cons, releaseAll_nil, List.map_cons, List.map_nil]
    exact getJobAllocations_release_single hk hL (hid a) (hj a) k

/-- The rows after such a release belong to the jobs the rows before belonged to. -/
theorem owner_releaseAll {s : Store} (hk : s.Keys) {jobID : String}
    (hL : s.getJobAllocations jobID = [] ∨ ∃ a, s.getJobAllocations jobID = [a])
    {f : Allocation → Allocation} (hj : ∀ a, (f a).jobID = a.jobID) {b : Allocation}
    (hb : b ∈ (s.releaseAll (s.getJobAllocations jobID) f).allocations) :
    ∃ c ∈ s.allocations, c.jobID = b.jobID := by
  rcases hL with hL | ⟨a, hL⟩ <;> rw [hL] at hb
  · exact ⟨b, hb, rfl⟩
  · rcases (mem_release hk).mp hb with rfl | ⟨hb, -⟩
    · exact ⟨a, (mem_getJobAllocations.mp (hL ▸ List.mem_singleton_self a)).1, (hj a).symm⟩
    · exact ⟨b, hb, rfl⟩

/-! ## Replacing one job's row -/

/-- The lifecycle survives a change that rewrites the row of job `j` as `j'`, leaves the other
jobs' allocations alone, keeps every allocation with a stored owner, and in which `j'` agrees
with its allocations. -/
theorem Lifecycle.update {s s' : Store} (h : s.Lifecycle) (hk : s.Keys) {j : Job} (j' : Job)
    (hid : j'.id = j.id) (hjobs : s'.jobs = Table.save j' s.jobs)
    (hother : ∀ k, k ≠ j.id → s'.getJobAllocations k = s.getJobAllocations k)
    (howned : ∀ a ∈ s'.allocations, ∃ x ∈ s.jobs, x.id = a.jobID) (hnew : s'.JobLife j') :
    s'.Lifecycle where
  life x hx := by
    rw [hjobs, Table.mem_save hk.jobs] at hx
    rcases hx with rfl | ⟨hx, hne⟩
    · exact hnew
    · exact (h.life x hx).congr (hother _ (by simpa [hid] using hne))
  owned a ha := by
    obtain ⟨x, hx, hxa⟩ := howned a ha
    rw [hjobs]
    by_cases hxj : x.id = j.id
    · exact ⟨j', (Table.mem_save hk.jobs).mpr (.inl rfl), hid.trans (hxj.symm.trans hxa)⟩
    · exact ⟨x, (Table.mem_save hk.jobs).mpr (.inr ⟨hx, by simpa [hid] using hxj⟩), hxa⟩

/-- A store with no allocation is consistent: no job has an allocation, and none needs an owner. -/
theorem Lifecycle.of_none {s : Store} (h : s.allocations = []) : s.Lifecycle where
  life j _ := by
    have hnil : s.getJobAllocations j.id = [] := by simp [getJobAllocations, h]
    unfold JobLife
    split <;> simp [hnil]
  owned a ha := by simp [h] at ha

theorem Lifecycle.charge {s : Store} (h : s.Lifecycle) (tenantID : String)
    (gpuDelta gpuMemDelta cpuDelta memDelta jobDelta : BitVec 64) :
    (s.charge tenantID gpuDelta gpuMemDelta cpuDelta memDelta jobDelta).Lifecycle := by
  obtain ⟨ts, e⟩ := s.charge_eq tenantID gpuDelta gpuMemDelta cpuDelta memDelta jobDelta
  rw [e]
  exact ⟨h.life, h.owned⟩

/-- A Running job has no allocation, or one Active one. -/
theorem Lifecycle.running {s : Store} (h : s.Lifecycle) {j : Job} (hj : j ∈ s.jobs)
    (hr : j.state = .running) :
    s.getJobAllocations j.id = [] ∨ ∃ a, s.getJobAllocations j.id = [a] ∧ a.state = .active := by
  have := h.life j hj
  unfold JobLife at this
  rwa [hr] at this

theorem Lifecycle.atMostOne {s : Store} (h : s.Lifecycle) {j : Job} (hj : j ∈ s.jobs)
    (hr : j.state = .running) :
    s.getJobAllocations j.id = [] ∨ ∃ a, s.getJobAllocations j.id = [a] :=
  (h.running hj hr).imp id fun ⟨a, e, _⟩ => ⟨a, e⟩

theorem Lifecycle.pending {s : Store} (h : s.Lifecycle) {j : Job} (hj : j ∈ s.jobs)
    (hp : j.state = .pending) : s.getJobAllocations j.id = [] := by
  have := h.life j hj
  unfold JobLife at this
  rwa [hp] at this

/-- A job neither Pending nor Running has no Active allocation. -/
theorem Lifecycle.settled {s : Store} (h : s.Lifecycle) {j : Job} (hj : j ∈ s.jobs)
    (hp : j.state ≠ .pending) (hr : j.state ≠ .running) :
    ∀ a ∈ s.getJobAllocations j.id, a.state ≠ .active := by
  have := h.life j hj
  unfold JobLife at this
  split at this <;> simp_all

end Store

/-- The invariant the others rest on. -/
structure Core (st : Store × Queue) : Prop where
  keys : st.1.Keys
  valid : st.2.Valid
  queued : ∀ id ∈ st.2.ids, ∃ j ∈ st.1.jobs, j.id = id ∧ j.state = .pending
  lifecycle : st.1.Lifecycle

/-! ## Every transition keeps `Core` -/

section Step

variable {s : Store} {q : Queue}

/-- Queued ids keep their stored Pending job when the row of a job they do not name is rewritten. -/
theorem queued_update {s' : Store} {q' : Queue} (hk : s.Keys)
    (hq : ∀ id ∈ q.ids, ∃ j ∈ s.jobs, j.id = id ∧ j.state = .pending) {j : Job} (j' : Job)
    (hid : j'.id = j.id) (hjobs : s'.jobs = Table.save j' s.jobs)
    (hq' : ∀ id ∈ q'.ids, id ∈ q.ids ∧ id ≠ j.id) :
    ∀ id ∈ q'.ids, ∃ x ∈ s'.jobs, x.id = id ∧ x.state = .pending := by
  intro id hm
  obtain ⟨hm, hne⟩ := hq' id hm
  obtain ⟨x, hx, rfl, hp⟩ := hq id hm
  exact ⟨x, hjobs ▸ (Table.mem_save hk.jobs).mpr (.inr ⟨hx, by simpa [hid] using hne⟩), rfl, hp⟩

/-- A Running job is not queued. -/
theorem Core.not_queued (hc : Core (s, q)) {j : Job} (hj : j ∈ s.jobs) (hr : j.state = .running) :
    ∀ id ∈ q.ids, id ∈ q.ids ∧ id ≠ j.id := fun id hm => ⟨hm, fun e => by
  obtain ⟨x, hx, hxid, hp⟩ := hc.queued id hm
  rw [hc.keys.jobs.inj hx hj (by simpa [e] using hxid), hr] at hp
  cases hp⟩

theorem Core.create (hc : Core (s, q)) {job : Job} (hfresh : ∀ j ∈ s.jobs, j.id ≠ job.id)
    (hp : job.state = .pending) : Core ({ s with jobs := s.jobs ++ [job] }, q) where
  keys := (Action.create (q := q) job hfresh hp).keys hc.keys
  valid := hc.valid
  queued id hm :=
    let ⟨j, hj, e, hs⟩ := hc.queued id hm
    ⟨j, List.mem_append_left _ hj, e, hs⟩
  lifecycle :=
    { life := fun x hx => by
        rcases List.mem_append.mp hx with hx | hx
        · exact hc.lifecycle.life x hx
        · rw [List.mem_singleton] at hx
          subst hx
          unfold Store.JobLife
          rw [hp]
          refine List.filter_eq_nil_iff.mpr fun a ha => ?_
          obtain ⟨j, hj, e⟩ := hc.lifecycle.owned a ha
          simpa [← e] using hfresh j hj
      owned := fun a ha =>
        let ⟨j, hj, e⟩ := hc.lifecycle.owned a ha
        ⟨j, List.mem_append_left _ hj, e⟩ }

theorem Core.enqueue (hc : Core (s, q)) {job : Job} {now : Int} {q' : Queue} (hj : job ∈ s.jobs)
    (hp : job.state = .pending) (he : q.enqueue job now = .ok q') : Core (s, q') where
  keys := hc.keys
  valid := (Queue.enqueue_ok hc.valid he).2.2.1
  queued id hm := by
    rcases (hc.valid.mem_ids_enqueue he id).mp hm with hm | rfl
    · exact hc.queued id hm
    · exact ⟨job, hj, rfl, hp⟩
  lifecycle := hc.lifecycle

theorem Core.cancelPending (hc : Core (s, q)) {job : Job} (hj : job ∈ s.jobs)
    (hp : job.state = .pending) :
    Core (s.updateJob { job with state := .cancelled }, (q.remove job.id).2) where
  keys := hc.keys.updateJob _
  valid := hc.valid.remove _
  queued := queued_update (j := job) hc.keys hc.queued { job with state := .cancelled } rfl rfl
    fun id hm => (hc.valid.mem_ids_remove _ _).mp hm
  lifecycle := hc.lifecycle.update (j := job) hc.keys { job with state := .cancelled } rfl rfl
    (fun _ _ => rfl) hc.lifecycle.owned
    (Store.jobLife_settled (by simp) (by simp) fun a ha => by
      rw [show (s.updateJob _).getJobAllocations job.id = s.getJobAllocations job.id from rfl,
        hc.lifecycle.pending hj hp] at ha
      cases ha)

/-- Rewriting a Running job's row as `j'` while releasing its allocations through `f`. -/
theorem Core.release (hc : Core (s, q)) {job : Job} (hj : job ∈ s.jobs)
    (hr : job.state = .running) (j' : Job) (hid : j'.id = job.id) (hs : j'.state ≠ .pending)
    (hs' : j'.state ≠ .running) (f : Allocation → Allocation) (hfid : ∀ a, (f a).id = a.id)
    (hfj : ∀ a, (f a).jobID = a.jobID) (hf : ∀ a, (f a).state ≠ .active) (s' : Store)
    (hjobs : s'.jobs = Table.save j' s.jobs)
    (hal : s'.allocations = (s.releaseAll (s.getJobAllocations job.id) f).allocations) :
    s'.Lifecycle ∧ ∀ id ∈ q.ids, ∃ x ∈ s'.jobs, x.id = id ∧ x.state = .pending := by
  have hL' := hc.lifecycle.atMostOne hj hr
  have hga : ∀ k, s'.getJobAllocations k =
      if k = job.id then (s.getJobAllocations job.id).map f else s.getJobAllocations k := fun k => by
    rw [← Store.getJobAllocations_releaseAll hc.keys hL' hfid hfj k]
    simp only [Store.getJobAllocations, hal]
  refine ⟨hc.lifecycle.update hc.keys j' hid hjobs (fun k hk => by rw [hga, if_neg hk]) ?_ ?_,
    queued_update hc.keys hc.queued j' hid hjobs (hc.not_queued hj hr)⟩
  · intro b hb
    obtain ⟨c, hc', e⟩ := Store.owner_releaseAll hc.keys hL' hfj (hal ▸ hb)
    obtain ⟨x, hx, hxc⟩ := hc.lifecycle.owned c hc'
    exact ⟨x, hx, hxc.trans e⟩
  · refine Store.jobLife_settled hs hs' fun b hb => ?_
    rw [hid, hga, if_pos rfl] at hb
    obtain ⟨a, -, rfl⟩ := List.mem_map.mp hb
    exact hf a

theorem Core.cancelRunning (hc : Core (s, q)) {job : Job} (hj : job ∈ s.jobs)
    (hr : job.state = .running) :
    Core ((s.freeJobResources { job with state := .cancelled }).updateJob
      { job with state := .cancelled }, q) :=
  have h := hc.release hj hr { job with state := .cancelled } rfl (by simp) (by simp)
    (fun a => { a with state := .completed }) (fun _ => rfl) (fun _ => rfl) (by simp)
    ((s.freeJobResources { job with state := .cancelled }).updateJob { job with state := .cancelled })
    (by simp [Store.updateJob, Store.freeJobResources]) (by simp [Store.updateJob, Store.freeJobResources])
  ⟨(Action.cancelRunning (q := q) job hj hr).keys hc.keys, hc.valid, h.2, h.1⟩

theorem Core.preempt (hc : Core (s, q)) {victim : Job} (preemptorID : String) (hj : victim ∈ s.jobs)
    (hr : victim.state = .running) : Core (s.preempt victim preemptorID, q) :=
  have h := hc.release hj hr
    { victim with state := .preempted, preemptedCount := victim.preemptedCount + 1 } rfl
    (by simp) (by simp) (fun a => { a with state := .preempted, preemptedBy := preemptorID })
    (fun _ => rfl) (fun _ => rfl) (by simp) (s.preempt victim preemptorID)
    (by simp [Store.preempt, Store.updateJob])
    (by rw [Store.preempt, Store.releaseAll_updateJob]; rfl)
  ⟨(Action.preempt (q := q) victim preemptorID hj hr).keys hc.keys, hc.valid, h.2, h.1⟩

theorem Core.start (hc : Core (s, q)) {job : Job} {a : Allocation} (hp : q.peek = some job)
    (hf : s.Fits a) (ho : a.jobID = job.id) : Core ((s.commit a).startJob job, q.dequeue.2) := by
  obtain ⟨j₀, hj₀, hid, hpend⟩ := hc.queued job.id (Queue.peek_mem_ids hp)
  have hjobs : ((s.commit a).startJob job).jobs = Table.save { job with state := .running } s.jobs := by
    simp [Store.startJob, Store.updateJob, Store.commit]
  have hga : ∀ k, ((s.commit a).startJob job).getJobAllocations k =
      s.getJobAllocations k ++ if a.jobID = k then [a] else [] := fun k => by
    rw [Store.getJobAllocations_startJob, Store.getJobAllocations_commit]
  refine ⟨(Action.start job a hp hf ho).keys hc.keys, hc.valid.dequeue,
    queued_update hc.keys hc.queued { job with state := .running } hid.symm hjobs fun id hm => ?_, ?_⟩
  · rw [hid]
    exact (hc.valid.mem_ids_dequeue hp id).mp hm
  · refine hc.lifecycle.update hc.keys { job with state := .running } hid.symm hjobs (fun k hk => ?_)
      (fun b hb => ?_) ?_
    · rw [hga, if_neg (by rw [ho, ← hid]; exact Ne.symm hk), List.append_nil]
    · have hb' : b ∈ s.allocations ++ [a] := by
        simpa [Store.startJob, Store.updateJob, Store.commit] using hb
      rcases List.mem_append.mp hb' with hb' | hb'
      · exact hc.lifecycle.owned b hb'
      · rw [List.mem_singleton.mp hb']
        exact ⟨j₀, hj₀, hid.trans ho.symm⟩
    · show Store.JobLife _ { job with state := .running }
      unfold Store.JobLife
      rw [hga, if_pos ho, ← hid, hc.lifecycle.pending hj₀ hpend]
      exact .inr ⟨a, rfl, hf.active⟩

/-- **Every transition keeps the core invariant.** -/
theorem Action.core {st st' : Store × Queue} (h : Action st st') (hc : Core st) : Core st' := by
  cases h with
  | create job fresh pending => exact hc.create fresh pending
  | enqueue job now stored pending accepted => exact hc.enqueue stored pending accepted
  | cancelPending job stored pending => exact hc.cancelPending stored pending
  | cancelRunning job stored running => exact hc.cancelRunning stored running
  | start job a head fits owner => exact hc.start head fits owner
  | preempt victim preemptorID stored running => exact hc.preempt preemptorID stored running
  | age agingFactor ageThreshold now =>
    exact { hc with
      valid := hc.valid.applyAging agingFactor ageThreshold now
      queued := fun id hm => hc.queued id ((hc.valid.mem_ids_applyAging _ _ _ id).mp hm) }

theorem Reach.core {st st' : Store × Queue} (h : Reach st st') (hc : Core st) : Core st' := by
  induction h with
  | refl => exact hc
  | tail _ ha ih => exact ha.core ih

/-- A property every transition keeps from a state satisfying `Core` holds all along a run of
transitions from such a state. -/
theorem Reach.invariant {P : Store × Queue → Prop}
    (hstep : ∀ {st st' : Store × Queue}, Core st → Action st st' → P st → P st')
    {st st' : Store × Queue} (h : Reach st st') (hc : Core st) (hp : P st) : P st' := by
  induction h with
  | refl => exact hp
  | tail hr ha ih => exact hstep (Reach.core hr hc) ha ih

/-- A property every operation keeps from a state satisfying `Core`, when its answer satisfies
`Q`, holds all along a run from such a state whose answers all satisfy `Q`. -/
theorem Run.invariant {config : SchedulerConfig} {P : World → Prop} {Q : Except Err Unit → Prop}
    (hstep : ∀ {w w' : World} {op : Op} {r : Except Err Unit},
      Core w.state → Step config w op r w' → Q r → P w → P w')
    {w w' : World} {trace : List (Op × Except Err Unit)} (h : Run config w trace w')
    (hc : Core w.state) (hq : ∀ p ∈ trace, Q p.2) (hp : P w) : P w' := by
  induction h with
  | nil => exact hp
  | cons hs _ ih =>
    exact ih (Reach.core (step_reach hc.keys hs) hc) (fun p hp => hq p (List.mem_cons_of_mem _ hp))
      (hstep hc hs (hq _ (List.mem_cons_self _ _)) hp)

/-- **A scheduler starts in `Core`** when its queue is fresh and its store is consistent
(`Store.Lifecycle`), as every run leaves it: a restart over what an earlier run stored included. -/
theorem Core.initial {config : SchedulerConfig} {w : World} (hk : w.store.Keys)
    (hq : Fresh config w) (hl : w.store.Lifecycle) : Core w.state where
  keys := hk
  valid := by
    show w.queue.Valid
    rw [show w.queue = _ from hq]
    exact Queue.new_valid _
  queued id hm := by
    simp only [World.state, show w.queue = _ from hq, Queue.ids, Queue.new_entries] at hm
    cases hm
  lifecycle := hl

end Step

end GpuScheduler
