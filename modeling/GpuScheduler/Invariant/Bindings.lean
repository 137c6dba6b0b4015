import GpuScheduler.Invariant.Core
/-
# GPU bindings: every GPU serves at most one Active allocation

`Store.Bindings` ties the binding fields of the GPU rows to the Active allocations: every GPU id
an Active allocation lists is a stored GPU, that GPU is marked allocated to that allocation and
lives on its node, and every GPU marked allocated is listed by an Active allocation.  Exclusivity
follows from it and unique keys (`Bindings.exclusive`): a GPU names one allocation.

`createAllocation` keeps it because it only takes GPUs that are not allocated
(`Bindings.commit`); `Free` and `Preempt` keep it because what they release is Active, which the
lifecycle invariant guarantees (`Bindings.release`).  It needs every write to succeed and each
allocation to be freed once: a failing `UpdateGPU` in `createAllocation`, a failing `GetGPU` in
`Free`, or a second `Free` of a Completed allocation breaks it (section 4).
-/

namespace GpuScheduler

namespace Store

/-- The GPUs' binding fields agree with the Active allocations. -/
structure Bindings (s : Store) : Prop where
  present : ∀ a ∈ s.allocations, a.state = .active → ∀ id ∈ a.gpuIDs, ∃ g ∈ s.gpus, g.id = id
  bound : ∀ a ∈ s.allocations, a.state = .active → ∀ g ∈ s.gpus, g.id ∈ a.gpuIDs →
    g.allocated = true ∧ g.allocationID = a.id ∧ g.nodeID = a.nodeID
  listed : ∀ g ∈ s.gpus, g.allocated = true →
    ∃ a ∈ s.allocations, a.state = .active ∧ g.id ∈ a.gpuIDs

/-- Two Active allocations listing one GPU id are the same allocation. -/
theorem Bindings.exclusive {s : Store} (h : s.Bindings) (hk : s.Keys) {a b : Allocation}
    (ha : a ∈ s.allocations) (hb : b ∈ s.allocations) (hax : a.state = .active)
    (hbx : b.state = .active) {id : String} (hia : id ∈ a.gpuIDs) (hib : id ∈ b.gpuIDs) : a = b := by
  obtain ⟨g, hg, rfl⟩ := h.present a ha hax id hia
  have e := (h.bound a ha hax g hg hia).2.1.symm.trans (h.bound b hb hbx g hg hib).2.1
  exact hk.allocations.inj ha hb (by simpa using e)

/-- Only the GPUs and the allocations matter. -/
theorem Bindings.congr {s s' : Store} (h : s.Bindings) (hg : s'.gpus = s.gpus)
    (ha : s'.allocations = s.allocations) : s'.Bindings := by
  obtain ⟨hp, hb, hl⟩ := h
  exact ⟨ha ▸ hg ▸ hp, ha ▸ hg ▸ hb, ha ▸ hg ▸ hl⟩

theorem mem_mapListed {ids : List String} {f : GPU → GPU} {gpus : List GPU} {g' : GPU} :
    g' ∈ mapListed ids f gpus ↔ ∃ g ∈ gpus, g' = if g.id ∈ ids then f g else g := by
  simp [mapListed, eq_comm]

@[simp] theorem GPU.ite_bind_id (c : Prop) [Decidable c] (g : GPU) (a : Allocation) :
    (if c then g.bind a else g).id = g.id := by
  split <;> rfl

@[simp] theorem GPU.ite_unbind_id (c : Prop) [Decidable c] (g : GPU) :
    (if c then g.unbind else g).id = g.id := by
  split <;> rfl

/-- **`createAllocation` of a fitting allocation keeps the bindings.** -/
theorem Bindings.commit {s : Store} (h : s.Bindings) (hk : s.Keys) {a : Allocation}
    (hf : s.Fits a) : (s.commit a).Bindings := by
  have hfree : ∀ g ∈ s.gpus, g.id ∈ a.gpuIDs → g.allocated = false ∧ g.nodeID = a.nodeID :=
    fun g hg hga => by
      obtain ⟨g₀, hg₀, hid, hn, hfr⟩ := hf.gpus g.id hga
      obtain rfl := hk.gpus.inj hg₀ hg (by simpa using hid)
      exact ⟨hfr, hn⟩
  have hmem : ∀ b ∈ (s.commit a).allocations, b ∈ s.allocations ∨ b = a := fun b hb => by
    simpa only [Store.commit, List.mem_append, List.mem_singleton] using hb
  refine ⟨fun b hb hbx id hid => ?_, fun b hb hbx g' hg' hgb => ?_, fun g' hg' hal => ?_⟩
  · obtain ⟨g, hg, rfl⟩ : ∃ g ∈ s.gpus, g.id = id := by
      rcases hmem b hb with hb | rfl
      · exact h.present b hb hbx id hid
      · obtain ⟨g, hg, e, -⟩ := hf.gpus id hid
        exact ⟨g, hg, e⟩
    exact ⟨_, mem_mapListed.mpr ⟨g, hg, rfl⟩, GPU.ite_bind_id _ g a⟩
  · obtain ⟨g, hg, rfl⟩ := mem_mapListed.mp hg'
    rw [GPU.ite_bind_id] at hgb
    by_cases hga : g.id ∈ a.gpuIDs
    · rw [if_pos hga]
      rcases hmem b hb with hb | rfl
      · exact absurd ((hfree g hg hga).1.symm.trans (h.bound b hb hbx g hg hgb).1) Bool.false_ne_true
      · exact ⟨rfl, rfl, (hfree g hg hga).2⟩
    · rw [if_neg hga]
      rcases hmem b hb with hb | rfl
      · exact h.bound b hb hbx g hg hgb
      · exact absurd hgb hga
  · obtain ⟨g, hg, rfl⟩ := mem_mapListed.mp hg'
    by_cases hga : g.id ∈ a.gpuIDs
    · exact ⟨a, by simp [Store.commit], hf.active, by rw [GPU.ite_bind_id]; exact hga⟩
    · rw [if_neg hga] at hal ⊢
      obtain ⟨b, hb, hbx, hgb⟩ := h.listed g hg hal
      exact ⟨b, by simp [Store.commit, hb], hbx, hgb⟩

/-- **Releasing an Active allocation into a state that is not Active keeps the bindings.** -/
theorem Bindings.release {s : Store} (h : s.Bindings) (hk : s.Keys) {a a' : Allocation}
    (ha : a ∈ s.allocations) (hax : a.state = .active) (hid : a'.id = a.id)
    (hna : a'.state ≠ .active) : (s.release a a').Bindings := by
  have hmem : ∀ b ∈ (s.release a a').allocations, b.state = .active →
      b ∈ s.allocations ∧ b.id ≠ a.id := fun b hb hbx => by
    rcases (mem_release hk).mp hb with rfl | ⟨hb, hne⟩
    · exact absurd hbx hna
    · exact ⟨hb, hid ▸ hne⟩
  have hother : ∀ b ∈ s.allocations, b.state = .active → b.id ≠ a.id →
      ∀ g ∈ s.gpus, g.id ∈ b.gpuIDs → g.id ∉ a.gpuIDs := fun b hb hbx hne g hg hgb hga =>
    hne ((h.bound b hb hbx g hg hgb).2.1.symm.trans (h.bound a ha hax g hg hga).2.1)
  refine ⟨fun b hb hbx id hid' => ?_, fun b hb hbx g' hg' hgb => ?_, fun g' hg' hal => ?_⟩
  · obtain ⟨g, hg, rfl⟩ := h.present b (hmem b hb hbx).1 hbx id hid'
    exact ⟨_, mem_mapListed.mpr ⟨g, hg, rfl⟩, GPU.ite_unbind_id _ g⟩
  · obtain ⟨hb, hne⟩ := hmem b hb hbx
    obtain ⟨g, hg, rfl⟩ := mem_mapListed.mp hg'
    rw [GPU.ite_unbind_id] at hgb
    rw [if_neg (hother b hb hbx hne g hg hgb)]
    exact h.bound b hb hbx g hg hgb
  · obtain ⟨g, hg, rfl⟩ := mem_mapListed.mp hg'
    by_cases hga : g.id ∈ a.gpuIDs
    · rw [if_pos hga] at hal
      cases hal
    · rw [if_neg hga] at hal ⊢
      obtain ⟨b, hb, hbx, hgb⟩ := h.listed g hg hal
      have hne : b.id ≠ a.id := fun e => hga (hk.allocations.inj hb ha (by simpa using e) ▸ hgb)
      exact ⟨b, (mem_release hk).mpr (.inr ⟨hb, hid ▸ hne⟩), hbx, hgb⟩

/-- Releasing every allocation of a Running job into states that are not Active. -/
theorem Bindings.releaseRunning {s : Store} {q : Queue} (h : s.Bindings) (hc : Core (s, q))
    {job : Job} (hj : job ∈ s.jobs) (hr : job.state = .running) (f : Allocation → Allocation)
    (hid : ∀ a, (f a).id = a.id) (hf : ∀ a, (f a).state ≠ .active) :
    (s.releaseAll (s.getJobAllocations job.id) f).Bindings := by
  rcases hc.lifecycle.running hj hr with hL | ⟨a, hL, hax⟩ <;> rw [hL]
  · exact h
  · exact h.release hc.keys (mem_getJobAllocations.mp (hL ▸ List.mem_singleton_self a)).1 hax
      (hid a) (hf a)

end Store

/-- **Every transition keeps the bindings.** -/
theorem Action.bindings {st st' : Store × Queue} (h : Action st st') (hc : Core st)
    (hb : st.1.Bindings) : st'.1.Bindings := by
  cases h with
  | create | cancelPending => exact hb.congr rfl rfl
  | enqueue | age => exact hb
  | cancelRunning job stored running =>
    exact (hb.releaseRunning hc stored running (fun a => { a with state := .completed })
      (fun _ => rfl) (fun _ => by simp)).congr
      (by simp [Store.updateJob, Store.freeJobResources])
      (by simp [Store.updateJob, Store.freeJobResources])
  | start job a head fits =>
    exact (hb.commit hc.keys fits).congr (by simp [Store.startJob, Store.updateJob])
      (by simp [Store.startJob, Store.updateJob])
  | preempt victim preemptorID stored running =>
    rw [Store.preempt, Store.releaseAll_updateJob]
    exact (hb.releaseRunning hc stored running
      (fun a => { a with state := .preempted, preemptedBy := preemptorID })
      (fun _ => rfl) (fun _ => by simp)).congr rfl rfl

/-- **GPU exclusivity.**  In every state of a sequential run of a fresh scheduler over a store with
no allocation and no GPU marked allocated, an id is listed by at most one Active allocation;
every GPU an Active allocation lists is marked allocated to it and lives on its node; and every
GPU marked allocated is listed by exactly one Active allocation. -/
theorem gpu_exclusive_run {config : SchedulerConfig} {w₀ w : World}
    {trace : List (Op × Except Err Unit)} (hk : w₀.store.Keys) (hq : Fresh config w₀)
    (hnone : w₀.store.allocations = []) (hfree : ∀ g ∈ w₀.store.gpus, g.allocated = false)
    (hrun : Run config w₀ trace w) :
    (∀ a ∈ w.store.allocations, ∀ b ∈ w.store.allocations, a.state = .active →
      b.state = .active → ∀ id ∈ a.gpuIDs, id ∈ b.gpuIDs → a = b) ∧
    (∀ a ∈ w.store.allocations, a.state = .active → ∀ g ∈ w.store.gpus, g.id ∈ a.gpuIDs →
      g.allocated = true ∧ g.allocationID = a.id ∧ g.nodeID = a.nodeID) ∧
    (∀ g ∈ w.store.gpus, g.allocated = true → ∃ a ∈ w.store.allocations, a.state = .active ∧
      g.id ∈ a.gpuIDs ∧ ∀ b ∈ w.store.allocations, b.state = .active → g.id ∈ b.gpuIDs → b = a) := by
  have hc := Core.initial hk hq (.of_none hnone)
  have hreach := run_reach hk hrun
  have hb : w.store.Bindings := Reach.invariant (P := fun st => st.1.Bindings)
    (fun hc ha hb => ha.bindings hc hb) hreach hc
    ⟨fun a ha => by simp [World.state, hnone] at ha, fun a ha => by simp [World.state, hnone] at ha,
      fun g hg hal => by rw [hfree g hg] at hal; cases hal⟩
  have hk' : w.store.Keys := (Reach.core hreach hc).keys
  refine ⟨fun a ha b hb' hax hbx id hia hib => hb.exclusive hk' ha hb' hax hbx hia hib, hb.bound,
    fun g hg hal => ?_⟩
  obtain ⟨a, ha, hax, hga⟩ := hb.listed g hg hal
  exact ⟨a, ha, hax, hga, fun b hb' hbx hgb => hb.exclusive hk' hb' ha hbx hax hgb hga⟩

/-- The preemption scenario satisfies the hypotheses: after it, the GPU bound to `j2`'s allocation
is listed by that allocation alone. -/
theorem gpu_exclusive_sample : ∃ trace w, Run (sampleConfig 10) (sampleWorld 4 ["g1"] 10) trace w ∧
    w.store.allocations.length = 2 ∧
    (∀ a ∈ w.store.allocations, ∀ b ∈ w.store.allocations, a.state = .active →
      b.state = .active → ∀ id ∈ a.gpuIDs, id ∈ b.gpuIDs → a = b) ∧
    (∀ a ∈ w.store.allocations, a.state = .active → ∀ g ∈ w.store.gpus, g.id ∈ a.gpuIDs →
      g.allocated = true ∧ g.allocationID = a.id ∧ g.nodeID = a.nodeID) ∧
    (∀ g ∈ w.store.gpus, g.allocated = true → ∃ a ∈ w.store.allocations, a.state = .active ∧
      g.id ∈ a.gpuIDs ∧ ∀ b ∈ w.store.allocations, b.state = .active → g.id ∈ b.gpuIDs → b = a) := by
  obtain ⟨trace, w, hrun, hlen⟩ := exists_run (sampleConfig 10) samplePreemption
    (sampleWorld 4 ["g1"] 10) (P := fun p => p.2.store.allocations.length = 2) (by decide)
  exact ⟨trace, w, hrun, hlen, gpu_exclusive_run (sampleWorld_keys 4 (by decide) 10)
    (sampleWorld_fresh 4 ["g1"] 10) rfl (by decide) hrun⟩

/-! ## 4. What the invariant needs of the repository and of `Free`

The runs above make every repository call succeed, and free an allocation only while it is
Active.  `createAllocation` checks only its first write and `Free` never looks at the state of
the allocation it releases, so one failing call, or a second `Free`, leaves a GPU and the
allocations out of step: an Active allocation on an unbound GPU, or a GPU bound to a Completed
allocation.  `Prog.runFailing` makes the repository fail at one call, with the error below. -/

/-- The failure the repository answers in the runs below. -/
def connectionReset : Err := .text "connection reset"

/-- **`Allocate` answers success over a partial allocation.**  On the sample cluster with one
free GPU, a failing sixth call (`UpdateGPU`) leaves the GPU unbound under the new Active
allocation, and a failing seventh call (`UpdateNode`) leaves the node's counters as they were;
both runs answer `Success = true`. -/
theorem allocate_partial_sample :
    (∃ r w', (Allocator.allocate sampleRequest).runFailing connectionReset 5
        (sampleWorld 4 ["g1"] 10) = some (.ok r, w') ∧ r.success = true ∧ r.gpuIDs = ["g1"] ∧
      (∃ a ∈ w'.store.allocations, a.id = r.allocationID ∧ a.state = .active ∧
        a.gpuIDs = ["g1"]) ∧
      ∀ g ∈ w'.store.gpus, g.allocated = false) ∧
    ∃ r w', (Allocator.allocate sampleRequest).runFailing connectionReset 6
        (sampleWorld 4 ["g1"] 10) = some (.ok r, w') ∧ r.success = true ∧
      (∃ a ∈ w'.store.allocations, a.id = r.allocationID ∧ a.state = .active) ∧
      w'.store.nodes = (sampleWorld 4 ["g1"] 10).store.nodes := by
  decide

/-- **`Free` answers nil over a partial release, and an error over another.**  After `j1` is
submitted and started on the cluster's one GPU, under `alloc-5`, a failing third call of
`Free(alloc-5)` (`GetGPU`) leaves `g1` bound to the Completed allocation while `Free` answers
nil; a failing fifth call (`GetNode`) answers an error after the allocation and the GPU have
been written. -/
theorem free_partial_sample : ∃ trace w, Run (sampleConfig 10) (sampleWorld 4 ["g1"] 10) trace w ∧
    (∃ a ∈ w.store.allocations, a.id = "alloc-5" ∧ a.state = .active ∧ a.gpuIDs = ["g1"]) ∧
    (∃ w', (Allocator.free "alloc-5").runFailing connectionReset 2 w = some (.ok (), w') ∧
      (∃ a ∈ w'.store.allocations, a.id = "alloc-5" ∧ a.state = .completed) ∧
      ∃ g ∈ w'.store.gpus, g.id = "g1" ∧ g.allocated = true ∧ g.allocationID = "alloc-5") ∧
    ∃ e w', (Allocator.free "alloc-5").runFailing connectionReset 4 w = some (.error e, w') ∧
      w'.store.allocations ≠ w.store.allocations ∧ w'.store.gpus ≠ w.store.gpus :=
  exists_run_to _ [.submitJob (sampleJob "j1" 1), .schedulingCycle 5] _ (by decide)

/-- `j1` started and cancelled, which frees `alloc-5`; then `j2` started on the same GPU, under
`alloc-10`. -/
def sampleRebinding : List Op :=
  [.submitJob (sampleJob "j1" 1), .schedulingCycle 5, .cancelJob "j1",
    .submitJob (sampleJob "j2" 1), .schedulingCycle 5]

/-- **A second `Free` unbinds a GPU that another allocation holds.**  Freeing the Completed
`alloc-5` again clears `g1`'s binding to `alloc-10` and raises the node's counters, which a
single `Free` had already restored. -/
theorem free_released_sample : ∃ trace w,
    Run (sampleConfig 10) (sampleWorld 4 ["g1"] 10) trace w ∧
    (∃ a ∈ w.store.allocations, a.id = "alloc-5" ∧ a.state = .completed ∧ a.gpuIDs = ["g1"]) ∧
    (∃ b ∈ w.store.allocations, b.id = "alloc-10" ∧ b.state = .active ∧ b.gpuIDs = ["g1"]) ∧
    (∃ g ∈ w.store.gpus, g.id = "g1" ∧ g.allocated = true ∧ g.allocationID = "alloc-10") ∧
    ∃ w', (Allocator.free "alloc-5").run w = some (.ok (), w') ∧
      (∃ g ∈ w'.store.gpus, g.id = "g1" ∧ g.allocated = false ∧ g.allocationID = "") ∧
      w'.store.nodes ≠ w.store.nodes :=
  exists_run_to _ sampleRebinding _ (by decide)

end GpuScheduler
