import GpuScheduler.Invariant.Policy
import GpuScheduler.Invariant.Bindings
import GpuScheduler.Invariant.Lifecycle
/-
# What `GetJobStatus` reports along a run

`GetJobStatus` reads the job's row and, for a Running job, the first allocation listed for it
(`getJobStatus_run`).  Along a run the invariants of the other files make that answer exact: a
Running job has exactly one allocation and it is Active (`Store.Lifecycle`, `Store.Started`), it
holds as many distinct GPUs as the job asks for (`Store.Sized`), and each of them is a stored GPU
of its node bound to it (`Store.Bindings`).  So the GPUs the status lists are those the job
runs on, no more and no fewer (`job_status_run`).
-/

namespace GpuScheduler

open Scheduler

/-- The invariants of a reachable state that `GetJobStatus` relies on. -/
structure Reported (s : Store) : Prop where
  keys : s.Keys
  lifecycle : s.Lifecycle
  started : s.Started
  sized : s.Sized
  bindings : s.Bindings

/-- Along a run of a fresh scheduler over a store with no allocation, no Running job and no GPU
marked allocated, every state satisfies `Reported`. -/
theorem Reported.run {config : SchedulerConfig} {w₀ w : World} {trace : List (Op × Except Err Unit)}
    (hk : w₀.store.Keys) (hq : Fresh config w₀) (hnone : w₀.store.allocations = [])
    (hidle : ∀ j ∈ w₀.store.jobs, j.state ≠ .running)
    (hfree : ∀ g ∈ w₀.store.gpus, g.allocated = false) (h : Run config w₀ trace w) :
    Reported w.store := by
  have hc₀ := Core.initial hk hq (.of_none hnone)
  have hr := run_reach hk h
  have hc := Reach.core hr hc₀
  have empty : ∀ {P : Allocation → Prop}, ∀ a ∈ w₀.state.1.allocations, P a := fun a ha => by
    simp [World.state, hnone] at ha
  refine ⟨hc.keys, hc.lifecycle, (hr.started hc₀ fun j hj hr => absurd hr (hidle j hj)).1,
    (Moves.invariant (fun hf hm hs => hm.sized hf hs) (run_moves hk h)
      (Faithful.initial hk hq hnone) empty).2, ?_⟩
  exact Reach.invariant (P := fun st => st.1.Bindings) (fun hc ha hb => ha.bindings hc hb) hr hc₀
    ⟨empty, empty, fun g hg hal => by rw [hfree g hg] at hal; cases hal⟩

/-- A Running job's one Active allocation, with what it holds and where. -/
theorem Reported.running {s : Store} (h : Reported s) {j : Job} (hj : j ∈ s.jobs)
    (hr : j.state = .running) : ∃ a, s.getJobAllocations j.id = [a] ∧ a ∈ s.allocations ∧
      a.jobID = j.id ∧ a.state = .active ∧ a.gpuIDs.Nodup ∧
      BitVec.ofNat 64 a.gpuIDs.length = j.gpuCount ∧
      ∀ id ∈ a.gpuIDs, ∃ g ∈ s.gpus, g.id = id ∧ g.allocated = true ∧ g.allocationID = a.id ∧
        g.nodeID = a.nodeID := by
  rcases h.lifecycle.running hj hr with hL | ⟨a, hL, hax⟩
  · exact absurd hL (h.started j hj hr)
  obtain ⟨ha, hid⟩ := Store.mem_getJobAllocations.mp (hL ▸ List.mem_singleton_self a)
  -- the job whose request the allocation holds is `j`, its owner
  obtain ⟨j', hj', hh⟩ := h.sized a ha
  obtain rfl : j' = j := h.keys.jobs.inj hj' hj (by simpa [← hid] using hh.owner.symm)
  refine ⟨a, hL, ha, hid, hax, hh.distinct, hh.gpus, fun id hid' => ?_⟩
  obtain ⟨g, hg, rfl⟩ := h.bindings.present a ha hax id hid'
  exact ⟨g, hg, rfl, h.bindings.bound a ha hax g hg hid'⟩

/-- **What `GetJobStatus` reports along a run.**  In every state of a sequential run of a fresh
scheduler over a store with unique keys, no allocation, no Running job and no GPU marked
allocated, `GetJobStatus(jobID)` writes nothing and answers `ErrJobNotFound` exactly when no job
has that id; otherwise it answers the job's id and state, and for a Running job the GPU ids and
node of its one Active allocation: as many distinct GPUs as the job's `GPUCount`, each a stored
GPU of that node marked allocated to that allocation.  For a job in any other state it lists no
GPU and an empty node name. -/
theorem job_status_run {config : SchedulerConfig} {w₀ w : World}
    {trace : List (Op × Except Err Unit)} (hk : w₀.store.Keys) (hq : Fresh config w₀)
    (hnone : w₀.store.allocations = []) (hidle : ∀ j ∈ w₀.store.jobs, j.state ≠ .running)
    (hfree : ∀ g ∈ w₀.store.gpus, g.allocated = false) (h : Run config w₀ trace w)
    (jobID : String) :
    ∃ r, (getJobStatus jobID).run w = some (r, w) ∧
      match r with
      | .error e => e = .sentinel .jobNotFound ∧ ∀ j ∈ w.store.jobs, j.id ≠ jobID
      | .ok st => ∃ j ∈ w.store.jobs, j.id = jobID ∧ st.jobID = jobID ∧ st.state = j.state ∧
          (j.state = .running → ∃ a ∈ w.store.allocations, a.jobID = jobID ∧ a.state = .active ∧
            st.allocatedGPUs = a.gpuIDs ∧ st.nodeName = a.nodeID ∧ a.gpuIDs.Nodup ∧
            BitVec.ofNat 64 a.gpuIDs.length = j.gpuCount ∧
            ∀ id ∈ a.gpuIDs, ∃ g ∈ w.store.gpus, g.id = id ∧ g.allocated = true ∧
              g.allocationID = a.id ∧ g.nodeID = a.nodeID) ∧
          (j.state ≠ .running → st.allocatedGPUs = [] ∧ st.nodeName = "") := by
  have hrep := Reported.run hk hq hnone hidle hfree h
  obtain ⟨r, hrun, hr⟩ := getJobStatus_run jobID w
  refine ⟨r, hrun, ?_⟩
  cases r with
  | error e =>
    dsimp only at hr
    refine ⟨?_, fun j hj => by simpa using Table.get_eq_error hr j hj⟩
    unfold Store.getJob Table.get at hr
    split at hr <;> cases hr
    rfl
  | ok st =>
    dsimp only at hr
    obtain ⟨j, hg, hid, hst, hrun', hnr⟩ := hr
    obtain ⟨hj, hjid⟩ := (Table.get_eq_ok hrep.keys.jobs _).mp hg
    replace hjid : j.id = jobID := hjid
    refine ⟨j, hj, hjid, hid.trans hjid, hst, fun hrj => ?_, hnr⟩
    obtain ⟨a, hL, ha, haj, hax, hnd, hgpus, hbound⟩ := hrep.running hj hrj
    obtain ⟨hga, hna⟩ := hrun' hrj a [] (hjid ▸ hL)
    exact ⟨a, ha, haj.trans hjid, hax, hga, hna, hnd, hgpus, hbound⟩

/-- After the sample preemption `j2` runs on `g1`, and its status says so. -/
theorem job_status_sample : ∃ trace w, Run (sampleConfig 10) (sampleWorld 4 ["g1"] 10) trace w ∧
    (∃ j ∈ w.store.jobs, j.id = "j2" ∧ j.state = .running) ∧
    ∃ r, (getJobStatus "j2").run w = some (r, w) ∧
      match r with
      | .error e => e = .sentinel .jobNotFound ∧ ∀ j ∈ w.store.jobs, j.id ≠ "j2"
      | .ok st => ∃ j ∈ w.store.jobs, j.id = "j2" ∧ st.jobID = "j2" ∧ st.state = j.state ∧
          (j.state = .running → ∃ a ∈ w.store.allocations, a.jobID = "j2" ∧ a.state = .active ∧
            st.allocatedGPUs = a.gpuIDs ∧ st.nodeName = a.nodeID ∧ a.gpuIDs.Nodup ∧
            BitVec.ofNat 64 a.gpuIDs.length = j.gpuCount ∧
            ∀ id ∈ a.gpuIDs, ∃ g ∈ w.store.gpus, g.id = id ∧ g.allocated = true ∧
              g.allocationID = a.id ∧ g.nodeID = a.nodeID) ∧
          (j.state ≠ .running → st.allocatedGPUs = [] ∧ st.nodeName = "") := by
  obtain ⟨trace, w, hrun, hp⟩ := exists_run_to (sampleConfig 10) samplePreemption
    (sampleWorld 4 ["g1"] 10) (P := fun w => ∃ j ∈ w.store.jobs, j.id = "j2" ∧ j.state = .running)
    (by decide)
  exact ⟨trace, w, hrun, hp, job_status_run (sampleWorld_keys 4 (by decide) 10)
    (sampleWorld_fresh 4 ["g1"] 10) rfl (by decide) (by decide) hrun "j2"⟩

end GpuScheduler
