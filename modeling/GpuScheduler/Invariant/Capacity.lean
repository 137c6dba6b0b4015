import GpuScheduler.Invariant.Core
import Mathlib.Tactic.Abel
/-
# Node capacity: the counters account for the Active allocations exactly

`Store.Balanced` says a node counter is its total less what the Active allocations on the node
hold, in Go's 64-bit `int` arithmetic; `Store.Capacity` asks it of the three counters
`createAllocation` and the release paths update.  The three are one lemma each way
(`Balanced.commit`, `Balanced.release`), instantiated with the counter, its total, and what an
allocation holds of it.
-/

namespace GpuScheduler

/-- Upserting `r` over the stored row `r₀` of the same key takes `g r₀` out of a sum and puts
`g r` in. -/
theorem Table.sum_map_save {α M : Type} [Keyed α] [AddCommGroup M] {rows : List α} {r r₀ : α}
    (h : Table.Keys rows) (hr : r₀ ∈ rows) (hk : Keyed.key r = Keyed.key r₀) (g : α → M) :
    ((Table.save r rows).map g).sum = (rows.map g).sum - g r₀ + g r := by
  induction rows with
  | nil => cases hr
  | cons y ys ih =>
    have hy := List.nodup_cons.mp h
    unfold Table.save
    split <;> rename_i hky
    · obtain rfl : y = r₀ := h.inj (List.mem_cons_self _ _) hr (hky.trans hk)
      simp only [List.map_cons, List.sum_cons]
      abel
    · have hr' : r₀ ∈ ys := (List.mem_cons.mp hr).resolve_left fun e => hky (e ▸ hk.symm)
      simp only [List.map_cons, List.sum_cons, ih hy.2 hr']
      abel

theorem List.sum_map_filter {α M : Type} [AddCommMonoid M] (p : α → Bool) (g : α → M) :
    ∀ l : List α, ((l.filter p).map g).sum = (l.map fun x => if p x then g x else 0).sum
  | [] => rfl
  | x :: l => by
    by_cases hx : p x <;> simp [List.filter_cons, hx, List.sum_map_filter p g l]

namespace Store

/-- What the Active allocations on node `nodeID` hold, summed. -/
def held (s : Store) (nodeID : String) (amount : Allocation → BitVec 64) : BitVec 64 :=
  ((s.allocations.filter fun a => a.state = .active ∧ a.nodeID = nodeID).map amount).sum

/-- Each node's counter `avail` is its `total` less what the Active allocations on it hold. -/
def Balanced (s : Store) (avail total : Node → BitVec 64) (amount : Allocation → BitVec 64) :
    Prop :=
  ∀ n ∈ s.nodes, avail n = total n - s.held n.id amount

/-- The three node counters `createAllocation`, `Free` and `Preempt` update. -/
structure Capacity (s : Store) : Prop where
  gpus : s.Balanced (·.availableGPUs) (·.totalGPUs) fun a => BitVec.ofNat 64 a.gpuIDs.length
  cpuCores : s.Balanced (·.availableCPUCores) (·.totalCPUCores) (·.cpuCores)
  memory : s.Balanced (·.availableMemoryMB) (·.totalMemoryMB) (·.memoryMB)

section Counter

/-! ## One counter -/

variable {avail total : Node → BitVec 64} {amount : Allocation → BitVec 64}

theorem held_commit (s : Store) {a : Allocation} (hax : a.state = .active) (nodeID : String) :
    (s.commit a).held nodeID amount = s.held nodeID amount + if a.nodeID = nodeID then amount a else 0 := by
  simp only [held, commit, List.filter_append, List.filter_cons, List.filter_nil, hax, true_and,
    decide_eq_true_eq]
  split_ifs <;> simp

theorem held_release {s : Store} (hk : s.Keys) {a a' : Allocation} (ha : a ∈ s.allocations)
    (hax : a.state = .active) (hid : a'.id = a.id) (hna : a'.state ≠ .active) (nodeID : String) :
    (s.release a a').held nodeID amount = s.held nodeID amount - if a.nodeID = nodeID then amount a else 0 := by
  simp only [held, release, List.sum_map_filter]
  rw [Table.sum_map_save hk.allocations ha (by simpa using hid)]
  simp [hax, hna]

theorem Balanced.commit {s : Store} (h : s.Balanced avail total amount) {a : Allocation}
    (hax : a.state = .active) (hres : ∀ n, avail (n.reserve a) = avail n - amount a)
    (htot : ∀ n, total (n.reserve a) = total n) : (s.commit a).Balanced avail total amount := by
  intro n' hn'
  obtain ⟨n, hn, rfl⟩ := List.mem_map.mp hn'
  rw [held_commit s hax]
  by_cases hna : n.id = a.nodeID
  · simp only [if_pos hna, Node.reserve_id, if_pos hna.symm, hres, htot, h n hn]
    abel
  · simp only [if_neg hna, if_neg (Ne.symm hna), add_zero]
    exact h n hn

theorem Balanced.release {s : Store} (h : s.Balanced avail total amount) (hk : s.Keys)
    {a a' : Allocation} (ha : a ∈ s.allocations) (hax : a.state = .active) (hid : a'.id = a.id)
    (hna : a'.state ≠ .active) (hrest : ∀ n, avail (n.restore a) = avail n + amount a)
    (htot : ∀ n, total (n.restore a) = total n) : (s.release a a').Balanced avail total amount := by
  intro n' hn'
  obtain ⟨n, hn, rfl⟩ := List.mem_map.mp hn'
  rw [held_release hk ha hax hid hna]
  by_cases hn₁ : n.id = a.nodeID
  · simp only [if_pos hn₁, Node.restore_id, if_pos hn₁.symm, hrest, htot, h n hn]
    abel
  · simp only [if_neg hn₁, if_neg (Ne.symm hn₁), sub_zero]
    exact h n hn

end Counter

/-- Only the nodes and the allocations matter. -/
theorem Capacity.congr {s s' : Store} (h : s.Capacity) (hn : s'.nodes = s.nodes)
    (ha : s'.allocations = s.allocations) : s'.Capacity := by
  obtain ⟨hg, hc, hm⟩ := h
  refine ⟨?_, ?_, ?_⟩ <;> intro n hn' <;> simp only [held, ha] <;> [exact hg n (hn ▸ hn');
    exact hc n (hn ▸ hn'); exact hm n (hn ▸ hn')]

theorem Capacity.commit {s : Store} (h : s.Capacity) {a : Allocation} (hax : a.state = .active) :
    (s.commit a).Capacity :=
  ⟨h.gpus.commit hax (fun _ => rfl) (fun _ => rfl), h.cpuCores.commit hax (fun _ => rfl) (fun _ => rfl),
    h.memory.commit hax (fun _ => rfl) (fun _ => rfl)⟩

theorem Capacity.release {s : Store} (h : s.Capacity) (hk : s.Keys) {a a' : Allocation}
    (ha : a ∈ s.allocations) (hax : a.state = .active) (hid : a'.id = a.id)
    (hna : a'.state ≠ .active) : (s.release a a').Capacity :=
  ⟨h.gpus.release hk ha hax hid hna (fun _ => rfl) (fun _ => rfl),
    h.cpuCores.release hk ha hax hid hna (fun _ => rfl) (fun _ => rfl),
    h.memory.release hk ha hax hid hna (fun _ => rfl) (fun _ => rfl)⟩

/-- Releasing every allocation of a Running job into states that are not Active. -/
theorem Capacity.releaseRunning {s : Store} {q : Queue} (h : s.Capacity) (hc : Core (s, q))
    {job : Job} (hj : job ∈ s.jobs) (hr : job.state = .running) (f : Allocation → Allocation)
    (hid : ∀ a, (f a).id = a.id) (hf : ∀ a, (f a).state ≠ .active) :
    (s.releaseAll (s.getJobAllocations job.id) f).Capacity := by
  rcases hc.lifecycle.running hj hr with hL | ⟨a, hL, hax⟩ <;> rw [hL]
  · exact h
  · exact h.release hc.keys (mem_getJobAllocations.mp (hL ▸ List.mem_singleton_self a)).1 hax
      (hid a) (hf a)

end Store

/-- **Every transition keeps the node counters exact.** -/
theorem Action.capacity {st st' : Store × Queue} (h : Action st st') (hc : Core st)
    (hb : st.1.Capacity) : st'.1.Capacity := by
  cases h with
  | create | cancelPending => exact hb.congr rfl rfl
  | enqueue | age => exact hb
  | cancelRunning job stored running =>
    exact (hb.releaseRunning hc stored running (fun a => { a with state := .completed })
      (fun _ => rfl) (fun _ => by simp)).congr
      (by simp [Store.updateJob, Store.freeJobResources])
      (by simp [Store.updateJob, Store.freeJobResources])
  | start job a head fits =>
    exact (hb.commit fits.active).congr (by simp [Store.startJob, Store.updateJob])
      (by simp [Store.startJob, Store.updateJob])
  | preempt victim preemptorID stored running =>
    rw [Store.preempt, Store.releaseAll_updateJob]
    exact (hb.releaseRunning hc stored running
      (fun a => { a with state := .preempted, preemptedBy := preemptorID })
      (fun _ => rfl) (fun _ => by simp)).congr rfl rfl

/-- **Node counters.**  In every state of a sequential run of a fresh scheduler over a store with
no allocation and every node's available counters equal to its totals, each node's available
GPUs, CPU cores and memory are its totals less the sums, over the Active allocations on the node,
of their GPU counts, CPU cores and memory: the release paths give back exactly what
`createAllocation` took. -/
theorem node_counters_run {config : SchedulerConfig} {w₀ w : World}
    {trace : List (Op × Except Err Unit)} (hk : w₀.store.Keys) (hq : Fresh config w₀)
    (hnone : w₀.store.allocations = [])
    (hfull : ∀ n ∈ w₀.store.nodes, n.availableGPUs = n.totalGPUs ∧
      n.availableCPUCores = n.totalCPUCores ∧ n.availableMemoryMB = n.totalMemoryMB)
    (hrun : Run config w₀ trace w) : ∀ n ∈ w.store.nodes,
      let active := w.store.allocations.filter fun a => a.state = .active ∧ a.nodeID = n.id
      n.availableGPUs = n.totalGPUs - (active.map fun a => BitVec.ofNat 64 a.gpuIDs.length).sum ∧
      n.availableCPUCores = n.totalCPUCores - (active.map (·.cpuCores)).sum ∧
      n.availableMemoryMB = n.totalMemoryMB - (active.map (·.memoryMB)).sum := by
  have hb : w.store.Capacity := Reach.invariant (P := fun st => st.1.Capacity)
    (fun hc ha hb => ha.capacity hc hb) (run_reach hk hrun) (Core.initial hk hq (.of_none hnone))
    ⟨fun n hn => by simp [Store.held, World.state, hnone, (hfull n hn).1],
      fun n hn => by simp [Store.held, World.state, hnone, (hfull n hn).2.1],
      fun n hn => by simp [Store.held, World.state, hnone, (hfull n hn).2.2]⟩
  exact fun n hn => ⟨hb.gpus n hn, hb.cpuCores n hn, hb.memory n hn⟩

/-- The preemption scenario satisfies the hypotheses; after it, the node's one GPU is held by
`j2`'s allocation. -/
theorem node_counters_sample : ∃ trace w, Run (sampleConfig 10) (sampleWorld 4 ["g1"] 10) trace w ∧
    w.store.allocations.length = 2 ∧ ∀ n ∈ w.store.nodes,
      let active := w.store.allocations.filter fun a => a.state = .active ∧ a.nodeID = n.id
      n.availableGPUs = n.totalGPUs - (active.map fun a => BitVec.ofNat 64 a.gpuIDs.length).sum ∧
      n.availableCPUCores = n.totalCPUCores - (active.map (·.cpuCores)).sum ∧
      n.availableMemoryMB = n.totalMemoryMB - (active.map (·.memoryMB)).sum := by
  obtain ⟨trace, w, hrun, hlen⟩ := exists_run (sampleConfig 10) samplePreemption
    (sampleWorld 4 ["g1"] 10) (P := fun p => p.2.store.allocations.length = 2) (by decide)
  exact ⟨trace, w, hrun, hlen, node_counters_run (sampleWorld_keys 4 (by decide) 10)
    (sampleWorld_fresh 4 ["g1"] 10) rfl (by decide) hrun⟩

/-! ## Bounds

`validateJob` bounds the GPU count only, and `HasAvailableQuota` compares sums, so a job may ask
for negative CPU cores or memory.  `HasCapacity` admits it on any node, and `createAllocation`
then subtracts the negative request: the node's available counter rises above its total. -/

/-- A one-GPU job of tenant `t1` asking for `-1` CPU cores. -/
def negativeCoresJob : Job := { sampleJob "j1" 1 with cpuCores := -1 }

/-- `SubmitJob(negativeCoresJob)` is answered `nil` and the next cycle starts the job: the node
then has `17` CPU cores available out of `16`. -/
theorem negative_cores_sample : ∃ trace w,
    Run (sampleConfig 10) (sampleWorld 4 ["g1"] 10) trace w ∧
    (trace.map fun p => p.2.isOk) = [true, true] ∧
    (∃ j ∈ w.store.jobs, j.id = "j1" ∧ j.state = .running) ∧
    ∃ n ∈ w.store.nodes, n.totalCPUCores = 16 ∧ n.availableCPUCores = 17 :=
  exists_run (sampleConfig 10) [.submitJob negativeCoresJob, .schedulingCycle 5]
    (sampleWorld 4 ["g1"] 10)
    (P := fun p => (p.1.map fun x => x.2.isOk) = [true, true] ∧
      (∃ j ∈ p.2.store.jobs, j.id = "j1" ∧ j.state = .running) ∧
      ∃ n ∈ p.2.store.nodes, n.totalCPUCores = 16 ∧ n.availableCPUCores = 17)
    (by decide)

end GpuScheduler
