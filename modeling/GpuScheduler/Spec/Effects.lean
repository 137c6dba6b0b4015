import GpuScheduler.Core.Allocator
/-
# What the allocator's writes do to the store

`createAllocation`, `Free` and the allocation loop of `Preempt` each write one allocation, the
GPUs it lists, and its node.  Read as one change of the store, each is one of two operations:

* `Store.commit s a`: `a` is appended, every GPU it lists is bound to it, its node gives up what
  it holds (`GPU.bind`, `Node.reserve`);
* `Store.release s a a'`: the row of `a` becomes `a'`, every GPU `a` lists is unbound, its node
  gets back what `a` held (`GPU.unbind`, `Node.restore`).

`Spec/Allocator.lean` proves that the programs make exactly these changes; the invariants are
proved against them.
-/

namespace GpuScheduler

/-- A GPU after `createAllocation` binds it to `a`. -/
def GPU.bind (g : GPU) (a : Allocation) : GPU :=
  { g with allocated := true, allocationID := a.id, jobID := a.jobID, tenantID := a.tenantID }

/-- A GPU after `Free` or `Preempt` unbinds it. -/
def GPU.unbind (g : GPU) : GPU :=
  { g with allocated := false, allocationID := "", jobID := "", tenantID := "" }

/-- A node after `createAllocation` takes from it what `a` holds. -/
def Node.reserve (n : Node) (a : Allocation) : Node :=
  { n with
    availableGPUs := n.availableGPUs - BitVec.ofNat 64 a.gpuIDs.length
    availableCPUCores := n.availableCPUCores - a.cpuCores
    availableMemoryMB := n.availableMemoryMB - a.memoryMB }

@[simp] theorem GPU.bind_id (g : GPU) (a : Allocation) : (g.bind a).id = g.id := rfl
@[simp] theorem GPU.bind_nodeID (g : GPU) (a : Allocation) : (g.bind a).nodeID = g.nodeID := rfl
@[simp] theorem GPU.bind_allocated (g : GPU) (a : Allocation) : (g.bind a).allocated = true := rfl
@[simp] theorem GPU.bind_allocationID (g : GPU) (a : Allocation) : (g.bind a).allocationID = a.id :=
  rfl
@[simp] theorem GPU.unbind_id (g : GPU) : g.unbind.id = g.id := rfl
@[simp] theorem GPU.unbind_allocated (g : GPU) : g.unbind.allocated = false := rfl
@[simp] theorem Node.reserve_id (n : Node) (a : Allocation) : (n.reserve a).id = n.id := rfl
@[simp] theorem Node.restore_id (n : Node) (a : Allocation) : (n.restore a).id = n.id := rfl

/-- GPUs whose id `ids` lists get `f`; the others stay. -/
def mapListed (ids : List String) (f : GPU → GPU) (gpus : List GPU) : List GPU :=
  gpus.map fun g => if g.id ∈ ids then f g else g

/-- The node with id `nodeID` gets `f`; the others stay. -/
def mapNode (nodeID : String) (f : Node → Node) (nodes : List Node) : List Node :=
  nodes.map fun n => if n.id = nodeID then f n else n

namespace Store

/-- The store after a successful `createAllocation` of `a`. -/
def commit (s : Store) (a : Allocation) : Store :=
  { s with
    allocations := s.allocations ++ [a]
    gpus := mapListed a.gpuIDs (·.bind a) s.gpus
    nodes := mapNode a.nodeID (·.reserve a) s.nodes }

/-- The store after `Free` or `Preempt` turns the row of `a` into `a'` and gives back what `a`
held. -/
def release (s : Store) (a a' : Allocation) : Store :=
  { s with
    allocations := Table.save a' s.allocations
    gpus := mapListed a.gpuIDs GPU.unbind s.gpus
    nodes := mapNode a.nodeID (·.restore a) s.nodes }

/-- The store after releasing each allocation of `allocs` in turn, the row of `a` becoming `f a`. -/
def releaseAll (s : Store) (allocs : List Allocation) (f : Allocation → Allocation) : Store :=
  allocs.foldl (fun s a => s.release a (f a)) s

@[simp] theorem releaseAll_nil (s : Store) (f : Allocation → Allocation) : s.releaseAll [] f = s :=
  rfl

@[simp] theorem releaseAll_cons (s : Store) (a : Allocation) (allocs : List Allocation)
    (f : Allocation → Allocation) :
    s.releaseAll (a :: allocs) f = (s.release a (f a)).releaseAll allocs f := rfl

theorem releaseAll_updateJob (s : Store) (job : Job) (allocs : List Allocation)
    (f : Allocation → Allocation) :
    (s.updateJob job).releaseAll allocs f = (s.releaseAll allocs f).updateJob job := by
  induction allocs generalizing s with
  | nil => rfl
  | cons a allocs ih => exact ih (s.release a (f a))

@[simp] theorem releaseAll_jobs (s : Store) (allocs : List Allocation) (f : Allocation → Allocation) :
    (s.releaseAll allocs f).jobs = s.jobs := by
  induction allocs generalizing s with
  | nil => rfl
  | cons a allocs ih => exact ih _

@[simp] theorem releaseAll_tenants (s : Store) (allocs : List Allocation) (f : Allocation → Allocation) :
    (s.releaseAll allocs f).tenants = s.tenants := by
  induction allocs generalizing s with
  | nil => rfl
  | cons a allocs ih => exact ih _

end Store

/-! ## Keys survive both -/

theorem mapListed_keys {ids : List String} {f : GPU → GPU} (hf : ∀ g, (f g).id = g.id)
    {gpus : List GPU} (h : Table.Keys gpus) : Table.Keys (mapListed ids f gpus) :=
  Table.keys_map (fun g => by split <;> simp [hf, Keyed.key]) h

theorem mapNode_keys {nodeID : String} {f : Node → Node} (hf : ∀ n, (f n).id = n.id)
    {nodes : List Node} (h : Table.Keys nodes) : Table.Keys (mapNode nodeID f nodes) :=
  Table.keys_map (fun n => by split <;> simp [hf, Keyed.key]) h

theorem Store.Keys.commit {s : Store} (h : s.Keys) {a : Allocation}
    (ha : ∀ b ∈ s.allocations, b.id ≠ a.id) : (s.commit a).Keys :=
  ⟨h.jobs, h.tenants, mapListed_keys (f := (·.bind a)) (fun _ => rfl) h.gpus,
    mapNode_keys (f := (·.reserve a)) (fun _ => rfl) h.nodes, Table.keys_create h.allocations fun b hb => by simpa using ha b hb⟩

theorem Store.Keys.release {s : Store} (h : s.Keys) (a a' : Allocation) : (s.release a a').Keys :=
  ⟨h.jobs, h.tenants, mapListed_keys (f := GPU.unbind) (fun _ => rfl) h.gpus,
    mapNode_keys (f := (·.restore a)) (fun _ => rfl) h.nodes, Table.keys_save h.allocations a'⟩

theorem Store.Keys.releaseAll {s : Store} (h : s.Keys) (allocs : List Allocation)
    (f : Allocation → Allocation) : (s.releaseAll allocs f).Keys := by
  induction allocs generalizing s with
  | nil => exact h
  | cons a allocs ih => exact ih (h.release a (f a))

theorem mapNode_of_missing {nodes : List Node} {nodeID : String} (h : ∀ n ∈ nodes, n.id ≠ nodeID)
    (f : Node → Node) : mapNode nodeID f nodes = nodes :=
  (List.map_congr_left fun n hn => if_neg (h n hn)).trans (List.map_id' nodes)

/-- Releasing `a` keeps every other allocation row. -/
theorem Store.mem_release {s : Store} (hk : s.Keys) {a a' b : Allocation} :
    b ∈ (s.release a a').allocations ↔ b = a' ∨ (b ∈ s.allocations ∧ b.id ≠ a'.id) := by
  simpa using Table.mem_save (r := a') (x := b) hk.allocations

/-- The rest of a list of stored rows with distinct ids stays stored once its head is released. -/
theorem mem_release_tail {s : Store} (hk : s.Keys) (a a' : Allocation) (he : a'.id = a.id)
    {allocs : List Allocation} (hmem : ∀ b ∈ a :: allocs, b ∈ s.allocations)
    (hnd : ((a :: allocs).map (·.id)).Nodup) : ∀ b ∈ allocs, b ∈ (s.release a a').allocations :=
  fun b hb => (Store.mem_release hk).mpr (.inr ⟨hmem b (List.mem_cons_of_mem _ hb), fun e =>
    (List.nodup_cons.mp hnd).1 (List.mem_map.mpr ⟨b, hb, e.trans he⟩)⟩)

end GpuScheduler
