import GpuScheduler.Spec.Effects
/-
# The allocator's programs make exactly the store changes of `Spec/Effects.lean`

One lemma per function of `core.Allocator`.  The loops that only write (`markGPUs`,
`releaseGPUs`) are deterministic, and their lemmas give the whole run; the ones that read the
clock (`availableGPUs`, `collectGPUs`, `bestFitLoop`) get weakest-precondition lemmas that say
what any of their results satisfies.  Everything holds over a store with unique keys.
-/

namespace GpuScheduler

open Prog Allocator

/-! ## 1. GPU loops -/

/-- Saving `f g` over the stored row `g` is `mapListed` on `g`'s id first. -/
theorem mapListed_save {ids : List String} {f : GPU → GPU} (hf : ∀ x, (f x).id = x.id)
    {rows : List GPU} (h : Table.Keys rows) {g r : GPU} (hg : g ∈ rows) (hr : r = f g)
    (hfix : g.id ∈ ids → f (f g) = f g) :
    mapListed ids f (Table.save r rows) = mapListed (g.id :: ids) f rows := by
  subst hr
  rw [Table.save_eq_map h hg (by simp [hf])]
  unfold mapListed
  rw [List.map_map]
  refine List.map_congr_left fun x hx => ?_
  simp only [Function.comp, Keyed.key_gpu, hf, List.mem_cons]
  by_cases hxg : x.id = g.id
  · obtain rfl := h.inj hx hg (by simpa using hxg)
    by_cases hm : x.id ∈ ids <;> simp [hm, hfix, hf]
  · simp [hxg]

theorem mapListed_nil (f : GPU → GPU) (rows : List GPU) : mapListed [] f rows = rows := by
  simp [mapListed]

/-- `createAllocation`'s loop binds the listed GPUs, each a stored row, one by one. -/
theorem markGPUs_run (a : Allocation) (request : AllocationRequest) (hj : request.jobID = a.jobID)
    (ht : request.tenantID = a.tenantID) : ∀ (gpus : List GPU) (w : World),
    Table.Keys w.store.gpus → (∀ g ∈ gpus, g ∈ w.store.gpus) → (gpus.map (·.id)).Nodup →
    (markGPUs a request gpus).run w =
      some ((), w.withStore { w.store with gpus := mapListed (gpus.map (·.id)) (·.bind a) w.store.gpus })
  | [], w, _, _, _ => by simp only [markGPUs, List.map_nil, mapListed_nil, pure_eq, run_pure]; rfl
  | g :: gs, w, hk, hmem, hnd => by
    have hg : ({ g with allocated := true, allocationID := a.id, jobID := request.jobID, tenantID := request.tenantID } : GPU) = g.bind a := by
      simp [GPU.bind, hj, ht]
    have hgs : ∀ x ∈ gs, x ∈ Table.save (g.bind a) w.store.gpus := fun x hx =>
      (Table.mem_save hk).mpr (.inr ⟨hmem x (List.mem_cons_of_mem _ hx), fun e =>
        (List.nodup_cons.mp hnd).1 (List.mem_map.mpr ⟨x, hx, by simpa using e⟩)⟩)
    simp only [markGPUs, bind_eq, lift_bind, run_call, Call.exec, hg]
    rw [markGPUs_run a request hj ht gs _ (Table.keys_save hk _) hgs (List.nodup_cons.mp hnd).2]
    simp only [World.withStore_withStore, World.withStore_store, Store.updateGPU, List.map_cons]
    rw [mapListed_save (f := (·.bind a)) (fun _ => rfl) hk (hmem g (List.mem_cons_self _ _)) ?_
      fun hm => absurd hm (List.nodup_cons.mp hnd).1]
    rfl

/-- `Free`'s and `Preempt`'s loop unbinds every stored GPU the list names. -/
theorem releaseGPUs_run : ∀ (ids : List String) (w : World), Table.Keys w.store.gpus →
    (releaseGPUs ids).run w =
      some ((), w.withStore { w.store with gpus := mapListed ids GPU.unbind w.store.gpus })
  | [], w, _ => by simp only [releaseGPUs, mapListed_nil, pure_eq, run_pure]; rfl
  | id :: ids, w, hk => by
    simp only [releaseGPUs, bind_eq, lift_bind, run_call, Call.exec]
    cases hg : w.store.getGPU id with
    | error e =>
      have hnone : ∀ x ∈ w.store.gpus, x.id ≠ id := by
        simpa using Table.find_eq_none.mp (by unfold Store.getGPU Table.get at hg; split at hg <;> simp_all)
      simp only [releaseGPUs_run ids w hk]
      congr 4
      exact List.map_congr_left fun x hx => by simp [List.mem_cons, hnone x hx]
    | ok g =>
      obtain ⟨hgm, hid⟩ := (Table.get_eq_ok hk _).mp hg
      simp only [Keyed.key_gpu] at hid
      subst hid
      simp only [bind_eq, lift_bind, run_call, Call.exec]
      rw [releaseGPUs_run ids _ (Table.keys_save hk _)]
      simp only [World.withStore_withStore, World.withStore_store, Store.updateGPU]
      rw [mapListed_save (f := GPU.unbind) (fun _ => rfl) hk hgm ?_ fun _ => rfl]
      rfl


/-! ## 2. `createAllocation` -/

/-- Saving `f n` over the stored node `n` is `mapNode` on `n`. -/
theorem save_eq_mapNode {nodes : List Node} (h : Table.Keys nodes) {n r : Node} (hn : n ∈ nodes)
    {f : Node → Node} (hf : ∀ x, (f x).id = x.id) (hr : r = f n) :
    Table.save r nodes = mapNode n.id f nodes := by
  subst hr
  rw [Table.save_eq_map h hn (by simp [hf])]
  refine List.map_congr_left fun x hx => ?_
  by_cases hxn : x.id = n.id
  · obtain rfl := h.inj hx hn (by simpa using hxn)
    simp [hf]
  · simp [hxn, hf]

/-- `a` is an allocation `createAllocation` can add to `s`: active, under a fresh id, on a
stored node, over distinct stored GPUs of that node that are not allocated. -/
structure Store.Fits (s : Store) (a : Allocation) : Prop where
  active : a.state = .active
  fresh : ∀ b ∈ s.allocations, b.id ≠ a.id
  node : ∃ n ∈ s.nodes, n.id = a.nodeID
  gpus : ∀ id ∈ a.gpuIDs, ∃ g ∈ s.gpus, g.id = id ∧ g.nodeID = a.nodeID ∧ g.allocated = false
  nodup : a.gpuIDs.Nodup

/-- What `Allocate(request)` may do: fail and write nothing, or write one fitting allocation for
the request, of as many GPUs as it asks for, and report it. -/
def AllocOutcome (request : AllocationRequest) (s : Store) (q : Queue) :
    Except Err AllocationResult → World → Prop
  | .error _, w' => w'.store = s ∧ w'.queue = q
  | .ok r, w' => ∃ a, s.Fits a ∧ a.jobID = request.jobID ∧ a.tenantID = request.tenantID ∧
      a.cpuCores = request.cpuCores ∧ a.memoryMB = request.memoryMB ∧
      BitVec.ofNat 64 a.gpuIDs.length = request.gpuCount ∧
      r = ⟨true, a.id, a.gpuIDs, a.nodeID⟩ ∧ w'.store = s.commit a ∧ w'.queue = q

theorem createAllocation_wp {request : AllocationRequest} {node : Node} {gpus : List GPU}
    {w : World} {Q : Except Err AllocationResult → World → Prop} (hk : w.store.Keys)
    (hnode : node ∈ w.store.nodes)
    (hgpus : ∀ g ∈ gpus, g ∈ w.store.gpus ∧ g.nodeID = node.id ∧ g.allocated = false)
    (hnd : (gpus.map (·.id)).Nodup) (hcount : BitVec.ofNat 64 gpus.length = request.gpuCount)
    (hQ : ∀ r w', AllocOutcome request w.store w.queue r w' → Q r w') :
    (createAllocation request node gpus).wp Q w := by
  simp only [createAllocation, generateAllocationID, bind_eq, bind_assoc, lift_bind, call_bind, pure_bind,
    pure_eq, wp_call, Call.exec]
  generalize hA : newAllocation request node (gpus.map (·.id)) ("alloc-" ++ toString w.now) = a
  have ha : a.state = .active ∧ a.jobID = request.jobID ∧ a.tenantID = request.tenantID ∧
      a.gpuIDs = gpus.map (·.id) ∧ a.nodeID = node.id ∧ a.cpuCores = request.cpuCores ∧
      a.memoryMB = request.memoryMB := by subst hA; exact ⟨rfl, rfl, rfl, rfl, rfl, rfl, rfl⟩
  cases hc : w.advance.store.createAllocation a with
  | error e =>
    simp only [tryWrite, wp_pure]
    exact hQ _ _ ⟨rfl, rfl⟩
  | ok s =>
    obtain ⟨hfresh, rfl⟩ := Store.createAllocation_eq_ok.mp hc
    obtain ⟨hact, hj, ht, hids, hnid, hcpu, hmem⟩ := ha
    simp only [tryWrite, wp_bind]
    rw [wp_of_run (markGPUs_run a request hj.symm ht.symm gpus _ ?_ ?_ hnd)]
    rotate_left
    · exact hk.gpus
    · exact fun g hg => (hgpus g hg).1
    simp only [wp_call, Call.exec, wp_pure, World.withStore_withStore, World.withStore_store]
    refine hQ _ _ ⟨a, ⟨hact, hfresh, ⟨node, hnode, hnid.symm⟩, fun id hid => ?_, hids ▸ hnd⟩,
      hj, ht, hcpu, hmem, by rw [hids, List.length_map, hcount], by rw [hids, hnid], ?_, rfl⟩
    · obtain ⟨g, hg, rfl⟩ := List.mem_map.mp (hids ▸ hid)
      exact ⟨g, (hgpus g hg).1, rfl, hnid ▸ (hgpus g hg).2.1, (hgpus g hg).2.2⟩
    · simp only [Store.updateNode, Store.commit, hids, World.advance_store, World.withStore_store,
        hnid]
      rw [save_eq_mapNode hk.nodes hnode (f := (·.reserve a)) (fun _ => rfl)
        (by simp [Node.reserve, hids, hcpu, hmem])]

/-! ## 3. Choosing the node and the GPUs -/

theorem availableGPUs_wp : ∀ (gpus : List GPU) {w : World} {Q : List GPU → World → Prop},
    (∀ gs w', gs.Sublist gpus → (∀ g ∈ gs, g.allocated = false) → w'.store = w.store →
      w'.queue = w.queue → Q gs w') → (availableGPUs gpus).wp Q w
  | [], w, _, hQ => hQ [] w .slnil (by simp) rfl rfl
  | g :: gs, w, Q, hQ => by
    simp only [availableGPUs, bind_eq, lift_bind, wp_call, Call.exec, wp_bind]
    refine availableGPUs_wp gs fun rest w' hsub hav hs hq => ?_
    simp only [wp_pure, World.advance_store, World.advance_queue] at hs hq ⊢
    split <;> rename_i havail
    · refine hQ _ _ (hsub.cons₂ g) (fun x hx => ?_) hs hq
      rcases List.mem_cons.mp hx with rfl | hx
      · simp only [GPU.isAvailable, Bool.and_eq_true, Bool.not_eq_true'] at havail
        exact havail.1.1.1
      · exact hav x hx
    · exact hQ _ _ (hsub.cons g) hav hs hq

/-- A choice `bestFitLoop` may hold over the store `s`: a stored node, and as many unallocated
GPUs listed under it as the request asks for. -/
def Candidate (request : AllocationRequest) (s : Store) (best : Option (Node × List GPU)) : Prop :=
  ∀ node gs, best = some (node, gs) →
    node ∈ s.nodes ∧ gs.Sublist (s.listGPUsByNode node.id) ∧ (∀ g ∈ gs, g.allocated = false) ∧
      BitVec.ofNat 64 gs.length = request.gpuCount

/-- `availGPUs[:GPUCount]`, once `0 ≤ GPUCount ≤ len(availGPUs)`, holds `GPUCount` GPUs. -/
theorem ofNat_length_take {α : Type} {l : List α} {n : BitVec 64}
    (hle : n.sle (BitVec.ofNat 64 l.length) = true) (hn : n.slt 0 = false) :
    BitVec.ofNat 64 (l.take n.toNat).length = n := by
  have hn' : 0 ≤ n.toInt := by simpa [BitVec.slt] using hn
  have hle' : n.toNat ≤ l.length := by
    simp only [BitVec.sle, decide_eq_true_eq, BitVec.toInt_eq_toNat_cond, BitVec.toNat_ofNat] at hle hn'
    have := n.isLt
    split_ifs at hle hn' <;> omega
  apply BitVec.eq_of_toNat_eq
  rw [List.length_take, Nat.min_eq_left hle', BitVec.toNat_ofNat, Nat.mod_eq_of_lt n.isLt]

theorem bestFitLoop_wp (request : AllocationRequest) : ∀ (nodes : List Node) (minWaste : BitVec 64)
    (best : Option (Node × List GPU)) {w : World} {Q : Option (Node × List GPU) → World → Prop},
    (∀ n ∈ nodes, n ∈ w.store.nodes) → Candidate request w.store best →
    (∀ b w', Candidate request w.store b → w'.store = w.store → w'.queue = w.queue → Q b w') →
    (bestFitLoop request nodes minWaste best).wp Q w
  | [], _, best, w, _, _, hc, hQ => hQ best w hc rfl rfl
  | node :: nodes, minWaste, best, w, Q, hn, hc, hQ => by
    have hn' : ∀ n ∈ nodes, n ∈ w.store.nodes := fun n h => hn n (List.mem_cons_of_mem _ h)
    simp only [bestFitLoop, bind_eq, lift_bind, wp_call, Call.exec, wp_bind]
    refine availableGPUs_wp _ fun gs w' hsub hav hs hq => ?_
    have hrec : ∀ m b, Candidate request w.store b → (bestFitLoop request nodes m b).wp Q w' :=
      fun m b hb => bestFitLoop_wp request nodes m b (hs ▸ hn') (hs ▸ hb)
        fun b' w'' hb' hs' hq' => hQ b' w'' (hs ▸ hb') (hs'.trans hs) (hq'.trans hq)
    split_ifs with hle _ hneg
    · exact trivial
    · refine hrec _ _ fun n gs' he => ?_
      obtain ⟨rfl, rfl⟩ := Prod.mk.inj (Option.some.inj he)
      exact ⟨hn node (List.mem_cons_self _ _), (List.take_sublist _ _).trans hsub,
        fun g hg => hav g (List.mem_of_mem_take hg), ofNat_length_take hle (by simpa using hneg)⟩
    all_goals exact hrec _ _ hc

/-- GPUs drawn from `ListGPUsByNode(nodeID)` are distinct stored GPUs of that node. -/
theorem listed_gpus {s : Store} (hk : s.Keys) {nodeID : String} {gs : List GPU}
    (hsub : gs.Sublist (s.listGPUsByNode nodeID)) :
    (∀ g ∈ gs, g ∈ s.gpus ∧ g.nodeID = nodeID) ∧ (gs.map (·.id)).Nodup :=
  ⟨fun g hg => by simpa [Store.listGPUsByNode] using hsub.subset hg,
    ((hsub.trans (List.filter_sublist _)).map _).nodup hk.gpus⟩

/-- A stored node and unallocated GPUs listed under it are what `createAllocation` needs. -/
theorem createAllocation_wp_of_listed {request : AllocationRequest} {node : Node}
    {gpus : List GPU} {w : World} {Q : Except Err AllocationResult → World → Prop}
    (hk : w.store.Keys) (hnode : node ∈ w.store.nodes)
    (hsub : gpus.Sublist (w.store.listGPUsByNode node.id)) (hav : ∀ g ∈ gpus, g.allocated = false)
    (hcount : BitVec.ofNat 64 gpus.length = request.gpuCount)
    (hQ : ∀ r w', AllocOutcome request w.store w.queue r w' → Q r w') :
    (createAllocation request node gpus).wp Q w :=
  createAllocation_wp hk hnode (fun g hg => ⟨((listed_gpus hk hsub).1 g hg).1,
    ((listed_gpus hk hsub).1 g hg).2, hav g hg⟩) (listed_gpus hk hsub).2 hcount hQ

theorem bestFitSchedule_wp {request : AllocationRequest} {nodes : List Node} {w : World}
    {Q : Except Err AllocationResult → World → Prop} (hk : w.store.Keys)
    (hn : ∀ n ∈ nodes, n ∈ w.store.nodes)
    (hQ : ∀ r w', AllocOutcome request w.store w.queue r w' → Q r w') :
    (bestFitSchedule request nodes).wp Q w := by
  simp only [bestFitSchedule, bind_eq, wp_bind]
  refine bestFitLoop_wp request nodes _ none hn (fun _ _ h => nomatch h) fun b w' hb hs hq => ?_
  split
  · exact hQ _ _ ⟨hs, hq⟩
  · rename_i node gs
    obtain ⟨hnode, hsub, hav, hcount⟩ := hb node gs rfl
    exact createAllocation_wp_of_listed (hs ▸ hk) (hs ▸ hnode) (hs ▸ hsub) hav hcount
      fun r w'' h => hQ r w'' (by rw [hs, hq] at h; exact h)

theorem collectGPUs_wp (gpuCount : BitVec 64) : ∀ (gpus acc : List GPU) {w : World}
    {Q : List GPU → World → Prop},
    (∀ r w', (∃ t, r = acc ++ t ∧ t.Sublist gpus ∧ ∀ g ∈ t, g.allocated = false) →
      w'.store = w.store → w'.queue = w.queue → Q r w') → (collectGPUs gpuCount gpus acc).wp Q w
  | [], acc, w, _, hQ => hQ acc w ⟨[], by simp, .slnil, by simp⟩ rfl rfl
  | g :: gs, acc, w, Q, hQ => by
    simp only [collectGPUs, bind_eq, lift_bind, wp_call, Call.exec]
    have hrec : ∀ acc', (∃ t, acc' = acc ++ t ∧ t.Sublist [g] ∧ ∀ x ∈ t, x.allocated = false) →
        (collectGPUs gpuCount gs acc').wp Q w.advance := by
      rintro acc' ⟨t, rfl, ht, htav⟩
      refine collectGPUs_wp gpuCount gs _ fun r w' ⟨t', hr, ht', hav'⟩ hs hq => hQ r w' ?_ hs hq
      refine ⟨t ++ t', by rw [hr, List.append_assoc], ?_, ?_⟩
      · simpa using ht.append ht'
      · intro x hx
        rcases List.mem_append.mp hx with hx | hx
        · exact htav x hx
        · exact hav' x hx
    have hg : g.isAvailable w.now = true → g.allocated = false := fun h => by
      simp only [GPU.isAvailable, Bool.and_eq_true, Bool.not_eq_true'] at h
      exact h.1.1.1
    split_ifs with h1 h2
    · exact hQ _ _ ⟨[g], rfl, by simp, by simpa using hg h1⟩ rfl rfl
    · exact hrec _ ⟨[g], rfl, .refl _, by simpa using hg h1⟩
    · exact hrec _ ⟨[], by simp, List.nil_sublist _, by simp⟩

theorem gangSchedule_wp (request : AllocationRequest) : ∀ (nodes : List Node) {w : World}
    {Q : Except Err AllocationResult → World → Prop}, w.store.Keys →
    (∀ n ∈ nodes, n ∈ w.store.nodes) →
    (∀ r w', AllocOutcome request w.store w.queue r w' → Q r w') → (gangSchedule request nodes).wp Q w
  | [], w, _, _, _, hQ => hQ _ _ ⟨rfl, rfl⟩
  | node :: nodes, w, Q, hk, hn, hQ => by
    have hn' : ∀ n ∈ nodes, n ∈ w.store.nodes := fun n h => hn n (List.mem_cons_of_mem _ h)
    simp only [gangSchedule]
    split_ifs
    · simp only [bind_eq, lift_bind, wp_call, Call.exec, wp_bind]
      refine collectGPUs_wp _ _ [] fun r w' ⟨t, hr, ht, hav⟩ hs hq => ?_
      rw [List.nil_append] at hr
      subst hr
      have hQ' : ∀ r w'', AllocOutcome request w'.store w'.queue r w'' → Q r w'' :=
        fun r w'' h => hQ r w'' (by rwa [hs, hq] at h)
      split_ifs with hcount
      · exact createAllocation_wp_of_listed (hs ▸ hk) (hs ▸ hn node (List.mem_cons_self _ _))
          (hs ▸ ht) hav hcount hQ'
      · exact gangSchedule_wp request nodes (hs ▸ hk) (hs ▸ hn') hQ'
    · exact gangSchedule_wp request nodes hk hn' hQ

/-- **`Allocate` either writes nothing or commits one fitting allocation for the request.** -/
theorem allocate_wp {request : AllocationRequest} {w : World}
    {Q : Except Err AllocationResult → World → Prop} (hk : w.store.Keys)
    (hQ : ∀ r w', AllocOutcome request w.store w.queue r w' → Q r w') :
    (allocate request).wp Q w := by
  simp only [allocate, bind_eq, lift_bind, wp_call, Call.exec]
  have hn : ∀ n ∈ w.store.listNodes.filter
      (·.hasCapacity request.gpuCount request.cpuCores request.memoryMB), n ∈ w.store.nodes :=
    fun n h => (List.mem_filter.mp (List.mem_filter.mp h).1).1
  split_ifs
  · exact hQ _ _ ⟨rfl, rfl⟩
  · exact gangSchedule_wp request _ hk hn hQ
  · exact bestFitSchedule_wp hk hn hQ

/-! ## 4. Giving resources back -/

/-- Reading the node `a` names and writing it back restored is `mapNode` on the stored nodes;
when no node has that id there is nothing to write and `mapNode` changes nothing either. -/
theorem save_restore {nodes : List Node} (h : Table.Keys nodes) (a a' : Allocation) {n : Node}
    (hg : Table.get nodes a.nodeID .nodeNotFound = .ok n) (e : a'.gpuIDs = a.gpuIDs)
    (hc : a'.cpuCores = a.cpuCores) (hm : a'.memoryMB = a.memoryMB) :
    Table.save (n.restore a') nodes = mapNode a.nodeID (·.restore a) nodes := by
  obtain ⟨hn, hid⟩ := (Table.get_eq_ok h _).mp hg
  simp only [Keyed.key_node] at hid
  rw [← hid, save_eq_mapNode h hn (f := (·.restore a)) (fun _ => rfl)]
  simp [Node.restore, e, hc, hm]

theorem mapNode_of_get_error {nodes : List Node} {nodeID : String} {e : Err}
    (hg : Table.get nodes nodeID .nodeNotFound = .error e) (f : Node → Node) :
    mapNode nodeID f nodes = nodes :=
  mapNode_of_missing (fun n hn => by simpa using Table.get_eq_error hg n hn) f

/-- **`Free` of a stored allocation releases it as `Completed`**, whatever it answers. -/
theorem free_run {w : World} (hk : w.store.Keys) {a : Allocation} (ha : a ∈ w.store.allocations) :
    ∃ r, (free a.id).run w =
      some (r, w.withStore (w.store.release a { a with state := .completed })) := by
  have hget : w.store.getAllocation a.id = .ok a := (Table.get_eq_ok hk.allocations _).mpr ⟨ha, rfl⟩
  simp only [free, bind_eq, lift_bind, run_call, Call.exec, hget, bind_assoc]
  rw [run_bind, releaseGPUs_run _ _ (by exact hk.gpus)]
  simp only [Option.some_bind, run_call, Call.exec, Store.getNode, Store.updateAllocation,
    World.withStore_store]
  cases hn : Table.get w.store.nodes a.nodeID .nodeNotFound with
  | error e =>
    refine ⟨.error e, ?_⟩
    simp only [pure_eq, run_pure, World.withStore_withStore, Store.release,
      mapNode_of_get_error hn]
  | ok n =>
    refine ⟨.ok (), ?_⟩
    simp only [lift, run_call, Call.exec, run_pure, World.withStore_withStore, Store.updateNode,
      Store.release, World.withStore_store]
    rw [save_restore hk.nodes a { a with state := .completed } hn rfl rfl rfl]


/-! ## 5. `Allocate` and `Free` end

Only `bestFitLoop` can panic, on the slice expression of a negative GPU count. -/

theorem markGPUs_noPanic (a : Allocation) (request : AllocationRequest) :
    ∀ gpus, (markGPUs a request gpus).NoPanic
  | [] => .pure ()
  | _ :: gpus => .call _ _ fun _ => markGPUs_noPanic a request gpus

theorem createAllocation_noPanic (request : AllocationRequest) (node : Node) (gpus : List GPU) :
    (createAllocation request node gpus).NoPanic := by
  simp only [createAllocation, generateAllocationID, bind_eq, lift_bind, bind_assoc, pure_bind]
  refine .call _ _ fun _ => .call _ _ fun r => ?_
  split
  · exact .pure _
  · exact (markGPUs_noPanic _ _ _).bind fun _ => .call _ _ fun _ => .pure _

theorem availableGPUs_noPanic : ∀ gpus, (availableGPUs gpus).NoPanic
  | [] => .pure []
  | _ :: gpus => .call _ _ fun _ => (availableGPUs_noPanic gpus).bind fun _ => .pure _

theorem bestFitLoop_noPanic {request : AllocationRequest} (hc : request.gpuCount.slt 0 = false) :
    ∀ nodes minWaste best, (bestFitLoop request nodes minWaste best).NoPanic
  | [], _, best => .pure best
  | _ :: nodes, minWaste, best => by
    simp only [bestFitLoop, bind_eq, lift_bind]
    refine .call _ _ fun r => ?_
    split
    · exact bestFitLoop_noPanic hc nodes _ _
    · refine (availableGPUs_noPanic _).bind fun _ => ?_
      simp only [hc, Bool.false_eq_true, if_false]
      split_ifs <;> exact bestFitLoop_noPanic hc nodes _ _

theorem collectGPUs_noPanic (gpuCount : BitVec 64) : ∀ gpus acc, (collectGPUs gpuCount gpus acc).NoPanic
  | [], acc => .pure acc
  | _ :: gpus, _ => by
    simp only [collectGPUs, bind_eq, lift_bind]
    refine .call _ _ fun _ => ?_
    split_ifs
    · exact .pure _
    all_goals exact collectGPUs_noPanic gpuCount gpus _

theorem gangSchedule_noPanic (request : AllocationRequest) :
    ∀ nodes, (gangSchedule request nodes).NoPanic
  | [] => .pure _
  | _ :: nodes => by
    simp only [gangSchedule]
    split_ifs
    · simp only [bind_eq, lift_bind]
      refine .call _ _ fun r => ?_
      split
      · exact gangSchedule_noPanic request nodes
      · refine (collectGPUs_noPanic _ _ _).bind fun _ => ?_
        split_ifs
        · exact createAllocation_noPanic _ _ _
        · exact gangSchedule_noPanic request nodes
    · exact gangSchedule_noPanic request nodes

/-- **`Allocate` ends for every request whose GPU count is not negative.** -/
theorem allocate_noPanic {request : AllocationRequest} (hc : request.gpuCount.slt 0 = false) :
    (allocate request).NoPanic := by
  simp only [allocate, bind_eq, lift_bind]
  refine .call _ _ fun r => ?_
  split
  · exact .pure _
  · split_ifs
    · exact .pure _
    · exact gangSchedule_noPanic _ _
    · simp only [bestFitSchedule, bind_eq]
      refine (bestFitLoop_noPanic hc _ _ _).bind fun b => ?_
      split
      · exact .pure _
      · exact createAllocation_noPanic _ _ _

theorem releaseGPUs_noPanic : ∀ gpuIDs, (releaseGPUs gpuIDs).NoPanic
  | [] => .pure ()
  | _ :: gpuIDs => .call _ _ fun r => by
    cases r
    · exact releaseGPUs_noPanic gpuIDs
    · exact .call _ _ fun _ => releaseGPUs_noPanic gpuIDs

/-- `Free` ends for every allocation id. -/
theorem free_noPanic (allocationID : String) : (free allocationID).NoPanic := by
  simp only [free, bind_eq, lift_bind]
  refine .call _ _ fun r => ?_
  cases r
  · exact .pure _
  refine .call _ _ fun r => ?_
  cases r
  · exact .pure _
  refine .bind (releaseGPUs_noPanic _) fun _ => .call _ _ fun r => ?_
  cases r
  · exact .pure _
  · exact .call _ _ fun _ => .pure _

end GpuScheduler
