import GpuScheduler.System.Run
/-
# The choices of the core: a node for a request, a victim for a job

Two loops of the core search a list for the element of least key, keeping the least key so far
and moving only on a strictly smaller one, from the constant `999999`:

* `bestFitSchedule`, over the available nodes with as many free GPUs as the request, the key
  being the waste (free GPUs beyond the request): the source's "least fragmentation";
* `SelectVictims`, over the Running jobs of lower priority whose tenant allows preemption, the
  key being the priority: "the lowest priority job".

`FirstLeast` says where such a search stops: at the first element of least key, its key below
the bound.  `LeastOutcome` is the search's answer from any bound and kept element, built one
element at a time (`LeastOutcome.take`, `LeastOutcome.skip`).  So an element whose key is not
below `999999` is never chosen, however it fits (`allocate_million_sample`).  Gang scheduling
takes instead the first node that covers the request (`FirstGangFit`).

`IsAvailable` reads the clock once per GPU.  The placement results assume that its answers do
not change during the call (`Steady`: no GPU's cooling period ends while the nodes are
searched).  Then `Allocate` is `createAllocation` on the chosen node and its first free GPUs
(`allocate_best_fit`, `allocate_gang`), whose writes `createAllocation_wp` describes; and
`SelectVictims` names the chosen job, or none (`select_victims_lowest`).
-/

namespace GpuScheduler

open Prog

/-! ## 1. The first element of least key -/

section Least

variable {α β : Type} (key : α → BitVec 64)

/-- Where a search of `xs` for the least key below `bound` stops, moving only on a strictly
smaller key: an element whose key is below `bound`, less than the key of every element before it
and no more than the key of every element after it. -/
def FirstLeast (bound : BitVec 64) (xs : List α) (x : α) : Prop :=
  ∃ pre post, xs = pre ++ x :: post ∧ (key x).slt bound = true ∧
    (∀ y ∈ pre, (key x).slt (key y) = true) ∧ ∀ y ∈ post, (key x).sle (key y) = true

/-- What the search answers from the bound `bound` and the kept `best`, keeping `choice x` for an
element `x`: `best` when no key is below `bound`, else the choice for `FirstLeast`'s element. -/
def LeastOutcome (choice : α → β) (bound : BitVec 64) (best : Option β) (xs : List α)
    (res : Option β) : Prop :=
  ((∀ y ∈ xs, bound.sle (key y) = true) ∧ res = best) ∨
    ∃ x, FirstLeast key bound xs x ∧ res = some (choice x)

variable {key} {choice : α → β} {bound : BitVec 64} {best res : Option β} {x : α}
  {xs : List α}

theorem LeastOutcome.nil : LeastOutcome key choice bound best [] best :=
  .inl ⟨fun _ h => (nomatch h), rfl⟩

/-- An element of key below the bound is kept: the outcome over the rest from its key is the
outcome from the bound. -/
theorem LeastOutcome.take (hx : (key x).slt bound = true)
    (h : LeastOutcome key choice (key x) (some (choice x)) xs res) :
    LeastOutcome key choice bound best (x :: xs) res := by
  refine .inr ?_
  rcases h with ⟨hall, rfl⟩ | ⟨y, ⟨pre, post, rfl, hy, hpre, hpost⟩, rfl⟩
  · exact ⟨x, ⟨[], xs, rfl, hx, by simp, hall⟩, rfl⟩
  · -- the rest's element beats `x`, hence the bound
    have hlt : (key y).slt bound = true := by
      simp only [BitVec.slt, decide_eq_true_eq] at hy hx ⊢
      omega
    exact ⟨y, ⟨x :: pre, post, rfl, hlt, List.forall_mem_cons.mpr ⟨hy, hpre⟩, hpost⟩,
      rfl⟩

/-- An element of key at least the bound leaves the outcome as it is. -/
theorem LeastOutcome.skip (hx : (key x).slt bound = false)
    (h : LeastOutcome key choice bound best xs res) :
    LeastOutcome key choice bound best (x :: xs) res := by
  have hx' : bound.sle (key x) = true := by simpa [BitVec.sle_eq_not_slt] using hx
  rcases h with ⟨hall, rfl⟩ | ⟨y, ⟨pre, post, rfl, hy, hpre, hpost⟩, rfl⟩
  · exact .inl ⟨List.forall_mem_cons.mpr ⟨hx', hall⟩, rfl⟩
  · -- `x` is at least the bound, above the kept element
    have hlt : (key y).slt (key x) = true := by
      simp only [BitVec.slt, BitVec.sle, decide_eq_true_eq] at hx' hy ⊢
      omega
    refine .inr ⟨y, ?_, rfl⟩
    exact ⟨x :: pre, post, rfl, hy, List.forall_mem_cons.mpr ⟨hlt, hpre⟩, hpost⟩

end Least

/-! ## 2. A steady clock -/

/-- `Allocate`'s `availableNodes`: the online nodes whose counters cover the request. -/
def Store.availableNodes (s : Store) (request : AllocationRequest) : List Node :=
  s.listNodes.filter (·.hasCapacity request.gpuCount request.cpuCores request.memoryMB)

theorem Store.filter_hasCapacity (s : Store) (request : AllocationRequest) :
    s.listNodes.filter (·.hasCapacity request.gpuCount request.cpuCores request.memoryMB) =
      s.availableNodes request := rfl

/-- The GPUs of a node that `IsAvailable` accepts at `now`, in listing order. -/
def Store.freeGPUs (s : Store) (now : Int) (node : Node) : List GPU :=
  (s.listGPUsByNode node.id).filter (·.isAvailable now)

theorem Store.filter_isAvailable (s : Store) (now : Int) (node : Node) :
    (s.listGPUsByNode node.id).filter (·.isAvailable now) = s.freeGPUs now node := rfl

/-- Each of `gpus` answers `IsAvailable` at every reading of the clock from `w` on as it does
at `now`. -/
def SteadyOn (now : Int) (gpus : List GPU) (w : World) : Prop :=
  ∀ g ∈ gpus, ∀ k, w.tick ≤ k → g.isAvailable (w.clock k) = g.isAvailable now

/-- No stored GPU's answer to `IsAvailable` changes from `w` on. -/
def Steady (now : Int) (w : World) : Prop := SteadyOn now w.store.gpus w

/-- The world after `ticks` readings of the clock. -/
def World.wait (w : World) (ticks : Nat) : World := { w with tick := w.tick + ticks }

theorem World.wait_wait (w : World) (a b : Nat) : (w.wait a).wait b = w.wait (a + b) := by
  simp only [World.wait, Nat.add_assoc]

theorem World.advance_wait (w : World) (t : Nat) : w.advance.wait t = w.wait (1 + t) := by
  simp only [World.advance, World.wait, Nat.add_assoc]

theorem Steady.wait {now : Int} {w : World} (h : Steady now w) (t : Nat) :
    Steady now (w.wait t) :=
  fun g hg k hk => h g hg k (Nat.le_trans (Nat.le_add_right _ _) hk)

/-- The GPUs listed under a node are stored ones. -/
theorem Steady.listed {now : Int} {w : World} (h : Steady now w) (nodeID : String) :
    SteadyOn now (w.store.listGPUsByNode nodeID) w :=
  fun g hg => h g (List.mem_of_mem_filter hg)

/-- The first GPU answers at the current reading as at `now`. -/
theorem SteadyOn.head {now : Int} {g : GPU} {gs : List GPU} {w : World}
    (h : SteadyOn now (g :: gs) w) : g.isAvailable w.now = g.isAvailable now :=
  h g (.head _) w.tick le_rfl

/-- The other GPUs are steady from the next reading on. -/
theorem SteadyOn.tail {now : Int} {g : GPU} {gs : List GPU} {w : World}
    (h : SteadyOn now (g :: gs) w) : SteadyOn now gs w.advance :=
  fun x hx k hk => h x (.tail _ hx) k (Nat.le_of_succ_le hk)

/-- Each GPU of the sample cluster is free at every reading of its clock. -/
theorem sampleGPU_isAvailable (id : String) (k : Nat) :
    (sampleGPU id).isAvailable ((k : Int) + 1) = true := by
  simp [GPU.isAvailable, sampleGPU, Time.sub_pos]

/-- The sample cluster's GPUs are free at every reading of its clock. -/
theorem sampleWorld_steady (maxGPUs : BitVec 64) (gpuIDs : List String) (maxQueueSize : Int) :
    Steady (sampleWorld maxGPUs gpuIDs maxQueueSize).now
      (sampleWorld maxGPUs gpuIDs maxQueueSize) :=
  fun g hg k _ => by
    obtain ⟨id, -, rfl⟩ := List.mem_map.mp hg
    exact (sampleGPU_isAvailable id k).trans (sampleGPU_isAvailable id 0).symm

/-- The sample cluster's one node is the only available one for a one-GPU request. -/
theorem sampleWorld_availableNodes (request : AllocationRequest)
    (h : request = sampleRequest ∨ request = { sampleRequest with gangScheduling := true }) :
    (sampleWorld 4 ["g1"] 10).store.availableNodes request = [sampleNode 1] := by
  rcases h with rfl | rfl <;> decide

/-! ## 3. Best fit -/

/-- Under a steady clock, the filter of `bestFitSchedule` keeps the GPUs free at `now`, reading
the clock once per GPU. -/
theorem availableGPUs_run {now : Int} : ∀ (gpus : List GPU) (w : World), SteadyOn now gpus w →
    (Allocator.availableGPUs gpus).run w =
      some (gpus.filter (·.isAvailable now), w.wait gpus.length)
  | [], w, _ => rfl
  | g :: gs, w, h => by
    simp only [Allocator.availableGPUs, bind_eq, lift_bind, run_call, Call.exec, run_bind,
      availableGPUs_run gs w.advance h.tail, Option.some_bind, run_pure, h.head,
      World.advance_wait, List.filter_cons]
    split <;> simp [Nat.add_comm 1]

section BestFit

variable (request : AllocationRequest) (free : Node → List GPU)

/-- `bestFitSchedule`'s waste on a node: its free GPUs beyond the request, in `int64`. -/
def waste (n : Node) : BitVec 64 := BitVec.ofNat 64 (free n).length - request.gpuCount

/-- `bestFitSchedule`'s test: the node has as many free GPUs as the request. -/
def covers (n : Node) : Bool := request.gpuCount.sle (BitVec.ofNat 64 (free n).length)

end BestFit

/-- **`bestFitLoop` is the search for the least waste.**  Under a steady clock and a request of
no negative GPU count, the loop answers without panicking, having only read the clock, with the
outcome of the search over the nodes with as many GPUs free at `now` as the request. -/
theorem bestFitLoop_run {request : AllocationRequest} (hneg : request.gpuCount.slt 0 = false)
    {now : Int} : ∀ (nodes : List Node) (bound : BitVec 64) (best : Option (Node × List GPU))
      (w : World), Steady now w → ∃ ticks res,
      (Allocator.bestFitLoop request nodes bound best).run w = some (res, w.wait ticks) ∧
      LeastOutcome (waste request (w.store.freeGPUs now))
        (fun n => (n, (w.store.freeGPUs now n).take request.gpuCount.toNat)) bound best
        (nodes.filter (covers request (w.store.freeGPUs now))) res
  | [], bound, best, _, _ => ⟨0, best, rfl, .nil⟩
  | m :: nodes, bound, best, w, hst => by
    have hrec := fun bound' best' =>
      bestFitLoop_run hneg nodes bound' best' _ (hst.wait (w.store.listGPUsByNode m.id).length)
    simp only [Allocator.bestFitLoop, bind_eq, lift_bind, run_call, Call.exec, run_bind,
      availableGPUs_run _ w (hst.listed m.id), Option.some_bind, Store.filter_isAvailable]
    split_ifs with hc hw hng
    · exact absurd (hneg.symm.trans hng) Bool.false_ne_true
    · obtain ⟨t, res, hrun, hout⟩ := hrec _ _
      rw [World.wait_wait] at hrun
      rw [List.filter_cons_of_pos (show covers request _ m = true from hc)]
      exact ⟨_, res, hrun, .take hw hout⟩
    · obtain ⟨t, res, hrun, hout⟩ := hrec bound best
      rw [World.wait_wait] at hrun
      rw [List.filter_cons_of_pos (show covers request _ m = true from hc)]
      exact ⟨_, res, hrun, .skip (by simpa using hw) hout⟩
    · obtain ⟨t, res, hrun, hout⟩ := hrec bound best
      rw [World.wait_wait] at hrun
      rw [List.filter_cons_of_neg (show ¬covers request _ m = true from hc)]
      exact ⟨_, res, hrun, hout⟩

/-- **`Allocate` places a request by best fit.**  Under a steady clock, a request without gang
scheduling and of no negative GPU count is refused with `ErrInsufficientResources`, having only
read the clock, when every available node with as many free GPUs as it asks for wastes at least
`999999`.  Otherwise `Allocate` is `createAllocation` on the one of those nodes of least waste,
the first in `ListNodes` order on a tie, with that node's first free GPUs. -/
theorem allocate_best_fit (w : World) (request : AllocationRequest)
    (hgang : request.gangScheduling = false) (hneg : request.gpuCount.slt 0 = false)
    (hst : Steady w.now w) :
    ∃ ticks,
      ((∀ m ∈ (w.store.availableNodes request).filter (covers request (w.store.freeGPUs w.now)),
          (999999 : BitVec 64).sle (waste request (w.store.freeGPUs w.now) m) = true) ∧
        (Allocator.allocate request).run w =
          some (.error (.sentinel .insufficientResources), w.wait ticks)) ∨
      ∃ n, FirstLeast (waste request (w.store.freeGPUs w.now)) 999999
          ((w.store.availableNodes request).filter (covers request (w.store.freeGPUs w.now))) n ∧
        (Allocator.allocate request).run w = (Allocator.createAllocation request n
          ((w.store.freeGPUs w.now n).take request.gpuCount.toNat)).run (w.wait ticks) := by
  simp only [Allocator.allocate, bind_eq, lift_bind, run_call, Call.exec, hgang,
    Bool.false_eq_true, if_false, Store.filter_hasCapacity, run_bind, Prog.pure_eq, run_pure,
    Option.some_bind]
  split_ifs with hnil
  · -- no available node
    refine ⟨0, .inl ⟨fun m hm => ?_, rfl⟩⟩
    rw [List.isEmpty_iff.mp hnil] at hm
    cases hm
  obtain ⟨ticks, res, hrun, hout⟩ :=
    bestFitLoop_run hneg (w.store.availableNodes request) 999999 none w hst
  simp only [Allocator.bestFitSchedule, bind_eq, run_bind, run_pure, Option.some_bind, hrun]
  refine ⟨ticks, ?_⟩
  rcases hout with ⟨hall, rfl⟩ | ⟨n, hn, rfl⟩
  · exact .inl ⟨hall, rfl⟩
  · exact .inr ⟨n, hn, rfl⟩

/-- On the sample cluster, `Allocate` places the one-GPU request on `n1`'s one GPU. -/
theorem allocate_best_fit_sample : ∃ ticks,
    (Allocator.allocate sampleRequest).run (sampleWorld 4 ["g1"] 10) =
      (Allocator.createAllocation sampleRequest (sampleNode 1) [sampleGPU "g1"]).run
        ((sampleWorld 4 ["g1"] 10).wait ticks) := by
  have hnodes : ((sampleWorld 4 ["g1"] 10).store.availableNodes sampleRequest).filter
      (covers sampleRequest ((sampleWorld 4 ["g1"] 10).store.freeGPUs
        (sampleWorld 4 ["g1"] 10).now)) = [sampleNode 1] := by
    rw [sampleWorld_availableNodes sampleRequest (.inl rfl)]
    decide
  obtain ⟨ticks, ⟨hall, -⟩ | ⟨n, ⟨pre, post, hsplit, -⟩, hrun⟩⟩ :=
    allocate_best_fit (sampleWorld 4 ["g1"] 10) sampleRequest rfl (by decide)
      (sampleWorld_steady 4 ["g1"] 10)
  · exact absurd (hall _ (hnodes ▸ List.mem_singleton_self _)) (by decide)
  · obtain rfl := List.eq_of_mem_singleton
      (hnodes ▸ hsplit ▸ List.mem_append_right pre (List.mem_cons_self n post))
    exact ⟨ticks, hrun⟩

/-! ### The bound of the search

`bestFitLoop` starts from a least waste of `999999` and moves only to a node of smaller waste,
so a node with a million free GPUs is never chosen for a one-GPU request, however it fits.  The
run is computed symbolically: the million GPUs are never enumerated. -/

@[simp] theorem sampleNode_id (gpus : BitVec 64) : (sampleNode gpus).id = "n1" := rfl

theorem sampleWorld_listGPUsByNode (maxGPUs : BitVec 64) (ids : List String) (q : Int) :
    (sampleWorld maxGPUs ids q).store.listGPUsByNode "n1" = ids.map sampleGPU :=
  List.filter_eq_self.mpr fun g hg => by obtain ⟨i, -, rfl⟩ := List.mem_map.mp hg; rfl

/-- On the sample cluster with a million GPUs, `Allocate` finds no node for a one-GPU request. -/
theorem allocate_million_run (ids : List String) (h : ids.length = 1000000) :
    ∃ w', (Allocator.allocate sampleRequest).run (sampleWorld 4 ids 10) =
      some (.error (.sentinel .insufficientResources), w') := by
  have hav : (Allocator.availableGPUs (ids.map sampleGPU)).run (sampleWorld 4 ids 10) =
      some (ids.map sampleGPU, (sampleWorld 4 ids 10).wait (ids.map sampleGPU).length) := by
    rw [availableGPUs_run (ids.map sampleGPU) _ (sampleWorld_steady 4 ids 10), List.filter_eq_self.mpr]
    intro g hg
    obtain ⟨i, -, rfl⟩ := List.mem_map.mp hg
    exact sampleGPU_isAvailable i 0
  have hnodes : ((sampleWorld 4 ids 10).store.nodes.filter (·.online)).filter
      (·.hasCapacity sampleRequest.gpuCount sampleRequest.cpuCores sampleRequest.memoryMB) =
      [sampleNode 1000000] := by
    simp only [sampleWorld, h]
    decide
  have hfit : sampleRequest.gpuCount.sle (BitVec.ofNat 64 1000000) = true := by decide
  have hwaste : (BitVec.ofNat 64 1000000 - sampleRequest.gpuCount).slt 999999 = false := by decide
  simp only [Allocator.allocate, bind_eq, lift_bind, run_call, Call.exec, Store.listNodes, hnodes,
    List.isEmpty_cons, Bool.false_eq_true, if_false, pure_eq, Prog.pure_bind,
    show sampleRequest.gangScheduling = false from rfl, Allocator.bestFitSchedule,
    Allocator.bestFitLoop, run_bind, sampleNode_id,
    sampleWorld_listGPUsByNode, hav, Option.some_bind, List.length_map, h, hfit, hwaste, if_true,
    run_pure]
  exact ⟨_, rfl⟩

/-- A million GPU identifiers. -/
def millionGPUIDs : List String := (List.range 1000000).map fun i => "g" ++ toString i

/-- **`Allocate` refuses a request that a node fits.**  Node `n1` of the sample cluster with a
million GPUs passes `HasCapacity` for the one-GPU request and every one of its GPUs is free at
every tick, yet `Allocate` answers `ErrInsufficientResources`: its waste, `999999`, is not below
the bound the search starts from. -/
theorem allocate_million_sample :
    (∃ n ∈ (sampleWorld 4 millionGPUIDs 10).store.nodes,
      n.hasCapacity sampleRequest.gpuCount sampleRequest.cpuCores sampleRequest.memoryMB = true ∧
      ((sampleWorld 4 millionGPUIDs 10).store.listGPUsByNode n.id).length = 1000000 ∧
      ∀ g ∈ (sampleWorld 4 millionGPUIDs 10).store.listGPUsByNode n.id, ∀ k,
        g.isAvailable ((sampleWorld 4 millionGPUIDs 10).clock k) = true) ∧
    ∃ w', (Allocator.allocate sampleRequest).run (sampleWorld 4 millionGPUIDs 10) =
      some (.error (.sentinel .insufficientResources), w') := by
  have h : millionGPUIDs.length = 1000000 := by simp [millionGPUIDs]
  refine ⟨⟨sampleNode 1000000, by simp [sampleWorld, h], by decide, ?_, ?_⟩,
    allocate_million_run _ h⟩
  · simp [sampleWorld_listGPUsByNode, h]
  · intro g hg k
    rw [sampleNode_id, sampleWorld_listGPUsByNode] at hg
    obtain ⟨i, -, rfl⟩ := List.mem_map.mp hg
    exact sampleGPU_isAvailable i k

/-! ## 4. Gang scheduling: the first node that covers the request -/

section Gang

variable (request : AllocationRequest) (free : Node → List GPU)

/-- Gang scheduling can take the node: its counter covers the request and it has as many free
GPUs. -/
def GangFits (n : Node) : Prop :=
  request.gpuCount.sle n.availableGPUs = true ∧ request.gpuCount.toNat ≤ (free n).length

instance (n : Node) : Decidable (GangFits request free n) := inferInstanceAs (Decidable (_ ∧ _))

/-- Gang scheduling's choice among `nodes`: the first node it can take. -/
def FirstGangFit (nodes : List Node) (n : Node) : Prop :=
  ∃ pre post, nodes = pre ++ n :: post ∧ GangFits request free n ∧
    ∀ m ∈ pre, ¬GangFits request free m

/-- What `gangSchedule` over `nodes` answers from `w`: `ErrGangSchedulingFailed` after `ticks`
readings of the clock when it can take no node, else `createAllocation` on the first node it can
take, with that node's first free GPUs. -/
def GangOutcome (nodes : List Node) (w : World) (ticks : Nat)
    (r : Option (Except Err AllocationResult × World)) : Prop :=
  ((∀ m ∈ nodes, ¬GangFits request free m) ∧
      r = some (.error (.sentinel .gangSchedulingFailed), w.wait ticks)) ∨
    ∃ n, FirstGangFit request free nodes n ∧ r = (Allocator.createAllocation request n
      ((free n).take request.gpuCount.toNat)).run (w.wait ticks)

variable {request free}

/-- A node passed over after `t` readings of the clock leaves the outcome over the rest. -/
theorem GangOutcome.skip {m : Node} {nodes : List Node} {w : World} {t t' : Nat}
    {r : Option (Except Err AllocationResult × World)} (hm : ¬GangFits request free m)
    (h : GangOutcome request free nodes (w.wait t) t' r) :
    GangOutcome request free (m :: nodes) w (t + t') r := by
  rw [GangOutcome, World.wait_wait] at h
  rcases h with ⟨hall, hr⟩ | ⟨n, ⟨pre, post, rfl, hn, hpre⟩, hr⟩
  · exact .inl ⟨List.forall_mem_cons.mpr ⟨hm, hall⟩, hr⟩
  · exact .inr ⟨n, ⟨m :: pre, post, rfl, hn, List.forall_mem_cons.mpr ⟨hm, hpre⟩⟩, hr⟩

end Gang

/-- `BitVec.ofNat 64` of a length up to a count's value is that count only at that value. -/
theorem ofNat_length_eq_iff {l : List GPU} {count : BitVec 64} (h : l.length ≤ count.toNat) :
    BitVec.ofNat 64 l.length = count ↔ l.length = count.toNat := by
  rw [BitVec.toNat_eq, BitVec.toNat_ofNat, Nat.mod_eq_of_lt (Nat.lt_of_le_of_lt h count.isLt)]

/-- Under a steady clock, `collectGPUs` from fewer GPUs than the count adds the first free ones
until there are as many as the count, or all of them. -/
theorem collectGPUs_run {now : Int} {count : BitVec 64} : ∀ (gpus acc : List GPU) (w : World),
    acc.length < count.toNat → SteadyOn now gpus w →
    ∃ ticks, (Allocator.collectGPUs count gpus acc).run w =
      some (acc ++ (gpus.filter (·.isAvailable now)).take (count.toNat - acc.length),
        w.wait ticks)
  | [], acc, w, _, _ => ⟨0, by simp [Allocator.collectGPUs]; rfl⟩
  | g :: gs, acc, w, hlt, h => by
    have hrec := fun acc' (hacc : acc'.length < count.toNat) =>
      collectGPUs_run gs acc' w.advance hacc h.tail
    simp only [Allocator.collectGPUs, bind_eq, lift_bind, run_call, Call.exec, h.head,
      List.filter_cons]
    by_cases hav : g.isAvailable now = true
    · -- a free GPU joins the collected ones
      have hsucc : count.toNat - acc.length = count.toNat - (acc.length + 1) + 1 := by omega
      simp only [hav, if_true, hsucc, List.take_succ_cons]
      by_cases heq : acc.length + 1 = count.toNat
      · have hlen : BitVec.ofNat 64 (acc ++ [g]).length = count := by
          rw [ofNat_length_eq_iff (by simp; omega)]
          simpa using heq
        refine ⟨1, ?_⟩
        simp [hlen, heq, World.advance, World.wait]
      · have hlen : BitVec.ofNat 64 (acc ++ [g]).length ≠ count := by
          rw [Ne, ofNat_length_eq_iff (by simp; omega)]
          simpa using heq
        obtain ⟨t, hrun⟩ := hrec (acc ++ [g]) (by simp; omega)
        refine ⟨1 + t, ?_⟩
        simp only [hlen, if_false]
        rw [hrun, World.advance_wait]
        simp
    · -- a GPU that is not free is passed over
      obtain ⟨t, hrun⟩ := hrec acc hlt
      refine ⟨1 + t, ?_⟩
      simp only [hav, Bool.false_eq_true, if_false]
      rw [hrun, World.advance_wait]

/-- **`gangSchedule` takes the first node it can.**  Under a steady clock and a request of at
least one GPU, `gangSchedule` answers without panicking, with the outcome `GangOutcome` over the
GPUs free at `now`. -/
theorem gangSchedule_run {request : AllocationRequest} (hpos : request.gpuCount.sle 0 = false)
    {now : Int} : ∀ (nodes : List Node) (w : World), Steady now w → ∃ ticks,
      GangOutcome request (w.store.freeGPUs now) nodes w ticks
        ((Allocator.gangSchedule request nodes).run w)
  | [], _, _ => ⟨0, .inl ⟨fun _ h => (nomatch h), rfl⟩⟩
  | m :: nodes, w, hst => by
    have hpos' : 0 < request.gpuCount.toNat := by
      rcases Nat.eq_zero_or_pos request.gpuCount.toNat with h | h
      · rw [BitVec.eq_of_toNat_eq (y := 0) h] at hpos
        exact absurd hpos (by decide)
      · exact h
    have hrec := fun t => gangSchedule_run hpos nodes (w.wait t) (hst.wait t)
    simp only [Allocator.gangSchedule, bind_eq, lift_bind, run_call, Call.exec]
    split_ifs with hcnt
    · -- the counter covers the request: collect the node's first free GPUs
      obtain ⟨t, hcol⟩ := collectGPUs_run _ [] w hpos' (hst.listed m.id)
      simp only [run_call, Call.exec, run_bind, hcol, Option.some_bind, List.nil_append,
        List.length_nil, Nat.sub_zero, Store.filter_isAvailable]
      have hfits : BitVec.ofNat 64 ((w.store.freeGPUs now m).take request.gpuCount.toNat).length =
          request.gpuCount ↔ GangFits request (w.store.freeGPUs now) m := by
        rw [ofNat_length_eq_iff (List.length_take_le _ _), List.length_take, GangFits]
        simp [hcnt]
      split_ifs with hfit
      · exact ⟨t, .inr ⟨m, ⟨[], nodes, rfl, hfits.mp hfit, by simp⟩, rfl⟩⟩
      · obtain ⟨t', h⟩ := hrec t
        exact ⟨t + t', h.skip (mt hfits.mpr hfit)⟩
    · obtain ⟨t', h⟩ := hrec 0
      exact ⟨0 + t', h.skip fun hf => hcnt hf.1⟩

/-- **`Allocate` places a gang request on the first node it can take.**  Under a steady clock, a
request with gang scheduling and of at least one GPU is refused, having only read the clock, when
no available node both has a counter that covers it and as many free GPUs, with
`ErrInsufficientResources` if no node is available and `ErrGangSchedulingFailed` otherwise; or
`Allocate` is `createAllocation` on the first such available node, with its first free GPUs. -/
theorem allocate_gang (w : World) (request : AllocationRequest)
    (hgang : request.gangScheduling = true) (hpos : request.gpuCount.sle 0 = false)
    (hst : Steady w.now w) :
    ∃ ticks,
      ((∀ m ∈ w.store.availableNodes request, ¬GangFits request (w.store.freeGPUs w.now) m) ∧
        (Allocator.allocate request).run w = some (.error (.sentinel
          (if w.store.availableNodes request = [] then .insufficientResources
            else .gangSchedulingFailed)), w.wait ticks)) ∨
      ∃ n, FirstGangFit request (w.store.freeGPUs w.now) (w.store.availableNodes request) n ∧
        (Allocator.allocate request).run w = (Allocator.createAllocation request n
          ((w.store.freeGPUs w.now n).take request.gpuCount.toNat)).run (w.wait ticks) := by
  simp only [Allocator.allocate, bind_eq, lift_bind, run_call, Call.exec, hgang, if_true,
    Store.filter_hasCapacity, run_bind, Prog.pure_eq, run_pure, Option.some_bind]
  by_cases hnil : w.store.availableNodes request = []
  · -- no available node
    refine ⟨0, .inl ⟨fun m hm => (by rw [hnil] at hm; cases hm), ?_⟩⟩
    simp only [hnil, List.isEmpty_nil, if_true, run_pure]
    rfl
  obtain ⟨ticks, hout⟩ := gangSchedule_run hpos (w.store.availableNodes request) w hst
  refine ⟨ticks, ?_⟩
  simp only [List.isEmpty_iff, hnil, if_false]
  rcases hout with ⟨hall, hrun⟩ | ⟨n, hn, hrun⟩
  · exact .inl ⟨hall, hrun⟩
  · exact .inr ⟨n, hn, hrun⟩

/-- On the sample cluster, `Allocate` places the one-GPU gang request on `n1`'s one GPU. -/
theorem allocate_gang_sample : ∃ ticks,
    (Allocator.allocate { sampleRequest with gangScheduling := true }).run
        (sampleWorld 4 ["g1"] 10) =
      (Allocator.createAllocation { sampleRequest with gangScheduling := true } (sampleNode 1)
        [sampleGPU "g1"]).run ((sampleWorld 4 ["g1"] 10).wait ticks) := by
  have hnodes := sampleWorld_availableNodes { sampleRequest with gangScheduling := true } (.inr rfl)
  obtain ⟨ticks, ⟨hall, -⟩ | ⟨n, ⟨pre, post, hsplit, -⟩, hrun⟩⟩ :=
    allocate_gang (sampleWorld 4 ["g1"] 10) { sampleRequest with gangScheduling := true } rfl
      (by decide) (sampleWorld_steady 4 ["g1"] 10)
  · exact absurd (by decide) (hall _ (hnodes ▸ List.mem_singleton_self _))
  · obtain rfl := List.eq_of_mem_singleton
      (hnodes ▸ hsplit ▸ List.mem_append_right pre (List.mem_cons_self n post))
    exact ⟨ticks, hrun⟩

/-! ## 5. The victim of `SelectVictims` -/

/-- `SelectVictims`' test of a Running job `v` for `job`: lower priority, and a stored tenant
that allows preemption. -/
def Store.mayPreempt (s : Store) (job v : Job) : Bool :=
  v.priority.slt job.priority && s.tenants.any fun t => t.id == v.tenantID && t.allowPreemption

/-- The Running jobs `SelectVictims` may name for `job`, in listing order. -/
def Store.preemptible (s : Store) (job : Job) : List Job :=
  (s.listJobsByState .running).filter (s.mayPreempt job)

/-- With unique tenant ids, the tenant `GetTenant` reads, or its absence, decides the `any` of
`mayPreempt`. -/
theorem tenants_any_eq {s : Store} (hk : Table.Keys s.tenants) (id : String) :
    (s.tenants.any fun t => t.id == id && t.allowPreemption) =
      match s.getTenant id with
      | .ok t => t.allowPreemption
      | .error _ => false := by
  cases hg : s.getTenant id with
  | error e =>
    have hno := Table.get_eq_error hg
    simpa using fun t ht hid => absurd hid (hno t ht)
  | ok t =>
    obtain ⟨ht, hid⟩ := (Table.get_eq_ok hk _).mp hg
    apply Bool.eq_iff_iff.mpr
    simp only [List.any_eq_true, Bool.and_eq_true, beq_iff_eq]
    constructor
    · rintro ⟨t', ht', hid', hallow⟩
      rwa [← hk.inj ht' ht (hid'.trans hid.symm)]
    · exact fun hallow => ⟨t, ht, hid, hallow⟩

/-- With unique tenant ids, `SelectVictims`' candidate loop keeps exactly the jobs `mayPreempt`
accepts, and only reads. -/
theorem candidatesLoop_eq {w : World} (hk : Table.Keys w.store.tenants) (job : Job) :
    ∀ jobs : List Job, (Preemptor.candidatesLoop job jobs).run w =
      some (jobs.filter (w.store.mayPreempt job), w)
  | [] => rfl
  | v :: vs => by
    have ih := candidatesLoop_eq hk job vs
    rw [List.filter_cons, Store.mayPreempt, tenants_any_eq hk]
    simp only [Preemptor.candidatesLoop]
    cases v.priority.slt job.priority
    · simpa using ih
    · simp only [bind_eq, lift_bind, run_call, Call.exec, if_true, Bool.true_and]
      cases w.store.getTenant v.tenantID with
      | error e => simpa using ih
      | ok t => cases t.allowPreemption <;> simp [run_bind, ih]

/-- `SelectVictims`' victim loop is the search for the least priority. -/
theorem lowestLoop_least : ∀ (candidates : List Job) (bound : BitVec 64) (victim : Option Job),
    LeastOutcome (·.priority) id bound victim candidates
      (Preemptor.lowestLoop candidates bound victim)
  | [], _, _ => .nil
  | c :: cs, bound, victim => by
    unfold Preemptor.lowestLoop
    split_ifs with hc
    · exact .take hc (lowestLoop_least cs _ _)
    · exact .skip (by simpa using hc) (lowestLoop_least cs _ _)

/-- **`SelectVictims` names the preemptible job of least priority.**  From any store with unique
keys, `SelectVictims(job)` writes nothing and answers no victim when every Running job of lower
priority than `job` whose tenant allows preemption has a priority of at least `999999`.
Otherwise it answers the one of those jobs of least priority, the first in `ListJobsByState`
order on a tie, and no other job. -/
theorem select_victims_lowest (w : World) (hk : w.store.Keys) (job : Job) :
    ∃ victims, (Preemptor.selectVictims job).run w = some (.ok victims, w) ∧
      (((∀ v ∈ w.store.preemptible job, (999999 : BitVec 64).sle v.priority = true) ∧
          victims = []) ∨
        ∃ v, FirstLeast (·.priority) 999999 (w.store.preemptible job) v ∧ victims = [v]) := by
  simp only [Preemptor.selectVictims, bind_eq, lift_bind, run_call, Call.exec, run_bind,
    candidatesLoop_eq hk.tenants, Option.some_bind]
  split_ifs with hnil
  · -- no candidate
    refine ⟨[], rfl, .inl ⟨fun v hv => ?_, rfl⟩⟩
    rw [Store.preemptible, List.isEmpty_iff.mp hnil] at hv
    cases hv
  rcases lowestLoop_least (w.store.preemptible job) 999999 none with
    ⟨hall, hres⟩ | ⟨v, hv, hres⟩
  · refine ⟨[], ?_, .inl ⟨hall, rfl⟩⟩
    simp only [Store.preemptible] at hres
    rw [hres]
    rfl
  · refine ⟨[v], ?_, .inr ⟨v, hv, rfl⟩⟩
    simp only [Store.preemptible] at hres
    rw [hres]
    rfl

/-- The sample cluster with job `j1`, of priority one, Running. -/
def victimWorld : World :=
  { sampleWorld 4 ["g1"] 10 with
    store := { (sampleWorld 4 ["g1"] 10).store with
      jobs := [{ sampleJob "j1" 1 with state := .running }] } }

theorem victimWorld_keys : victimWorld.store.Keys :=
  { sampleWorld_keys 4 (List.nodup_singleton "g1") 10 with jobs := List.nodup_singleton _ }

/-- For a job of priority two, `SelectVictims` names `j1`. -/
theorem select_victims_sample : (Preemptor.selectVictims (sampleJob "j2" 2)).run victimWorld =
    some (.ok [{ sampleJob "j1" 1 with state := .running }], victimWorld) := by
  have hpre : victimWorld.store.preemptible (sampleJob "j2" 2) =
      [{ sampleJob "j1" 1 with state := .running }] := by decide
  obtain ⟨victims, hrun, ⟨hall, -⟩ | ⟨v, ⟨pre, post, hsplit, -⟩, rfl⟩⟩ :=
    select_victims_lowest victimWorld victimWorld_keys (sampleJob "j2" 2)
  · exact absurd (hall _ (hpre ▸ List.mem_singleton_self _)) (by decide)
  · obtain rfl := List.eq_of_mem_singleton
      (hpre ▸ hsplit ▸ List.mem_append_right pre (List.mem_cons_self v post))
    exact hrun

end GpuScheduler
