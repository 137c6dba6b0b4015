import GpuScheduler.Queue.Queue
import GpuScheduler.Queue.HeapSpec
import GpuScheduler.Queue.Abstract
/-
# The queue refines a finite set of entries keyed by job id

`Queue.Valid` is the representation invariant: the slice is a valid heap, every reference is
below the allocation counter, and `jobMap` maps each queued job id to exactly the reference whose
object carries it.  The abstraction is the list of entries in slice order, `Queue.entries`,
read up to permutation.

Each method keeps `Valid` and does to the entries what its documentation says
(`enqueue_ok`, `dequeue_entries`, `remove_spec`, ...).  `queue_refines` strings them together:
along EVERY sequence of operations from `NewQueue(maxSize)`, each step is one the abstract set
allows.
-/

namespace GpuScheduler

namespace PriorityQueue

variable {pq : PriorityQueue}

theorem item_update (pq : PriorityQueue) {r k : Nat} (hr : r ∉ pq.refs) (hk : k < pq.len)
    (it : QueueItem) : ({ pq with objs := Function.update pq.objs r it } : PriorityQueue).item k =
      pq.item k :=
  Function.update_noteq (fun (e : pq.refs.getD k 0 = r) => hr (e ▸ pq.getD_mem hk)) _ _

/-- Writing a fresh object that no slot references keeps the slice valid. -/
theorem item_update_valid (h : pq.Valid) {r : Nat} (hr : r ∉ pq.refs) (it : QueueItem) :
    ({ pq with objs := Function.update pq.objs r it } : PriorityQueue).Valid where
  indexed k hk := by rw [item_update pq hr hk]; exact h.indexed k hk
  ordered c hc0 hcn := by
    simp only [less, item_update pq hr hcn, item_update pq hr (Nat.lt_trans (parent_lt hc0) hcn)]
    exact h.ordered c hc0 hcn

end PriorityQueue

namespace Queue

open PriorityQueue

variable {q : Queue}

/-- The representation invariant of `core.Queue`. -/
structure Valid (q : Queue) : Prop where
  heap : q.items.Valid
  fresh : ∀ r ∈ q.items.refs, r < q.fresh
  jobMap : ∀ id r, q.jobMap id = some r ↔ r ∈ q.items.refs ∧ (q.items.objs r).job.id = id

/-- The abstract contents: the entries, in slice order. -/
def entries (q : Queue) : List Entry := q.items.refs.map fun r => (q.items.objs r).entry

/-- The job ids of the queued entries. -/
def ids (q : Queue) : List String := q.entries.map fun e => e.job.id

theorem size_eq (q : Queue) : q.size = q.entries.length := by simp [size, entries, len]

theorem list_eq (q : Queue) : q.list = q.entries.map (·.job) := by
  simp [list, entries, Function.comp_def, QueueItem.entry]

theorem Valid.nodup (h : q.Valid) : q.items.refs.Nodup := h.heap.indexed.nodup

theorem Valid.mem_ids (h : q.Valid) (id : String) : id ∈ q.ids ↔ (q.jobMap id).isSome := by
  constructor
  · intro hm
    obtain ⟨e, he, rfl⟩ := List.mem_map.mp hm
    obtain ⟨r, hr, rfl⟩ := List.mem_map.mp he
    simp [(h.jobMap _ r).mpr ⟨hr, rfl⟩, QueueItem.entry]
  · intro hs
    obtain ⟨r, hr⟩ := Option.isSome_iff_exists.mp hs
    obtain ⟨hmem, hid⟩ := (h.jobMap id r).mp hr
    exact List.mem_map.mpr ⟨_, List.mem_map.mpr ⟨r, hmem, rfl⟩, by simp [QueueItem.entry, hid]⟩

/-- Queued job ids are distinct: `Enqueue` refuses a second one, and `jobMap` is a function. -/
theorem Valid.ids_nodup (h : q.Valid) : q.ids.Nodup := by
  unfold ids entries
  rw [List.map_map]
  refine h.nodup.map_on ?_
  intro a ha b hb e
  have h1 := (h.jobMap _ a).mpr ⟨ha, rfl⟩
  have h2 := (h.jobMap _ b).mpr ⟨hb, rfl⟩
  simp only [Function.comp, QueueItem.entry] at e
  rw [e] at h1
  exact Option.some.inj (h1.symm.trans h2)

theorem Valid.mem_of_jobMap (h : q.Valid) {id : String} {r : Nat} (hr : q.jobMap id = some r) :
    r ∈ q.items.refs := ((h.jobMap id r).mp hr).1

/-! ## 1. `NewQueue` and `Clear` -/

theorem new_valid (maxSize : Int) : (new maxSize).Valid where
  heap := ⟨fun k hk => absurd hk (by simp [new, len]), fun c _ hc => absurd hc (by simp [new, len])⟩
  fresh := by simp [new]
  jobMap := by simp [new]

@[simp] theorem new_entries (maxSize : Int) : (new maxSize).entries = [] := rfl

theorem clear_valid (q : Queue) : q.clear.Valid where
  heap := ⟨fun k hk => absurd hk (by simp [Queue.clear, len]),
    fun c _ hc => absurd hc (by simp [Queue.clear, len])⟩
  fresh := by simp [Queue.clear]
  jobMap := by simp [Queue.clear]

@[simp] theorem clear_entries (q : Queue) : q.clear.entries = [] := rfl

/-! ## 2. `Enqueue`

`Enqueue` writes the new item into a fresh object before `heap.Push`; no queued reference
points at it, so the slice keeps its items and its order. -/

/-- The accepting branch of `Enqueue`: the item goes into the fresh object, onto the heap and
into `jobMap`. -/
def insert (q : Queue) (it : QueueItem) : Queue :=
  { q with
    items := Heap.push { q.items with objs := Function.update q.items.objs q.fresh it } q.fresh
    jobMap := Function.update q.jobMap it.job.id (some q.fresh)
    fresh := q.fresh + 1 }

theorem enqueue_eq (q : Queue) (job : Job) (now : Int) : q.enqueue job now =
    if q.maxSize ≤ q.size then .error (.queueFull q.maxSize)
    else if (q.jobMap job.id).isSome then .error (.jobAlreadyInQueue job.id)
    else .ok (q.insert ⟨job, job.priority, 0, now, 0⟩) := rfl

theorem Valid.insert (h : q.Valid) {it : QueueItem} (hid : q.jobMap it.job.id = none) :
    (q.insert it).Valid ∧ List.Perm (q.insert it).entries (q.entries ++ [it.entry]) := by
  have hr : q.fresh ∉ q.items.refs := fun hm => Nat.lt_irrefl _ (h.fresh _ hm)
  have hobj : ∀ x ∈ q.items.refs, Function.update q.items.objs q.fresh it x = q.items.objs x :=
    fun x hx => Function.update_noteq (fun (e : x = q.fresh) => hr (e ▸ hx)) _ _
  have hperm := heapPush_refs { q.items with objs := Function.update q.items.objs q.fresh it } q.fresh
  have hmem : ∀ x, x ∈ (q.insert it).items.refs ↔ x ∈ q.items.refs ∨ x = q.fresh := fun x => by
    simpa using hperm.mem_iff (a := x)
  refine ⟨⟨heapPush_valid (item_update_valid h.heap hr it) hr, fun x hx => ?_, fun id x => ?_⟩, ?_⟩
  · rcases (hmem x).mp hx with hx | rfl
    · exact Nat.lt_succ_of_lt (h.fresh x hx)
    · exact Nat.lt_succ_self _
  · have hjob : ∀ x, ((q.insert it).items.objs x).job =
        (Function.update q.items.objs q.fresh it x).job := fun x =>
      congrArg Entry.job (heapPush_entry _ _ x)
    simp only [hmem, hjob]
    show Function.update q.jobMap it.job.id (some q.fresh) id = some x ↔ _
    by_cases hid' : id = it.job.id
    · subst hid'
      rw [Function.update_same]
      constructor
      · rintro ⟨⟩
        exact ⟨Or.inr rfl, by simp⟩
      · rintro ⟨hx | rfl, hxid⟩
        · rw [hobj x hx] at hxid
          rw [← hxid, (h.jobMap _ x).mpr ⟨hx, rfl⟩] at hid
          cases hid
        · rfl
    · rw [Function.update_noteq hid', h.jobMap]
      constructor
      · rintro ⟨hx, hxid⟩
        exact ⟨Or.inl hx, by rw [hobj x hx]; exact hxid⟩
      · rintro ⟨hx | rfl, hxid⟩
        · exact ⟨hx, by rw [← hobj x hx]; exact hxid⟩
        · simp only [Function.update_same] at hxid
          exact absurd hxid.symm hid'
  · unfold entries
    simp only [Queue.insert, heapPush_entry]
    refine (hperm.map _).trans ?_
    rw [List.map_append, List.map_singleton, Function.update_same,
      List.map_congr_left (fun x hx => by rw [hobj x hx])]

theorem enqueue_ok (h : q.Valid) {job : Job} {now : Int} {q' : Queue}
    (he : q.enqueue job now = .ok q') :
    ¬ q.maxSize ≤ q.size ∧ job.id ∉ q.ids ∧ q'.Valid ∧ q'.maxSize = q.maxSize ∧
      List.Perm q'.entries (q.entries ++ [newEntry job now]) := by
  rw [enqueue_eq] at he
  split_ifs at he with hfull hdup
  cases he
  have hid : q.jobMap job.id = none := Option.not_isSome_iff_eq_none.mp hdup
  exact ⟨hfull, fun hm => hdup ((h.mem_ids _).mp hm), (h.insert hid).1, rfl, (h.insert hid).2⟩

/-! ## 3. `Dequeue`, `Peek` and `Remove`

Both removals take one reference out of the slice (`heap.Pop` the root's, `heap.Remove` the one
at the item's `Index`) and drop its job id from `jobMap`; `Valid.erase` is that step, once. -/

theorem Valid.erase (h : q.Valid) {pq : PriorityQueue} {r : Nat} {id : String} (hv : pq.Valid)
    (hp : List.Perm (r :: pq.refs) q.items.refs)
    (he : ∀ x, (pq.objs x).entry = (q.items.objs x).entry) (hid : (q.items.objs r).job.id = id) :
    ({ q with items := pq, jobMap := Function.update q.jobMap id none } : Queue).Valid := by
  have hjob : ∀ x, (pq.objs x).job = (q.items.objs x).job := fun x => congrArg Entry.job (he x)
  have hr : r ∉ pq.refs := (List.nodup_cons.mp (hp.nodup_iff.mpr h.nodup)).1
  have hmem : ∀ x, x ∈ q.items.refs ↔ x = r ∨ x ∈ pq.refs := fun x => by
    simpa using (hp.mem_iff (a := x)).symm
  refine ⟨hv, fun x hx => h.fresh x ((hmem x).mpr (.inr hx)), fun id' x => ?_⟩
  show Function.update q.jobMap id none id' = some x ↔ x ∈ pq.refs ∧ (pq.objs x).job.id = id'
  rw [hjob]
  by_cases hi : id' = id
  · subst hi
    simp only [Function.update_same, reduceCtorEq, false_iff, not_and]
    intro hx hxid
    have e := ((h.jobMap _ x).mpr ⟨(hmem x).mpr (.inr hx), hxid⟩).symm.trans
      ((h.jobMap _ r).mpr ⟨(hmem r).mpr (.inl rfl), hid⟩)
    exact hr (Option.some.inj e ▸ hx)
  · rw [Function.update_noteq hi, h.jobMap, hmem]
    constructor
    · rintro ⟨rfl | hx, hxid⟩
      · exact absurd (hxid.symm.trans hid) hi
      · exact ⟨hx, hxid⟩
    · exact fun ⟨hx, hxid⟩ => ⟨.inr hx, hxid⟩

theorem erase_entries {pq : PriorityQueue} {r : Nat} (hp : List.Perm (r :: pq.refs) q.items.refs)
    (he : ∀ x, (pq.objs x).entry = (q.items.objs x).entry) :
    List.Perm ((q.items.objs r).entry :: pq.refs.map fun x => (pq.objs x).entry) q.entries := by
  simp only [he]
  exact hp.map (fun x => (q.items.objs x).entry)

/-- The entry at the root of the heap: what `Peek` shows and `Dequeue` takes. -/
def front (q : Queue) : Entry := (q.items.item 0).entry

/-- `Dequeue` returns what `Peek` shows: both read slot `0`. -/
theorem dequeue_fst (q : Queue) : q.dequeue.1 = q.peek := by
  unfold dequeue peek
  split
  · rfl
  · rename_i h0
    have hj := congrArg Entry.job (heapPop_entry q.items (Heap.pop q.items).1)
    dsimp only
    rw [heapPop_fst (Nat.pos_of_ne_zero h0)] at hj ⊢
    exact congrArg some hj

theorem Valid.dequeue (h : q.Valid) : q.dequeue.2.Valid := by
  unfold Queue.dequeue
  split
  · exact h
  · rename_i h0
    exact h.erase (heapPop_valid h.heap (Nat.pos_of_ne_zero h0))
      (heapPop_refs (Nat.pos_of_ne_zero h0)) (heapPop_entry _)
      (congrArg (·.job.id) (heapPop_entry _ _)).symm

theorem dequeue_entries (h0 : 0 < q.size) :
    List.Perm (q.front :: q.dequeue.2.entries) q.entries := by
  have hp := erase_entries (heapPop_refs h0) (heapPop_entry q.items)
  rw [heapPop_fst h0] at hp
  unfold Queue.dequeue
  rwa [if_neg (Nat.pos_iff_ne_zero.mp h0)]

/-- In a heap-ordered slice no slot precedes the root. -/
theorem root_first {pq : PriorityQueue} {n : Nat} (h : Ordered pq n) {k : Nat} (hk : k < n) :
    pq.less k 0 = false := by
  induction k using Nat.strong_induction_on with
  | _ k ih =>
    rcases Nat.eq_zero_or_pos k with rfl | hk0
    · exact QueueItem.less_irrefl _
    · exact QueueItem.not_less_trans (h k hk0 hk)
        (ih _ (parent_lt hk0) (Nat.lt_trans (parent_lt hk0) hk))

theorem Valid.front_first (h : q.Valid) : ∀ x ∈ q.entries, x.less q.front = false := by
  intro x hx
  obtain ⟨r, hr, rfl⟩ := List.mem_map.mp hx
  obtain ⟨k, hk, rfl⟩ := exists_getD hr
  exact root_first h.heap.ordered hk

theorem front_mem (h0 : 0 < q.size) : q.front ∈ q.entries :=
  List.mem_map_of_mem _ (q.items.getD_mem h0)

theorem remove_none {jobID : String} (hn : q.jobMap jobID = none) : q.remove jobID = (false, q) := by
  simp [Queue.remove, hn]

/-- An item's `Index`, read through `jobMap`, is its slot. -/
theorem Valid.index (h : q.Valid) {r : Nat} (hr : r ∈ q.items.refs) :
    (q.items.objs r).index.toNat < q.items.len ∧
      q.items.refs.getD (q.items.objs r).index.toNat 0 = r := by
  obtain ⟨k, hk, rfl⟩ := exists_getD hr
  have hi : (q.items.item k).index = k := h.heap.indexed k hk
  rw [item] at hi
  rw [hi, Int.toNat_ofNat]
  exact ⟨hk, rfl⟩

theorem Valid.remove (h : q.Valid) (jobID : String) : (q.remove jobID).2.Valid := by
  unfold Queue.remove
  split
  · exact h
  · rename_i r hr
    obtain ⟨hk, hkr⟩ := h.index (h.mem_of_jobMap hr)
    have hp := heapRemove_refs hk
    rw [heapRemove_fst hk, hkr] at hp
    exact h.erase (heapRemove_valid h.heap hk) hp (heapRemove_entry _ _) ((h.jobMap _ r).mp hr).2

theorem remove_spec (h : q.Valid) (jobID : String) :
    ((q.remove jobID).1 = false ∧ jobID ∉ q.ids ∧ (q.remove jobID).2 = q) ∨
      ∃ e, (q.remove jobID).1 = true ∧ e.job.id = jobID ∧
        List.Perm (e :: (q.remove jobID).2.entries) q.entries := by
  cases hr : q.jobMap jobID with
  | none =>
    rw [remove_none hr]
    refine .inl ⟨rfl, fun hm => ?_, rfl⟩
    have := (h.mem_ids _).mp hm
    rw [hr] at this
    cases this
  | some r =>
    obtain ⟨hk, hkr⟩ := h.index (h.mem_of_jobMap hr)
    have hp := erase_entries (heapRemove_refs hk) (heapRemove_entry q.items _)
    rw [heapRemove_fst hk, hkr] at hp
    refine .inr ⟨(q.items.objs r).entry, by simp [Queue.remove, hr], ((h.jobMap _ r).mp hr).2, ?_⟩
    simp only [Queue.remove, hr]
    exact hp

/-! ## 4. `ApplyAging`

The loop of `ApplyAging` ages each queued object once, in place (`foldl_ageItem`); the boost is
not part of an object's slot, so `heap.Init` starts from an `Indexed` slice and restores the
order. -/

/-- What the loop body does to the object it visits. -/
def ageOne (agingFactor : BitVec 64) (ageThreshold now : Int) (it : QueueItem) : QueueItem :=
  if ageThreshold < Time.sub now it.enqueuedAt then { it with agingBoost := it.agingBoost + agingFactor }
  else it

section Aging

variable (agingFactor : BitVec 64) (ageThreshold now : Int)

@[simp] theorem ageOne_entry (it : QueueItem) :
    (ageOne agingFactor ageThreshold now it).entry = it.entry.age agingFactor ageThreshold now := by
  unfold ageOne Entry.age
  by_cases hc : ageThreshold < Time.sub now it.enqueuedAt <;> simp [hc, QueueItem.entry]

@[simp] theorem ageOne_job (it : QueueItem) : (ageOne agingFactor ageThreshold now it).job = it.job := by
  unfold ageOne
  split <;> rfl

@[simp] theorem ageOne_index (it : QueueItem) : (ageOne agingFactor ageThreshold now it).index = it.index := by
  unfold ageOne
  split <;> rfl

theorem ageItem_eq (objs : Nat → QueueItem) (r : Nat) :
    ageItem agingFactor ageThreshold now objs r =
      Function.update objs r (ageOne agingFactor ageThreshold now (objs r)) := by
  unfold ageItem ageOne
  split
  · rfl
  · exact (Function.update_eq_self r objs).symm

theorem foldl_ageItem : ∀ (rs : List Nat), rs.Nodup → ∀ (objs : Nat → QueueItem) (r : Nat),
    rs.foldl (ageItem agingFactor ageThreshold now) objs r =
      if r ∈ rs then ageOne agingFactor ageThreshold now (objs r) else objs r
  | [], _, objs, r => rfl
  | x :: xs, hnd, objs, r => by
    rw [List.foldl_cons, foldl_ageItem xs (List.nodup_cons.mp hnd).2, ageItem_eq]
    by_cases hrx : r = x
    · subst hrx
      simp [(List.nodup_cons.mp hnd).1]
    · simp [Function.update_noteq hrx, hrx]

theorem applyAging_reorders (q : Queue) : Reorders q.items.len
    ⟨q.items.refs, q.items.refs.foldl (ageItem agingFactor ageThreshold now) q.items.objs⟩
    (q.applyAging agingFactor ageThreshold now).items :=
  init_reorders ⟨q.items.refs, q.items.refs.foldl (ageItem agingFactor ageThreshold now) q.items.objs⟩

theorem Valid.applyAging (h : q.Valid) : (q.applyAging agingFactor ageThreshold now).Valid := by
  have hobj := foldl_ageItem agingFactor ageThreshold now q.items.refs h.nodup q.items.objs
  have hr := applyAging_reorders agingFactor ageThreshold now q
  have hjob : ∀ x, ((q.applyAging agingFactor ageThreshold now).items.objs x).job =
      (q.items.objs x).job := fun x => by
    have hx := congrArg Entry.job (hr.entry x)
    simp only [QueueItem.entry_job] at hx
    rw [hx, hobj]
    split <;> simp
  refine ⟨init_valid fun k hk => ?_, fun x hx => h.fresh x (hr.perm.subset hx), fun id x => ?_⟩
  · simp only [item, hobj, q.items.getD_mem hk, if_true, ageOne_index]
    exact h.heap.indexed k hk
  · show q.jobMap id = some x ↔ _
    rw [h.jobMap, hr.perm.mem_iff, hjob]

theorem applyAging_entries (h : q.Valid) :
    List.Perm (q.applyAging agingFactor ageThreshold now).entries
      (q.entries.map (Entry.age agingFactor ageThreshold now)) := by
  have hobj := foldl_ageItem agingFactor ageThreshold now q.items.refs h.nodup q.items.objs
  have hr := applyAging_reorders agingFactor ageThreshold now q
  unfold entries
  simp only [hr.entry, List.map_map]
  refine (List.Perm.map _ hr.perm).trans (List.Perm.of_eq (List.map_congr_left fun x hx => ?_))
  simp [hobj, hx]

end Aging

/-! ## 5. The refinement -/

theorem Valid.get_eq_some (h : q.Valid) (jobID : String) (j : Job) :
    q.get jobID = some j ↔ ∃ e ∈ q.entries, e.job.id = jobID ∧ e.job = j := by
  constructor
  · intro hg
    obtain ⟨r, hr, rfl⟩ := Option.map_eq_some'.mp hg
    obtain ⟨hmem, hid⟩ := (h.jobMap _ r).mp hr
    exact ⟨_, List.mem_map_of_mem _ hmem, hid, rfl⟩
  · rintro ⟨e, he, hid, rfl⟩
    obtain ⟨r, hr, rfl⟩ := List.mem_map.mp he
    simp only [get, (h.jobMap _ r).mpr ⟨hr, hid⟩, Option.map_some', QueueItem.entry_job]

/-- One method call on a queue: what it returns and the queue it leaves.  A refused `Enqueue`
returns before touching the queue. -/
def exec (q : Queue) : QueueOp → QueueOut × Queue
  | .enqueue job now =>
    match q.enqueue job now with
    | .error e => (.error (some e), q)
    | .ok q' => (.error none, q')
  | .dequeue => (.job q.dequeue.1, q.dequeue.2)
  | .peek => (.job q.peek, q)
  | .remove jobID => (.found (q.remove jobID).1, (q.remove jobID).2)
  | .get jobID => (.job (q.get jobID), q)
  | .size => (.count q.size, q)
  | .list => (.jobs q.list, q)
  | .applyAging agingFactor ageThreshold now => (.done, q.applyAging agingFactor ageThreshold now)
  | .clear => (.done, q.clear)

/-- The queue after a sequence of method calls. -/
def run (q : Queue) (ops : List QueueOp) : Queue := ops.foldl (fun q op => (q.exec op).2) q

/-- The abstraction function: the entries as a multiset, and the capacity. -/
def abs (q : Queue) : AbsQueue := ⟨q.entries, q.maxSize⟩

theorem Valid.keyed (h : q.Valid) : (abs q).Keyed := by
  simpa [AbsQueue.Keyed, AbsQueue.ids, abs, ids] using h.ids_nodup

theorem Valid.exec (h : q.Valid) (op : QueueOp) : (q.exec op).2.Valid := by
  cases op with
  | enqueue job now =>
    cases he : q.enqueue job now with
    | error e => simpa only [Queue.exec, he] using h
    | ok q' => simpa only [Queue.exec, he] using (enqueue_ok h he).2.2.1
  | dequeue => exact h.dequeue
  | remove jobID => exact h.remove jobID
  | applyAging agingFactor ageThreshold now => exact h.applyAging agingFactor ageThreshold now
  | clear => exact clear_valid q
  | peek | get _ | size | list => exact h

theorem Valid.run (h : q.Valid) (ops : List QueueOp) : (q.run ops).Valid := by
  induction ops generalizing q with
  | nil => exact h
  | cons op ops ih => exact ih (h.exec op)

@[simp] theorem abs_entries (q : Queue) : (abs q).entries = (q.entries : Multiset Entry) := rfl

@[simp] theorem abs_maxSize (q : Queue) : (abs q).maxSize = q.maxSize := rfl

theorem abs_ids (q : Queue) : (abs q).ids = (q.ids : Multiset String) := by
  simp [abs, AbsQueue.ids, ids]

theorem entries_eq_nil (h0 : q.size = 0) : q.entries = [] :=
  List.eq_nil_of_length_eq_zero ((size_eq q).symm.trans h0)

theorem Valid.first (h : q.Valid) (h0 : q.size ≠ 0) : (abs q).First q.front :=
  ⟨Multiset.mem_coe.mpr (front_mem (Nat.pos_of_ne_zero h0)),
    fun x hx => h.front_first x (Multiset.mem_coe.mp hx)⟩

theorem peek_front (h0 : q.size ≠ 0) : q.peek = some q.front.job := by simp [peek, h0, front]

theorem step_enqueue (h : q.Valid) (job : Job) (now : Int) :
    (abs q).Step (.enqueue job now) (q.exec (.enqueue job now)).1
      (abs (q.exec (.enqueue job now)).2) := by
  have hs : (Multiset.card (abs q).entries : Int) = q.size := by simp [abs, size_eq]
  have hm : job.id ∈ (abs q).ids ↔ (q.jobMap job.id).isSome := by
    rw [abs_ids, Multiset.mem_coe]; exact h.mem_ids _
  simp only [AbsQueue.Step, hs, hm, abs_maxSize]
  cases he : q.enqueue job now with
  | error e =>
    rw [enqueue_eq] at he
    split_ifs at he with hf hd
    · cases he; simp [exec, enqueue_eq, hf]
    · cases he; simp [exec, enqueue_eq, hf, hd]
  | ok q' =>
    obtain ⟨hf, hd, -, hmax, hp⟩ := enqueue_ok h he
    rw [if_neg hf, if_neg (fun hd' => hd ((h.mem_ids _).mpr hd'))]
    simp only [exec, he]
    refine ⟨trivial, AbsQueue.ext ?_ hmax⟩
    exact (Multiset.coe_eq_coe.mpr (hp.trans (List.perm_append_singleton _ _))).trans
      (Multiset.cons_coe _ _).symm

theorem step_remove (h : q.Valid) (jobID : String) :
    (abs q).Step (.remove jobID) (q.exec (.remove jobID)).1 (abs (q.exec (.remove jobID)).2) := by
  simp only [AbsQueue.Step, exec, abs_ids, Multiset.mem_coe]
  rcases remove_spec h jobID with ⟨hf, hn, hq⟩ | ⟨e, ht, hid, hp⟩
  · refine ⟨by simp [hf, hn], AbsQueue.ext ?_ (by rw [hq])⟩
    rw [hq, abs_entries]
    exact (Multiset.filter_eq_self.mpr fun x hx => show x.job.id ≠ jobID from fun e =>
      hn (List.mem_map.mpr ⟨x, Multiset.mem_coe.mp hx, e⟩)).symm
  · have hnd : (e :: (q.remove jobID).2.entries).map (·.job.id) |>.Nodup :=
      (hp.map _).nodup_iff.mpr h.ids_nodup
    have hin : jobID ∈ q.ids := List.mem_map.mpr ⟨e, hp.subset (List.mem_cons_self _ _), hid⟩
    refine ⟨by simp [ht, hin], ?_⟩
    refine AbsQueue.ext ?_ (by simp [abs, Queue.remove]; split <;> rfl)
    show ((q.remove jobID).2.entries : Multiset Entry) = Multiset.filter _ (q.entries : Multiset Entry)
    rw [← Multiset.coe_eq_coe.mpr hp, ← Multiset.cons_coe, Multiset.filter_cons_of_neg _ (by simp [hid])]
    exact (Multiset.filter_eq_self.mpr fun x hx => show x.job.id ≠ jobID from fun e =>
      (List.nodup_cons.mp hnd).1 (List.mem_map.mpr ⟨x, Multiset.mem_coe.mp hx, e.trans hid.symm⟩)).symm

theorem exec_step (h : q.Valid) (op : QueueOp) :
    (abs q).Step op (q.exec op).1 (abs (q.exec op).2) := by
  cases op with
  | enqueue job now => exact step_enqueue h job now
  | remove jobID => exact step_remove h jobID
  | dequeue =>
    by_cases h0 : q.size = 0
    · exact .inl ⟨by simp [abs, entries_eq_nil h0], by simp [exec, Queue.dequeue, h0],
        by simp [exec, Queue.dequeue, h0]⟩
    · refine .inr ⟨q.front, h.first h0, by simp [exec, dequeue_fst, peek_front h0], ?_⟩
      refine AbsQueue.ext ?_ (by simp [exec, abs, Queue.dequeue]; split <;> rfl)
      show (q.dequeue.2.entries : Multiset Entry) = (q.entries : Multiset Entry).erase q.front
      rw [← Multiset.coe_eq_coe.mpr (dequeue_entries (Nat.pos_of_ne_zero h0)), ← Multiset.cons_coe,
        Multiset.erase_cons_head]
  | peek =>
    refine ⟨rfl, ?_⟩
    by_cases h0 : q.size = 0
    · exact .inl ⟨by simp [abs, entries_eq_nil h0], by simp [exec, peek, h0]⟩
    · exact .inr ⟨q.front, h.first h0, by simp [exec, peek_front h0]⟩
  | get jobID =>
    exact ⟨rfl, q.get jobID, rfl, fun j => by simp [h.get_eq_some, abs]⟩
  | size => exact ⟨rfl, by simp [exec, abs, size_eq]⟩
  | list => exact ⟨rfl, q.list, rfl, by simp [abs, list_eq]⟩
  | applyAging agingFactor ageThreshold now =>
    refine ⟨rfl, AbsQueue.ext ?_ rfl⟩
    exact (Multiset.coe_eq_coe.mpr (applyAging_entries _ _ _ h)).trans (Multiset.map_coe _ _).symm
  | clear => exact ⟨rfl, AbsQueue.ext rfl rfl⟩

/-- **The heap-backed queue refines the abstract keyed set.**  After any sequence of calls from
`NewQueue(maxSize)`, the queue holds at most one entry per job id, `Peek` shows what `Dequeue`
would return, and the next call of any method is a step of the abstract queue. -/
theorem queue_refines (maxSize : Int) (ops : List QueueOp) (op : QueueOp) :
    (abs ((new maxSize).run ops)).Keyed ∧
      ((new maxSize).run ops).peek = ((new maxSize).run ops).dequeue.1 ∧
      (abs ((new maxSize).run ops)).Step op (((new maxSize).run ops).exec op).1
        (abs (((new maxSize).run ops).exec op).2) :=
  have h := (new_valid maxSize).run ops
  ⟨h.keyed, (dequeue_fst _).symm, exec_step h op⟩

/-! ## 6. The job ids the scheduler reads

The scheduler only asks the queue which job ids it holds; the entries' permutations above give
the answer for each method. -/

theorem mem_of_perm_cons {α : Type} [DecidableEq α] {x y : α} {l l' : List α}
    (hp : List.Perm (x :: l') l) (hn : l.Nodup) : y ∈ l' ↔ y ∈ l ∧ y ≠ x := by
  have he := hp.erase x
  rw [List.erase_cons_head] at he
  rw [he.mem_iff, hn.mem_erase_iff, and_comm]

theorem Valid.mem_ids_dequeue (h : q.Valid) {job : Job} (hp : q.peek = some job) (id : String) :
    id ∈ q.dequeue.2.ids ↔ id ∈ q.ids ∧ id ≠ job.id := by
  have h0 : q.size ≠ 0 := fun h0 => by simp [peek, h0] at hp
  obtain rfl := Option.some.inj ((peek_front h0).symm.trans hp)
  exact mem_of_perm_cons ((dequeue_entries (Nat.pos_of_ne_zero h0)).map fun e : Entry => e.job.id)
    h.ids_nodup

theorem peek_mem_ids {job : Job} (hp : q.peek = some job) : job.id ∈ q.ids := by
  have h0 : q.size ≠ 0 := fun h0 => by simp [peek, h0] at hp
  obtain rfl := Option.some.inj ((peek_front h0).symm.trans hp)
  exact List.mem_map_of_mem _ (front_mem (Nat.pos_of_ne_zero h0))

theorem Valid.mem_ids_remove (h : q.Valid) (jobID id : String) :
    id ∈ (q.remove jobID).2.ids ↔ id ∈ q.ids ∧ id ≠ jobID := by
  rcases remove_spec h jobID with ⟨-, hn, hq⟩ | ⟨e, -, hid, hp⟩
  · rw [hq]
    exact ⟨fun hm => ⟨hm, fun e => hn (e ▸ hm)⟩, And.left⟩
  · subst hid
    exact mem_of_perm_cons (hp.map fun e : Entry => e.job.id) h.ids_nodup

theorem Valid.mem_ids_applyAging (h : q.Valid) (agingFactor : BitVec 64) (ageThreshold now : Int)
    (id : String) : id ∈ (q.applyAging agingFactor ageThreshold now).ids ↔ id ∈ q.ids := by
  have hp := (applyAging_entries agingFactor ageThreshold now h).map fun e : Entry => e.job.id
  rw [List.map_map] at hp
  rw [ids, hp.mem_iff, ids]
  simp [Function.comp_def]

theorem Valid.mem_ids_enqueue (h : q.Valid) {job : Job} {now : Int} {q' : Queue}
    (he : q.enqueue job now = .ok q') (id : String) : id ∈ q'.ids ↔ id ∈ q.ids ∨ id = job.id := by
  have hp := (enqueue_ok h he).2.2.2.2.map fun e : Entry => e.job.id
  rw [ids, hp.mem_iff, List.map_append]
  simp [newEntry, ids]

/-- `Enqueue` accepts a job when the queue has room and does not hold its id. -/
theorem Valid.enqueue_accepts (h : q.Valid) (job : Job) (hs : (q.size : Int) < q.maxSize)
    (hid : job.id ∉ q.ids) (now : Int) : ∃ q', q.enqueue job now = .ok q' := by
  rw [enqueue_eq, if_neg (not_le.mpr hs), if_neg fun hm => hid ((h.mem_ids _).mpr hm)]
  exact ⟨_, rfl⟩

theorem Valid.size_enqueue (h : q.Valid) {job : Job} {now : Int} {q' : Queue}
    (he : q.enqueue job now = .ok q') : q'.size = q.size + 1 := by
  rw [size_eq, size_eq, (enqueue_ok h he).2.2.2.2.length_eq, List.length_append, List.length_singleton]

end Queue

end GpuScheduler
