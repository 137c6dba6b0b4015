import GpuScheduler.Queue.Refinement
/-
# `GetPosition` counts in slice order

`GetPosition(id)` walks the heap's slice and counts the items that precede the job's item under
`Less`, but it stops at the job's own item: a predecessor that sits after the job in the slice
is not counted.  So on every queue the methods can build it answers `-1` exactly when the job is
absent, and otherwise a number between `1` and the job's rank, one plus the number of entries
that precede it (`getPosition_run`).  A heap orders its slice only along each path from the
root, so the two differ as soon as a later, higher item lands in another branch
(`getPosition_rank_sample`).
-/

namespace GpuScheduler

namespace Queue

variable {q : Queue}

/-- The loop's test is `Less(qItem, item)`. -/
theorem positionLoop_test (qItem item : QueueItem) :
    ((item.priority + item.agingBoost).slt (qItem.priority + qItem.agingBoost) ||
      (qItem.priority + qItem.agingBoost == item.priority + item.agingBoost &&
        decide (qItem.enqueuedAt < item.enqueuedAt))) = qItem.less item := by
  unfold QueueItem.less QueueItem.total
  by_cases h : qItem.priority + qItem.agingBoost = item.priority + item.agingBoost
  · simp [h, BitVec.slt]
  · simp [h]

/-- The loop counts the predecessors of `item` met before the job's own item. -/
theorem positionLoop_eq (jobID : String) (item : QueueItem) : ∀ (l : List QueueItem) (p : Int),
    positionLoop jobID item l p =
      p + ((l.takeWhile (·.job.id != jobID)).filter (·.less item)).length
  | [], p => by simp [positionLoop]
  | x :: l, p => by
    have ih := positionLoop_eq jobID item l
    by_cases hx : x.job.id = jobID
    · simp [positionLoop, hx]
    · have ht : (x :: l).takeWhile (·.job.id != jobID) = x :: l.takeWhile (·.job.id != jobID) :=
        List.takeWhile_cons_of_pos (by simpa using hx)
      simp only [positionLoop, hx, if_false, positionLoop_test, ht, List.filter_cons]
      split <;> simp only [ih, List.length_cons]
      omega

/-- `GetPosition` of a queued job, read off its item `objs r`. -/
theorem getPosition_of_jobMap {id : String} {r : Nat} (hr : q.jobMap id = some r) :
    q.getPosition id = 1 + (((q.items.refs.map q.items.objs).takeWhile (·.job.id != id)).filter
      (·.less (q.items.objs r))).length := by
  simp only [getPosition, hr, positionLoop_eq, Int.add_comm]

theorem Valid.getPosition_eq_neg_one (hv : q.Valid) (id : String) :
    q.getPosition id = -1 ↔ id ∉ q.ids := by
  rw [hv.mem_ids]
  cases hj : q.jobMap id with
  | none => simp [getPosition, hj]
  | some r =>
    rw [getPosition_of_jobMap hj]
    simp only [Option.isSome_some, not_true_eq_false, iff_false]
    omega

/-- A queued job's position is at least `1` and at most its rank. -/
theorem Valid.getPosition_le_rank (hv : q.Valid) {e : Entry} (he : e ∈ q.entries) :
    1 ≤ q.getPosition e.job.id ∧
      q.getPosition e.job.id ≤ 1 + (q.entries.filter (·.less e)).length := by
  obtain ⟨r, hr, rfl⟩ := List.mem_map.mp he
  rw [QueueItem.entry_job, getPosition_of_jobMap ((hv.jobMap _ r).mpr ⟨hr, rfl⟩)]
  have hle := ((List.takeWhile_sublist (l := q.items.refs.map q.items.objs)
    (·.job.id != (q.items.objs r).job.id)).filter fun x => x.less (q.items.objs r)).length_le
  have hcount : (q.entries.filter (·.less (q.items.objs r).entry)).length =
      ((q.items.refs.map q.items.objs).filter (·.less (q.items.objs r))).length := by
    simp only [entries, ← List.map_map, List.filter_map, List.length_map]
    rfl
  omega

/-- **`GetPosition` is `-1` exactly for absent jobs, and never above the rank.**  On every queue
built by the methods from `NewQueue`, `GetPosition(id)` is `-1` iff no queued entry has job
`id`; for a queued entry `e` of job `id` it lies between `1` and one plus the number of queued
entries that precede `e` under `Less`. -/
theorem getPosition_run (maxSize : Int) (ops : List QueueOp) (id : String) :
    (((new maxSize).run ops).getPosition id = -1 ↔ id ∉ ((new maxSize).run ops).ids) ∧
    ∀ e ∈ ((new maxSize).run ops).entries, e.job.id = id →
      1 ≤ ((new maxSize).run ops).getPosition id ∧
      ((new maxSize).run ops).getPosition id ≤
        1 + (((new maxSize).run ops).entries.filter (·.less e)).length := by
  have hv := (new_valid maxSize).run ops
  exact ⟨hv.getPosition_eq_neg_one id, fun e he hid => hid ▸ hv.getPosition_le_rank he⟩

/-- A job of the given priority. -/
def positionJob (id : String) (priority : BitVec 64) : Job := { (default : Job) with id, priority }

/-- Priorities `10`, `5` and `9`, enqueued in that order: `9` lands in the root's second branch,
after `5` in the slice. -/
def positionSample : List QueueOp :=
  [.enqueue (positionJob "j10" 10) 1, .enqueue (positionJob "j5" 5) 2,
    .enqueue (positionJob "j9" 9) 3]

/-- **`GetPosition` understates the rank.**  After the sample's three enqueues, `GetPosition`
answers `2` for the priority-5 job, yet two dequeues (of the jobs of priority 10 and 9) come
before the one that returns it: its rank is `3`. -/
theorem getPosition_rank_sample :
    ((new 10).run positionSample).getPosition "j5" = 2 ∧
    ((new 10).run positionSample).dequeue.1 = some (positionJob "j10" 10) ∧
    ((new 10).run (positionSample ++ [.dequeue])).dequeue.1 = some (positionJob "j9" 9) ∧
    ((new 10).run (positionSample ++ [.dequeue, .dequeue])).dequeue.1 =
      some (positionJob "j5" 5) := by
  decide

end Queue

end GpuScheduler
