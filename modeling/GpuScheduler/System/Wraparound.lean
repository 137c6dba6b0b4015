import GpuScheduler.System.Run
import GpuScheduler.Queue.Aging
/-
# Signed 64-bit sums that wrap

Go's `int` and `int64` are 64-bit and wrap on overflow, and `validateJob` bounds a job's GPU
count only: its priority, memory and cores may take any value.  This file compares the sums the
code forms with the integer sums they stand for.

* **In range.**  While `Priority + AgingBoost` stays within the signed range, `Less` orders two
  items exactly as the integers do: the larger effective priority first, then the earlier
  `EnqueuedAt` (`Entry.less_iff_effective`).
* **Past the top.**  Once an aging pass pushes the sum beyond `2^63 − 1` it wraps to a large
  negative number, and the item falls behind every item whose sum is in range and not negative,
  although its own effective priority is the larger (`Entry.less_of_wrap`).

Both happen: a job of priority `2^63 − 1` is admitted, and the first aging pass that boosts it
puts a priority-`0` job ahead of it; and `HasAvailableQuota` admits a request whose
`CurrentMemory + memory` wraps below the ceiling (`signed_wrap_sample`).
-/

namespace GpuScheduler

open Prog Scheduler

/-! ## 1. Sums of two `int64` values -/

theorem toInt_add_of_inRange {x y : BitVec 64} (h₁ : -2 ^ 63 ≤ x.toInt + y.toInt)
    (h₂ : x.toInt + y.toInt < 2 ^ 63) : (x + y).toInt = x.toInt + y.toInt := by
  rw [BitVec.toInt_add, Int.bmod_def]
  split <;> omega

theorem toInt_add_of_wrap {x y : BitVec 64} (h : 2 ^ 63 ≤ x.toInt + y.toInt) :
    (x + y).toInt = x.toInt + y.toInt - 2 ^ 64 := by
  have := toInt_range x
  have := toInt_range y
  rw [BitVec.toInt_add, Int.bmod_def]
  split <;> omega

/-! ## 2. `Less` against the effective priority -/

/-- The effective priority on the integers: `Priority + AgingBoost` without wrapping. -/
def Entry.effective (e : Entry) : Int := e.priority.toInt + e.agingBoost.toInt

/-- **In range, `Less` is the integer order**: the larger effective priority first, and on a
tie the earlier enqueue. -/
theorem Entry.less_iff_effective {a b : Entry}
    (ha : -2 ^ 63 ≤ a.effective ∧ a.effective < 2 ^ 63)
    (hb : -2 ^ 63 ≤ b.effective ∧ b.effective < 2 ^ 63) :
    a.less b = true ↔
      b.effective < a.effective ∨ (a.effective = b.effective ∧ a.enqueuedAt < b.enqueuedAt) := by
  have hta : a.total.toInt = a.effective := toInt_add_of_inRange ha.1 ha.2
  have htb : b.total.toInt = b.effective := toInt_add_of_inRange hb.1 hb.2
  change (if a.total ≠ b.total then b.total.slt a.total else decide (a.enqueuedAt < b.enqueuedAt))
    = true ↔ _
  by_cases he : a.total = b.total
  · have : a.effective = b.effective := by rw [← hta, ← htb, he]
    simp [he, this]
  · have : a.effective ≠ b.effective := fun e => he (BitVec.toInt_inj.mp (by rw [hta, htb, e]))
    simp only [he, ne_eq, not_false_eq_true, if_true, BitVec.slt, decide_eq_true_eq, hta, htb]
    omega

/-- **Past the top, `Less` inverts the order**: an item whose sum wraps upward falls behind an
item whose sum is in range and not negative, although its effective priority is the larger. -/
theorem Entry.less_of_wrap {a b : Entry} (ha : 2 ^ 63 ≤ a.effective) (hb : 0 ≤ b.effective)
    (hb' : b.effective < 2 ^ 63) : b.less a = true ∧ b.effective < a.effective := by
  have hta : a.total.toInt = a.effective - 2 ^ 64 := toInt_add_of_wrap ha
  have htb : b.total.toInt = b.effective :=
    toInt_add_of_inRange (by unfold Entry.effective at hb; omega) hb'
  -- the wrapped sum is below zero
  have hneg : a.effective < 2 ^ 64 := by
    have := toInt_range a.priority
    have := toInt_range a.agingBoost
    unfold Entry.effective
    omega
  have hne : b.total ≠ a.total := fun e => by
    have := congrArg BitVec.toInt e
    omega
  refine ⟨?_, by omega⟩
  change (if b.total ≠ a.total then a.total.slt b.total else decide (b.enqueuedAt < a.enqueuedAt))
    = true
  simp only [hne, ne_eq, not_false_eq_true, if_true, BitVec.slt, decide_eq_true_eq, hta, htb]
  omega

/-! ## 3. Both happen -/

/-- A one-GPU job of tenant `t1` whose priority is Go's largest `int`, `2^63 − 1`. -/
def topJob : Job := sampleJob "top" (BitVec.ofNat 64 (2 ^ 63 - 1))

/-- A one-GPU job of tenant `t1` asking for `2^63 − 1` MB of memory. -/
def hugeJob : Job := { sampleJob "huge" 1 with memoryMB := BitVec.ofNat 64 (2 ^ 63 - 1) }

/-- The sample cluster with no GPU, its clock moving ten minutes at each reading. -/
def slowClockWorld : World := { sampleWorld 4 [] 10 with clock := fun n => n * (10 * minute) }

/-- **Accepted jobs make the sums wrap.**  `validateJob` accepts `topJob`; once `topJob` and a
priority-`0` job have waited past the threshold, the cycle's aging pass wraps `topJob`'s
`Priority + AgingBoost` to a negative number, and the queue's head is the priority-`0` job.
After `j1` has started, with `CurrentMemory = 10`, `hugeJob` is admitted and stored Pending:
`CurrentMemory + memory` wraps below the ceiling of `100000` MB it exceeds. -/
theorem signed_wrap_sample :
    validateJob topJob = .ok () ∧
    (∃ trace w, Run (sampleConfig 10) slowClockWorld trace w ∧
      ∃ A ∈ w.queue.entries, ∃ B ∈ w.queue.entries, A.job.id = "top" ∧ B.job.id = "low" ∧
        B.effective < A.effective ∧ A.total.toInt < 0 ∧ B.less A = true ∧
        w.queue.peek = some B.job) ∧
    ∃ trace w, Run (sampleConfig 10) (sampleWorld 4 ["g1"] 10) trace w ∧
      ∃ t ∈ w.store.tenants, ∃ j ∈ w.store.jobs, j.id = "huge" ∧ j.state = .pending ∧
        t.id = j.tenantID ∧ t.maxMemoryMB.toInt < t.currentMemory.toInt + j.memoryMB.toInt ∧
        t.hasAvailableQuota j.gpuCount j.gpuMemoryMB j.cpuCores j.memoryMB = true :=
  ⟨rfl,
    exists_run_to _ [.submitJob topJob, .submitJob (sampleJob "low" 0), .schedulingCycle 5] _
      (by decide),
    exists_run_to _ [.submitJob (sampleJob "j1" 1), .schedulingCycle 5, .submitJob hugeJob] _
      (by decide)⟩

end GpuScheduler
