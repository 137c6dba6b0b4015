import GpuScheduler.Queue.Heap
/-
# `Less` is a strict weak order

`PriorityQueue.Less` compares the wrapped sums `Priority + AgingBoost` with Go's signed `>`, and
breaks ties by `EnqueuedAt.Before`.  Read through `BitVec.toInt`, that is the lexicographic order
on (total descending, enqueue time ascending) -- so it is irreflexive and transitive, and so is
its complement "not before".  These are the only facts about `Less` the heap proofs use.

An item's `Entry` is what it IS apart from where the heap keeps it (everything but `Index`);
`Less` reads only the entry.
-/

namespace GpuScheduler

/-- A queued item without its heap position: the abstract element of the queue. -/
structure Entry where
  job : Job
  priority : BitVec 64
  enqueuedAt : Int
  agingBoost : BitVec 64
  deriving DecidableEq, Repr

/-- The entry of a `QueueItem`: every field but `Index`. -/
def QueueItem.entry (it : QueueItem) : Entry := ⟨it.job, it.priority, it.enqueuedAt, it.agingBoost⟩

namespace QueueItem

variable {a b c : QueueItem}

/-- `Less` through `toInt`: higher total first, then earlier enqueue. -/
theorem less_iff : a.less b = true ↔
    b.total.toInt < a.total.toInt ∨ (a.total.toInt = b.total.toInt ∧ a.enqueuedAt < b.enqueuedAt) := by
  unfold less BitVec.slt
  by_cases h : a.total = b.total
  · simp [h]
  · have : a.total.toInt ≠ b.total.toInt := fun e => h (BitVec.toInt_inj.mp e)
    simp [h, this]

theorem less_irrefl (a : QueueItem) : a.less a = false := by
  cases h : a.less a
  · rfl
  · rw [less_iff] at h; omega

theorem less_asymm (h : a.less b = true) : b.less a = false := by
  cases h' : b.less a
  · rfl
  · rw [less_iff] at h h'; omega

theorem less_trans (h₁ : a.less b = true) (h₂ : b.less c = true) : a.less c = true := by
  rw [less_iff] at *; omega

/-- **Negative transitivity**: "not before" is transitive. -/
theorem not_less_trans (h₁ : a.less b = false) (h₂ : b.less c = false) : a.less c = false := by
  cases h : a.less c
  · rfl
  · have h₁' : ¬ a.less b = true := by simp [h₁]
    have h₂' : ¬ b.less c = true := by simp [h₂]
    rw [less_iff] at h h₁' h₂'; omega

/-- If `a` is before `b` and `c` is not before `b`, then `c` is not before `a`. -/
theorem not_less_of_less (h₁ : a.less b = true) (h₂ : c.less b = false) : c.less a = false := by
  cases h : c.less a
  · rfl
  · rw [less_trans h h₁] at h₂; cases h₂

/-- `Less` reads only the entries. -/
theorem less_congr {a a' b b' : QueueItem} (ha : a.entry = a'.entry) (hb : b.entry = b'.entry) :
    a.less b = a'.less b' := by
  simp only [entry, Entry.mk.injEq] at ha hb
  simp only [less, total, ha, hb]

end QueueItem

end GpuScheduler
