import GpuScheduler.Queue.Order
import Mathlib.Data.Multiset.Basic
/-
# What the queue is for: a finite set of entries keyed by job id

The abstract queue is a multiset of `Entry` values with a capacity; its operations are the
methods of `core.Queue`, each given by what it may return and what it leaves behind
(`AbsQueue.Step`).  `Dequeue` may return any entry that no other entry precedes under `Less`,
so the abstract queue is nondeterministic exactly where `Less` has ties.  A `History` is a
sequence of calls with their answers that the abstract queue can serve one after the other.

`Queue/Refinement.lean` proves that the heap-backed `Queue` only takes these steps.
-/

namespace GpuScheduler

/-- Go's `Less` read on entries: higher `Priority + AgingBoost` first, then earlier enqueue. -/
def Entry.less (a b : Entry) : Bool :=
  if a.priority + a.agingBoost ≠ b.priority + b.agingBoost then
    (b.priority + b.agingBoost).slt (a.priority + a.agingBoost)
  else decide (a.enqueuedAt < b.enqueuedAt)

theorem QueueItem.less_eq (a b : QueueItem) : a.less b = a.entry.less b.entry := rfl

@[simp] theorem QueueItem.entry_job (it : QueueItem) : it.entry.job = it.job := rfl

/-- What one `ApplyAging` pass does to one entry: boost it if it waited longer than the
threshold. -/
def Entry.age (agingFactor : BitVec 64) (ageThreshold now : Int) (e : Entry) : Entry :=
  if ageThreshold < Time.sub now e.enqueuedAt then { e with agingBoost := e.agingBoost + agingFactor }
  else e

@[simp] theorem Entry.age_job (agingFactor : BitVec 64) (ageThreshold now : Int) (e : Entry) :
    (e.age agingFactor ageThreshold now).job = e.job := by
  unfold Entry.age
  split <;> rfl

/-- The entry `Enqueue(job)` adds at instant `now`: its own priority, no boost. -/
def newEntry (job : Job) (now : Int) : Entry := ⟨job, job.priority, now, 0⟩

/-- The methods of `core.Queue`, with their arguments; the instant `time.Now()` returns inside
`Enqueue` and `ApplyAging` is an argument. -/
inductive QueueOp where
  | enqueue (job : Job) (now : Int)
  | dequeue
  | peek
  | remove (jobID : String)
  | get (jobID : String)
  | size
  | list
  | applyAging (agingFactor : BitVec 64) (ageThreshold now : Int)
  | clear

/-- What a method returns. -/
inductive QueueOut where
  | error (e : Option Err)
  | job (j : Option Job)
  | found (b : Bool)
  | count (n : Nat)
  | jobs (js : List Job)
  | done

/-- The abstract queue: a finite multiset of entries, and the capacity. -/
@[ext] structure AbsQueue where
  entries : Multiset Entry
  maxSize : Int

namespace AbsQueue

/-- The job ids of the entries. -/
def ids (a : AbsQueue) : Multiset String := a.entries.map (·.job.id)

/-- At most one entry per job id. -/
def Keyed (a : AbsQueue) : Prop := a.ids.Nodup

/-- `e` is queued and no queued entry precedes it. -/
def First (a : AbsQueue) (e : Entry) : Prop := e ∈ a.entries ∧ ∀ x ∈ a.entries, x.less e = false

/-- What each method may return, and what it may leave behind. -/
def Step (a : AbsQueue) : QueueOp → QueueOut → AbsQueue → Prop
  | .enqueue job now, out, a' =>
    if a.maxSize ≤ Multiset.card a.entries then out = .error (some (.queueFull a.maxSize)) ∧ a' = a
    else if job.id ∈ a.ids then out = .error (some (.jobAlreadyInQueue job.id)) ∧ a' = a
    else out = .error none ∧ a' = { a with entries := newEntry job now ::ₘ a.entries }
  | .dequeue, out, a' =>
    (a.entries = 0 ∧ out = .job none ∧ a' = a) ∨
      ∃ e, a.First e ∧ out = .job (some e.job) ∧ a' = { a with entries := a.entries.erase e }
  | .peek, out, a' =>
    a' = a ∧ ((a.entries = 0 ∧ out = .job none) ∨ ∃ e, a.First e ∧ out = .job (some e.job))
  | .remove jobID, out, a' =>
    out = .found (decide (jobID ∈ a.ids)) ∧
      a' = { a with entries := a.entries.filter (·.job.id ≠ jobID) }
  | .get jobID, out, a' =>
    a' = a ∧ ∃ o, out = .job o ∧ ∀ j, o = some j ↔ ∃ e ∈ a.entries, e.job.id = jobID ∧ e.job = j
  | .size, out, a' => a' = a ∧ out = .count (Multiset.card a.entries)
  | .list, out, a' => a' = a ∧ ∃ js, out = .jobs js ∧ (js : Multiset Job) = a.entries.map (·.job)
  | .applyAging agingFactor ageThreshold now, out, a' =>
    out = .done ∧ a' = { a with entries := a.entries.map (Entry.age agingFactor ageThreshold now) }
  | .clear, out, a' => out = .done ∧ a' = { a with entries := 0 }

/-- A sequential history: the calls in order, each with its answer, every one a `Step` from
where the previous left the queue. -/
inductive History : AbsQueue → List (QueueOp × QueueOut) → AbsQueue → Prop where
  | nil (a : AbsQueue) : History a [] a
  | cons {a a' a'' : AbsQueue} {op : QueueOp} {out : QueueOut} {h : List (QueueOp × QueueOut)}
      (step : a.Step op out a') (rest : History a' h a'') : History a ((op, out) :: h) a''

theorem History.append {a a' a'' : AbsQueue} {h₁ h₂ : List (QueueOp × QueueOut)}
    (h : History a h₁ a') (h' : History a' h₂ a'') : History a (h₁ ++ h₂) a'' := by
  induction h with
  | nil => exact h'
  | cons step _ ih => exact .cons step (ih h')

end AbsQueue

end GpuScheduler
