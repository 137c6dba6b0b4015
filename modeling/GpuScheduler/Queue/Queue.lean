import GpuScheduler.Queue.Heap
/-
# The scheduling queue (`core.Queue`)

A `PriorityQueue` of item references, the `jobMap` from job id to the SAME reference, the
capacity `maxSize`, and the next unused reference (each `&QueueItem{...}` of `Enqueue` allocates a
fresh object).  Every method runs under the queue's lock, so each is one atomic transition here;
the instant `time.Now()` returns inside `Enqueue` and `ApplyAging` is a parameter.
-/

namespace GpuScheduler

/-- The state of a `core.Queue`. -/
structure Queue where
  items : PriorityQueue
  jobMap : String → Option Nat
  maxSize : Int
  fresh : Nat

namespace Queue

open PriorityQueue

/-- Go's `NewQueue(maxSize)`: no items, an empty map (`heap.Init` of an empty slice does
nothing). -/
def new (maxSize : Int) : Queue :=
  { items := ⟨[], fun _ => default⟩, jobMap := fun _ => none, maxSize, fresh := 0 }

/-- Go's `Size`. -/
def size (q : Queue) : Nat := q.items.len

/-- Go's `IsEmpty`. -/
def isEmpty (q : Queue) : Bool := q.size == 0

/-- Go's `Enqueue(job)` at instant `now`: refuse when full or when the id is already queued,
else push a fresh item with boost `0` and record it in `jobMap`. -/
def enqueue (q : Queue) (job : Job) (now : Int) : Except Err Queue :=
  if q.maxSize ≤ q.size then .error (.queueFull q.maxSize)
  else if (q.jobMap job.id).isSome then .error (.jobAlreadyInQueue job.id)
  else
    let r := q.fresh
    let item : QueueItem :=
      { job, priority := job.priority, index := 0, enqueuedAt := now, agingBoost := 0 }
    .ok { q with
      items := Heap.push { q.items with objs := Function.update q.items.objs r item } r
      jobMap := Function.update q.jobMap job.id (some r)
      fresh := r + 1 }

/-- `Enqueue` refuses only with the full queue's error or the queued id's. -/
theorem enqueue_eq_error {q : Queue} {job : Job} {now : Int} {e : Err}
    (he : q.enqueue job now = .error e) :
    e = .queueFull q.maxSize ∨ e = .jobAlreadyInQueue job.id := by
  unfold enqueue at he
  split_ifs at he <;> cases he
  exacts [.inl rfl, .inr rfl]

/-- Go's `Dequeue`: pop the root and drop it from `jobMap`; `none` (Go's `nil`) when empty. -/
def dequeue (q : Queue) : Option Job × Queue :=
  if q.size = 0 then (none, q) else
  let p := Heap.pop q.items
  let item := p.2.objs p.1
  (some item.job, { q with items := p.2, jobMap := Function.update q.jobMap item.job.id none })

/-- Go's `Peek`: the job at the root, without removing it. -/
def peek (q : Queue) : Option Job :=
  if q.size = 0 then none else some (q.items.item 0).job

/-- Go's `Remove(jobID)`: look the item up in `jobMap` and `heap.Remove` it at its `Index`. -/
def remove (q : Queue) (jobID : String) : Bool × Queue :=
  match q.jobMap jobID with
  | none => (false, q)
  | some r =>
    let p := Heap.remove q.items (q.items.objs r).index.toNat
    (true, { q with items := p.2, jobMap := Function.update q.jobMap jobID none })

/-- Go's `Get(jobID)`. -/
def get (q : Queue) (jobID : String) : Option Job :=
  (q.jobMap jobID).map fun r => (q.items.objs r).job

/-- Go's `List`: the jobs in slice (heap) order. -/
def list (q : Queue) : List Job := q.items.refs.map fun r => (q.items.objs r).job

/-- One iteration of `ApplyAging`'s loop: boost the item behind `r` if it has waited longer than
the threshold. -/
def ageItem (agingFactor : BitVec 64) (ageThreshold now : Int) (objs : Nat → QueueItem) (r : Nat) :
    Nat → QueueItem :=
  if ageThreshold < Time.sub now (objs r).enqueuedAt then
    Function.update objs r { objs r with agingBoost := (objs r).agingBoost + agingFactor }
  else objs

/-- Go's `ApplyAging(agingFactor, ageThreshold)` at instant `now`: boost every item that waited
longer than the threshold, then `heap.Init`. -/
def applyAging (q : Queue) (agingFactor : BitVec 64) (ageThreshold now : Int) : Queue :=
  let objs := q.items.refs.foldl (ageItem agingFactor ageThreshold now) q.items.objs
  { q with items := Heap.init { q.items with objs } }

/-- The loop of `GetPosition`: count the items met before `jobID` that precede `item`. -/
def positionLoop (jobID : String) (item : QueueItem) : List QueueItem → Int → Int
  | [], position => position
  | qItem :: rest, position =>
    if qItem.job.id = jobID then position
    else
      let totalPriority := qItem.priority + qItem.agingBoost
      let itemTotalPriority := item.priority + item.agingBoost
      if itemTotalPriority.slt totalPriority ||
          (totalPriority == itemTotalPriority && decide (qItem.enqueuedAt < item.enqueuedAt)) then
        positionLoop jobID item rest (position + 1)
      else positionLoop jobID item rest position

/-- Go's `GetPosition(jobID)`: `-1` when absent, else the 1-based count computed by the loop. -/
def getPosition (q : Queue) (jobID : String) : Int :=
  match q.jobMap jobID with
  | none => -1
  | some r => positionLoop jobID (q.items.objs r) (q.items.refs.map q.items.objs) 1

/-- Go's `Clear`: an empty slice and an empty map. -/
def clear (q : Queue) : Queue :=
  { q with items := { q.items with refs := [] }, jobMap := fun _ => none }

end Queue

end GpuScheduler
