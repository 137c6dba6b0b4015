import GpuScheduler.Models
/-
# The heap under the queue: `PriorityQueue` and `container/heap`

`core.Queue` keeps its jobs in a `PriorityQueue`, a slice of `*QueueItem` that implements
`heap.Interface`, and shares the same `*QueueItem` pointers with its `jobMap`.  The sharing is
what `Queue.Remove` relies on: it reads `item.Index` through the map, and only `Swap`, `Push` and
`Pop` keep that field equal to the item's position in the slice.

So the slice is modelled as a list of REFERENCES (`refs`) into an arena of objects (`objs`), and
`Swap`, `Push`, `Pop` write the `Index` field of the objects exactly as the Go methods do.  The
`container/heap` functions (`up`, `down`, `Init`, `Push`, `Pop`, `Remove`) are the standard
library's, over that interface.  Their `for` loops carry an explicit fuel that is never exhausted
(`up` moves to a strictly smaller position, `down` to a strictly larger one below `n`), which keeps
every definition structurally recursive, so that a trace can be evaluated by `decide`.

Positions and `Index` values are in range on every queue the operations can build
(`Queue.Valid`, in `Queue/Refinement.lean`); out of range, where Go would panic on a slice index,
the reads here return the arena's default object instead.
-/

namespace GpuScheduler

/-- A queued job with its priority at enqueue time, its heap position and its aging boost
(`core.QueueItem`). -/
structure QueueItem where
  job : Job
  priority : BitVec 64
  index : Int
  enqueuedAt : Int
  agingBoost : BitVec 64
  deriving DecidableEq, Repr, Inhabited

/-- The effective priority `Priority + AgingBoost`, computed in Go's wrapping `int`. -/
def QueueItem.total (it : QueueItem) : BitVec 64 := it.priority + it.agingBoost

/-- Go's `PriorityQueue.Less`, on the two items: higher total first, then earlier enqueue. -/
def QueueItem.less (a b : QueueItem) : Bool :=
  if a.total ≠ b.total then b.total.slt a.total else decide (a.enqueuedAt < b.enqueuedAt)

/-- The `PriorityQueue` slice: references into an arena of `QueueItem` objects. -/
structure PriorityQueue where
  refs : List Nat
  objs : Nat → QueueItem

namespace PriorityQueue

/-- Go's `Len`. -/
def len (pq : PriorityQueue) : Nat := pq.refs.length

/-- The object at position `i` of the slice. -/
def item (pq : PriorityQueue) (i : Nat) : QueueItem := pq.objs (pq.refs.getD i 0)

/-- Go's `Less(i, j)`. -/
def less (pq : PriorityQueue) (i j : Nat) : Bool := (pq.item i).less (pq.item j)

/-- Writing `item.Index = n` through the reference `r`. -/
def setIndex (objs : Nat → QueueItem) (r : Nat) (n : Int) : Nat → QueueItem :=
  Function.update objs r { objs r with index := n }

/-- Go's `Swap(i, j)`: exchange the two slots, then `pq[i].Index = i; pq[j].Index = j`. -/
def swap (pq : PriorityQueue) (i j : Nat) : PriorityQueue :=
  let a := pq.refs.getD i 0
  let b := pq.refs.getD j 0
  { refs := (pq.refs.set i b).set j a
    objs := setIndex (setIndex pq.objs b i) a j }

/-- Go's `Push(x)`: `item.Index = n`, then append. -/
def push (pq : PriorityQueue) (r : Nat) : PriorityQueue :=
  { refs := pq.refs ++ [r], objs := setIndex pq.objs r pq.len }

/-- Go's `Pop()`: take the last reference, set its `Index` to `-1`, shrink the slice. -/
def pop (pq : PriorityQueue) : Nat × PriorityQueue :=
  let r := pq.refs.getLastD 0
  (r, { refs := pq.refs.dropLast, objs := setIndex pq.objs r (-1) })

end PriorityQueue

namespace Heap

open PriorityQueue

/-- The loop of `heap.up(h, j)`, with fuel: move `j` towards the root while it is `Less` than its
parent `(j - 1) / 2`.  At `j = 0` the parent is `0` itself and the loop stops. -/
def up : Nat → PriorityQueue → Nat → PriorityQueue
  | 0, pq, _ => pq
  | fuel + 1, pq, j =>
    let i := (j - 1) / 2
    if i = j ∨ !pq.less j i then pq else up fuel (pq.swap i j) i

/-- The loop of `heap.down(h, i0, n)`, with fuel; returns the heap and the final position. -/
def downLoop : Nat → PriorityQueue → Nat → Nat → PriorityQueue × Nat
  | 0, pq, i, _ => (pq, i)
  | fuel + 1, pq, i, n =>
    let j1 := 2 * i + 1
    if n ≤ j1 then (pq, i) else
    let j := if j1 + 1 < n ∧ pq.less (j1 + 1) j1 = true then j1 + 1 else j1
    if !pq.less j i then (pq, i) else downLoop fuel (pq.swap i j) j n

/-- Go's `heap.down(h, i0, n)`: sift position `i0` down within the first `n` slots; the flag says
whether the element moved (`i > i0`). -/
def down (pq : PriorityQueue) (i0 n : Nat) : PriorityQueue × Bool :=
  let r := downLoop n pq i0 n
  (r.1, decide (i0 < r.2))

/-- The loop of `heap.Init`: `down(h, i, n)` for `i` from `k - 1` down to `0`. -/
def initLoop (n : Nat) : Nat → PriorityQueue → PriorityQueue
  | 0, pq => pq
  | k + 1, pq => initLoop n k (down pq k n).1

/-- Go's `heap.Init(h)`. -/
def init (pq : PriorityQueue) : PriorityQueue := initLoop pq.len (pq.len / 2) pq

/-- Go's `heap.Push(h, x)`: `h.Push(x)`, then `up(h, h.Len()-1)`. -/
def push (pq : PriorityQueue) (r : Nat) : PriorityQueue :=
  up (pq.len + 1) (pq.push r) pq.len

/-- Go's `heap.Pop(h)`: swap the root with the last slot, `down` over the rest, then `h.Pop()`. -/
def pop (pq : PriorityQueue) : Nat × PriorityQueue :=
  let n := pq.len - 1
  (down (pq.swap 0 n) 0 n).1.pop

/-- Go's `heap.Remove(h, i)`: swap slot `i` with the last, restore the order with `down` or else
`up`, then `h.Pop()`. -/
def remove (pq : PriorityQueue) (i : Nat) : Nat × PriorityQueue :=
  let n := pq.len - 1
  if n ≠ i then
    let d := down (pq.swap i n) i n
    (if !d.2 then up (i + 1) d.1 i else d.1).pop
  else pq.pop

end Heap

end GpuScheduler
