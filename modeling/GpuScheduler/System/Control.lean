import GpuScheduler.Basic
/-
# `Start` and `Stop`

`Start` and `Stop` share two fields of `Scheduler` under `mu`: the flag `running`, and the
channel `stopChan` that `NewScheduler` makes once and `Stop` closes.  `Start` checks and sets
`running` under the lock, then runs its loop outside it (`loadPendingJobs`, then a
`schedulingCycle` per tick, `System/Cycle.lean`); however the loop ends, it writes neither field.
So any interleaving of `Start` and `Stop` calls, from any goroutines, acts on the two fields as
the sequence of their locked sections, one after the other (`Control.run`).

Nothing reopens `stopChan`, and nothing clears `running` when a loop returns.  The lifecycle is
therefore a walk along `Start`, `Stop`, `Start`, `Stop`: each call either takes the next step
or changes nothing (`Control.rank` counts the steps taken), and the fourth step is
`close(s.stopChan)` on a closed channel.  `stop_panics_iff` states the result: a sequence of
calls panics exactly when it holds those four calls in this order.
-/

namespace GpuScheduler

/-- The fields of `Scheduler` that `Start` and `Stop` share under `mu`: `running`, and whether
`stopChan` has been closed. -/
structure Control where
  running : Bool
  stopClosed : Bool
  deriving DecidableEq, Repr

/-- A call of `Start` or of `Stop`. -/
inductive ControlCall where
  | start
  | stop
  deriving DecidableEq, Repr

namespace Control

/-- `NewScheduler`: not running, `stopChan` open. -/
def new : Control := ⟨false, false⟩

/-- The locked section of `Start`: refuse a running scheduler, else mark it running. -/
def start (c : Control) : Except Err Control :=
  if c.running then .error (.text "scheduler is already running")
  else .ok { c with running := true }

/-- `Stop`, all under the lock: nothing for a scheduler that is not running; else
`close(s.stopChan)`, which panics (`none`) on a closed channel, then `running = false`. -/
def stop (c : Control) : Option Control :=
  if !c.running then some c
  else if c.stopClosed then none
  else some { running := false, stopClosed := true }

/-- The calls' locked sections one after the other, `none` once one panics.  A refused `Start`
returns its error to its caller and changes nothing. -/
def run : Control → List ControlCall → Option Control
  | c, [] => some c
  | c, .start :: calls =>
    match c.start with
    | .ok c' => c'.run calls
    | .error _ => c.run calls
  | c, .stop :: calls =>
    match c.stop with
    | some c' => c'.run calls
    | none => none

/-- How far along `Start`, `Stop`, `Start`, `Stop` the fields are: `running` counts one, a
closed `stopChan` two. -/
def rank (c : Control) : Nat := c.running.toNat + 2 * c.stopClosed.toNat

/-- The calls that walk `NewScheduler` into the panic. -/
def lifecycle : List ControlCall := [.start, .stop, .start, .stop]

/-- **From any fields, the calls panic exactly when they hold the rest of the walk.** -/
theorem run_eq_none_iff : ∀ (calls : List ControlCall) (c : Control),
    c.run calls = none ↔ (lifecycle.drop c.rank).Sublist calls
  | [], ⟨r, s⟩ => by cases r <;> cases s <;> simp [run, rank, lifecycle]
  | call :: calls, ⟨r, s⟩ => by
    have ih := run_eq_none_iff calls
    -- a call that does not take the next step leaves a longer rest to find in `calls`
    have drop_head : ∀ {a : ControlCall} {l : List ControlCall}, (a :: l).Sublist calls →
        l.Sublist calls := List.sublist_of_cons_sublist
    cases r <;> cases s <;> cases call <;>
      simp [run, start, stop, rank, lifecycle, ih, List.sublist_cons_iff] <;>
      exact fun h => by simpa using drop_head h

end Control

/-- **`Stop` panics exactly after `Start`, `Stop`, `Start`.**  Over every sequence of `Start` and
`Stop` calls on a new scheduler, interleaved in any way, a call panics in
`close(s.stopChan)` exactly when the sequence holds `Start`, `Stop`, `Start`, `Stop` in this
order: `Stop` closes the channel for good, a later `Start` marks the scheduler running again,
and the next `Stop` closes the channel a second time. -/
theorem stop_panics_iff (calls : List ControlCall) :
    Control.new.run calls = none ↔ [.start, .stop, .start, .stop].Sublist calls :=
  Control.run_eq_none_iff calls Control.new

example : Control.new.run [.start, .stop, .start, .start, .stop] = none := rfl

end GpuScheduler
