import GpuScheduler.Basic
import GpuScheduler.Models
import GpuScheduler.Store
import GpuScheduler.Queue.Heap
import GpuScheduler.Queue.Queue
import GpuScheduler.Queue.Order
import GpuScheduler.Queue.Slots
import GpuScheduler.Queue.Sift
import GpuScheduler.Queue.HeapSpec
import GpuScheduler.Queue.Abstract
import GpuScheduler.Queue.Refinement
import GpuScheduler.Queue.Aging
import GpuScheduler.Queue.Position
import GpuScheduler.Prog
import GpuScheduler.Core.Allocator
import GpuScheduler.Core.Preemptor
import GpuScheduler.Core.Scheduler
import GpuScheduler.Spec.Effects
import GpuScheduler.Spec.Allocator
import GpuScheduler.Spec.Preemptor
import GpuScheduler.Spec.Scheduler
import GpuScheduler.System.Action
import GpuScheduler.System.Policy
import GpuScheduler.System.Run
import GpuScheduler.System.Threads
import GpuScheduler.System.Linearizable
import GpuScheduler.System.Choice
import GpuScheduler.System.Cycle
import GpuScheduler.System.Preemption
import GpuScheduler.Invariant.Core
import GpuScheduler.Invariant.Bindings
import GpuScheduler.Invariant.Capacity
import GpuScheduler.Invariant.Lifecycle
import GpuScheduler.Invariant.Usage
import GpuScheduler.Invariant.Queued
import GpuScheduler.System.Startup
import GpuScheduler.System.Wraparound
import GpuScheduler.Invariant.Policy
import GpuScheduler.Invariant.Status
import GpuScheduler.System.Control
import GpuScheduler.Api.Rest
