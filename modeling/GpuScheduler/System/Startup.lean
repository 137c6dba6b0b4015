import GpuScheduler.System.Cycle
import GpuScheduler.Queue.Aging
import GpuScheduler.Invariant.Queued
/-
# What the start-up replay leaves in the queue

`Start` runs `loadPendingJobs` once, on the fresh queue of `NewScheduler`: it lists the stored
Pending jobs and offers each to `Enqueue`, which stamps its item with the instant of the call.
When the jobs fit the queue, the queue then holds exactly the stored Pending jobs, and the
order in which the repository listed them becomes the order of their stamps
(`loadPendingJobs_order`).

`Less` breaks a tie of `Priority + AgingBoost` by `EnqueuedAt`, never by `SubmittedAt`.  So of
two Pending jobs of equal priority, `Dequeue` returns first the one `ListJobsByState` listed
first.  Unlike `ListJobs` and `ListJobsByTenant`, which order by `submitted_at`,
`ListJobsByState` asks the database for no order, and `loadPendingJobs` does not sort: a job
submitted later but listed first is dequeued first, so the replay does not restore the
`submitted_at` order among equal priorities (`load_order_sample`).

The order of successive `Dequeue` calls is read off `Queue.drain`: on a queue the methods
built, draining returns every queued job once (`Queue.Valid.drain_perm`), and an entry that
precedes another under `Less` comes out first (`Queue.Valid.drain_sublist`).
-/

namespace GpuScheduler

open Prog Scheduler

/-! ## 1. The order of `Dequeue` -/

namespace Queue

/-- Draining a queue the methods built returns each of its jobs once. -/
theorem Valid.drain_perm : ∀ (n : Nat) {q : Queue}, q.Valid → q.size = n →
    List.Perm (q.drain n).1 (q.entries.map (·.job))
  | 0, q, _, h => by
    rw [List.eq_nil_of_length_eq_zero ((size_eq q).symm.trans h)]
    rfl
  | n + 1, q, hv, h => by
    have h0 : q.size ≠ 0 := by omega
    rw [drain_of_peek (peek_front h0)]
    refine ((Valid.drain_perm n hv.dequeue (by have := size_dequeue h0; omega)).cons _).trans ?_
    exact (dequeue_entries (Nat.pos_of_ne_zero h0)).map _

/-- **Of two queued entries, the one that precedes under `Less` is dequeued first.** -/
theorem Valid.drain_sublist : ∀ (n : Nat) {q : Queue}, q.Valid → q.size = n →
    ∀ {a b : Entry}, a ∈ q.entries → b ∈ q.entries → a.less b = true →
      [a.job, b.job].Sublist (q.drain n).1
  | 0, q, _, h, _, _, ha, _, _ => by
    rw [List.eq_nil_of_length_eq_zero ((size_eq q).symm.trans h)] at ha
    exact absurd ha (List.not_mem_nil _)
  | n + 1, q, hv, h, a, b, ha, hb, hab => by
    have h0 : q.size ≠ 0 := by omega
    have hn : q.dequeue.2.size = n := by have := size_dequeue h0; omega
    -- every entry but the front stays queued
    have hstay : ∀ x ∈ q.entries, x ≠ q.front → x ∈ q.dequeue.2.entries := fun x hx hne =>
      (List.mem_cons.mp ((dequeue_entries (Nat.pos_of_ne_zero h0)).symm.subset hx)).resolve_left hne
    rw [drain_of_peek (peek_front h0)]
    by_cases haf : a = q.front
    · -- `a` comes out now, and `b`, another entry, later
      subst haf
      have hb' := hstay b hb fun e => by subst e; simp [Entry.less] at hab
      exact (List.singleton_sublist.mpr ((hv.dequeue.drain_perm n hn).symm.subset
        (List.mem_map_of_mem _ hb'))).cons₂ _
    · -- the front is neither: `b` cannot be the head while `a` is queued
      have hbf : b ≠ q.front := fun e => hv.peek_ne ha hb hab (by rw [peek_front h0, e])
      exact (Valid.drain_sublist n hv.dequeue hn (hstay a ha haf) (hstay b hb hbf) hab).cons _

end Queue

/-! ## 2. The stamps of the replay -/

/-- Each listed job has an entry, stamped at or after the replay's first tick. -/
theorem mem_stamped (clock : Nat → Int) : ∀ {t : Nat} {jobs : List Job} {job : Job}, job ∈ jobs →
    ∃ u, t ≤ u ∧ newEntry job (clock u) ∈ stamped clock t jobs
  | _, [], _, h => absurd h (List.not_mem_nil _)
  | t, _ :: _, _, h => by
    rcases List.mem_cons.mp h with rfl | h
    · exact ⟨t, le_rfl, List.mem_cons_self _ _⟩
    · obtain ⟨u, hu, hm⟩ := mem_stamped clock h
      exact ⟨u, by omega, List.mem_cons_of_mem _ hm⟩

/-- Of two listed jobs, the one listed first is stamped at an earlier tick. -/
theorem stamped_sublist (clock : Nat → Int) : ∀ {t : Nat} {jobs : List Job} {a b : Job},
    [a, b].Sublist jobs → ∃ u v, u < v ∧ newEntry a (clock u) ∈ stamped clock t jobs ∧
      newEntry b (clock v) ∈ stamped clock t jobs
  | _, [], _, _, h => nomatch h
  | t, _ :: _, _, _, h => by
    cases h with
    | cons _ h =>
      obtain ⟨u, v, huv, ha, hb⟩ := stamped_sublist clock h
      exact ⟨u, v, huv, List.mem_cons_of_mem _ ha, List.mem_cons_of_mem _ hb⟩
    | cons₂ _ h =>
      obtain ⟨v, hv, hb⟩ := mem_stamped clock (List.singleton_sublist.mp h)
      exact ⟨t, v, by omega, List.mem_cons_self _ _, List.mem_cons_of_mem _ hb⟩

/-! ## 3. The replay -/

/-- **The start-up replay queues exactly the stored Pending jobs, in the order they are
listed.**  On a fresh scheduler over a store with unique keys whose Pending jobs fit the queue,
`loadPendingJobs` answers nil, writes nothing, and leaves the queue holding exactly the stored
Pending jobs.  When the clock reads a later instant at each call, of two Pending jobs `A`
listed before `B` with `A.Priority ≥ B.Priority`, equal priorities included, successive
`Dequeue` calls return `A` before `B`, whatever their `SubmittedAt`. -/
theorem loadPendingJobs_order (config : SchedulerConfig) (w : World) (hk : w.store.Keys)
    (hq : Fresh config w)
    (hcap : ((w.store.listJobsByState .pending).length : Int) ≤ config.maxQueueSize) :
    ∃ w', Step config w .loadPendingJobs (.ok ()) w' ∧ w'.store = w.store ∧
      List.Perm (w'.queue.entries.map (·.job)) (w.store.listJobsByState .pending) ∧
      ((∀ i j, i < j → w.clock i < w.clock j) →
        ∀ A B, [A, B].Sublist (w.store.listJobsByState .pending) →
        B.priority.toInt ≤ A.priority.toInt → [A, B].Sublist (w'.queue.drain w'.queue.size).1) := by
  obtain ⟨q', hrun, hv, hperm⟩ := loadPendingJobs_run hk hq hcap
  refine ⟨_, hrun, rfl, by simpa using hperm.map (·.job), fun hc A B hAB hp => ?_⟩
  -- `A` is stamped before `B`, and its priority is no lower
  obtain ⟨u, v, huv, hA, hB⟩ := stamped_sublist w.clock hAB
  have hless : (newEntry A (w.clock u)).less (newEntry B (w.clock v)) = true :=
    Entry.less_of_total (by simpa [Entry.total, newEntry] using hp) (hc u v huv)
  exact hv.drain_sublist _ rfl (hperm.symm.subset hA) (hperm.symm.subset hB) hless

/-- A Pending one-GPU job of tenant `t1` and priority `1`, submitted at `submittedAt`. -/
def pendingJob (id : String) (submittedAt : Int) : Job := { sampleJob id 1 with submittedAt }

/-- The sample cluster after a restart: its store lists `j2`, submitted at instant `2`, before
`j1`, submitted at instant `1`. -/
def reloadWorld : World :=
  { sampleWorld 4 ["g1"] 10 with
    store := { (sampleWorld 4 ["g1"] 10).store with jobs := [pendingJob "j2" 2, pendingJob "j1" 1] } }

theorem loadPendingJobs_order_sample : ∃ w', Step (sampleConfig 10) reloadWorld .loadPendingJobs
    (.ok ()) w' ∧ [pendingJob "j2" 2, pendingJob "j1" 1].Sublist (w'.queue.drain w'.queue.size).1 :=
  have ⟨w', hstep, _, _, horder⟩ := loadPendingJobs_order (sampleConfig 10) reloadWorld
    { sampleWorld_keys 4 (List.nodup_singleton _) 10 with
      jobs := show ([pendingJob "j2" 2, pendingJob "j1" 1].map Keyed.key).Nodup by decide }
    rfl (by decide)
  ⟨w', hstep, horder (fun i j h => by simpa [reloadWorld, sampleWorld] using h) _ _ (by decide)
    (by decide)⟩

/-! ## 4. Submission order is not dequeue order -/

/-- **A job submitted later is dequeued first.**  After the replay over `reloadWorld`, whose
store lists `j2` first, the queue returns `j2`, then `j1`, although both are Pending with the
same priority and `j1` was submitted first. -/
theorem load_order_sample : ∃ w', Step (sampleConfig 10) reloadWorld .loadPendingJobs (.ok ()) w' ∧
    (pendingJob "j1" 1).priority = (pendingJob "j2" 2).priority ∧
    (pendingJob "j1" 1).submittedAt < (pendingJob "j2" 2).submittedAt ∧
    (w'.queue.drain 2).1 = [pendingJob "j2" 2, pendingJob "j1" 1] := by
  unfold Step
  decide

end GpuScheduler
