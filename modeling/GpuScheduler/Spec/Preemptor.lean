import GpuScheduler.Spec.Allocator
import GpuScheduler.Core.Preemptor
/-
# The preemptor's programs

`SelectVictims` only reads: it answers with at most one job, and that job is a `Victim`: stored
as Running, of lower priority than the requesting job, of a tenant that allows preemption.
`Preempt` writes the victim as `Preempted` and then releases, one after the other, EVERY
allocation the store lists for the victim (`Store.releaseAll`), whatever state each is in; the
lifecycle invariant is what makes that list a single Active allocation.
-/

namespace GpuScheduler

open Prog Preemptor

/-! ## 1. `SelectVictims` -/

/-- A job `SelectVictims` may name on behalf of `job`: stored as Running, of lower priority, and
of a tenant that allows preemption. -/
structure Victim (s : Store) (job v : Job) : Prop where
  stored : v ∈ s.jobs
  running : v.state = .running
  lower : v.priority.slt job.priority = true
  allowed : ∃ t ∈ s.tenants, t.id = v.tenantID ∧ t.allowPreemption = true

/-- The candidates are listed jobs of lower priority whose tenant allows preemption. -/
theorem candidatesLoop_run (requestingJob : Job) (w : World) : ∀ jobs : List Job,
    ∃ cs, (candidatesLoop requestingJob jobs).run w = some (cs, w) ∧ cs.Sublist jobs ∧
      ∀ c ∈ cs, c.priority.slt requestingJob.priority = true ∧
        ∃ t ∈ w.store.tenants, t.id = c.tenantID ∧ t.allowPreemption = true
  | [] => ⟨[], rfl, .slnil, by simp⟩
  | job :: jobs => by
    obtain ⟨cs, hrun, hsub, hcs⟩ := candidatesLoop_run requestingJob w jobs
    simp only [candidatesLoop]
    split_ifs with hlow
    · simp only [bind_eq, lift_bind, run_call, Call.exec]
      split <;> rename_i tenant ht
      · exact ⟨cs, hrun, hsub.cons job, hcs⟩
      · rw [run_bind, hrun]
        split_ifs with hallow
        · obtain ⟨htm, htid⟩ := Table.mem_of_get_eq_ok ht
          refine ⟨job :: cs, rfl, hsub.cons₂ job, fun c hc => ?_⟩
          rcases List.mem_cons.mp hc with rfl | hc
          · exact ⟨hlow, tenant, htm, htid, hallow⟩
          · exact hcs c hc
        · exact ⟨cs, rfl, hsub.cons job, hcs⟩
    · exact ⟨cs, hrun, hsub.cons job, hcs⟩

theorem lowestLoop_mem : ∀ (candidates : List Job) (lowestPriority : BitVec 64)
    (victim : Option Job) {v : Job},
    lowestLoop candidates lowestPriority victim = some v → v ∈ candidates ∨ victim = some v
  | [], _, _, _, h => .inr h
  | c :: cs, p, victim, v, h => by
    unfold lowestLoop at h
    split_ifs at h
    · rcases lowestLoop_mem cs _ _ h with hv | hv
      · exact .inl (List.mem_cons_of_mem _ hv)
      · exact .inl (Option.some.inj hv ▸ List.mem_cons_self _ _)
    · rcases lowestLoop_mem cs _ _ h with hv | hv
      · exact .inl (List.mem_cons_of_mem _ hv)
      · exact .inr hv

/-- **`SelectVictims` only reads, and names at most one job, a `Victim`.** -/
theorem selectVictims_run (requestingJob : Job) (w : World) :
    ∃ victims, (selectVictims requestingJob).run w = some (.ok victims, w) ∧
      victims.length ≤ 1 ∧ ∀ v ∈ victims, Victim w.store requestingJob v := by
  obtain ⟨cs, hrun, hsub, hcs⟩ :=
    candidatesLoop_run requestingJob w (w.store.listJobsByState .running)
  simp only [selectVictims, bind_eq, lift_bind, run_call, Call.exec]
  rw [run_bind, hrun]
  simp only [Option.some_bind]
  split_ifs
  · exact ⟨[], rfl, by simp, by simp⟩
  · split
    · rename_i v hv
      refine ⟨[v], rfl, by simp, fun x hx => ?_⟩
      rw [List.mem_singleton] at hx
      subst hx
      rcases lowestLoop_mem cs _ _ hv with hm | hm
      · have hl : x ∈ w.store.jobs ∧ x.state = .running := by
          simpa [Store.listJobsByState] using hsub.subset hm
        exact ⟨hl.1, hl.2, (hcs x hm).1, (hcs x hm).2⟩
      · cases hm
    · exact ⟨[], rfl, by simp, by simp⟩

/-! ## 2. `Preempt` -/

/-- `Preempt`'s loop releases each listed allocation in turn, as `Preempted` by `preemptorID`. -/
theorem preemptAllocations_run (preemptorID : String) : ∀ (allocs : List Allocation) (w : World),
    w.store.Keys → (∀ a ∈ allocs, a ∈ w.store.allocations) → (allocs.map (·.id)).Nodup →
    (preemptAllocations preemptorID allocs).run w = some ((), w.withStore (w.store.releaseAll allocs
      fun a => { a with state := .preempted, preemptedBy := preemptorID }))
  | [], w, _, _, _ => by simp only [preemptAllocations, pure_eq, run_pure, Store.releaseAll_nil,
      World.withStore_self]
  | a :: allocs, w, hk, hmem, hnd => by
    have hrest := mem_release_tail hk a
      { a with state := .preempted, preemptedBy := preemptorID } rfl hmem hnd
    have hrec := preemptAllocations_run preemptorID allocs
      (w.withStore (w.store.release a { a with state := .preempted, preemptedBy := preemptorID }))
      (hk.release _ _) hrest (List.nodup_cons.mp hnd).2
    simp only [preemptAllocations, bind_eq, lift_bind, run_call, Call.exec, bind_assoc]
    rw [run_bind, releaseGPUs_run _ _ (by exact hk.gpus)]
    simp only [Option.some_bind, run_call, Call.exec, Store.getNode, Store.updateAllocation,
      World.withStore_store]
    simp only [Store.releaseAll_cons]
    cases hn : Table.get w.store.nodes a.nodeID .nodeNotFound with
    | error e =>
      simp only [Store.release, mapNode_of_get_error hn, World.withStore_withStore] at hrec ⊢
      exact hrec
    | ok n =>
      simp only [bind_eq, lift_bind, run_call, Call.exec, Store.updateNode,
        World.withStore_withStore, World.withStore_store]
      rw [save_restore hk.nodes a { a with state := .preempted, preemptedBy := preemptorID } hn
        rfl rfl rfl]
      simp only [Store.release] at hrec
      exact hrec

/-- The rows `GetJobAllocations` answers are stored rows with distinct ids. -/
theorem jobAllocations_keys {s : Store} (hk : s.Keys) (jobID : String) :
    (∀ a ∈ s.getJobAllocations jobID, a ∈ s.allocations) ∧
      ((s.getJobAllocations jobID).map (·.id)).Nodup :=
  ⟨fun _ h => (List.mem_filter.mp h).1, ((List.filter_sublist _).map _).nodup hk.allocations⟩

/-- The store after `Preempt(victim, preemptorID)`. -/
def Store.preempt (s : Store) (victim : Job) (preemptorID : String) : Store :=
  (s.updateJob { victim with state := .preempted, preemptedCount := victim.preemptedCount + 1 }).releaseAll
    (s.getJobAllocations victim.id) fun a => { a with state := .preempted, preemptedBy := preemptorID }

/-- `Preempt` writes no tenant. -/
@[simp] theorem Store.preempt_tenants (s : Store) (victim : Job) (preemptorID : String) :
    (s.preempt victim preemptorID).tenants = s.tenants := by
  simp [Store.preempt, Store.updateJob]

/-- **`Preempt` writes the victim as `Preempted` and releases every allocation listed for it.** -/
theorem preempt_run {w : World} (hk : w.store.Keys) (victim : Job) (preemptorID : String) :
    (preempt victim preemptorID).run w =
      some (.ok (), w.withStore (w.store.preempt victim preemptorID)) := by
  simp only [preempt, bind_eq, lift_bind, run_call, Call.exec, bind_assoc, World.withStore_store]
  have hk' := hk.updateJob { victim with state := .preempted, preemptedCount := victim.preemptedCount + 1 }
  rw [run_bind, preemptAllocations_run _ _ (w.withStore (w.store.updateJob _)) hk'
    (jobAllocations_keys hk' _).1
    (jobAllocations_keys hk' _).2]
  rfl

end GpuScheduler
