import GpuScheduler.System.Run
/-
# What one scheduling cycle does

The loop of `schedulingCycle` peeks at the head, tries to allocate it, and then either starts it
(dequeue, `startJob`), or preempts one Running job on its behalf and looks at the same head
again, or stops.  Starting takes one job off the queue and makes at most one job Running;
preempting makes one Running job Preempted.  So `2·|queue| + |Running|` falls at every
iteration that goes on (`CycleAction.measure_lt`), and a fuel above it lets the loop run until
it stops by itself (`cycleLoop_turns`): more fuel changes nothing, from every store and every
queue, whatever the allocations and preemptions do (`schedulingCycle_terminates`).

`CyclePath` is the run of the loop with its labels: which jobs were started, in order, and
which victims were taken for which head.  Forgetting the labels gives the `CycleAction` path of
`System/Run.lean` (`CyclePath.steps`); reading the queue along it shows that the started jobs
are the first ones the aged queue returns on `Dequeue` (`CyclePath.drain`).

The loop stops with a job at the head when its allocation failed and either preemption is
off, or the error is not a resource error, or `tryPreemption` found nothing to do.  The gang
allocator's `ErrGangSchedulingFailed` is not a resource error, so a gang job that fits no node
stops the cycle without any preemption being tried (`gang_blocks_sample`).  And `continue`
re-examines the same head, so one head can take several victims in one cycle: `Turns` keeps the
victims of each head apart, and `System/Preemption.lean` counts them.
-/

namespace GpuScheduler

open Prog Scheduler

/-! ## 1. The order of the queue -/

namespace Queue

/-- The jobs that `n` calls of `Dequeue` return, in order, and the queue they leave. -/
def drain : Nat → Queue → List Job × Queue
  | 0, q => ([], q)
  | n + 1, q =>
    match q.dequeue with
    | (some job, q') => (job :: (drain n q').1, (drain n q').2)
    | (none, q') => ([], q')

theorem drain_of_peek {q : Queue} {job : Job} (hp : q.peek = some job) (n : Nat) :
    drain (n + 1) q = (job :: (drain n q.dequeue.2).1, (drain n q.dequeue.2).2) := by
  have hd : q.dequeue = (some job, q.dequeue.2) := by rw [← hp, ← dequeue_fst]
  simp only [drain]
  rw [hd]

theorem size_dequeue {q : Queue} (h0 : q.size ≠ 0) : q.dequeue.2.size + 1 = q.size := by
  have := (dequeue_entries (Nat.pos_of_ne_zero h0)).length_eq
  simp only [List.length_cons] at this
  rw [size_eq, size_eq, this]

theorem size_applyAging (q : Queue) (agingFactor : BitVec 64) (ageThreshold now : Int) :
    (q.applyAging agingFactor ageThreshold now).size = q.size :=
  (applyAging_reorders agingFactor ageThreshold now q).len

theorem foldl_ageItem_job (agingFactor : BitVec 64) (ageThreshold now : Int) :
    ∀ (rs : List Nat) (objs : Nat → QueueItem) (r : Nat),
      (rs.foldl (ageItem agingFactor ageThreshold now) objs r).job = (objs r).job
  | [], _, _ => rfl
  | x :: xs, objs, r => by
    rw [List.foldl_cons, foldl_ageItem_job agingFactor ageThreshold now xs, ageItem_eq]
    by_cases hrx : r = x
    · subst hrx
      simp
    · simp [Function.update_noteq hrx]

/-- Aging changes no queued job, on every queue. -/
theorem applyAging_job {q : Queue} {agingFactor : BitVec 64} {ageThreshold now : Int} {e : Entry}
    (he : e ∈ (q.applyAging agingFactor ageThreshold now).entries) : ∃ x ∈ q.entries, x.job = e.job := by
  have hr := applyAging_reorders agingFactor ageThreshold now q
  obtain ⟨r, hr', rfl⟩ := List.mem_map.mp he
  refine ⟨(q.items.objs r).entry, List.mem_map_of_mem _ (hr.perm.subset hr'), ?_⟩
  rw [hr.entry r, QueueItem.entry_job, QueueItem.entry_job, foldl_ageItem_job]

/-- Aging keeps the GPU counts of the queued jobs, so none becomes negative: `Allocate` cannot
panic on the aged queue's head. -/
theorem applyAging_gpuCount {q : Queue} (hg : ∀ e ∈ q.entries, 0 ≤ e.job.gpuCount.toInt)
    (agingFactor : BitVec 64) (ageThreshold now : Int) :
    ∀ e ∈ (q.applyAging agingFactor ageThreshold now).entries, e.job.gpuCount.slt 0 = false :=
  fun _ he => by
    obtain ⟨x, hx, hjob⟩ := applyAging_job he
    simpa [BitVec.slt, ← hjob] using hg x hx

end Queue

/-! ## 2. Counting Running jobs -/

/-- The number of jobs stored as Running. -/
theorem running_length (s : Store) :
    (s.listJobsByState .running).length = s.jobs.countP (·.state == .running) :=
  (List.countP_eq_length_filter _ _).symm

theorem countP_save_le (r : Job) : ∀ jobs : List Job,
    (Table.save r jobs).countP (·.state == .running) ≤ jobs.countP (·.state == .running) + 1
  | [] => by simp only [Table.save, List.countP_singleton, List.countP_nil]; split <;> omega
  | x :: xs => by
    have ih := countP_save_le r xs
    simp only [Table.save]
    split_ifs <;> simp only [List.countP_cons] <;> split_ifs <;> omega

/-- Writing back a row that `p` holds of as one it does not hold of lowers the count by one. -/
theorem countP_save_lt {p : Job → Bool} {r v : Job} (hid : r.id = v.id) (hr : p r = false)
    (hs : p v = true) : ∀ {jobs : List Job}, Table.Keys jobs → v ∈ jobs →
    (Table.save r jobs).countP p < jobs.countP p
  | x :: xs, hk, hv => by
    have hk' : Table.Keys xs := (List.nodup_cons.mp hk).2
    simp only [Table.save, Keyed.key_job]
    split_ifs with hx
    · have hxv : x = v := Table.Keys.inj hk (List.mem_cons_self x xs) hv (by simpa using hx.trans hid)
      subst hxv
      simp only [List.countP_cons, hs, hr, if_true, Bool.false_eq_true, if_false]
      omega
    · have hvx : v ≠ x := fun e => hx (e ▸ hid.symm)
      have ih := countP_save_lt hid hr hs hk' ((List.mem_cons.mp hv).resolve_left hvx)
      simp only [List.countP_cons]
      split_ifs <;> omega

theorem running_startJob_le (s : Store) (a : Allocation) (job : Job) :
    (((s.commit a).startJob job).listJobsByState .running).length ≤
      (s.listJobsByState .running).length + 1 := by
  simp only [running_length, Store.startJob, Store.charge_jobs, Store.updateJob]
  exact countP_save_le _ s.jobs

theorem running_preempt_lt {s : Store} (hk : s.Keys) {v : Job} (hv : v ∈ s.jobs)
    (hs : v.state = .running) (preemptorID : String) :
    ((s.preempt v preemptorID).listJobsByState .running).length <
      (s.listJobsByState .running).length := by
  simp only [running_length, Store.preempt, Store.releaseAll_jobs, Store.updateJob]
  refine countP_save_lt ?_ ?_ ?_ hk.jobs hv <;> simp [hs]


/-- **Every transition of the cycle lowers `2·|queue| + |Running|`**: a start takes one job off
the queue and makes at most one job Running, a preemption makes one Running job Preempted. -/
theorem CycleAction.measure_lt {preemption : Bool} {st st' : Store × Queue}
    (h : CycleAction preemption st st') (hk : st.1.Keys) :
    2 * st'.2.size + (st'.1.listJobsByState .running).length <
      2 * st.2.size + (st.1.listJobsByState .running).length := by
  rcases h with ⟨job, a, hp, -, -, rfl⟩ | ⟨-, v, hv, preemptorID, hrun, rfl⟩ <;> dsimp only
  · have h0 : st.2.size ≠ 0 := fun h0 => by simp [Queue.peek, h0] at hp
    have := Queue.size_dequeue h0
    have := running_startJob_le st.1 a job
    omega
  · have := running_preempt_lt hk hv hrun preemptorID
    omega

/-- The measure read on worlds: after an iteration that goes on, one unit of fuel fewer is still
above it. -/
theorem CycleAction.measure_pred {preemption : Bool} {w w₂ : World} {fuel : Nat}
    (h : CycleAction preemption w.state w₂.state) (hk : w.store.Keys)
    (hfuel : 2 * w.queue.size + (w.store.listJobsByState .running).length < fuel + 1) :
    2 * w₂.queue.size + (w₂.store.listJobsByState .running).length < fuel := by
  have := h.measure_lt hk
  simp only [World.state_fst, World.state_snd] at this
  omega


/-! ## 3. The loop's labelled path -/

/-- The iterations of the cycle's loop that go on, with the jobs they start in order: a
`start` of the head, or a `preempt` of a Running job on the head's behalf. -/
inductive CyclePath (preemption : Bool) : Store × Queue → List Job → Store × Queue → Prop where
  | done (st : Store × Queue) : CyclePath preemption st [] st
  | start {st st' : Store × Queue} {started : List Job} (job : Job) (a : Allocation)
      (head : st.2.peek = some job) (fits : st.1.Fits a) (owner : a.jobID = job.id) :
      CyclePath preemption ((st.1.commit a).startJob job, st.2.dequeue.2) started st' →
      CyclePath preemption st (job :: started) st'
  | preempt {st st' : Store × Queue} {started : List Job} (job victim : Job)
      (head : st.2.peek = some job) (enabled : preemption = true) (stored : victim ∈ st.1.jobs)
      (running : victim.state = .running) :
      CyclePath preemption (st.1.preempt victim job.id, st.2) started st' →
      CyclePath preemption st started st'

namespace CyclePath

variable {preemption : Bool} {st st' : Store × Queue} {started : List Job}

/-- Forgetting the labels leaves the cycle's transitions. -/
theorem steps (h : CyclePath preemption st started st') :
    Relation.ReflTransGen (CycleAction preemption) st st' := by
  induction h with
  | done => exact .refl
  | start job a head fits owner _ ih => exact .head (.inl ⟨job, a, head, fits, owner, rfl⟩) ih
  | preempt job victim _ enabled stored running _ ih =>
    exact .head (.inr ⟨enabled, victim, stored, job.id, running, rfl⟩) ih

/-- **The started jobs are the first ones the queue returns on `Dequeue`**, and the queue left
is what those calls leave. -/
theorem drain (h : CyclePath preemption st started st') :
    st.2.drain started.length = (started, st'.2) := by
  induction h with
  | done => rfl
  | start job a head _ _ _ ih =>
    rw [List.length_cons, Queue.drain_of_peek head]
    dsimp only at ih
    rw [ih]
  | preempt _ _ _ _ _ _ _ ih => exact ih

end CyclePath

/-! ## 4. The loop, turn by turn

A job's turn at the head lasts from the iteration that first peeks at it to the one that starts
it or ends the loop; in between, each `continue` has preempted one of its victims.  `Turns`
records the turns in order, each with the store the job met at the head and its victims;
forgetting the turns leaves the labelled path (`Turns.cyclePath`). -/

/-- The victims the loop takes on behalf of the job at the head, one `continue` after another:
each is a `Victim` of that job in the store it meets, and the queue is left alone. -/
inductive Preempts (preemption : Bool) (job : Job) : Store → List Job → Store → Prop where
  | nil (s : Store) : Preempts preemption job s [] s
  | cons {s s' : Store} {victims : List Job} (v : Job) (enabled : preemption = true)
      (victim : Victim s job v) :
      Preempts preemption job (s.preempt v job.id) victims s' →
      Preempts preemption job s (v :: victims) s'

/-- One job's turn at the head of the queue: the store it met there, and the jobs preempted on
its behalf before it was started or the loop stopped. -/
structure Turn where
  head : Job
  store : Store
  victims : List Job

/-- The loop's turns, in order.  A turn ends with its job started (`start`), or with the loop
(`stop`); the loop also ends on an empty queue (`empty`). -/
inductive Turns (preemption : Bool) : Store × Queue → List Turn → Store × Queue → Prop where
  | empty {s : Store} {q : Queue} (h : q.size = 0) : Turns preemption (s, q) [] (s, q)
  | stop {s s' : Store} {q : Queue} (job : Job) (victims : List Job) (head : q.peek = some job)
      (taken : Preempts preemption job s victims s') :
      Turns preemption (s, q) [⟨job, s, victims⟩] (s', q)
  | start {s s₁ : Store} {q : Queue} {st' : Store × Queue} {turns : List Turn} (job : Job)
      (victims : List Job) (a : Allocation) (head : q.peek = some job)
      (taken : Preempts preemption job s victims s₁) (grants : Grants s₁ job a) :
      Turns preemption ((s₁.commit a).startJob job, q.dequeue.2) turns st' →
      Turns preemption (s, q) (⟨job, s, victims⟩ :: turns) st'

variable {preemption : Bool} {s s' : Store} {q : Queue} {job : Job} {victims : List Job}
  {st st' : Store × Queue} {started : List Job} {turns : List Turn}

/-- A preemption before a turn belongs to that turn: the queue, so its head, is unchanged. -/
theorem Turns.preempt {v : Job} (hp : q.peek = some job) (enabled : preemption = true)
    (hv : Victim s job v) (h : Turns preemption (s.preempt v job.id, q) turns st') :
    ∃ turns', Turns preemption (s, q) turns' st' := by
  cases h with
  | empty h0 => simp [Queue.peek, h0] at hp
  | stop job' victims head taken =>
    obtain rfl : job = job' := Option.some.inj (hp.symm.trans head)
    exact ⟨_, .stop job (v :: victims) hp (.cons v enabled hv taken)⟩
  | start job' victims a head taken grants rest =>
    obtain rfl : job = job' := Option.some.inj (hp.symm.trans head)
    exact ⟨_, .start job (v :: victims) a hp (.cons v enabled hv taken) grants rest⟩

theorem Preempts.cyclePath (h : Preempts preemption job s victims s') (hp : q.peek = some job)
    (hrest : CyclePath preemption (s', q) started st') : CyclePath preemption (s, q) started st' := by
  induction h with
  | nil => exact hrest
  | cons v enabled victim _ ih =>
    exact .preempt job v hp enabled victim.stored victim.running (ih hrest)

/-- Forgetting the turns leaves the labelled path, whose started jobs are the heads of the turns
that end in `start`. -/
theorem Turns.cyclePath (h : Turns preemption st turns st') :
    ∃ started, CyclePath preemption st started st' := by
  induction h with
  | empty => exact ⟨[], .done _⟩
  | stop job _ head taken => exact ⟨[], taken.cyclePath head (.done _)⟩
  | start job _ a head taken grants _ ih =>
    obtain ⟨started, hpath⟩ := ih
    exact ⟨job :: started, taken.cyclePath head (.start job a head grants.fits grants.owner hpath)⟩


/-! ## 5. The loop runs until it stops by itself -/

/-- How the loop may stop with a job at the head: the head's allocation, tried on the store and
queue the loop ends with, failed with `e`, and either preemption is off, or `e` is not a
resource error, or `tryPreemption` answered `false` having done nothing. -/
def Stopped (config : SchedulerConfig) (w : World) : Prop :=
  w.queue.size ≠ 0 → ∃ job e w₁, w.queue.peek = some job ∧ w₁.state = w.state ∧
    (tryAllocateJob job).run w₁ = some (.error e, w) ∧
    (config.enablePreemption = false ∨ isResourceError e = false ∨
      (tryPreemption config job).run w = some (false, w))

/-- **With fuel above `2·|queue| + |Running|`, the loop stops by itself**, turn by turn, and as
`Stopped` says, when no queued job asks for a negative number of GPUs. -/
theorem cycleLoop_turns (config : SchedulerConfig) : ∀ (fuel : Nat) {w : World}, w.store.Keys →
    (∀ e ∈ w.queue.entries, e.job.gpuCount.slt 0 = false) →
    2 * w.queue.size + (w.store.listJobsByState .running).length < fuel →
    ∃ turns w', (cycleLoop config fuel).run w = some ((), w') ∧
      Turns config.enablePreemption w.state turns w'.state ∧ Stopped config w'
  | 0, _, _, _, hfuel => absurd hfuel (Nat.not_lt_zero _)
  | fuel + 1, w, hk, hg, hfuel => by
    by_cases h0 : w.queue.size = 0
    · refine ⟨[], w, ?_, .empty h0, fun h => absurd h0 h⟩
      simp only [cycleLoop, bind_eq, lift_bind, run_call, Call.exec, h0, if_true, pure_eq, run_pure]
    have hpeek := Queue.peek_front h0
    rcases cycleLoop_succ config hk h0 with ⟨hp, -⟩ | ⟨e, w', hr, hst, hr', hstop⟩ |
      ⟨a, w₂, hga, hst, hr⟩ | ⟨v, w₂, he, hv, hst, hr⟩
    · -- no panic: the head's GPU count is not negative
      obtain ⟨_, _, h⟩ := (tryAllocateJob_noPanic (hg _ (Queue.front_mem (Nat.pos_of_ne_zero h0)))).run w
      exact absurd (hp.symm.trans h) nofun
    · exact ⟨_, w', hr fuel, by rw [hst]; exact .stop _ [] hpeek (.nil _),
        fun _ => ⟨_, e, w, (Prod.mk.inj hst).2 ▸ hpeek, hst.symm, hr', hstop⟩⟩
    · -- the head is started: one job fewer queued, at most one more Running
      have ha : CycleAction config.enablePreemption w.state w₂.state :=
        hst ▸ .inl ⟨_, a, hpeek, hga.fits, hga.owner, rfl⟩
      obtain ⟨turns, w', hrun', hturns, hstop⟩ := cycleLoop_turns config fuel (ha.action.keys hk)
        (fun x hx => hg x ((Queue.dequeue_entries (Nat.pos_of_ne_zero h0)).subset
          (List.mem_cons_of_mem _ ((Prod.mk.inj hst).2 ▸ hx))))
        (ha.measure_pred hk hfuel)
      exact ⟨_, w', hr fuel ▸ hrun', .start _ [] a hpeek (.nil _) hga (hst ▸ hturns), hstop⟩
    · -- a Running job is preempted: the queue is unchanged, one Running job fewer
      have ha : CycleAction config.enablePreemption w.state w₂.state :=
        hst ▸ .inr ⟨he, v, hv.stored, _, hv.running, rfl⟩
      obtain ⟨turns, w', hrun', hturns, hstop⟩ := cycleLoop_turns config fuel (ha.action.keys hk)
        ((Prod.mk.inj hst).2 ▸ hg) (ha.measure_pred hk hfuel)
      obtain ⟨turns', hturns'⟩ := Turns.preempt hpeek he hv (hst ▸ hturns)
      exact ⟨turns', w', hr fuel ▸ hrun', hturns', hstop⟩

/-- The same run along the labelled path. -/
theorem cycleLoop_path (config : SchedulerConfig) (fuel : Nat) {w : World} (hk : w.store.Keys)
    (hg : ∀ e ∈ w.queue.entries, e.job.gpuCount.slt 0 = false)
    (hfuel : 2 * w.queue.size + (w.store.listJobsByState .running).length < fuel) :
    ∃ started w', (cycleLoop config fuel).run w = some ((), w') ∧
      CyclePath config.enablePreemption w.state started w'.state ∧ Stopped config w' := by
  obtain ⟨turns, w', hrun, hturns, hstop⟩ := cycleLoop_turns config fuel hk hg hfuel
  obtain ⟨started, hpath⟩ := hturns.cyclePath
  exact ⟨started, w', hrun, hpath, hstop⟩

/-- One iteration, forgetting the labels: it ends the loop whatever fuel is left, or makes one
transition of the cycle and goes on. -/
theorem cycleLoop_next (config : SchedulerConfig) {w : World} (hk : w.store.Keys)
    (h0 : w.queue.size ≠ 0) :
    (∃ o, ∀ n, (cycleLoop config (n + 1)).run w = o) ∨
    ∃ w₂, CycleAction config.enablePreemption w.state w₂.state ∧
      ∀ n, (cycleLoop config (n + 1)).run w = (cycleLoop config n).run w₂ := by
  rcases cycleLoop_succ config hk h0 with ⟨-, hr⟩ | ⟨-, _, hr, -⟩ | ⟨a, w₂, ⟨hf, hj, -⟩, hst, hr⟩ |
    ⟨v, w₂, he, ⟨hv, hrun, -⟩, hst, hr⟩
  · exact .inl ⟨_, hr⟩
  · exact .inl ⟨_, hr⟩
  · exact .inr ⟨w₂, hst ▸ .inl ⟨_, a, Queue.peek_front h0, hf, hj, rfl⟩, hr⟩
  · exact .inr ⟨w₂, hst ▸ .inr ⟨he, v, hv, _, hrun, rfl⟩, hr⟩

/-- **Fuel above `2·|queue| + |Running|` is enough**: more fuel changes nothing, whatever each
iteration does, a panic included. -/
theorem cycleLoop_fuel_add (config : SchedulerConfig) : ∀ (fuel : Nat) {w : World}, w.store.Keys →
    2 * w.queue.size + (w.store.listJobsByState .running).length < fuel → ∀ k,
    (cycleLoop config (fuel + k)).run w = (cycleLoop config fuel).run w
  | 0, _, _, hfuel, _ => absurd hfuel (Nat.not_lt_zero _)
  | fuel + 1, w, hk, hfuel, k => by
    rw [Nat.add_right_comm]
    by_cases h0 : w.queue.size = 0
    · simp only [cycleLoop, bind_eq, lift_bind, run_call, Call.exec, h0, if_true, pure_eq, run_pure]
    rcases cycleLoop_next config hk h0 with ⟨o, hr⟩ | ⟨w₂, ha, hr⟩
    · rw [hr, hr]
    · rw [hr, hr]
      exact cycleLoop_fuel_add config fuel (ha.action.keys hk)
        (ha.measure_pred hk hfuel) k

/-- **The loop returns, whatever the fuel**, when no queued job asks for a negative number of
GPUs: a start only takes the head off the queue and a preemption leaves the queue alone, so every
iteration that goes on keeps that so, and the head's allocation never panics. -/
theorem cycleLoop_returns (config : SchedulerConfig) : ∀ (fuel : Nat) {w : World}, w.store.Keys →
    (∀ e ∈ w.queue.entries, e.job.gpuCount.slt 0 = false) →
    ∃ w', (cycleLoop config fuel).run w = some ((), w')
  | 0, w, _, _ => ⟨w, rfl⟩
  | fuel + 1, w, hk, hg => by
    by_cases h0 : w.queue.size = 0
    · exact ⟨w, by simp only [cycleLoop, bind_eq, lift_bind, run_call, Call.exec, h0, if_true,
        pure_eq, run_pure]⟩
    have hpeek := Queue.peek_front h0
    rcases cycleLoop_succ config hk h0 with ⟨hp, -⟩ | ⟨-, w', hr, -⟩ | ⟨a, w₂, hga, hst, hr⟩ |
      ⟨v, w₂, he, hv, hst, hr⟩
    · obtain ⟨_, _, h⟩ := (tryAllocateJob_noPanic (hg _ (Queue.front_mem (Nat.pos_of_ne_zero h0)))).run w
      exact absurd (hp.symm.trans h) nofun
    · exact ⟨w', hr fuel⟩
    · -- the head is started: the queue loses its head
      have hm : CycleMove config.enablePreemption w.state w₂.state := hst ▸ .start _ a hpeek hga
      rw [hr fuel]
      exact cycleLoop_returns config fuel (hm.cycleAction.action.keys hk) fun x hx =>
        hg x ((Queue.dequeue_entries (Nat.pos_of_ne_zero h0)).subset
          (List.mem_cons_of_mem _ ((Prod.mk.inj hst).2 ▸ hx)))
    · -- a Running job is preempted: the queue is unchanged
      have hm : CycleMove config.enablePreemption w.state w₂.state := hst ▸ .preempt he _ v hpeek hv
      rw [hr fuel]
      exact cycleLoop_returns config fuel (hm.cycleAction.action.keys hk) ((Prod.mk.inj hst).2 ▸ hg)


/-! ## 6. One cycle -/

/-- **One cycle starts a prefix of the aged queue, and stops only at a head it cannot place.**
From a store with unique keys and a queue the methods built, whose jobs have non-negative GPU
counts (as `validateJob` ensures), and with fuel above `2·|queue| + |Running|`, the cycle
answers nil; it starts, in order, the first `m` jobs that the queue aged by `ApplyAging`
returns on `Dequeue`, preempting Running jobs on the head's behalf in between; it leaves that
queue less those `m` jobs; and it stops with a job at the head only as `Stopped` says. -/
theorem schedulingCycle_prefix (config : SchedulerConfig) (fuel : Nat) (w : World)
    (hk : w.store.Keys) (hv : w.queue.Valid) (hg : ∀ e ∈ w.queue.entries, 0 ≤ e.job.gpuCount.toInt)
    (hfuel : 2 * w.queue.size + (w.store.listJobsByState .running).length < fuel) :
    ∃ started w', Step config w (.schedulingCycle fuel) (.ok ()) w' ∧
      CyclePath config.enablePreemption (w.store, w.queue.applyAging 10 (5 * minute) w.now)
        started w'.state ∧
      (w.queue.applyAging 10 (5 * minute) w.now).drain started.length = (started, w'.queue) ∧
      Stopped config w' := by
  have hg' : ∀ e ∈ (w.queue.applyAging 10 (5 * minute) w.now).entries,
      e.job.gpuCount.slt 0 = false := fun e he => by
    obtain ⟨x, hx, rfl⟩ := List.mem_map.mp
      ((Queue.applyAging_entries 10 (5 * minute) w.now hv).subset he)
    simpa [BitVec.slt] using hg x hx
  obtain ⟨started, w', hrun, hpath, hstop⟩ := cycleLoop_path config fuel
    (w := (w.withQueue (w.queue.applyAging 10 (5 * minute) w.now)).advance) hk hg'
    (by simpa [Queue.size_applyAging] using hfuel)
  refine ⟨started, w', ?_, hpath, hpath.drain, hstop⟩
  simp only [Step, Op.prog, schedulingCycle, bind_eq, lift_bind, run_call, Call.exec, run_bind,
    hrun, Option.some_bind, pure_eq, run_pure]

/-- The sample cluster with `j1` stored and queued, as `SubmitJob` leaves them. -/
def queuedWorld : World :=
  { sampleWorld 4 ["g1"] 10 with
    store := { (sampleWorld 4 ["g1"] 10).store with jobs := [sampleJob "j1" 1] }
    queue := (Queue.new 10).run [.enqueue (sampleJob "j1" 1) 1] }

theorem schedulingCycle_prefix_sample : ∃ started w',
    Step (sampleConfig 10) queuedWorld (.schedulingCycle 5) (.ok ()) w' ∧
    (queuedWorld.queue.applyAging 10 (5 * minute) queuedWorld.now).drain started.length =
      (started, w'.queue) :=
  have ⟨started, w', hstep, _, hdrain, _⟩ := schedulingCycle_prefix (sampleConfig 10) 5 queuedWorld
    { sampleWorld_keys 4 (List.nodup_singleton _) 10 with jobs := List.nodup_singleton _ }
    ((Queue.new_valid 10).run _)
    (by decide) (by decide)
  ⟨started, w', hstep, hdrain⟩

/-- **One cycle terminates, from every store and every queue.**  Whatever each iteration meets
(allocations that succeed or fail, preemptions), the loop of `schedulingCycle` makes fewer than
`2·|queue| + |Running|` iterations that go on: the `continue` after a preemption does not
dequeue, but it makes one Running job Preempted, and a start takes one job off the queue and
makes at most one job Running.  So with fuel above that bound more fuel changes nothing.  When
no queued job asks for a negative number of GPUs, the cycle answers nil and its loop stops at
its own exit, as `Stopped` says; otherwise the run may end in `bestFitSchedule`'s panic. -/
theorem schedulingCycle_terminates (config : SchedulerConfig) (w : World) (hk : w.store.Keys)
    (fuel : Nat) (hfuel : 2 * w.queue.size + (w.store.listJobsByState .running).length < fuel) :
    (∀ k, (schedulingCycle config (fuel + k)).run w = (schedulingCycle config fuel).run w) ∧
    ((∀ e ∈ w.queue.entries, 0 ≤ e.job.gpuCount.toInt) →
      ∃ w', (schedulingCycle config fuel).run w = some (.ok (), w') ∧ Stopped config w') := by
  -- the loop starts from the aged queue, of the same size
  have hfuel' : 2 * (w.queue.applyAging 10 (5 * minute) w.now).size +
      (w.store.listJobsByState .running).length < fuel := by rwa [Queue.size_applyAging]
  simp only [schedulingCycle, bind_eq, lift_bind, run_call, Call.exec, run_bind]
  refine ⟨fun k => ?_, fun hg => ?_⟩
  · rw [cycleLoop_fuel_add config fuel
      (w := (w.withQueue (w.queue.applyAging 10 (5 * minute) w.now)).advance) hk hfuel' k]
  obtain ⟨-, w', hrun, -, hstop⟩ := cycleLoop_path config fuel
    (w := (w.withQueue (w.queue.applyAging 10 (5 * minute) w.now)).advance) hk
    (Queue.applyAging_gpuCount hg 10 (5 * minute) w.now) hfuel'
  exact ⟨w', by simp only [hrun, Option.some_bind, pure_eq, run_pure], hstop⟩

theorem schedulingCycle_terminates_sample :
    (schedulingCycle (sampleConfig 10) (5 + 1)).run queuedWorld =
      (schedulingCycle (sampleConfig 10) 5).run queuedWorld ∧
    ∃ w', (schedulingCycle (sampleConfig 10) 5).run queuedWorld = some (.ok (), w') ∧
      Stopped (sampleConfig 10) w' :=
  have h := schedulingCycle_terminates (sampleConfig 10) queuedWorld
    { sampleWorld_keys 4 (List.nodup_singleton _) 10 with jobs := List.nodup_singleton _ } 5
    (by decide)
  ⟨h.1 1, h.2 (by decide)⟩

/-- **A cycle answers nil whatever its fuel** when no queued job asks for a negative number of
GPUs. -/
theorem schedulingCycle_returns (config : SchedulerConfig) (fuel : Nat) {w : World}
    (hk : w.store.Keys) (hg : ∀ e ∈ w.queue.entries, 0 ≤ e.job.gpuCount.toInt) :
    ∃ w', Step config w (.schedulingCycle fuel) (.ok ()) w' := by
  obtain ⟨w', hrun⟩ := cycleLoop_returns config fuel
    (w := (w.withQueue (w.queue.applyAging 10 (5 * minute) w.now)).advance) hk
    (Queue.applyAging_gpuCount hg 10 (5 * minute) w.now)
  exact ⟨w', by simp only [Step, Op.prog, schedulingCycle, bind_eq, lift_bind, run_call, Call.exec,
    run_bind, hrun, Option.some_bind, pure_eq, run_pure]⟩

/-! ## 7. Heads the cycle gives up on -/

/-- The sample cluster with two GPUs, the second cooling down until instant `1000`. -/
def coolingWorld : World :=
  { sampleWorld 4 ["g1", "g2"] 10 with
    store := { (sampleWorld 4 ["g1", "g2"] 10).store with
      gpus := [sampleGPU "g1", { sampleGPU "g2" with coolingPeriod := 1000 }] } }

/-- A gang job of priority 5 asking for one GPU. -/
def gangJob : Job := { sampleJob "j2" 5 with gangScheduling := true }

/-- **A gang head that fits no node blocks the cycle without preemption.**  With `j1` Running
on the free GPU and the other GPU cooling down, the node passes `HasCapacity` for the gang job
`j2`, but `gangSchedule` finds no free GPU and answers `ErrGangSchedulingFailed`, which is not
a resource error.  Preemption is enabled and `SelectVictims` would name `j1`, yet the cycle
stops with `j2` at the head and `j1` still Running. -/
theorem gang_blocks_sample : ∃ trace w, Run (sampleConfig 10) coolingWorld trace w ∧
    (sampleConfig 10).enablePreemption = true ∧
    ∃ w', (schedulingCycle (sampleConfig 10) 5).run w = some (.ok (), w') ∧
      (∃ j ∈ w'.store.jobs, j.id = "j1" ∧ j.state = .running) ∧
      ∃ job ∈ w'.queue.peek, job.id = "j2" ∧
        (∃ e w₁, (tryAllocateJob job).run w' = some (.error e, w₁) ∧
          e = .sentinel .gangSchedulingFailed ∧ isResourceError e = false) ∧
        ∃ victims w₁, (Preemptor.selectVictims job).run w' = some (.ok victims, w₁) ∧
          victims ≠ [] :=
  exists_run_to _ [.submitJob (sampleJob "j1" 1), .schedulingCycle 5, .submitJob gangJob] _
    (by decide)

/-- **`SelectVictims` names no victim above its starting bound.**  `j1`, Running at priority
`1000000` under a tenant that allows preemption, is a candidate for a job of priority `1000001`,
but its priority is not below `999999`, where the search for the lowest starts. -/
theorem select_victims_bound_sample : ∃ trace w,
    Run (sampleConfig 10) (sampleWorld 4 ["g1"] 10) trace w ∧
    (∃ j ∈ w.store.jobs, j.state = .running ∧ j.priority.slt 1000001 = true ∧ j.tenantID = "t1") ∧
    (∃ t ∈ w.store.tenants, t.id = "t1" ∧ t.allowPreemption = true) ∧
    ∃ victims w', (Preemptor.selectVictims (sampleJob "j2" 1000001)).run w =
      some (.ok victims, w') ∧ victims = [] :=
  exists_run_to _ [.submitJob (sampleJob "j1" 1000000), .schedulingCycle 5] _ (by decide)

end GpuScheduler
