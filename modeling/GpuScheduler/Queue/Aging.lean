import GpuScheduler.Queue.Refinement
/-
# Aging keeps the order of enqueue

`ApplyAging` boosts the items that have waited longer than a threshold, and waiting is measured
from `EnqueuedAt`: whenever a pass boosts an item it boosts every item enqueued before it, by the
same factor.  So along a run whose factors are never negative, an item's accumulated boost is
at least that of every item enqueued after it (`AgingOrder`), and an item of no lower priority
than a later one stays ahead of it: `Peek` and `Dequeue` never return the later one while the
earlier is queued (`aging_keeps_order`).

The invariant is proved on the abstract queue, one case per kind of step (`Step.entries_cases`),
and carried to the heap through the refinement.  Three facts about the run are needed:

* enqueue timestamps increase strictly in enqueue order;
* no aging factor is negative (`schedulingCycle` passes `10`);
* no aging pass takes a `Priority + AgingBoost` out of the signed 64-bit range
  (`agingInRange`): Go's `int64` sum wraps, and a wrapped total would drop to the bottom.
-/

namespace GpuScheduler

/-! ## 1. Totals on the integers -/

/-- `Priority + AgingBoost`, the sum `Less` compares. -/
def Entry.total (e : Entry) : BitVec 64 := e.priority + e.agingBoost

/-- What an entry has gained over its priority, read on the integers. -/
def Entry.boost (e : Entry) : Int := e.total.toInt - e.priority.toInt

/-- The range of Go's `int64`. -/
theorem toInt_range (x : BitVec 64) : -2 ^ 63 ≤ x.toInt ∧ x.toInt < 2 ^ 63 := by
  have := x.isLt
  rw [BitVec.toInt_eq_toNat_cond]
  split <;> omega

theorem toInt_add_of_lt {x y : BitVec 64} (hy : 0 ≤ y.toInt) (h : x.toInt + y.toInt < 2 ^ 63) :
    (x + y).toInt = x.toInt + y.toInt := by
  have := toInt_range x
  rw [BitVec.toInt_add, Int.bmod_def]
  split <;> omega

/-- Of two entries, the one with the larger total precedes; on equal totals, the older. -/
theorem Entry.less_of_total {a b : Entry} (h : b.total.toInt ≤ a.total.toInt)
    (ht : a.enqueuedAt < b.enqueuedAt) : a.less b = true := by
  change (if a.total ≠ b.total then b.total.slt a.total else decide (a.enqueuedAt < b.enqueuedAt))
    = true
  by_cases he : a.total = b.total
  · simp [he, ht]
  · have : a.total.toInt ≠ b.total.toInt := fun e => he (BitVec.toInt_inj.mp e)
    simp only [he, BitVec.slt, ne_eq, not_false_eq_true, if_true, decide_eq_true_eq]
    omega

/-- Waiting is longer for the older entry. -/
theorem Time.sub_anti {t u u' : Int} (h : u ≤ u') : Time.sub t u' ≤ Time.sub t u := by
  unfold Time.sub
  omega

/-- An aging pass at `now` with threshold `ageThreshold` boosts `e`. -/
def Entry.Aged (ageThreshold now : Int) (e : Entry) : Prop := ageThreshold < Time.sub now e.enqueuedAt

instance (ageThreshold now : Int) (e : Entry) : Decidable (e.Aged ageThreshold now) :=
  inferInstanceAs (Decidable (_ < _))

section Age

variable {agingFactor : BitVec 64} {ageThreshold now : Int}

@[simp] theorem Entry.age_priority (e : Entry) :
    (e.age agingFactor ageThreshold now).priority = e.priority := by
  unfold Entry.age
  split <;> rfl

@[simp] theorem Entry.age_enqueuedAt (e : Entry) :
    (e.age agingFactor ageThreshold now).enqueuedAt = e.enqueuedAt := by
  unfold Entry.age
  split <;> rfl

/-- One pass adds the factor to the boost of an entry it ages, when the sum stays in range. -/
theorem Entry.age_boost (e : Entry) (hf : 0 ≤ agingFactor.toInt)
    (hr : e.Aged ageThreshold now → e.total.toInt + agingFactor.toInt < 2 ^ 63) :
    (e.age agingFactor ageThreshold now).boost =
      e.boost + if e.Aged ageThreshold now then agingFactor.toInt else 0 := by
  unfold Entry.boost
  by_cases hb : e.Aged ageThreshold now
  · have htot : (e.age agingFactor ageThreshold now).total = e.total + agingFactor :=
      (congrArg Entry.total (if_pos hb)).trans (BitVec.add_assoc _ _ _).symm
    rw [htot, toInt_add_of_lt hf (hr hb), if_pos hb, Entry.age_priority]
    omega
  · rw [show e.age agingFactor ageThreshold now = e from if_neg hb, if_neg hb, Int.add_zero]

end Age

/-! ## 2. The invariant -/

/-- Every entry has gained from aging, and no entry has gained more than one enqueued before
it. -/
structure AgingOrder (s : Multiset Entry) : Prop where
  boost_nonneg : ∀ e ∈ s, 0 ≤ e.boost
  boost_anti : ∀ x ∈ s, ∀ y ∈ s, x.enqueuedAt < y.enqueuedAt → y.boost ≤ x.boost

namespace AgingOrder

variable {s s' : Multiset Entry}

theorem mono (h : AgingOrder s) (hle : s' ≤ s) : AgingOrder s' :=
  ⟨fun e he => h.boost_nonneg e (Multiset.mem_of_le hle he),
    fun x hx y hy => h.boost_anti x (Multiset.mem_of_le hle hx) y (Multiset.mem_of_le hle hy)⟩

/-- A new entry, younger than every queued one, has gained nothing. -/
theorem cons (h : AgingOrder s) {job : Job} {now : Int} (hnew : ∀ e ∈ s, e.enqueuedAt < now) :
    AgingOrder (newEntry job now ::ₘ s) := by
  have h0 : (newEntry job now).boost = 0 := by simp [Entry.boost, Entry.total, newEntry]
  refine ⟨fun e he => ?_, fun x hx y hy hxy => ?_⟩
  · rcases Multiset.mem_cons.mp he with rfl | he
    · exact h0.ge
    · exact h.boost_nonneg e he
  · rcases Multiset.mem_cons.mp hx with rfl | hx <;> rcases Multiset.mem_cons.mp hy with rfl | hy
    · exact le_rfl
    · exact absurd hxy (lt_asymm (hnew y hy))
    · exact h0 ▸ h.boost_nonneg x hx
    · exact h.boost_anti x hx y hy hxy

/-- A pass with a non-negative factor ages every entry older than one it ages. -/
theorem map_age (h : AgingOrder s) {agingFactor : BitVec 64} {ageThreshold now : Int}
    (hf : 0 ≤ agingFactor.toInt)
    (hr : ∀ e ∈ s, e.Aged ageThreshold now → e.total.toInt + agingFactor.toInt < 2 ^ 63) :
    AgingOrder (s.map (Entry.age agingFactor ageThreshold now)) := by
  have hb := fun e he => Entry.age_boost e hf (hr e he)
  refine ⟨fun e' he' => ?_, fun x' hx' y' hy' hxy => ?_⟩
  · obtain ⟨e, he, rfl⟩ := Multiset.mem_map.mp he'
    rw [hb e he]
    have := h.boost_nonneg e he
    split <;> omega
  · obtain ⟨x, hx, rfl⟩ := Multiset.mem_map.mp hx'
    obtain ⟨y, hy, rfl⟩ := Multiset.mem_map.mp hy'
    simp only [Entry.age_enqueuedAt] at hxy
    have hxy' := h.boost_anti x hx y hy hxy
    have holder : y.Aged ageThreshold now → x.Aged ageThreshold now :=
      fun hy => lt_of_lt_of_le hy (Time.sub_anti hxy.le)
    rw [hb x hx, hb y hy]
    by_cases hay : y.Aged ageThreshold now
    · simp only [hay, holder hay, if_true]
      omega
    · simp only [hay, if_false]
      split <;> omega

/-- **Of two entries, the older one of no lower priority precedes.** -/
theorem less (h : AgingOrder s) {a b : Entry} (ha : a ∈ s) (hb : b ∈ s)
    (ht : a.enqueuedAt < b.enqueuedAt) (hp : b.priority.toInt ≤ a.priority.toInt) :
    b.total.toInt ≤ a.total.toInt ∧ a.less b = true := by
  have hab := h.boost_anti a ha b hb ht
  have htot : b.total.toInt ≤ a.total.toInt := by
    unfold Entry.boost at hab
    omega
  exact ⟨htot, Entry.less_of_total htot ht⟩

end AgingOrder

/-! ## 3. One step of the abstract queue

Every method either keeps a part of the entries, or adds a fresh one (`Enqueue`), or ages them
all (`ApplyAging`). -/

namespace AbsQueue

variable {a a' : AbsQueue} {op : QueueOp} {out : QueueOut}

theorem Keyed.eq_of_id (hk : a.Keyed) {x y : Entry} (hx : x ∈ a.entries) (hy : y ∈ a.entries)
    (hid : x.job.id = y.job.id) : x = y :=
  Multiset.inj_on_of_nodup_map hk x hx y hy hid

theorem Step.entries_cases (h : a.Step op out a') :
    a'.entries ≤ a.entries ∨
    (∃ job now, op = .enqueue job now ∧ job.id ∉ a.ids ∧
      a'.entries = newEntry job now ::ₘ a.entries) ∨
    ∃ agingFactor ageThreshold now, op = .applyAging agingFactor ageThreshold now ∧
      a'.entries = a.entries.map (Entry.age agingFactor ageThreshold now) := by
  cases op with
  | enqueue job now =>
    simp only [Step] at h
    split_ifs at h with hfull hdup
    · exact .inl (by rw [h.2])
    · exact .inl (by rw [h.2])
    · exact .inr (.inl ⟨job, now, rfl, hdup, by rw [h.2]⟩)
  | dequeue =>
    rcases h with ⟨-, -, rfl⟩ | ⟨e, -, -, rfl⟩
    · exact .inl le_rfl
    · exact .inl (Multiset.erase_le _ _)
  | remove jobID => exact .inl (by rw [h.2]; exact Multiset.filter_le _ _)
  | applyAging agingFactor ageThreshold now =>
    exact .inr (.inr ⟨agingFactor, ageThreshold, now, rfl, by rw [h.2]⟩)
  | clear => exact .inl (by rw [h.2]; exact Multiset.zero_le _)
  | peek | get _ | size | list => exact .inl (by rw [h.1])

/-- An entry after a step is one from before with its enqueue time, or the one `Enqueue`
stamped. -/
theorem Step.enqueuedAt_of_mem (h : a.Step op out a') {e' : Entry} (he' : e' ∈ a'.entries) :
    (∃ e ∈ a.entries, e'.enqueuedAt = e.enqueuedAt) ∨
      ∃ job now, op = .enqueue job now ∧ e'.enqueuedAt = now := by
  rcases h.entries_cases with hle | ⟨job, now, rfl, -, he⟩ | ⟨_, _, _, rfl, he⟩
  · exact .inl ⟨e', Multiset.mem_of_le hle he', rfl⟩
  · rw [he] at he'
    rcases Multiset.mem_cons.mp he' with rfl | he'
    · exact .inr ⟨job, now, rfl, rfl⟩
    · exact .inl ⟨e', he', rfl⟩
  · rw [he] at he'
    obtain ⟨e, he, rfl⟩ := Multiset.mem_map.mp he'
    exact .inl ⟨e, he, Entry.age_enqueuedAt e⟩

/-- What the run must grant before `op`: a fresh `Enqueue` stamp, and an aging pass with a
non-negative factor that keeps every total it raises in range. -/
def AgingSafe (s : Multiset Entry) : QueueOp → Prop
  | .enqueue _ now => ∀ e ∈ s, e.enqueuedAt < now
  | .applyAging agingFactor ageThreshold now =>
    0 ≤ agingFactor.toInt ∧
      ∀ e ∈ s, e.Aged ageThreshold now → e.total.toInt + agingFactor.toInt < 2 ^ 63
  | _ => True

/-- **A step keeps the aging order.** -/
theorem Step.agingOrder (h : a.Step op out a') (hs : AgingSafe a.entries op)
    (ho : AgingOrder a.entries) : AgingOrder a'.entries := by
  rcases h.entries_cases with hle | ⟨job, now, rfl, -, he⟩ | ⟨_, _, _, rfl, he⟩
  · exact ho.mono hle
  · exact he ▸ ho.cons hs
  · exact he ▸ ho.map_age hs.1 hs.2

/-- **No step lowers the total of a queued entry.** -/
theorem Step.total_mono (h : a.Step op out a') (hk : a.Keyed) (hs : AgingSafe a.entries op)
    {e e' : Entry} (he : e ∈ a.entries) (he' : e' ∈ a'.entries) (hid : e'.job.id = e.job.id) :
    e.total.toInt ≤ e'.total.toInt := by
  rcases h.entries_cases with hle | ⟨job, now, rfl, hnew, heq⟩ | ⟨_, _, _, rfl, heq⟩
  · rw [hk.eq_of_id (Multiset.mem_of_le hle he') he hid]
  · rw [heq] at he'
    rcases Multiset.mem_cons.mp he' with rfl | he'
    · exact absurd (hid ▸ Multiset.mem_map_of_mem (·.job.id) he) hnew
    · rw [hk.eq_of_id he' he hid]
  · rw [heq] at he'
    obtain ⟨x, hx, rfl⟩ := Multiset.mem_map.mp he'
    obtain rfl := hk.eq_of_id hx he (by simpa using hid)
    have hb := Entry.age_boost x hs.1 (hs.2 x hx)
    unfold Entry.boost at hb
    rw [Entry.age_priority] at hb
    have := hs.1
    split at hb <;> omega

end AbsQueue

/-! ## 4. Runs of the heap queue

A run is assumed to meet three conditions: the stamps of its `Enqueue` calls increase, its
aging factors are non-negative, and `agingInRange` holds.  `safeRun_of` turns them
into what each call needs (`SafeRun`), and the refinement carries the invariant to the heap. -/

/-- The instant an `Enqueue` call stamps. -/
def QueueOp.enqueueTime : QueueOp → Option Int
  | .enqueue _ now => some now
  | _ => none

theorem QueueOp.filterMap_enqueueTime_cons (op : QueueOp) (ops : List QueueOp) :
    (op :: ops).filterMap QueueOp.enqueueTime =
      op.enqueueTime.toList ++ ops.filterMap QueueOp.enqueueTime := by
  cases op <;> rfl

namespace Queue

open AbsQueue

variable {q : Queue}

/-- Whether the call `op`, if it is `ApplyAging`, keeps every total it raises in range. -/
def agesInRange (q : Queue) : QueueOp → Bool
  | .applyAging agingFactor ageThreshold now =>
    q.entries.all fun e =>
      !decide (e.Aged ageThreshold now) || decide (e.total.toInt + agingFactor.toInt < 2 ^ 63)
  | _ => true

/-- No `ApplyAging` call of the run from `q` takes a `Priority + AgingBoost` out of the signed
64-bit range. -/
def agingInRange : Queue → List QueueOp → Bool
  | _, [] => true
  | q, op :: ops => q.agesInRange op && agingInRange (q.exec op).2 ops

/-- Each call of the run from `q` is granted what it needs (`AbsQueue.AgingSafe`). -/
def SafeRun : Queue → List QueueOp → Prop
  | _, [] => True
  | q, op :: ops => AgingSafe (q.entries : Multiset Entry) op ∧ SafeRun (q.exec op).2 ops

theorem run_append (q : Queue) (ops rest : List QueueOp) :
    q.run (ops ++ rest) = (q.run ops).run rest :=
  List.foldl_append _ _ _ _

theorem SafeRun.append : ∀ {q : Queue} {ops rest : List QueueOp}, SafeRun q (ops ++ rest) →
    SafeRun q ops ∧ SafeRun (q.run ops) rest
  | _, [], _, h => ⟨trivial, h⟩
  | _, _ :: _, _, h => ⟨⟨h.1, (SafeRun.append h.2).1⟩, (SafeRun.append h.2).2⟩

theorem agingSafe_of {op : QueueOp}
    (hfresh : ∀ e ∈ q.entries, ∀ t ∈ op.enqueueTime, e.enqueuedAt < t)
    (hfac : ∀ f th now, op = .applyAging f th now → 0 ≤ f.toInt) (hr : q.agesInRange op = true) :
    AgingSafe (q.entries : Multiset Entry) op := by
  cases op with
  | enqueue job now => exact fun e he => hfresh e (Multiset.mem_coe.mp he) now rfl
  | applyAging f th now =>
    refine ⟨hfac f th now rfl, fun e he ha => ?_⟩
    simpa [ha] using List.all_eq_true.mp hr e (Multiset.mem_coe.mp he)
  | dequeue | peek | remove _ | get _ | size | list | clear => trivial

theorem safeRun_of : ∀ (ops : List QueueOp) {q : Queue}, q.Valid →
    (∀ e ∈ q.entries, ∀ t ∈ ops.filterMap QueueOp.enqueueTime, e.enqueuedAt < t) →
    (ops.filterMap QueueOp.enqueueTime).Pairwise (· < ·) →
    (∀ f th now, QueueOp.applyAging f th now ∈ ops → 0 ≤ f.toInt) →
    q.agingInRange ops = true → SafeRun q ops
  | [], _, _, _, _, _, _ => trivial
  | op :: ops, q, hv, hfresh, hts, hfac, hr => by
    rw [QueueOp.filterMap_enqueueTime_cons] at hfresh hts
    rw [List.pairwise_append] at hts
    simp only [agingInRange, Bool.and_eq_true] at hr
    refine ⟨agingSafe_of (fun e he t ht => hfresh e he t (List.mem_append_left _
      (Option.mem_toList.mpr ht))) (fun f th now h => hfac f th now (h ▸ List.mem_cons_self _ _))
      hr.1, safeRun_of ops (hv.exec op) (fun e' he' t ht => ?_) hts.2.1
      (fun f th now h => hfac f th now (List.mem_cons_of_mem _ h)) hr.2⟩
    rcases (exec_step hv op).enqueuedAt_of_mem (Multiset.mem_coe.mpr he') with
      ⟨e, he, heq⟩ | ⟨job, now, rfl, heq⟩
    · exact heq ▸ hfresh e (Multiset.mem_coe.mp he) t (List.mem_append_right _ ht)
    · exact heq ▸ hts.2.2 now (by simp [QueueOp.enqueueTime]) t ht

/-- **The aging order holds after every run that grants each call what it needs.** -/
theorem agingOrder_run : ∀ (ops : List QueueOp) {q : Queue}, q.Valid →
    AgingOrder (q.entries : Multiset Entry) → SafeRun q ops →
    AgingOrder ((q.run ops).entries : Multiset Entry)
  | [], _, _, h, _ => h
  | op :: ops, _, hv, h, hs =>
    agingOrder_run ops (hv.exec op) ((exec_step hv op).agingOrder hs.1 h) hs.2

/-- `Peek` does not show an entry that another queued entry precedes. -/
theorem Valid.peek_ne (hv : q.Valid) {a b : Entry} (ha : a ∈ q.entries) (hb : b ∈ q.entries)
    (hab : a.less b = true) : q.peek ≠ some b.job := by
  intro hp
  have h0 : q.size ≠ 0 := fun h0 => by simp [peek, h0] at hp
  have hfront : q.front = b := hv.keyed.eq_of_id (hv.first h0).1 (Multiset.mem_coe.mpr hb)
    (congrArg Job.id (Option.some.inj ((peek_front h0).symm.trans hp)))
  have := (hv.first h0).2 a (Multiset.mem_coe.mpr ha)
  rw [hfront, hab] at this
  exact Bool.noConfusion this

/-- **Aging never lets a job overtake an earlier one of no lower priority.**  Along a run from
`NewQueue(maxSize)` whose `Enqueue` stamps increase (so "enqueued before" is "earlier
`EnqueuedAt`"), whose aging factors are non-negative and whose aging sums stay in range: of two
queued entries `A` enqueued before `B` with `A.Priority ≥ B.Priority`, `A`'s total is at least
`B`'s and neither `Peek` nor `Dequeue` returns `B`; and the next call lowers no queued entry's
total. -/
theorem aging_keeps_order (maxSize : Int) (ops : List QueueOp) (op : QueueOp)
    (hts : ((ops ++ [op]).filterMap QueueOp.enqueueTime).Pairwise (· < ·))
    (hfac : ∀ agingFactor ageThreshold now,
      QueueOp.applyAging agingFactor ageThreshold now ∈ ops ++ [op] → 0 ≤ agingFactor.toInt)
    (hrange : (new maxSize).agingInRange (ops ++ [op]) = true) :
    (∀ A ∈ ((new maxSize).run ops).entries, ∀ B ∈ ((new maxSize).run ops).entries,
      A.enqueuedAt < B.enqueuedAt → B.priority.toInt ≤ A.priority.toInt →
      B.total.toInt ≤ A.total.toInt ∧ ((new maxSize).run ops).peek ≠ some B.job ∧
        ((new maxSize).run ops).dequeue.1 ≠ some B.job) ∧
    ∀ e ∈ ((new maxSize).run ops).entries, ∀ e' ∈ ((new maxSize).run (ops ++ [op])).entries,
      e'.job.id = e.job.id → e.total.toInt ≤ e'.total.toInt := by
  have hv := (new_valid maxSize).run ops
  obtain ⟨hs, hs'⟩ := SafeRun.append
    (safeRun_of _ (new_valid maxSize) (by simp) hts hfac hrange)
  have ho := agingOrder_run ops (new_valid maxSize) ⟨by simp, by simp⟩ hs
  refine ⟨fun A hA B hB ht hp => ?_, fun e he e' he' hid => ?_⟩
  · obtain ⟨htot, hless⟩ := ho.less (Multiset.mem_coe.mpr hA) (Multiset.mem_coe.mpr hB) ht hp
    exact ⟨htot, hv.peek_ne hA hB hless, dequeue_fst _ ▸ hv.peek_ne hA hB hless⟩
  · rw [run_append] at he'
    exact (exec_step hv op).total_mono hv.keyed hs'.1 (Multiset.mem_coe.mpr he)
      (Multiset.mem_coe.mpr he') hid

/-- A job of priority 5. -/
def agingJob (id : String) : Job := { (default : Job) with id, priority := 5 }

/-- Two jobs of equal priority enqueued at instants 1 and 2, then aged at 3 past a zero
threshold: both are boosted, and `Dequeue` returns the first. -/
def agingSample : List QueueOp :=
  [.enqueue (agingJob "a") 1, .enqueue (agingJob "b") 2, .applyAging 10 0 3]

theorem aging_keeps_order_sample :
    ((new 10).run agingSample).dequeue.1 ≠ some (agingJob "b") :=
  (aging_keeps_order 10 agingSample .dequeue (by decide)
    (fun f th now hm => by
      simp only [agingSample, List.cons_append, List.nil_append, List.mem_cons,
        QueueOp.applyAging.injEq, reduceCtorEq, List.mem_singleton, List.not_mem_nil, false_or,
        or_false] at hm
      obtain ⟨rfl, -, -⟩ := hm
      decide)
    (by decide)).1 ⟨agingJob "a", 5, 1, 10⟩ (by decide) ⟨agingJob "b", 5, 2, 10⟩ (by decide)
    (by decide) (by decide) |>.2.2

end Queue

end GpuScheduler
