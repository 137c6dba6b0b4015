import GpuScheduler.Queue.Slots
/-
# `up`, `down` and `Init` restore the heap order

The order is the one `container/heap` documents: on the first `n` slots, no slot is `Less` than
its parent `(c - 1) / 2` (`Ordered`).  Each sift is proved from an "ordered except around one slot"
precondition, the shape of `Sift.lean`'s `UpOrder`/`DownOrder` in a heap with a hole, here with
Go's swaps instead of a hole:

* `up_ordered`: every pair but (`j`, parent) in order, and `j`'s children not before `j`'s
  parent (the grandparent condition);
* `downLoop_ordered`: every pair whose parent is at least `lo` in order, except the pairs into the
  current slot and, before the first swap, the pair from the start slot to its parent.

`lo` is what lets `heap.Init` use the same lemma (it sifts `i` with only the slots below `i`
ordered), and the start-slot exception is what `heap.Remove` needs (the element swapped in may be
out of order in either direction, which is why Go calls `up` when `down` did not move it).
-/

namespace GpuScheduler

open scoped List

namespace PriorityQueue

variable {pq pq' pq'' : PriorityQueue} {i j k n : Nat}

@[simp] theorem swapIdx_right (i j : Nat) : swapIdx i j j = i := by simp [swapIdx]

@[simp] theorem swapIdx_left (i j : Nat) : swapIdx i j i = j := by
  unfold swapIdx; by_cases h : i = j <;> simp [h]

theorem swapIdx_other (h₁ : k ≠ i) (h₂ : k ≠ j) : swapIdx i j k = k := by
  simp [swapIdx, h₁, h₂]

/-! ## 1. Runs of swaps -/

/-- `pq'` is `pq` after swaps of slots below `n`: the same references up to order, the same
entries, the same slots from `n` on, and every `Index` still right if it was. -/
structure Reorders (n : Nat) (pq pq' : PriorityQueue) : Prop where
  len : pq'.len = pq.len
  perm : List.Perm pq'.refs pq.refs
  entry : ∀ r, (pq'.objs r).entry = (pq.objs r).entry
  frame : ∀ k, n ≤ k → pq'.refs.getD k 0 = pq.refs.getD k 0
  indexed : pq.Indexed → pq'.Indexed

theorem Reorders.refl (n : Nat) (pq : PriorityQueue) : Reorders n pq pq :=
  ⟨rfl, .refl _, fun _ => rfl, fun _ _ => rfl, id⟩

theorem Reorders.trans (h₁ : Reorders n pq pq') (h₂ : Reorders n pq' pq'') : Reorders n pq pq'' :=
  ⟨h₂.len.trans h₁.len, h₂.perm.trans h₁.perm, fun r => (h₂.entry r).trans (h₁.entry r),
    fun k hk => (h₂.frame k hk).trans (h₁.frame k hk), fun h => h₂.indexed (h₁.indexed h)⟩

theorem Reorders.mono {m : Nat} (h : Reorders n pq pq') (hnm : n ≤ m) : Reorders m pq pq' :=
  ⟨h.len, h.perm, h.entry, fun k hk => h.frame k (by omega), h.indexed⟩

theorem reorders_swap (pq : PriorityQueue) (hi : i < n) (hj : j < n) (hn : n ≤ pq.len) :
    Reorders n pq (pq.swap i j) where
  len := swap_len _ _ _
  perm := swap_refs_perm (by omega) (by omega)
  entry := swap_objs_entry _ _ _
  frame k hk := by rw [swap_getD (by omega) (by omega), swapIdx_other (by omega) (by omega)]
  indexed h := swap_indexed h (by omega) (by omega)

theorem up_succ (fuel : Nat) (pq : PriorityQueue) (j : Nat) :
    Heap.up (fuel + 1) pq j =
      if (j - 1) / 2 = j ∨ !pq.less j ((j - 1) / 2) then pq
      else Heap.up fuel (pq.swap ((j - 1) / 2) j) ((j - 1) / 2) := rfl

/-- The child `down` compares against: the right one when it exists and is `Less`. -/
def minChild (pq : PriorityQueue) (i n : Nat) : Nat :=
  if 2 * i + 1 + 1 < n ∧ pq.less (2 * i + 1 + 1) (2 * i + 1) = true then 2 * i + 1 + 1 else 2 * i + 1

theorem downLoop_succ (fuel : Nat) (pq : PriorityQueue) (i n : Nat) :
    Heap.downLoop (fuel + 1) pq i n =
      if n ≤ 2 * i + 1 then (pq, i)
      else if !pq.less (minChild pq i n) i then (pq, i)
      else Heap.downLoop fuel (pq.swap i (minChild pq i n)) (minChild pq i n) n := rfl

theorem minChild_lt (pq : PriorityQueue) (h : ¬ n ≤ 2 * i + 1) : minChild pq i n < n := by
  unfold minChild; split <;> omega

theorem minChild_gt (pq : PriorityQueue) (i n : Nat) : i < minChild pq i n := by
  unfold minChild; split <;> omega

@[simp] theorem up_objs_entry : ∀ (fuel : Nat) (pq : PriorityQueue) (j r : Nat),
    ((Heap.up fuel pq j).objs r).entry = (pq.objs r).entry
  | 0, _, _, _ => rfl
  | fuel + 1, pq, j, r => by
    rw [up_succ]
    split
    · rfl
    · rw [up_objs_entry, swap_objs_entry]

@[simp] theorem downLoop_objs_entry : ∀ (fuel : Nat) (pq : PriorityQueue) (i n r : Nat),
    ((Heap.downLoop fuel pq i n).1.objs r).entry = (pq.objs r).entry
  | 0, _, _, _, _ => rfl
  | fuel + 1, pq, i, n, r => by
    rw [downLoop_succ]
    split
    · rfl
    · split
      · rfl
      · rw [downLoop_objs_entry, swap_objs_entry]

@[simp] theorem down_objs_entry (pq : PriorityQueue) (i n r : Nat) :
    ((Heap.down pq i n).1.objs r).entry = (pq.objs r).entry :=
  downLoop_objs_entry _ _ _ _ _

theorem up_reorders : ∀ (fuel : Nat) (pq : PriorityQueue) (j : Nat), j < pq.len →
    Reorders (j + 1) pq (Heap.up fuel pq j)
  | 0, pq, j, _ => Reorders.refl _ pq
  | fuel + 1, pq, j, hj => by
    rw [up_succ]
    split
    · exact Reorders.refl _ pq
    · have hp : (j - 1) / 2 < j + 1 := by omega
      exact (reorders_swap pq hp (by omega) (by omega)).trans
        ((up_reorders fuel _ _ (by simp; omega)).mono (by omega))

theorem downLoop_reorders : ∀ (fuel : Nat) (pq : PriorityQueue) (i n : Nat), n ≤ pq.len →
    Reorders n pq (Heap.downLoop fuel pq i n).1
  | 0, pq, _, _, _ => Reorders.refl _ pq
  | fuel + 1, pq, i, n, hn => by
    rw [downLoop_succ]
    split
    · exact Reorders.refl _ pq
    · split
      · exact Reorders.refl _ pq
      · have hj := minChild_lt pq (by assumption)
        exact (reorders_swap pq (by have := minChild_gt pq i n; omega) hj hn).trans
          (downLoop_reorders fuel _ _ _ (by simpa))

theorem down_reorders (pq : PriorityQueue) (hn : n ≤ pq.len) (i : Nat) :
    Reorders n pq (Heap.down pq i n).1 :=
  downLoop_reorders n pq i n hn

theorem initLoop_reorders : ∀ (k : Nat) (pq : PriorityQueue), n ≤ pq.len →
    Reorders n pq (Heap.initLoop n k pq)
  | 0, pq, _ => Reorders.refl _ pq
  | k + 1, pq, hn => by
    have h := down_reorders pq hn k
    exact h.trans (initLoop_reorders k _ (by rw [h.len]; exact hn))

theorem init_reorders (pq : PriorityQueue) : Reorders pq.len pq (Heap.init pq) :=
  initLoop_reorders _ pq le_rfl

/-! ## 2. The heap order -/

/-- The parent slot of `c` in `container/heap`'s binary heap. -/
def parent (c : Nat) : Nat := (c - 1) / 2

theorem parent_lt {c : Nat} (h : 0 < c) : parent c < c := by unfold parent; omega

theorem parent_minChild (pq : PriorityQueue) (i n : Nat) : parent (minChild pq i n) = i := by
  unfold parent minChild; split <;> omega

/-- The heap order on the first `n` slots: no slot is `Less` than its parent. -/
def Ordered (pq : PriorityQueue) (n : Nat) : Prop :=
  ∀ c, 0 < c → c < n → pq.less c (parent c) = false

/-- One swap of `up` moves the one possible disorder from `j` to its parent. -/
theorem up_step {j n : Nat} (hjn : j < n) (hn : n ≤ pq.len) (hj0 : 0 < j)
    (hless : pq.less j (parent j) = true)
    (he : ∀ c, 0 < c → c < n → c ≠ j → pq.less c (parent c) = false)
    (hg : ∀ c, 0 < c → c < n → parent c = j → pq.less c (parent j) = false) :
    (∀ c, 0 < c → c < n → c ≠ parent j → (pq.swap (parent j) j).less c (parent c) = false) ∧
    (0 < parent j → ∀ c, 0 < c → c < n → parent c = parent j →
      (pq.swap (parent j) j).less c (parent (parent j)) = false) := by
  have hp : parent j < j := parent_lt hj0
  have hpl : parent j < pq.len := by omega
  have hjl : j < pq.len := by omega
  constructor
  · intro c hc0 hcn hcp
    rw [swap_less hpl hjl]
    by_cases hcj : c = j
    · subst hcj
      rw [swapIdx_right, swapIdx_left]
      exact QueueItem.less_asymm hless
    · rw [swapIdx_other hcp hcj]
      by_cases hpc : parent c = j
      · rw [hpc, swapIdx_right]
        exact hg c hc0 hcn hpc
      · by_cases hpc' : parent c = parent j
        · rw [hpc', swapIdx_left]
          have := he c hc0 hcn hcj
          rw [hpc'] at this
          exact QueueItem.not_less_of_less hless this
        · rw [swapIdx_other hpc' hpc]
          exact he c hc0 hcn hcj
  · intro hp0 c hc0 hcn hcp
    have hpp : parent (parent j) < parent j := parent_lt hp0
    rw [swap_less hpl hjl, swapIdx_other (k := parent (parent j)) (by omega) (by omega)]
    by_cases hcj : c = j
    · subst hcj
      rw [swapIdx_right]
      exact he _ hp0 (by omega) (by omega)
    · have hcp' : c ≠ parent j := by have := parent_lt hc0; omega
      rw [swapIdx_other hcp' hcj]
      have h1 := he c hc0 hcn hcj
      rw [hcp] at h1
      exact QueueItem.not_less_trans h1 (he _ hp0 (by omega) (by omega))

/-- **`up` restores the order** when only the pair (`j`, parent) may be out of order and `j`'s
children are not before `j`'s parent. -/
theorem up_ordered : ∀ (fuel : Nat) (pq : PriorityQueue) (j n : Nat), j < fuel → j < n →
    n ≤ pq.len → (∀ c, 0 < c → c < n → c ≠ j → pq.less c (parent c) = false) →
    (0 < j → ∀ c, 0 < c → c < n → parent c = j → pq.less c (parent j) = false) →
    Ordered (Heap.up fuel pq j) n
  | 0, _, _, _, hf, _, _, _, _ => absurd hf (Nat.not_lt_zero _)
  | fuel + 1, pq, j, n, hf, hjn, hn, he, hg => by
    rw [up_succ]
    by_cases hstop : (j - 1) / 2 = j ∨ (!pq.less j ((j - 1) / 2)) = true
    · rw [if_pos hstop]
      intro c hc0 hcn
      by_cases hcj : c = j
      · subst hcj
        have hne : (c - 1) / 2 ≠ c := by omega
        simpa [hne, parent] using hstop
      · exact he c hc0 hcn hcj
    · rw [if_neg hstop]
      have hj0 : 0 < j := by
        by_contra h0
        exact hstop (Or.inl (by omega))
      have hless : pq.less j (parent j) = true := by
        have h2 := (not_or.mp hstop).2
        unfold parent
        simpa using h2
      obtain ⟨he', hg'⟩ := up_step hjn hn hj0 hless he (hg hj0)
      exact up_ordered fuel _ (parent j) n (by unfold parent; omega)
        (by have := parent_lt hj0; omega) (by simpa) he' hg'

/-- The child `down` picks is not after either child. -/
theorem minChild_min (pq : PriorityQueue) {i n c : Nat} (hc0 : 0 < c) (hcn : c < n)
    (hpc : parent c = i) : pq.less c (minChild pq i n) = false := by
  have hc : c = 2 * i + 1 ∨ c = 2 * i + 1 + 1 := by unfold parent at hpc; omega
  unfold minChild
  split
  · rename_i h
    rcases hc with rfl | rfl
    · exact QueueItem.less_asymm h.2
    · exact QueueItem.less_irrefl _
  · rename_i h
    rcases hc with rfl | rfl
    · exact QueueItem.less_irrefl _
    · simp only [not_and, Bool.not_eq_true] at h
      exact h hcn

/-- One swap of `down` moves the disorder from slot `i` to the child it swapped with. -/
theorem down_step {lo i0 i n : Nat} (hn : n ≤ pq.len) (hi0 : i0 ≤ i)
    (hin : ¬ n ≤ 2 * i + 1) (hless : pq.less (minChild pq i n) i = true)
    (hA : ∀ c, 0 < c → c < n → lo ≤ parent c → parent c ≠ i → (c = i0 → i ≠ i0) →
      pq.less c (parent c) = false)
    (hG : 0 < i → lo ≤ parent i → ∀ c, 0 < c → c < n → parent c = i →
      pq.less c (parent i) = false) :
    (∀ c, 0 < c → c < n → lo ≤ parent c → parent c ≠ minChild pq i n →
      (c = i0 → minChild pq i n ≠ i0) →
      (pq.swap i (minChild pq i n)).less c (parent c) = false) ∧
    (0 < minChild pq i n → lo ≤ parent (minChild pq i n) → ∀ c, 0 < c → c < n →
      parent c = minChild pq i n →
      (pq.swap i (minChild pq i n)).less c (parent (minChild pq i n)) = false) := by
  have hjn : minChild pq i n < n := minChild_lt pq hin
  have hij : i < minChild pq i n := minChild_gt pq i n
  have hpj : parent (minChild pq i n) = i := parent_minChild pq i n
  have hil : i < pq.len := by omega
  have hjl : minChild pq i n < pq.len := by omega
  constructor
  · intro c hc0 hcn hlc hcj _
    rw [swap_less hil hjl]
    by_cases hcj' : c = minChild pq i n
    · rw [hcj', hpj, swapIdx_right, swapIdx_left]
      exact QueueItem.less_asymm hless
    · by_cases hci : c = i
      · subst hci
        have hp : parent c < c := parent_lt hc0
        rw [swapIdx_left, swapIdx_other (by omega) (by omega)]
        exact hG hc0 hlc _ (by omega) hjn hpj
      · rw [swapIdx_other hci hcj']
        by_cases hpc : parent c = i
        · rw [hpc, swapIdx_left]
          exact minChild_min pq hc0 hcn hpc
        · rw [swapIdx_other hpc hcj]
          exact hA c hc0 hcn hlc hpc (fun e => by omega)
  · intro _ _ c hc0 hcn hpc
    have hcj : minChild pq i n < c := by have := parent_lt hc0; omega
    rw [swap_less hil hjl, swapIdx_other (by omega) (by omega), hpj, swapIdx_left]
    have h1 := hA c hc0 hcn (by omega) (by omega) (fun e => by omega)
    rwa [hpc] at h1

/-- Whatever `down` does, it ends at or below where it started, and if it ends where it
started it changed nothing. -/
theorem downLoop_stay : ∀ (fuel : Nat) (pq : PriorityQueue) (i n : Nat),
    i ≤ (Heap.downLoop fuel pq i n).2 ∧
      ((Heap.downLoop fuel pq i n).2 = i → (Heap.downLoop fuel pq i n).1 = pq)
  | 0, _, _, _ => ⟨le_rfl, fun _ => rfl⟩
  | fuel + 1, pq, i, n => by
    rw [downLoop_succ]
    split
    · exact ⟨le_rfl, fun _ => rfl⟩
    · split
      · exact ⟨le_rfl, fun _ => rfl⟩
      · have ih := downLoop_stay fuel (pq.swap i (minChild pq i n)) (minChild pq i n) n
        have := minChild_gt pq i n
        exact ⟨by omega, fun e => by omega⟩

theorem down_not_moved (h : (Heap.down pq i n).2 = false) : (Heap.down pq i n).1 = pq := by
  have hs := downLoop_stay n pq i n
  simp only [Heap.down, decide_eq_false_iff_not, not_lt] at h ⊢
  exact hs.2 (by omega)

/-- **`down` restores the order below slot `i0`**, for the parents at or above `lo`: from a
start where every pair but those into `i0` and the pair from `i0` to its parent is in order, and
`i0`'s children are not before `i0`'s parent, it orders every pair but (`i0`, parent), and that
one too if it moved. -/
theorem downLoop_ordered (lo i0 n : Nat) : ∀ (fuel : Nat) (pq : PriorityQueue) (i : Nat),
    n ≤ pq.len → n ≤ fuel + i → lo ≤ i0 → i0 ≤ i →
    (∀ c, 0 < c → c < n → lo ≤ parent c → parent c ≠ i → (c = i0 → i ≠ i0) →
      pq.less c (parent c) = false) →
    (0 < i → lo ≤ parent i → ∀ c, 0 < c → c < n → parent c = i →
      pq.less c (parent i) = false) →
    ∀ c, 0 < c → c < n → lo ≤ parent c → (c = i0 → (Heap.downLoop fuel pq i n).2 ≠ i0) →
      (Heap.downLoop fuel pq i n).1.less c (parent c) = false
  | 0, pq, i, _, hf, _, _, hA, _ => fun c hc0 hcn hlc hc =>
    hA c hc0 hcn hlc (by unfold parent; omega) hc
  | fuel + 1, pq, i, hn, hf, hlo, hi0, hA, hG => by
    intro c hc0 hcn hlc hc
    rw [downLoop_succ] at hc ⊢
    by_cases hin : n ≤ 2 * i + 1
    · rw [if_pos hin] at hc ⊢
      exact hA c hc0 hcn hlc (by unfold parent; omega) hc
    · rw [if_neg hin] at hc ⊢
      by_cases hstop : (!pq.less (minChild pq i n) i) = true
      · rw [if_pos hstop] at hc ⊢
        by_cases hpc : parent c = i
        · rw [hpc]
          exact QueueItem.not_less_trans (minChild_min pq hc0 hcn hpc) (by simpa using hstop)
        · exact hA c hc0 hcn hlc hpc hc
      · rw [if_neg hstop] at hc ⊢
        have hless : pq.less (minChild pq i n) i = true := by simpa using hstop
        obtain ⟨hA', hG'⟩ := down_step hn hi0 hin hless hA hG
        have := minChild_gt pq i n
        exact downLoop_ordered lo i0 n fuel _ _ (by simpa) (by omega) hlo (by omega) hA' hG'
          c hc0 hcn hlc hc

theorem down_ordered {lo i0 n : Nat} (hn : n ≤ pq.len) (hlo : lo ≤ i0)
    (hA : ∀ c, 0 < c → c < n → lo ≤ parent c → parent c ≠ i0 → c ≠ i0 →
      pq.less c (parent c) = false)
    (hG : 0 < i0 → lo ≤ parent i0 → ∀ c, 0 < c → c < n → parent c = i0 →
      pq.less c (parent i0) = false) :
    ∀ c, 0 < c → c < n → lo ≤ parent c → (c = i0 → (Heap.down pq i0 n).2 = true) →
      (Heap.down pq i0 n).1.less c (parent c) = false := by
  intro c hc0 hcn hlc hc
  refine downLoop_ordered lo i0 n n pq i0 hn (by omega) hlo le_rfl
    (fun c h1 h2 h3 h4 h5 => hA c h1 h2 h3 h4 (fun e => h5 e rfl)) hG c hc0 hcn hlc ?_
  intro e
  have := hc e
  simp only [Heap.down, decide_eq_true_eq] at this
  omega

theorem initLoop_ordered (n : Nat) : ∀ (k : Nat) (pq : PriorityQueue), n ≤ pq.len →
    (∀ c, 0 < c → c < n → k ≤ parent c → pq.less c (parent c) = false) →
    Ordered (Heap.initLoop n k pq) n
  | 0, _, _, h => fun c h1 h2 => h c h1 h2 (Nat.zero_le _)
  | k + 1, pq, hn, h => by
    apply initLoop_ordered n k _ (by rw [(down_reorders pq hn k).len]; exact hn)
    intro c hc0 hcn hkc
    refine down_ordered hn le_rfl (fun c h1 h2 h3 h4 _ => h c h1 h2 (by omega))
      (fun _ hk => by unfold parent at hk; omega) c hc0 hcn hkc ?_
    intro e
    subst e
    unfold parent at hkc
    omega

/-- **`heap.Init` establishes the order** on any slice. -/
theorem init_ordered (pq : PriorityQueue) : Ordered (Heap.init pq) pq.len :=
  initLoop_ordered _ _ pq le_rfl (fun c _ h2 h3 => by unfold parent at h3; omega)

end PriorityQueue

end GpuScheduler
