import GpuScheduler.Queue.Sift
/-
# `heap.Push`, `heap.Pop`, `heap.Remove` and `heap.Init` on a valid slice

A slice is `Valid` when every object records its slot and the first `len` slots are in heap
order.  Each `container/heap` entry point keeps that, and moves references as the documentation
says: `Push` adds one, `Pop` takes out the reference of slot `0`, `Remove(i)` the reference of
slot `i`, `Init` only reorders.  None of them changes an entry.
-/

namespace GpuScheduler

open scoped List

namespace PriorityQueue

variable {pq : PriorityQueue} {i : Nat}

/-- The representation invariant of the slice under the queue. -/
structure Valid (pq : PriorityQueue) : Prop where
  indexed : pq.Indexed
  ordered : Ordered pq pq.len

theorem push_less (pq : PriorityQueue) (r : Nat) {a b : Nat} (ha : a < pq.len) (hb : b < pq.len) :
    (pq.push r).less a b = pq.less a b := by
  apply QueueItem.less_congr
  · simp only [item, push_getD, if_neg (Nat.ne_of_lt ha), push_objs_entry]
  · simp only [item, push_getD, if_neg (Nat.ne_of_lt hb), push_objs_entry]

theorem pop_less (pq : PriorityQueue) {a b : Nat} (ha : a < pq.len - 1) (hb : b < pq.len - 1) :
    pq.pop.2.less a b = pq.less a b := by
  apply QueueItem.less_congr <;> simp only [item, pop_getD pq ha, pop_getD pq hb, pop_objs_entry]

theorem pop_refs_perm (h0 : 0 < pq.len) : List.Perm (pq.pop.1 :: pq.pop.2.refs) pq.refs := by
  have hne : pq.refs ≠ [] := by unfold len at h0; exact List.ne_nil_of_length_pos h0
  have hlast : pq.pop.1 = pq.refs.getLast hne := by
    rw [pop_fst, List.getLast_eq_getElem, List.getD_eq_getElem?_getD,
      List.getElem?_eq_getElem (by unfold len at h0; unfold len; omega)]
    rfl
  rw [pop_refs, hlast]
  exact (List.perm_append_singleton _ _).symm.trans (by rw [List.dropLast_append_getLast])

theorem Ordered.pop (h : Ordered pq n) (hn : n ≤ pq.len - 1) : Ordered pq.pop.2 n :=
  fun c hc0 hcn => by
    rw [pop_less pq (by omega) (by have := parent_lt hc0; omega)]
    exact h c hc0 hcn

theorem Ordered.mono {m : Nat} (h : Ordered pq n) (hm : m ≤ n) : Ordered pq m :=
  fun c hc0 hcn => h c hc0 (by omega)

/-! ## Push -/

theorem heapPush_valid (h : pq.Valid) {r : Nat} (hr : r ∉ pq.refs) : (Heap.push pq r).Valid where
  indexed := (up_reorders (pq.len + 1) (pq.push r) pq.len (by simp)).indexed
    (push_indexed h.indexed hr)
  ordered := by
    unfold Heap.push
    rw [(up_reorders (pq.len + 1) (pq.push r) pq.len (by simp)).len, push_len]
    apply up_ordered (pq.len + 1) (pq.push r) pq.len (pq.len + 1) (by omega) (by omega) (by simp)
    · intro c hc0 hcn hcl
      rw [push_less _ _ (by omega) (by have := parent_lt hc0; omega)]
      exact h.ordered c hc0 (by omega)
    · intro _ c hc0 hcn hpc
      unfold parent at hpc
      omega

theorem heapPush_refs (pq : PriorityQueue) (r : Nat) :
    List.Perm (Heap.push pq r).refs (pq.refs ++ [r]) :=
  (up_reorders (pq.len + 1) (pq.push r) pq.len (by simp)).perm

@[simp] theorem heapPush_entry (pq : PriorityQueue) (r r' : Nat) :
    ((Heap.push pq r).objs r').entry = (pq.objs r').entry := by
  unfold Heap.push
  rw [(up_reorders (pq.len + 1) (pq.push r) pq.len (by simp)).entry, push_objs_entry]

/-! ## Pop -/

/-- The run of `heap.Pop` before its final `h.Pop()`. -/
theorem heapPop_reorders (h0 : 0 < pq.len) :
    Reorders pq.len pq (Heap.down (pq.swap 0 (pq.len - 1)) 0 (pq.len - 1)).1 :=
  (reorders_swap pq h0 (by omega) le_rfl).trans
    ((down_reorders (pq.swap 0 (pq.len - 1)) (by simp) 0).mono (by omega))

theorem heapPop_fst (h0 : 0 < pq.len) : (Heap.pop pq).1 = pq.refs.getD 0 0 := by
  have hr := down_reorders (pq.swap 0 (pq.len - 1)) (n := pq.len - 1) (by simp) 0
  simp only [Heap.pop, pop_fst, hr.len, swap_len, hr.frame _ le_rfl]
  rw [swap_getD h0 (by omega), swapIdx_right]

theorem heapPop_refs (h0 : 0 < pq.len) :
    List.Perm ((Heap.pop pq).1 :: (Heap.pop pq).2.refs) pq.refs :=
  (pop_refs_perm (by rw [(heapPop_reorders h0).len]; exact h0)).trans (heapPop_reorders h0).perm

@[simp] theorem heapPop_entry (pq : PriorityQueue) (r : Nat) :
    ((Heap.pop pq).2.objs r).entry = (pq.objs r).entry := by
  simp only [Heap.pop, pop_objs_entry,
    (down_reorders (pq.swap 0 (pq.len - 1)) (n := pq.len - 1) (by simp) 0).entry, swap_objs_entry]

theorem heapPop_valid (h : pq.Valid) (h0 : 0 < pq.len) : (Heap.pop pq).2.Valid where
  indexed := by
    unfold Heap.pop
    exact pop_indexed ((heapPop_reorders h0).indexed h.indexed)
  ordered := by
    have hs : pq.len - 1 ≤ (pq.swap 0 (pq.len - 1)).len := by simp
    unfold Heap.pop
    rw [pop_len, (heapPop_reorders h0).len]
    apply Ordered.pop _ (by rw [(heapPop_reorders h0).len])
    intro c hc0 hcn
    refine down_ordered hs le_rfl ?_ (fun h => absurd h (Nat.lt_irrefl 0)) c hc0 hcn
      (Nat.zero_le _) (fun e => absurd e (Nat.ne_of_gt hc0))
    intro c hc0 hcn _ hpc _
    have hp := parent_lt hc0
    rw [swap_less h0 (by omega), swapIdx_other (Nat.ne_of_gt hc0) (by omega),
      swapIdx_other hpc (by omega)]
    exact h.ordered c hc0 (by omega)

/-! ## Remove -/

/-- The run of `heap.Remove(i)` before its final `h.Pop()`. -/
def removeRun (pq : PriorityQueue) (i : Nat) : PriorityQueue :=
  let d := Heap.down (pq.swap i (pq.len - 1)) i (pq.len - 1)
  if !d.2 then Heap.up (i + 1) d.1 i else d.1

theorem heapRemove_eq (hi : i < pq.len - 1) : Heap.remove pq i = (removeRun pq i).pop := by
  simp only [Heap.remove, removeRun, if_pos (Nat.ne_of_gt hi)]

theorem removeRun_reorders (hi : i < pq.len - 1) : Reorders pq.len pq (removeRun pq i) := by
  have hs := reorders_swap pq (n := pq.len) (i := i) (j := pq.len - 1) (by omega) (by omega) le_rfl
  have hd := down_reorders (pq.swap i (pq.len - 1)) (n := pq.len - 1) (by simp) i
  unfold removeRun
  dsimp only
  split
  · exact hs.trans ((hd.trans ((up_reorders _ _ _ (by rw [hd.len]; simp; omega)).mono
      (by omega))).mono (by omega))
  · exact hs.trans (hd.mono (by omega))

theorem removeRun_last (hi : i < pq.len - 1) :
    (removeRun pq i).refs.getD (pq.len - 1) 0 = pq.refs.getD i 0 := by
  have hd := down_reorders (pq.swap i (pq.len - 1)) (n := pq.len - 1) (by simp) i
  have hlast : (Heap.down (pq.swap i (pq.len - 1)) i (pq.len - 1)).1.refs.getD (pq.len - 1) 0 =
      pq.refs.getD i 0 := by
    rw [hd.frame _ le_rfl, swap_getD (by omega) (by omega), swapIdx_right]
  unfold removeRun
  dsimp only
  split
  · rw [(up_reorders _ _ _ (by rw [hd.len]; simp; omega)).frame _ (by omega), hlast]
  · exact hlast

theorem heapRemove_fst (hi : i < pq.len) : (Heap.remove pq i).1 = pq.refs.getD i 0 := by
  by_cases hl : i = pq.len - 1
  · simp only [Heap.remove, hl, ne_eq, not_true_eq_false, if_false, pop_fst]
  · rw [heapRemove_eq (by omega), pop_fst, (removeRun_reorders (by omega)).len, removeRun_last (by omega)]

theorem heapRemove_refs (hi : i < pq.len) :
    List.Perm ((Heap.remove pq i).1 :: (Heap.remove pq i).2.refs) pq.refs := by
  by_cases hl : i = pq.len - 1
  · simp only [Heap.remove, hl, ne_eq, not_true_eq_false, if_false]
    exact pop_refs_perm (by omega)
  · have hr : Reorders pq.len pq (removeRun pq i) := removeRun_reorders (by omega)
    rw [heapRemove_eq (by omega)]
    exact (pop_refs_perm (by rw [hr.len]; omega)).trans hr.perm

@[simp] theorem heapRemove_entry (pq : PriorityQueue) (i r : Nat) :
    ((Heap.remove pq i).2.objs r).entry = (pq.objs r).entry := by
  unfold Heap.remove
  dsimp only
  split
  · split <;> simp
  · simp

theorem removeRun_ordered (h : pq.Valid) (hi : i < pq.len - 1) :
    Ordered (removeRun pq i) (pq.len - 1) := by
  have hil : i < pq.len := by omega
  have hnl : pq.len - 1 < pq.len := by omega
  have hs : pq.len - 1 ≤ (pq.swap i (pq.len - 1)).len := by simp
  have hA : ∀ c, 0 < c → c < pq.len - 1 → 0 ≤ parent c → parent c ≠ i → c ≠ i →
      (pq.swap i (pq.len - 1)).less c (parent c) = false := by
    intro c hc0 hcn _ hpc hci
    have hp := parent_lt hc0
    rw [swap_less hil hnl, swapIdx_other hci (by omega), swapIdx_other hpc (by omega)]
    exact h.ordered c hc0 (by omega)
  have hG : 0 < i → 0 ≤ parent i → ∀ c, 0 < c → c < pq.len - 1 → parent c = i →
      (pq.swap i (pq.len - 1)).less c (parent i) = false := by
    intro hi0 _ c hc0 hcn hpc
    have hp := parent_lt hc0
    have hpi := parent_lt hi0
    rw [swap_less hil hnl, swapIdx_other (by omega) (by omega), swapIdx_other (by omega) (by omega)]
    have h1 := h.ordered c hc0 (by omega)
    rw [hpc] at h1
    exact QueueItem.not_less_trans h1 (h.ordered i hi0 hil)
  have hD := down_ordered hs (Nat.zero_le i) hA hG
  unfold removeRun
  dsimp only
  cases hm : (Heap.down (pq.swap i (pq.len - 1)) i (pq.len - 1)).2
  · simp only [Bool.not_false, ite_true]
    have hstay := down_not_moved hm
    apply up_ordered (i + 1) _ i (pq.len - 1) (by omega) hi (by rw [hstay]; exact hs)
    · intro c hc0 hcn hci
      exact hD c hc0 hcn (Nat.zero_le _) (fun e => absurd e hci)
    · intro hi0 c hc0 hcn hpc
      rw [hstay]
      exact hG hi0 (Nat.zero_le _) c hc0 hcn hpc
  · simp only [Bool.not_true, Bool.false_eq_true, ite_false]
    exact fun c hc0 hcn => hD c hc0 hcn (Nat.zero_le _) (fun _ => hm)

theorem heapRemove_valid (h : pq.Valid) (hi : i < pq.len) : (Heap.remove pq i).2.Valid := by
  by_cases hl : i = pq.len - 1
  · simp only [Heap.remove, hl, ne_eq, not_true_eq_false, if_false]
    exact ⟨pop_indexed h.indexed, by rw [pop_len]; exact (h.ordered.mono (by omega)).pop le_rfl⟩
  · have hr : Reorders pq.len pq (removeRun pq i) := removeRun_reorders (by omega)
    rw [heapRemove_eq (by omega)]
    refine ⟨pop_indexed (hr.indexed h.indexed), ?_⟩
    rw [pop_len, hr.len]
    exact (removeRun_ordered h (by omega)).pop (by rw [hr.len])

/-! ## Init -/

theorem init_valid (h : pq.Indexed) : (Heap.init pq).Valid :=
  ⟨(init_reorders pq).indexed h, by rw [(init_reorders pq).len]; exact init_ordered pq⟩

end PriorityQueue

end GpuScheduler
