/-
# The cycle of sequence numbers

Starting from a known number, `SeqNum.next` runs through all known numbers and then starts again.
This file gives the closed form of its iterates: `n` steps after a known number the position on
the cycle has moved by `n`, modulo the number of known numbers.

* `SeqNum.toNat_iterate_next`: the closed form;
* `SeqNum.iterate_next_ne_unknown`: the unknown number is never reached;
* `SeqNum.iterate_next_eq_iff`: two iterates agree exactly when they are a multiple of the
  period apart.
-/
import Mathlib.Data.List.Nodup
import Mathlib.Logic.Function.Iterate
import Mathlib.Tactic.Lemma
import RouteDiscovery.SeqNum.Store

namespace RouteDiscovery

namespace SeqNum

/-- The number of known sequence numbers. -/
def period : ℕ := 65535

/-- The successor on the numbers `1, …, 65535`. -/
lemma toNat_next (n : SeqNum) : n.next.toNat = n.toNat % period + 1 := by
  unfold next
  split
  · next h => subst h; rfl
  · next h =>
    have hne : n.toNat ≠ 65535 := fun e => h (UInt16.toNat_inj.1 e)
    have hlt : n.toNat < 65536 := n.toNat_lt
    rw [UInt16.toNat_add]
    simp only [period, UInt16.reduceToNat]
    omega

lemma ne_unknown_iff {n : SeqNum} : n ≠ unknown ↔ 0 < n.toNat := by
  rw [Nat.pos_iff_ne_zero, ne_eq, ne_eq, unknown, ← UInt16.toNat_inj]
  rfl

/-- The closed form of the iterates: a step moves the position `n - 1` by one, modulo the
period. -/
lemma toNat_iterate_next {n : SeqNum} (h : n ≠ unknown) (k : ℕ) :
    (next^[k] n).toNat = (n.toNat - 1 + k) % period + 1 := by
  have hpos := ne_unknown_iff.1 h
  have hlt : n.toNat < 65536 := n.toNat_lt
  induction k with
  | zero =>
    simp only [Function.iterate_zero, id_eq, period]
    omega
  | succ k ih =>
    rw [Function.iterate_succ_apply', toNat_next, ih]
    simp only [period]
    omega

lemma iterate_next_ne_unknown {n : SeqNum} (h : n ≠ unknown) (k : ℕ) : next^[k] n ≠ unknown := by
  rw [ne_unknown_iff, toNat_iterate_next h]
  exact Nat.succ_pos _

lemma iterate_next_eq_iff {n : SeqNum} (h : n ≠ unknown) {i j : ℕ} :
    next^[i] n = next^[j] n ↔ i % period = j % period := by
  rw [← UInt16.toNat_inj, toNat_iterate_next h, toNat_iterate_next h]
  simp only [period]
  omega

/-- Within one period the iterates are pairwise different. -/
lemma iterate_next_injOn {n : SeqNum} (h : n ≠ unknown) {i j : ℕ} (hij : i < j + period)
    (hji : j < i + period) (heq : next^[i] n = next^[j] n) : i = j := by
  have hmod := (iterate_next_eq_iff h).1 heq
  simp only [period] at hij hji hmod
  omega

/-- As many consecutive iterates as there are known numbers are pairwise different. -/
lemma nodup_iterate_next {n : SeqNum} (h : n ≠ unknown) (m k : ℕ) :
    ((((List.range m).drop k).take period).map (next^[·] n)).Nodup := by
  have hwindow : ∀ i ∈ ((List.range m).drop k).take period, k ≤ i ∧ i < k + period := by
    intro i hi
    obtain ⟨p, hp⟩ := List.mem_iff_getElem?.1 hi
    rw [List.getElem?_take, List.getElem?_drop, Option.ite_none_right_eq_some,
      List.getElem?_eq_some_iff] at hp
    obtain ⟨hlt, hrange, rfl⟩ := hp
    rw [List.getElem_range]
    omega
  refine List.Nodup.map_on (fun i hi j hj heq => ?_)
    (List.nodup_range.sublist ((List.take_sublist _ _).trans (List.drop_sublist _ _)))
  have hi := hwindow i hi
  have hj := hwindow j hj
  exact iterate_next_injOn h (by omega) (by omega) heq

end SeqNum

namespace Store

@[simp] lemma value_advance (s : Store) : s.advance.value = s.value.next := rfl

/-- A store never starts at the unknown number. -/
lemma value_startingAt_ne_unknown (n : SeqNum) : (startingAt n).value ≠ SeqNum.unknown := by
  unfold startingAt
  split
  · decide
  · next h => exact h

lemma follows_iff {s : Store} {issued : SeqNum} :
    s.follows issued = true ↔ s.value = issued.next := by
  simp [follows]

/-- Handing a number back right after it was taken undoes the taking. -/
lemma release_reserve (s : Store) :
    (s.reserve.state.release s.reserve.answer).state = s ∧
      (s.reserve.state.release s.reserve.answer).answer = true := by
  have h : s.advance.follows s.value = true := follows_iff.2 rfl
  exact ⟨if_pos h, h⟩

end Store

end RouteDiscovery
