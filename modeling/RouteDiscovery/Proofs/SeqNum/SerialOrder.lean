/-
# The serial order

Of two known numbers the one is newer that is ahead of the other by less than half the circle of
words (`SeqNum.isNewer_iff`).  Two questions are asked about this order.

* Does it agree with the order in which numbers are handed out?  The cycle of known numbers is one
  shorter than the circle, so a number that is handed out `k` steps after another is ahead of it by
  `k`, or by `k + 1` if the steps pass the end of the cycle (`SeqNum.ahead_iterate_next`).  Hence the
  two orders agree up to 32766 steps, and at 32767 steps unless the end is passed
  (`SeqNum.serial_order_agrees`).
* Do both sides of a comparison agree?  They do, unless the numbers lie opposite each other on the
  circle.  Then neither is newer (`SeqNum.compare_reversed_iff`).
-/
import RouteDiscovery.Proofs.SeqNum.Cycle

namespace RouteDiscovery

namespace SeqNum

variable {a b n : SeqNum} {k : ℕ}

/-! ## The circle of words -/

/-- Half the circle of words. -/
def half : ℕ := 32768

/-- How far the first number is ahead of the second on the circle of words. -/
def ahead (a b : SeqNum) : ℕ := (a - b).toNat

lemma ahead_eq (a b : SeqNum) : ahead a b = (65536 - b.toNat + a.toNat) % 65536 :=
  UInt16.toNat_sub a b

/-- Ahead the one way and ahead the other way make the whole circle. -/
lemma ahead_add_ahead (h : a ≠ b) : ahead a b + ahead b a = 65536 := by
  have hne : a.toNat ≠ b.toNat := fun heq => h (UInt16.toNat_inj.1 heq)
  have ha : a.toNat < 65536 := a.toNat_lt
  have hb : b.toNat < 65536 := b.toNat_lt
  rw [ahead_eq, ahead_eq]
  omega

lemma compare_self (a : SeqNum) : compare a a = .eq := if_pos rfl

lemma compare_unknown_left (h : b ≠ unknown) : compare unknown b = .lt := by
  rw [compare, if_neg h.symm, if_pos rfl]

lemma compare_unknown_right (h : a ≠ unknown) : compare a unknown = .gt := by
  rw [compare, if_neg h, if_neg h, if_pos rfl]

/-- Known numbers are compared on the circle. -/
lemma compare_known (ha : a ≠ unknown) (hb : b ≠ unknown) (hne : a ≠ b) :
    compare a b = if ahead a b < half then .gt else .lt := by
  rw [compare, if_neg hne, if_neg ha, if_neg hb]
  exact if_congr UInt16.lt_iff_toNat_lt rfl rfl

/-- Different numbers do not compare as equal. -/
lemma compare_ne_eq (hne : a ≠ b) : compare a b ≠ .eq := by
  rw [compare, if_neg hne]
  split_ifs <;> decide

/-- The newer of two known numbers is ahead by less than half the circle. -/
lemma isNewer_iff (ha : a ≠ unknown) (hb : b ≠ unknown) :
    isNewer a b = true ↔ 0 < ahead a b ∧ ahead a b < half := by
  rw [isNewer, beq_iff_eq]
  by_cases hne : a = b
  · subst hne
    have hzero : ahead a a = 0 := by rw [ahead, UInt16.sub_self]; rfl
    simp [compare_self, hzero]
  · have hpos : 0 < ahead a b := by
      have hsum := ahead_add_ahead hne
      have hlt : ahead b a < 65536 := (b - a).toNat_lt
      omega
    rw [compare_known ha hb hne]
    simp [hpos]

/-! ## The order of issue -/

/-- A number that follows in `k` steps is `k` ahead, and one more if the steps pass the end of the
cycle, where the unknown number is left out. -/
lemma ahead_iterate_next (h : n ≠ unknown) (hk : k < period) :
    ahead (next^[k] n) n = if n.toNat + k ≤ 65535 then k else k + 1 := by
  have hpos := ne_unknown_iff.1 h
  have hlt : n.toNat < 65536 := n.toNat_lt
  rw [ahead_eq, toNat_iterate_next h]
  simp only [period] at hk ⊢
  split <;> omega

/-- Within one cycle, when a number is newer than one that was handed out before. -/
lemma isNewer_iterate_next_iff (h : n ≠ unknown) (hk : k < period) :
    isNewer (next^[k] n) n = true ↔
      0 < k ∧ (if n.toNat + k ≤ 65535 then k ≤ 32767 else k ≤ 32766) := by
  have hahead := ahead_iterate_next h hk
  rw [isNewer_iff (iterate_next_ne_unknown h k) h, hahead, half]
  have hlt : n.toNat < 65536 := n.toNat_lt
  split <;> omega

/-- No number is older than one that was handed out shortly before. -/
lemma isNewer_iterate_next (h : n ≠ unknown) (hpos : 1 ≤ k) (hk : k ≤ 32766) :
    isNewer (next^[k] n) n = true ∧ isNewer n (next^[k] n) = false := by
  have hperiod : k < period := by
    simp only [period]
    omega
  have hnewer : isNewer (next^[k] n) n = true := by
    rw [isNewer_iterate_next_iff h hperiod]
    split <;> omega
  have hknown := iterate_next_ne_unknown h k
  obtain ⟨hahead, hhalf⟩ := (isNewer_iff hknown h).1 hnewer
  refine ⟨hnewer, Bool.eq_false_iff.2 fun holder => ?_⟩
  -- both would be ahead by less than half the circle
  obtain ⟨-, hhalf'⟩ := (isNewer_iff h hknown).1 holder
  have hne : next^[k] n ≠ n := by
    intro heq
    rw [heq, ahead_eq] at hahead
    have hlt : n.toNat < 65536 := n.toNat_lt
    omega
  have hsum := ahead_add_ahead hne
  simp only [half] at hhalf hhalf'
  omega

/-- The steps from a number pass the end of the cycle when they reach the last number. -/
lemma exists_iterate_next_eq_last (h : n ≠ unknown) (hk : k < period) :
    (∃ j < k, next^[j] n = 65535) ↔ 65535 < n.toNat + k := by
  have hpos := ne_unknown_iff.1 h
  have hlt : n.toNat < 65536 := n.toNat_lt
  have hlast : ∀ j, next^[j] n = 65535 ↔ (n.toNat - 1 + j) % period + 1 = 65535 := by
    intro j
    rw [← toNat_iterate_next h, ← UInt16.toNat_inj]
    rfl
  simp only [hlast, period] at hk ⊢
  constructor
  · rintro ⟨j, hj, heq⟩
    omega
  · intro hpast
    exact ⟨65535 - n.toNat, by omega, by omega⟩

end SeqNum

namespace Store

/-- The number that a store hands out after some steps. -/
lemma answer_reserve_iterate_advance (s : Store) (k : ℕ) :
    (advance^[k] s).reserve.answer = SeqNum.next^[k] s.value := by
  show (advance^[k] s).value = _
  induction k with
  | zero => rfl
  | succ k ih =>
    rw [Function.iterate_succ_apply', Function.iterate_succ_apply', value_advance, ih]

end Store

namespace SeqNum

/-- **The serial order agrees with the order of issue.**  The store hands out the `k`-th number
after a known one when it has gone `k` steps on.  If `k` is 1 to 32766, this number is newer than
the first, and the first is not newer than it.  The bound is sharp: after 32767 steps it is newer
exactly if the steps do not pass the end of the cycle. -/
theorem serial_order_agrees (h : n ≠ unknown) :
    (∀ k, (Store.advance^[k] ⟨n⟩).reserve.answer = next^[k] n) ∧
    (∀ k, 1 ≤ k → k ≤ 32766 →
      isNewer (next^[k] n) n = true ∧ isNewer n (next^[k] n) = false) ∧
    (isNewer (next^[32767] n) n = true ↔ n.toNat + 32767 ≤ 65535) ∧
    (isNewer (next^[32767] n) n = false ↔ ∃ j < 32767, next^[j] n = 65535) := by
  have hk : 32767 < period := by decide
  have hsharp : isNewer (next^[32767] n) n = true ↔ n.toNat + 32767 ≤ 65535 := by
    rw [isNewer_iterate_next_iff h hk]
    split <;> omega
  refine ⟨fun k => Store.answer_reserve_iterate_advance ⟨n⟩ k,
    fun k hpos hle => isNewer_iterate_next h hpos hle, hsharp, ?_⟩
  rw [exists_iterate_next_eq_last h hk, ← Bool.not_eq_true, hsharp, Nat.not_le]

/-- From the last number on, where the first step passes the end of the cycle. -/
theorem serial_order_from_the_last :
    (65535 : SeqNum) ≠ unknown ∧
      isNewer (next^[32766] 65535) 65535 = true ∧ isNewer 65535 (next^[32766] 65535) = false ∧
      isNewer (next^[32767] 65535) 65535 = false := by
  have hknown : (65535 : SeqNum) ≠ unknown := by decide
  obtain ⟨-, hnewer, -, hpast⟩ := serial_order_agrees hknown
  obtain ⟨hafter, hbefore⟩ := hnewer 32766 (by decide) (Nat.le_refl _)
  exact ⟨hknown, hafter, hbefore, hpast.2 ⟨0, by decide, rfl⟩⟩

/-! ## The two sides of a comparison -/

/-- Both numbers are known, and they are half the circle apart. -/
def Opposite (a b : SeqNum) : Prop :=
  a ≠ unknown ∧ b ≠ unknown ∧ (a.toNat + 32768 = b.toNat ∨ b.toNat + 32768 = a.toNat)

lemma opposite_iff_ahead (ha : a ≠ unknown) (hb : b ≠ unknown) :
    Opposite a b ↔ ahead a b = half := by
  have hlta : a.toNat < 65536 := a.toNat_lt
  have hltb : b.toNat < 65536 := b.toNat_lt
  rw [ahead_eq, half]
  constructor
  · rintro ⟨-, -, hapart⟩
    omega
  · intro hahead
    exact ⟨ha, hb, by omega⟩

lemma not_opposite_unknown_left : ¬ Opposite unknown b := fun h => h.1 rfl

lemma not_opposite_unknown_right : ¬ Opposite a unknown := fun h => h.2.1 rfl

/-- Where the numbers are not opposite, the comparison is reversed; opposite numbers are each
older than the other. -/
lemma compare_cases (a b : SeqNum) :
    (¬ Opposite a b ∧ compare b a = (compare a b).swap) ∨
      (Opposite a b ∧ compare a b = .lt ∧ compare b a = .lt) := by
  by_cases hne : a = b
  · subst hne
    have hself : ¬ Opposite a a := by
      rintro ⟨-, -, hapart⟩
      omega
    exact .inl ⟨hself, by rw [compare_self]; rfl⟩
  by_cases ha : a = unknown
  · subst ha
    have hb : b ≠ unknown := fun hb => hne hb.symm
    exact .inl ⟨not_opposite_unknown_left, by
      rw [compare_unknown_left hb, compare_unknown_right hb]; rfl⟩
  by_cases hb : b = unknown
  · subst hb
    exact .inl ⟨not_opposite_unknown_right, by
      rw [compare_unknown_left ha, compare_unknown_right ha]; rfl⟩
  -- two known numbers: one of them is ahead by less than half the circle, or both by half of it
  have hsum := ahead_add_ahead hne
  have hcircle : half + half = 65536 := rfl
  rw [opposite_iff_ahead ha hb, compare_known ha hb hne, compare_known hb ha (Ne.symm hne)]
  rcases Nat.lt_trichotomy (ahead a b) half with hlt | heq | hgt
  · refine .inl ⟨by omega, ?_⟩
    rw [if_pos hlt, if_neg (by omega)]
    rfl
  · exact .inr ⟨heq, if_neg (by omega), if_neg (by omega)⟩
  · refine .inl ⟨by omega, ?_⟩
    rw [if_pos (by omega), if_neg (by omega)]
    rfl

/-- **A comparison is reversed unless the numbers are opposite.**  For any two numbers: comparing
them the other way round gives the reverse exactly if they are not opposite.  Of two different
numbers exactly one is newer, exactly if they are not opposite; and of opposite numbers neither is
newer. -/
theorem compare_reversed_iff (a b : SeqNum) :
    (compare b a = (compare a b).swap ↔ ¬ Opposite a b) ∧
      (a ≠ b → ((isNewer b a = !isNewer a b) ↔ ¬ Opposite a b)) ∧
      (Opposite a b → isNewer a b = false ∧ isNewer b a = false) := by
  simp only [isNewer]
  rcases compare_cases a b with ⟨hnot, hswap⟩ | ⟨hopposite, hab, hba⟩
  · refine ⟨⟨fun _ => hnot, fun _ => hswap⟩, fun hne => ⟨fun _ => hnot, fun _ => ?_⟩,
      fun hopposite => absurd hopposite hnot⟩
    rw [hswap]
    cases hcompare : compare a b with
    | lt => rfl
    | eq => exact absurd hcompare (compare_ne_eq hne)
    | gt => rfl
  · rw [hab, hba]
    simp [hopposite]

/-- The numbers 1 and 32769 lie opposite each other: each is older than the other. -/
theorem opposite_not_reversed :
    ¬ ∀ a b : SeqNum, compare b a = (compare a b).swap ∧
      (a ≠ b → (isNewer b a = !isNewer a b)) := by
  intro h
  exact absurd (h 1 32769).1 (by decide)

end SeqNum

end RouteDiscovery
