/-
# The unknown number

No store starts at the unknown number, and none reaches it by handing numbers out.  There is one
way in: the store takes back any number whose successor is its value, and the first number is also
the successor of the unknown one.  A store at the first number that is given back the unknown number
therefore steps back to it, and the next reservation hands it out.

`Store.unknown_iff_handed_back` says that this is the only way, moment by moment: the store holds
the unknown number exactly if it was handed back at the first number and nothing has moved the store
on since.
-/
import RouteDiscovery.Proofs.SeqNum.Reservations

namespace RouteDiscovery

open SeqNum

/-- The unknown number has a successor too, although it follows no number. -/
lemma SeqNum.next_unknown : next unknown = initial := by decide

namespace Store

/-! ## One operation -/

variable {s : Store} {op : Op} {n : SeqNum}

/-- The unknown number is taken back at the first number only. -/
lemma follows_unknown_iff : s.follows unknown = true ↔ s.value = initial := by
  rw [follows_iff, next_unknown]

lemma value_release_eq_unknown_iff :
    (s.release n).state.value = unknown ↔
      n = unknown ∧ s.value = initial ∨ s.value = unknown := by
  unfold release
  cases hfollows : s.follows n with
  | true =>
    -- the store steps back to the number that is handed back, and its own number follows that one
    have hne : s.value ≠ unknown := follows_iff.1 hfollows ▸ n.next_ne_unknown
    simp only [if_true]
    constructor
    · rintro rfl
      exact .inl ⟨rfl, follows_unknown_iff.1 hfollows⟩
    · rintro (⟨hn, -⟩ | hs)
      · exact hn
      · exact absurd hs hne
  | false =>
    simp only [Bool.false_eq_true, if_false]
    constructor
    · exact .inr
    · rintro (⟨rfl, hs⟩ | hs)
      · exact absurd (follows_unknown_iff.2 hs) (by rw [hfollows]; exact Bool.false_ne_true)
      · exact hs

/-- After one operation the store holds the unknown number if the operation hands it back at the
first number, or if the store held it before and the operation does not move the store on. -/
lemma value_apply_eq_unknown_iff :
    (s.apply op).state.value = unknown ↔
      op = .release unknown ∧ s.value = initial ∨ s.value = unknown ∧ op.advances = false := by
  cases op with
  | current => simp [apply, Op.advances]
  | increment | reserve => simp [apply, increment, reserve, next_ne_unknown, Op.advances]
  | release n =>
    show (s.release n).state.value = unknown ↔ _
    rw [value_release_eq_unknown_iff]
    simp [Op.advances]

/-- The unknown number is the answer of an operation that reads the number of a store which holds
it; an increment answers with a successor. -/
lemma answer_apply_eq_unknown_iff :
    (s.apply op).answer = .number unknown ↔
      (op = .current ∨ op = .reserve) ∧ s.value = unknown := by
  cases op with
  | current | reserve => simp [apply, current, reserve]
  | increment => simp [apply, increment, next_ne_unknown]
  | release n => simp [apply]

/-! ## Histories -/

variable {ops : List Op} {i : ℕ}

/-- Step `j` hands the unknown number back to a store at the first number. -/
def HandsBackUnknown (s : Store) (ops : List Op) (j : ℕ) : Prop :=
  ops[j]? = some (.release unknown) ∧ (s.after ops j).value = initial

/-- No step after step `j` and before step `i` moves the store on. -/
def StandsStill (ops : List Op) (j i : ℕ) : Prop :=
  ∀ k, j < k → k < i → ∀ op, ops[k]? = some op → op.advances = false

lemma standsStill_succ_iff {j : ℕ} (hj : j < i) :
    StandsStill ops j (i + 1) ↔
      StandsStill ops j i ∧ ∀ op, ops[i]? = some op → op.advances = false := by
  constructor
  · intro h
    exact ⟨fun k hjk hki => h k hjk (Nat.lt_succ_of_lt hki), h i hj (Nat.lt_succ_self i)⟩
  · rintro ⟨hbefore, hlast⟩ k hjk hk
    rcases Nat.lt_succ_iff_lt_or_eq.1 hk with hki | rfl
    · exact hbefore k hjk hki
    · exact hlast

/-- Before step `i` the store holds the unknown number exactly if an earlier step handed it back at
the first number and the store has stood still since. -/
lemma value_after_eq_unknown_iff (hs : s.value ≠ unknown) (ops : List Op) (i : ℕ) :
    (s.after ops i).value = unknown ↔ ∃ j < i, s.HandsBackUnknown ops j ∧ StandsStill ops j i := by
  induction i with
  | zero =>
    refine ⟨fun h => absurd h hs, ?_⟩
    rintro ⟨j, hj, -⟩
    exact absurd hj (Nat.not_lt_zero j)
  | succ i ih =>
    have hsplit : (∃ j < i + 1, s.HandsBackUnknown ops j ∧ StandsStill ops j (i + 1)) ↔
        s.HandsBackUnknown ops i ∨
          (s.after ops i).value = unknown ∧ ∀ op, ops[i]? = some op → op.advances = false := by
      rw [ih]
      constructor
      · rintro ⟨j, hj, hback, hstill⟩
        rcases Nat.lt_succ_iff_lt_or_eq.1 hj with hlt | rfl
        · obtain ⟨hbefore, hlast⟩ := (standsStill_succ_iff hlt).1 hstill
          exact .inr ⟨⟨j, hlt, hback, hbefore⟩, hlast⟩
        · exact .inl hback
      · rintro (hback | ⟨⟨j, hlt, hback, hbefore⟩, hlast⟩)
        · exact ⟨i, Nat.lt_succ_self i, hback, fun k hik hk => by omega⟩
        · exact ⟨j, Nat.lt_succ_of_lt hlt, hback, (standsStill_succ_iff hlt).2 ⟨hbefore, hlast⟩⟩
    rw [hsplit, HandsBackUnknown]
    cases hop : ops[i]? with
    | none => simp [after_succ_of_none hop]
    | some op => simp [after_succ hop, value_apply_eq_unknown_iff]

/-- **The unknown number is out only after it was handed back.**  For every start and every history
of operations with whatever arguments: the store holds the unknown number exactly if a step handed
it back at the first number and no step has moved the store on since, and a step answers with the
unknown number exactly if it reads or reserves the number of such a store. -/
theorem unknown_iff_handed_back (start : SeqNum) (ops : List Op) (i : ℕ) :
    (((startingAt start).after ops i).value = unknown ↔
      ∃ j < i, (startingAt start).HandsBackUnknown ops j ∧ StandsStill ops j i) ∧
    ((startingAt start).answerAt? ops i = some (.number unknown) ↔
      (ops[i]? = some .current ∨ ops[i]? = some .reserve) ∧
        ∃ j < i, (startingAt start).HandsBackUnknown ops j ∧ StandsStill ops j i) := by
  have hvalue := value_after_eq_unknown_iff (value_startingAt_ne_unknown start) ops i
  refine ⟨hvalue, ?_⟩
  rw [← hvalue]
  cases hop : ops[i]? with
  | none =>
    have hnone : (startingAt start).answerAt? ops i = none := by
      rw [answerAt?, List.getElem?_eq_none_iff, length_answer_run]
      exact List.getElem?_eq_none_iff.1 hop
    simp [hnone]
  | some op =>
    rw [answerAt?_eq hop, Option.some.injEq, answer_apply_eq_unknown_iff]
    simp

/-- A fresh store that is given back the unknown number hands it out. -/
theorem unknown_is_handed_out :
    ¬ ∀ (start : SeqNum) (ops : List Op) (i : ℕ),
      ((startingAt start).after ops i).value ≠ unknown ∧
        (startingAt start).answerAt? ops i ≠ some (.number unknown) := by
  intro h
  exact (h initial [.release unknown, .reserve] 1).2 (by decide)

end Store

end RouteDiscovery
