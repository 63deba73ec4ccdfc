/-
# Outstanding reservations

Several parties take numbers from one store and may hand back what they did not use.  The steps
of all parties form one history, a list of operations.  Every number that is handed back was
taken at an earlier step, and no number is handed back twice (`Store.HandsBackOnce`).

The store remembers its value only.  What it cannot see is kept here as the list of *open steps*
(`Store.openSteps`): the steps that moved the store on and were not stepped back.  A step that
moves the store on is put at the end of the list, and a hand-back that steps back removes the
last one.  The invariant (`Store.OpenInv`) says that the value is as many numbers past the start
as there are open steps, and that the number taken at the `p`-th open step is the `p`-th after
the start.  As long as there are no more such steps than known numbers, the store therefore steps
back exactly if the number handed back was taken at the last open step.
-/
import RouteDiscovery.Proofs.SeqNum.Cycle

namespace RouteDiscovery

open SeqNum

namespace Store

/-! ## Moments of a history -/

/-- The store after the first `i` operations of a history. -/
def after (s : Store) (ops : List Op) (i : ℕ) : Store := (s.run (ops.take i)).state

/-- The answer to the operation at an index of a history. -/
def answerAt? (s : Store) (ops : List Op) (i : ℕ) : Option Answer := (s.run ops).answer[i]?

lemma run_append (s : Store) (a b : List Op) :
    (s.run (a ++ b)).state = ((s.run a).state.run b).state ∧
      (s.run (a ++ b)).answer = (s.run a).answer ++ ((s.run a).state.run b).answer := by
  induction a generalizing s with
  | nil => exact ⟨rfl, rfl⟩
  | cons op a ih =>
    obtain ⟨hstate, hanswer⟩ := ih (s.apply op).state
    exact ⟨hstate, by simp only [List.cons_append, run, hanswer]⟩

@[simp] lemma length_answer_run (s : Store) (ops : List Op) :
    (s.run ops).answer.length = ops.length := by
  induction ops generalizing s with
  | nil => rfl
  | cons op ops ih => simp only [run, List.length_cons, ih]

variable {s : Store} {ops : List Op} {i : ℕ}

lemma after_succ {op : Op} (h : ops[i]? = some op) :
    s.after ops (i + 1) = ((s.after ops i).apply op).state := by
  unfold after
  rw [List.take_add_one, h, Option.toList_some, (run_append s _ _).1]
  rfl

lemma after_succ_of_none (h : ops[i]? = none) : s.after ops (i + 1) = s.after ops i := by
  unfold after
  rw [List.take_add_one, h, Option.toList_none, List.append_nil]

lemma answerAt?_eq {op : Op} (h : ops[i]? = some op) :
    s.answerAt? ops i = some ((s.after ops i).apply op).answer := by
  obtain ⟨hi, hop⟩ := List.getElem?_eq_some_iff.1 h
  have hsplit : ops = ops.take i ++ op :: ops.drop (i + 1) := by
    rw [← hop, List.getElem_cons_drop, List.take_append_drop]
  have hlen : (s.run (ops.take i)).answer.length = i := by
    rw [length_answer_run, List.length_take, Nat.min_eq_left (Nat.le_of_lt hi)]
  have hanswer : (s.run ops).answer =
      (s.run (ops.take i)).answer ++ ((s.after ops i).run (op :: ops.drop (i + 1))).answer := by
    rw [after, ← (run_append s _ _).2, ← hsplit]
  -- the answer stands right behind the answers to the steps before it
  rw [answerAt?, hanswer, List.getElem?_append_right (Nat.le_of_eq hlen), hlen, Nat.sub_self]
  rfl

/-- Whether a hand-back steps back. -/
lemma answerAt?_release {n : SeqNum} (h : ops[i]? = some (.release n)) :
    s.answerAt? ops i = some (.steppedBack ((s.after ops i).follows n)) :=
  answerAt?_eq h

/-! ## Hand-backs -/

/-- Whether an operation moves the store on. -/
def Op.advances : Op → Bool
  | .increment | .reserve => true
  | _ => false

/-- Every number that is handed back was taken at an earlier step, and no number is handed back
twice: the number that step `i` hands back is the one that was taken at step `taken i`. -/
structure HandsBackOnce (s : Store) (ops : List Op) (taken : ℕ → ℕ) : Prop where
  /-- It was taken before. -/
  lt : ∀ i n, ops[i]? = some (.release n) → taken i < i
  /-- It was taken by a reservation. -/
  reserve : ∀ i n, ops[i]? = some (.release n) → ops[taken i]? = some .reserve
  /-- It is the number that the reservation answered. -/
  answer : ∀ i n, ops[i]? = some (.release n) → s.answerAt? ops (taken i) = some (.number n)
  /-- No other step hands it back. -/
  once : ∀ i j m n, ops[i]? = some (.release m) → ops[j]? = some (.release n) →
    taken i = taken j → i = j

/-- The reservation of step `k` was stepped back before step `i`. -/
def IsSteppedBack (s : Store) (ops : List Op) (taken : ℕ → ℕ) (k i : ℕ) : Prop :=
  ∃ j < i, taken j = k ∧ (∃ n, ops[j]? = some (.release n)) ∧
    s.answerAt? ops j = some (.steppedBack true)

variable {taken : ℕ → ℕ} {k : ℕ}

lemma isSteppedBack_succ_of_ne (h : ∀ n, ops[i]? ≠ some (.release n)) :
    s.IsSteppedBack ops taken k (i + 1) ↔ s.IsSteppedBack ops taken k i := by
  constructor
  · rintro ⟨j, hj, hk, ⟨n, hn⟩, hans⟩
    rcases Nat.lt_succ_iff_lt_or_eq.1 hj with hlt | rfl
    · exact ⟨j, hlt, hk, ⟨n, hn⟩, hans⟩
    · exact absurd hn (h n)
  · rintro ⟨j, hj, hrest⟩
    exact ⟨j, Nat.lt_succ_of_lt hj, hrest⟩

lemma isSteppedBack_succ_of_release {n : SeqNum} (h : ops[i]? = some (.release n)) :
    s.IsSteppedBack ops taken k (i + 1) ↔
      s.IsSteppedBack ops taken k i ∨ taken i = k ∧ (s.after ops i).follows n = true := by
  constructor
  · rintro ⟨j, hj, hk, hrel, hans⟩
    rcases Nat.lt_succ_iff_lt_or_eq.1 hj with hlt | rfl
    · exact Or.inl ⟨j, hlt, hk, hrel, hans⟩
    · rw [answerAt?_release h] at hans
      exact Or.inr ⟨hk, by simpa using hans⟩
  · rintro (⟨j, hj, hrest⟩ | ⟨hk, hfollows⟩)
    · exact ⟨j, Nat.lt_succ_of_lt hj, hrest⟩
    · exact ⟨i, Nat.lt_succ_self i, hk, ⟨n, h⟩, by rw [answerAt?_release h, hfollows]⟩

/-! ## Open steps -/

/-- The steps before step `i` that moved the store on and were not stepped back, oldest first. -/
def openSteps (s : Store) (ops : List Op) : ℕ → List ℕ
  | 0 => []
  | i + 1 =>
    match ops[i]? with
    | some .increment | some .reserve => openSteps s ops i ++ [i]
    | some (.release n) =>
      if (s.after ops i).follows n then (openSteps s ops i).dropLast else openSteps s ops i
    | some .current | none => openSteps s ops i

lemma openSteps_succ_of_advances {op : Op} (h : ops[i]? = some op) (hop : op.advances = true) :
    s.openSteps ops (i + 1) = s.openSteps ops i ++ [i] := by
  cases op with
  | increment | reserve => simp only [openSteps, h]
  | current | release => exact absurd hop (by simp [Op.advances])

lemma openSteps_succ_of_release {n : SeqNum} (h : ops[i]? = some (.release n)) :
    s.openSteps ops (i + 1) =
      if (s.after ops i).follows n then (s.openSteps ops i).dropLast else s.openSteps ops i := by
  simp only [openSteps, h]

/-- What the open steps say about the store before step `i`. -/
structure OpenInv (s : Store) (ops : List Op) (taken : ℕ → ℕ) (i : ℕ) : Prop where
  /-- The value is as many numbers past the start as there are open steps. -/
  value : (s.after ops i).value = next^[(s.openSteps ops i).length] s.value
  /-- The open steps are in order. -/
  sorted : (s.openSteps ops i).Pairwise (· < ·)
  /-- They are the increments and the reservations that were not stepped back. -/
  mem_iff : ∀ k, k ∈ s.openSteps ops i ↔ k < i ∧
    (ops[k]? = some .increment ∨ ops[k]? = some .reserve ∧ ¬ s.IsSteppedBack ops taken k i)
  /-- The number taken at the `p`-th open step is the `p`-th after the start. -/
  answer : ∀ p k, (s.openSteps ops i)[p]? = some k → ops[k]? = some .reserve →
    s.answerAt? ops k = some (.number (next^[p] s.value))
  /-- There are no more open steps than steps that moved the store on. -/
  length_le : (s.openSteps ops i).length ≤ (ops.take i).countP Op.advances

lemma openInv_zero : OpenInv s ops taken 0 where
  value := rfl
  sorted := List.Pairwise.nil
  mem_iff := by simp [openSteps]
  answer := by simp [openSteps]
  length_le := Nat.le_refl 0

lemma state_apply_of_advances {op : Op} (hop : op.advances = true) :
    (s.apply op).state = s.advance := by
  cases op with
  | increment | reserve => rfl
  | current | release => exact absurd hop (by simp [Op.advances])

/-- A step that moves the store on becomes the last open step. -/
lemma OpenInv.advance (hb : s.HandsBackOnce ops taken) {op : Op} (h : OpenInv s ops taken i)
    (hi : ops[i]? = some op) (hop : op.advances = true) : OpenInv s ops taken (i + 1) := by
  have hne : ∀ n, ops[i]? ≠ some (.release n) := by
    intro n hn
    rw [hi, Option.some.injEq] at hn
    subst hn
    exact absurd hop (by simp [Op.advances])
  have hsteps := openSteps_succ_of_advances (s := s) hi hop
  refine ⟨?_, ?_, ?_, ?_, ?_⟩
  · -- the value and the open steps both grow by one
    rw [after_succ hi, state_apply_of_advances hop, value_advance, h.value, hsteps,
      List.length_append, List.length_singleton, Function.iterate_succ_apply']
  · rw [hsteps, List.pairwise_append]
    refine ⟨h.sorted, List.pairwise_singleton _ _, ?_⟩
    intro k hk j hj
    rw [List.mem_singleton.1 hj]
    exact ((h.mem_iff k).1 hk).1
  · intro k
    rw [hsteps, List.mem_append, List.mem_singleton, h.mem_iff, isSteppedBack_succ_of_ne hne]
    constructor
    · rintro (⟨hk, hrest⟩ | rfl)
      · exact ⟨Nat.lt_succ_of_lt hk, hrest⟩
      · refine ⟨Nat.lt_succ_self k, ?_⟩
        cases op with
        | increment => exact Or.inl hi
        | reserve =>
          -- nobody can hand back a number before it is taken
          refine Or.inr ⟨hi, ?_⟩
          rintro ⟨j, hj, hjk, ⟨n, hn⟩, -⟩
          have hlt := hb.lt j n hn
          omega
        | current | release => exact absurd hop (by simp [Op.advances])
    · rintro ⟨hk, hrest⟩
      rcases Nat.lt_succ_iff_lt_or_eq.1 hk with hlt | heq
      · exact Or.inl ⟨hlt, hrest⟩
      · exact Or.inr heq
  · intro p k hp hk
    rw [hsteps] at hp
    rcases Nat.lt_or_ge p (s.openSteps ops i).length with hlt | hge
    · rw [List.getElem?_append_left hlt] at hp
      exact h.answer p k hp hk
    · rw [List.getElem?_append_right hge, List.getElem?_singleton] at hp
      split at hp
      · next h0 =>
        -- the new open step took the value of the store, whose position is the number of open steps
        obtain rfl : i = k := by simpa using hp
        have hpe : p = (s.openSteps ops i).length := by omega
        rw [answerAt?_eq hk, hpe, ← h.value]
        rfl
      · exact absurd hp (by simp)
  · rw [hsteps, List.length_append, List.length_singleton, List.take_add_one, hi,
      Option.toList_some, List.countP_append, List.countP_singleton, if_pos hop]
    exact Nat.succ_le_succ h.length_le

/-- A step that neither moves the store on nor hands back changes nothing. -/
lemma OpenInv.idle (h : OpenInv s ops taken i) (hi : ops[i]? = some .current ∨ ops[i]? = none) :
    OpenInv s ops taken (i + 1) := by
  have hafter : s.after ops (i + 1) = s.after ops i := by
    rcases hi with hi | hi
    · exact after_succ hi
    · exact after_succ_of_none hi
  have hsteps : s.openSteps ops (i + 1) = s.openSteps ops i := by
    rcases hi with hi | hi <;> simp only [openSteps, hi]
  have hne : ∀ n, ops[i]? ≠ some (.release n) := by
    rcases hi with hi | hi <;> simp [hi]
  refine ⟨by rw [hafter, hsteps, h.value], by rw [hsteps]; exact h.sorted, ?_,
    by rw [hsteps]; exact h.answer, ?_⟩
  · intro k
    rw [hsteps, h.mem_iff, isSteppedBack_succ_of_ne hne]
    refine and_congr_left fun hk => ⟨Nat.lt_succ_of_lt, fun hlt => ?_⟩
    rcases Nat.lt_succ_iff_lt_or_eq.1 hlt with hlt | rfl
    · exact hlt
    · rcases hi with hi | hi <;> simp [hi] at hk
  · rw [hsteps, List.take_add_one, List.countP_append]
    exact Nat.le_trans h.length_le (Nat.le_add_right _ _)

/-- The number that is handed back was taken at an open step. -/
lemma OpenInv.exists_position (hb : s.HandsBackOnce ops taken) {n : SeqNum}
    (h : OpenInv s ops taken i) (hi : ops[i]? = some (.release n)) :
    ∃ p, (s.openSteps ops i)[p]? = some (taken i) ∧ n = next^[p] s.value := by
  have hopen : taken i ∈ s.openSteps ops i := by
    rw [h.mem_iff]
    refine ⟨hb.lt i n hi, Or.inr ⟨hb.reserve i n hi, ?_⟩⟩
    rintro ⟨j, hj, hji, ⟨m, hm⟩, -⟩
    have heq := hb.once j i m n hm hi hji
    omega
  obtain ⟨p, hp⟩ := List.mem_iff_getElem?.1 hopen
  refine ⟨p, hp, ?_⟩
  have hans := h.answer p (taken i) hp (hb.reserve i n hi)
  rw [hb.answer i n hi] at hans
  simpa using hans

/-- There are at most as many open steps as known numbers. -/
lemma OpenInv.length_le_period (hcount : ops.countP Op.advances ≤ period)
    (h : OpenInv s ops taken i) : (s.openSteps ops i).length ≤ period := by
  have htake : (ops.take i).countP Op.advances ≤ ops.countP Op.advances :=
    List.Sublist.countP_le (List.take_sublist i ops)
  exact Nat.le_trans h.length_le (Nat.le_trans htake hcount)

/-- The store steps back exactly if the number was taken at the last open step, because no other
position gives the same number. -/
lemma OpenInv.follows_iff (hs : s.value ≠ unknown) (hcount : ops.countP Op.advances ≤ period)
    (h : OpenInv s ops taken i) {p : ℕ} (hp : p < (s.openSteps ops i).length) :
    (s.after ops i).follows (next^[p] s.value) = true ↔ (s.openSteps ops i).length = p + 1 := by
  have hle := h.length_le_period hcount
  rw [Store.follows_iff, h.value, ← Function.iterate_succ_apply' next p]
  constructor
  · exact iterate_next_injOn hs (by omega) (by omega)
  · rintro hlen
    rw [hlen]

/-- A hand-back removes the last open step or leaves the open steps as they are. -/
lemma OpenInv.release (hs : s.value ≠ unknown) (hb : s.HandsBackOnce ops taken)
    (hcount : ops.countP Op.advances ≤ period) {n : SeqNum} (h : OpenInv s ops taken i)
    (hi : ops[i]? = some (.release n)) : OpenInv s ops taken (i + 1) := by
  obtain ⟨p, hp, rfl⟩ := h.exists_position hb hi
  obtain ⟨hplt, hpe⟩ := List.getElem?_eq_some_iff.1 hp
  have hiff := h.follows_iff hs hcount hplt
  have hafter : s.after ops (i + 1) =
      if (s.after ops i).follows (next^[p] s.value) then ⟨next^[p] s.value⟩ else s.after ops i :=
    after_succ hi
  have hsteps := openSteps_succ_of_release (s := s) hi
  have hcountP : (ops.take i).countP Op.advances ≤ (ops.take (i + 1)).countP Op.advances := by
    rw [List.take_add_one, List.countP_append]
    exact Nat.le_add_right _ _
  cases hf : (s.after ops i).follows (next^[p] s.value) with
  | false =>
    -- nothing is stepped back, so the store and the open steps stay
    rw [hf] at hafter hsteps
    simp only [Bool.false_eq_true, if_false] at hafter hsteps
    refine ⟨by rw [hafter, hsteps, h.value], by rw [hsteps]; exact h.sorted, ?_,
      by rw [hsteps]; exact h.answer, by rw [hsteps]; exact Nat.le_trans h.length_le hcountP⟩
    intro k
    rw [hsteps, h.mem_iff, isSteppedBack_succ_of_release hi]
    simp only [hf, Bool.false_eq_true, and_false, or_false]
    refine and_congr_left fun hk => ⟨Nat.lt_succ_of_lt, fun hlt => ?_⟩
    rcases Nat.lt_succ_iff_lt_or_eq.1 hlt with hlt | rfl
    · exact hlt
    · simp [hi] at hk
  | true =>
    have hlen := hiff.1 hf
    rw [hf] at hafter hsteps
    simp only [if_true] at hafter hsteps
    -- the step that goes is the one at which the number was taken
    have hlast : s.openSteps ops i = s.openSteps ops (i + 1) ++ [taken i] := by
      have hne : s.openSteps ops i ≠ [] := List.ne_nil_of_length_pos (by omega)
      have hget : (s.openSteps ops i).getLast hne = taken i := by
        rw [List.getLast_eq_getElem, ← hpe]
        simp only [hlen, Nat.add_sub_cancel]
      rw [hsteps, ← hget, List.dropLast_concat_getLast]
    have hrest : (s.openSteps ops (i + 1)).length = p := by
      rw [hsteps, List.length_dropLast, hlen, Nat.add_sub_cancel]
    have hsorted := h.sorted
    rw [hlast, List.pairwise_append] at hsorted
    have hle := h.length_le
    refine ⟨by rw [hafter, hrest], hsorted.1, ?_, ?_, by omega⟩
    · intro k
      have hmem : k ∈ s.openSteps ops (i + 1) ↔ k ∈ s.openSteps ops i ∧ taken i ≠ k := by
        rw [hlast, List.mem_append, List.mem_singleton]
        constructor
        · intro hk
          exact ⟨Or.inl hk, Nat.ne_of_gt (hsorted.2.2 k hk _ (List.mem_singleton_self _))⟩
        · rintro ⟨hk | rfl, hne⟩
          · exact hk
          · exact absurd rfl hne
      rw [hmem, h.mem_iff, isSteppedBack_succ_of_release hi]
      constructor
      · rintro ⟨⟨hk, hop⟩, hne⟩
        refine ⟨Nat.lt_succ_of_lt hk, hop.imp_right fun hres => ⟨hres.1, ?_⟩⟩
        rintro (hback | ⟨heq, -⟩)
        · exact hres.2 hback
        · exact hne heq
      · rintro ⟨hk, hop⟩
        have hlt : k < i := by
          rcases Nat.lt_succ_iff_lt_or_eq.1 hk with hlt | rfl
          · exact hlt
          · simp [hi] at hop
        rcases hop with hinc | ⟨hres, hback⟩
        · refine ⟨⟨hlt, Or.inl hinc⟩, ?_⟩
          rintro rfl
          simp [hb.reserve i _ hi] at hinc
        · refine ⟨⟨hlt, Or.inr ⟨hres, fun hb' => hback (Or.inl hb')⟩⟩, fun heq => ?_⟩
          exact hback (Or.inr ⟨heq, hf⟩)
    · -- the positions of the steps that stay are the same
      intro q k hq hk
      refine h.answer q k ?_ hk
      rw [hlast, List.getElem?_append_left (List.getElem?_eq_some_iff.1 hq).1]
      exact hq

/-- The invariant holds before every step. -/
lemma openInv (hs : s.value ≠ unknown) (hb : s.HandsBackOnce ops taken)
    (hcount : ops.countP Op.advances ≤ period) (i : ℕ) : OpenInv s ops taken i := by
  induction i with
  | zero => exact openInv_zero
  | succ i ih =>
    cases hi : ops[i]? with
    | none => exact ih.idle (Or.inr hi)
    | some op =>
      cases op with
      | current => exact ih.idle (Or.inl hi)
      | increment | reserve => exact ih.advance hb hi rfl
      | release n => exact ih.release hs hb hcount hi

/-! ## What the store answers -/

/-- The last open step is the one after which no open step follows. -/
lemma OpenInv.length_eq_iff (h : OpenInv s ops taken i) {p j : ℕ}
    (hp : (s.openSteps ops i)[p]? = some j) :
    (s.openSteps ops i).length = p + 1 ↔ ∀ k, j < k → k ∉ s.openSteps ops i := by
  obtain ⟨hplt, rfl⟩ := List.getElem?_eq_some_iff.1 hp
  have hlt := List.pairwise_iff_getElem.1 h.sorted
  constructor
  · -- an open step after the last position would come before it in the order
    intro hlen k hk hmem
    obtain ⟨q, hq, rfl⟩ := List.mem_iff_getElem.1 hmem
    rcases Nat.lt_or_ge q p with hqp | hqp
    · have := hlt q p hq hplt hqp
      omega
    · obtain rfl : q = p := by omega
      exact Nat.lt_irrefl _ hk
  · intro hall
    by_contra hne
    have hnext : p + 1 < (s.openSteps ops i).length := by omega
    exact hall _ (hlt p (p + 1) hplt hnext (Nat.lt_succ_self p)) (List.getElem_mem hnext)

/-- A hand-back steps back exactly if every later step that moved the store on was a reservation
that was stepped back. -/
lemma OpenInv.follows_iff_later (hs : s.value ≠ unknown) (hb : s.HandsBackOnce ops taken)
    (hcount : ops.countP Op.advances ≤ period) (h : OpenInv s ops taken i) {n : SeqNum}
    (hi : ops[i]? = some (.release n)) :
    (s.after ops i).follows n = true ↔ ∀ k, taken i < k → k < i → ops[k]? ≠ some .increment ∧
      (ops[k]? = some .reserve → s.IsSteppedBack ops taken k i) := by
  obtain ⟨p, hp, rfl⟩ := h.exists_position hb hi
  rw [h.follows_iff hs hcount (List.getElem?_eq_some_iff.1 hp).1, h.length_eq_iff hp]
  refine forall_congr' fun k => imp_congr_right fun _ => ?_
  rw [h.mem_iff]
  constructor
  · intro hopen hk
    refine ⟨fun hinc => hopen ⟨hk, Or.inl hinc⟩, fun hres => ?_⟩
    by_contra hback
    exact hopen ⟨hk, Or.inr ⟨hres, hback⟩⟩
  · rintro hlater ⟨hk, hinc | ⟨hres, hback⟩⟩
    · exact (hlater hk).1 hinc
    · exact hback ((hlater hk).2 hres)

/-- The answer to a reservation that was not stepped back tells its position among the open
steps. -/
lemma OpenInv.exists_answer (h : OpenInv s ops taken i) (hk : k < i)
    (hres : ops[k]? = some .reserve) (hback : ¬ s.IsSteppedBack ops taken k i) :
    ∃ p, (s.openSteps ops i)[p]? = some k ∧
      s.answerAt? ops k = some (.number (next^[p] s.value)) := by
  obtain ⟨p, hp⟩ := List.mem_iff_getElem?.1 ((h.mem_iff k).2 ⟨hk, Or.inr ⟨hres, hback⟩⟩)
  exact ⟨p, hp, h.answer p k hp hres⟩

/-- Every value of a run is some number of steps after the start, hence known. -/
lemma OpenInv.value_ne_unknown (hs : s.value ≠ unknown) (h : OpenInv s ops taken i) :
    (s.after ops i).value ≠ unknown := by
  rw [h.value]
  exact iterate_next_ne_unknown hs _

/-- **Outstanding reservations never collide.**  In a history with at most as many increments and
reservations as there are known numbers, in which every number that is handed back was taken
before and is handed back once:

* a hand-back steps back exactly if since the number was taken there was no increment and every
  later reservation was itself stepped back;
* at no moment do two reservations that were not stepped back carry the same number, and no
  reservation carries the unknown number;
* after a hand-back that steps back the value is the number handed back, and any other hand-back
  leaves the store as it was. -/
theorem reservations_never_collide (start : SeqNum) (ops : List Op) (taken : ℕ → ℕ)
    (hb : (startingAt start).HandsBackOnce ops taken)
    (hcount : ops.countP Op.advances ≤ period) :
    (∀ i n, ops[i]? = some (.release n) →
      ((startingAt start).answerAt? ops i = some (.steppedBack true) ↔
        ∀ k, taken i < k → k < i → ops[k]? ≠ some .increment ∧
          (ops[k]? = some .reserve → (startingAt start).IsSteppedBack ops taken k i))) ∧
    (∀ i j k, j < i → k < i → j ≠ k → ops[j]? = some .reserve → ops[k]? = some .reserve →
      ¬ (startingAt start).IsSteppedBack ops taken j i →
      ¬ (startingAt start).IsSteppedBack ops taken k i →
      (startingAt start).answerAt? ops j ≠ (startingAt start).answerAt? ops k) ∧
    (∀ k, ops[k]? = some .reserve →
      (startingAt start).answerAt? ops k ≠ some (.number unknown)) ∧
    (∀ i n, ops[i]? = some (.release n) →
      ((startingAt start).answerAt? ops i = some (.steppedBack true) →
        ((startingAt start).after ops (i + 1)).current = n) ∧
      ((startingAt start).answerAt? ops i = some (.steppedBack false) →
        (startingAt start).after ops (i + 1) = (startingAt start).after ops i)) := by
  have hs := value_startingAt_ne_unknown start
  have hinv := openInv hs hb hcount
  refine ⟨?_, ?_, ?_, ?_⟩
  · intro i n hi
    rw [← (hinv i).follows_iff_later hs hb hcount hi, answerAt?_release hi]
    simp
  · -- both are open steps, and open steps at different positions took different numbers
    intro i j k hj hk hne hresj hresk hbackj hbackk heq
    obtain ⟨p, hp, hansj⟩ := (hinv i).exists_answer hj hresj hbackj
    obtain ⟨q, hq, hansk⟩ := (hinv i).exists_answer hk hresk hbackk
    have hplt := (List.getElem?_eq_some_iff.1 hp).1
    have hqlt := (List.getElem?_eq_some_iff.1 hq).1
    have hle := (hinv i).length_le_period hcount
    rw [hansj, hansk, Option.some.injEq, Answer.number.injEq] at heq
    obtain rfl := iterate_next_injOn hs (by omega) (by omega) heq
    rw [hp, Option.some.injEq] at hq
    exact hne hq
  · -- a reservation hands out the value of the store
    intro k hres
    rw [answerAt?_eq hres]
    have hne := (hinv k).value_ne_unknown hs
    simpa [apply, reserve] using hne
  · intro i n hi
    rw [answerAt?_release hi, after_succ hi]
    constructor
    · intro h
      have hf : ((startingAt start).after ops i).follows n = true := by simpa using h
      simp [apply, release, hf, current]
    · intro h
      have hf : ((startingAt start).after ops i).follows n = false := by simpa using h
      simp [apply, release, hf]

/-- Two numbers are taken around the end of the cycle and handed back in the order in which they
were taken; then a third is taken. -/
def historyOverWrap : List Op :=
  [.reserve, .reserve, .release 65535, .release 1, .reserve]

lemma release_historyOverWrap {i : ℕ} {n : SeqNum}
    (h : historyOverWrap[i]? = some (.release n)) : i = 2 ∧ n = 65535 ∨ i = 3 ∧ n = 1 := by
  match i with
  | 0 | 1 | 4 => exact absurd h (by simp [historyOverWrap])
  | 2 => exact Or.inl ⟨rfl, by simpa [historyOverWrap] using h.symm⟩
  | 3 => exact Or.inr ⟨rfl, by simpa [historyOverWrap] using h.symm⟩
  | i + 5 => exact absurd h (by simp [historyOverWrap])

lemma handsBackOnce_historyOverWrap :
    (startingAt 65535).HandsBackOnce historyOverWrap (fun i => i - 2) := by
  refine ⟨?_, ?_, ?_, ?_⟩
  · intro i n h
    rcases release_historyOverWrap h with ⟨rfl, -⟩ | ⟨rfl, -⟩ <;> decide
  · intro i n h
    rcases release_historyOverWrap h with ⟨rfl, -⟩ | ⟨rfl, -⟩ <;> rfl
  · intro i n h
    rcases release_historyOverWrap h with ⟨rfl, rfl⟩ | ⟨rfl, rfl⟩ <;> rfl
  · intro i j m n hi hj
    rcases release_historyOverWrap hi with ⟨rfl, -⟩ | ⟨rfl, -⟩ <;>
      rcases release_historyOverWrap hj with ⟨rfl, -⟩ | ⟨rfl, -⟩ <;> decide

/-- Around the end of the cycle: the first hand-back comes too early, the second steps back, and
then the two numbers that are out are different. -/
theorem reservations_over_the_wrap :
    (startingAt 65535).HandsBackOnce historyOverWrap (fun i => i - 2) ∧
      historyOverWrap.countP Op.advances ≤ period ∧
      (startingAt 65535).answerAt? historyOverWrap 2 ≠ some (.steppedBack true) ∧
      ((startingAt 65535).after historyOverWrap 4).current = 1 ∧
      (startingAt 65535).answerAt? historyOverWrap 0 ≠
        (startingAt 65535).answerAt? historyOverWrap 4 := by
  have hb := handsBackOnce_historyOverWrap
  have hcount : historyOverWrap.countP Op.advances ≤ period := by decide
  obtain ⟨hiff, hdiff, -, hvalue⟩ := reservations_never_collide 65535 historyOverWrap _ hb hcount
  have hout : ∀ k, k = 0 ∨ k = 4 →
      ¬ (startingAt 65535).IsSteppedBack historyOverWrap (fun i => i - 2) k 5 := by
    rintro k hk ⟨j, -, hj, ⟨n, hn⟩, hans⟩
    rcases release_historyOverWrap hn with ⟨rfl, -⟩ | ⟨rfl, -⟩
    · exact absurd hans (by decide)
    · have hk1 : 3 - 2 = k := hj
      omega
  refine ⟨hb, hcount, ?_, (hvalue 3 1 rfl).1 rfl, ?_⟩
  · rw [ne_eq, hiff 2 65535 rfl]
    intro hall
    obtain ⟨j, hj, hj1, ⟨n, hn⟩, -⟩ := (hall 1 (by decide) (by decide)).2 rfl
    rcases release_historyOverWrap hn with ⟨rfl, -⟩ | ⟨rfl, -⟩ <;> omega
  · exact hdiff 5 0 4 (by decide) (by decide) (by decide) rfl rfl
      (hout 0 (Or.inl rfl)) (hout 4 (Or.inr rfl))

end Store

end RouteDiscovery
