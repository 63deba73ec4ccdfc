/-
# Writing pieces

A message is written as a row of pieces, each of which checks the room for itself.  This file
shows that the checks add up.  Pieces without a cause of failure of their own amount to some bytes
(`Buffer.Amounts`).  They are all written if these bytes fit (`Buffer.Amounts.writeAll_of_fits`),
and otherwise the first piece that does not fit reports that more bytes are needed than are left
(`Buffer.Amounts.writeAll_exceeded`).
-/
import Mathlib.Order.Basic
import Mathlib.Tactic.Lemma
import RouteDiscovery.Wire.Draft

namespace RouteDiscovery.Wire

lemma ok_bind {α β : Type} (a : α) (f : α → Except WireError β) : (Except.ok a >>= f) = f a := rfl

lemma error_bind {α β : Type} (e : WireError) (f : α → Except WireError β) :
    (Except.error e >>= f) = .error e := rfl

/-- A result that reports too little room in a buffer. -/
def Exceeded {α : Type} (kind : BufferKind) (r : Except WireError α) : Prop :=
  ∃ needed available, available < needed ∧ r = .error (.capacity kind needed available)

lemma Exceeded.bind {α β : Type} {kind : BufferKind} {r : Except WireError α}
    (h : Exceeded kind r) (f : α → Except WireError β) : Exceeded kind (r >>= f) := by
  obtain ⟨needed, available, hlt, rfl⟩ := h
  exact ⟨needed, available, hlt, rfl⟩

namespace Buffer

variable {b b' : Buffer} {pieces : List Piece} {data : List UInt8}

/-- The buffer with more bytes. -/
def extend (b : Buffer) (data : List UInt8) : Buffer := { b with bytes := b.bytes ++ data }

@[simp] lemma kind_extend : (b.extend data).kind = b.kind := rfl

@[simp] lemma capacity_extend : (b.extend data).capacity = b.capacity := rfl

@[simp] lemma length_extend : (b.extend data).length = b.length + data.length :=
  List.length_append

lemma extend_nil : b.extend [] = b := by
  rw [extend, List.append_nil]

lemma extend_extend (data data' : List UInt8) :
    (b.extend data).extend data' = b.extend (data ++ data') := by
  simp only [extend, List.append_assoc]

lemma put_of_fits (h : b.length + data.length ≤ b.capacity) : b.put data = .ok (b.extend data) := by
  refine put_of_le ?_
  unfold remaining
  omega

lemma put_exceeded (hb : b.length ≤ b.capacity) (h : b.capacity < b.length + data.length) :
    Exceeded b.kind (b.put data) := by
  have hlt : b.remaining < data.length := by
    unfold remaining
    omega
  exact ⟨_, _, hlt, put_of_lt hlt⟩

/-- Bytes that were put stand at the end. -/
lemma eq_extend_of_put (h : b.put data = .ok b') : b' = b.extend data := by
  rcases Nat.lt_or_ge b.remaining data.length with hlt | hle
  · exact absurd ((put_of_lt hlt).symm.trans h) (by simp)
  · exact (Except.ok.inj ((put_of_le hle).symm.trans h)).symm

@[simp] lemma writeAll_nil : b.writeAll [] = .ok b := rfl

lemma writeAll_cons_error {e : WireError} : b.writeAll (.error e :: pieces) = .error e := rfl

lemma writeAll_cons_ok : b.writeAll (.ok data :: pieces) = b.put data >>= (·.writeAll pieces) := by
  rw [writeAll, write]
  cases b.put data with
  | error e => rfl
  | ok b₁ => rfl

/-- The pieces have no cause of failure of their own, and one after another they are the given
bytes. -/
inductive Amounts : List Piece → List UInt8 → Prop
  | nil : Amounts [] []
  | cons {data bytes : List UInt8} {pieces : List Piece} (h : Amounts pieces bytes) :
      Amounts (.ok data :: pieces) (data ++ bytes)

namespace Amounts

lemma single (data : List UInt8) : Amounts [.ok data] data := by
  have h : Amounts [.ok data] (data ++ []) := Amounts.nil.cons
  rwa [List.append_nil] at h

lemma append {pieces' : List Piece} {bytes bytes' : List UInt8} (h : Amounts pieces bytes)
    (h' : Amounts pieces' bytes') : Amounts (pieces ++ pieces') (bytes ++ bytes') := by
  induction h with
  | nil => exact h'
  | cons _ ih =>
    rw [List.append_assoc]
    exact ih.cons

lemma map {α : Type} {piece : α → Piece} {bytes : α → List UInt8} {l : List α}
    (h : ∀ a ∈ l, piece a = .ok (bytes a)) : Amounts (l.map piece) (l.flatMap bytes) := by
  induction l with
  | nil => exact .nil
  | cons a l ih =>
    rw [List.map_cons, List.flatMap_cons, h a List.mem_cons_self]
    exact (ih fun x hx => h x (List.mem_cons_of_mem a hx)).cons

variable {bytes : List UInt8}

/-- Pieces that fit together are all written. -/
lemma writeAll_of_fits (h : Amounts pieces bytes) (hfit : b.length + bytes.length ≤ b.capacity) :
    b.writeAll pieces = .ok (b.extend bytes) := by
  induction h generalizing b with
  | nil => rw [extend_nil, writeAll_nil]
  | @cons data bytes pieces _ ih =>
    rw [List.length_append] at hfit
    rw [writeAll_cons_ok, put_of_fits (by omega), ← extend_extend]
    exact ih (by rw [length_extend, capacity_extend]; omega)

/-- Of pieces that do not fit together one reports too little room. -/
lemma writeAll_exceeded (h : Amounts pieces bytes) (hb : b.length ≤ b.capacity)
    (hlt : b.capacity < b.length + bytes.length) : Exceeded b.kind (b.writeAll pieces) := by
  induction h generalizing b with
  | nil =>
    rw [List.length_nil] at hlt
    omega
  | @cons data bytes pieces _ ih =>
    rw [List.length_append] at hlt
    rw [writeAll_cons_ok]
    by_cases hfit : b.length + data.length ≤ b.capacity
    · -- the first piece fits, so the shortage is among the others
      rw [put_of_fits hfit]
      exact ih (b := b.extend data) (by rwa [length_extend, capacity_extend])
        (by rw [length_extend, capacity_extend]; omega)
    · exact (put_exceeded hb (Nat.lt_of_not_le hfit)).bind _

end Amounts

/-- What is written holds no piece with a cause of failure of its own. -/
lemma error_not_mem_of_writeAll (h : b.writeAll pieces = .ok b')
    (e : WireError) : .error e ∉ pieces := by
  induction pieces generalizing b with
  | nil => exact List.not_mem_nil
  | cons piece pieces ih =>
    cases piece with
    | error e' => exact absurd h (by simp [writeAll_cons_error])
    | ok data =>
      rw [writeAll_cons_ok] at h
      cases hput : b.put data with
      | error e' =>
        rw [hput, error_bind] at h
        exact absurd h (by simp)
      | ok b₁ =>
        rw [hput, ok_bind] at h
        intro hmem
        rcases List.mem_cons.1 hmem with heq | hmem
        · exact absurd heq (by simp)
        · exact ih h hmem

/-- Replacing a word that is written leaves the bytes around it. -/
lemma patchWord?_append {xs ys : List UInt8} {u w : UInt16}
    (h : b.bytes = xs ++ (wordBytes u ++ ys)) :
    b.patchWord? xs.length w = some { b with bytes := xs ++ (wordBytes w ++ ys) } := by
  have hlen : xs.length + 2 ≤ b.length := by
    simp only [length, h, List.length_append, length_wordBytes]
    omega
  have hdrop : b.bytes.drop (xs.length + 2) = ys := by
    rw [h, List.drop_append, List.drop_eq_nil_of_le (Nat.le_add_right _ _), List.nil_append,
      Nat.add_sub_cancel_left]
    rfl
  rw [patchWord?, if_pos hlen, hdrop, h, List.take_left, List.append_assoc]

end Buffer

lemma lengthField_of_le {n : ℕ} (h : n ≤ maxWord) : lengthField n = .ok n.toUInt16 := if_pos h

lemma lengthField_exceeded {n : ℕ} (h : maxWord < n) : Exceeded .message (lengthField n) :=
  ⟨n, maxWord, h, if_neg (Nat.not_le.2 h)⟩

end RouteDiscovery.Wire
