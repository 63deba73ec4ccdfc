/-
# Buffers as bounded lists

Seen from outside, a buffer is a list of bytes that must not grow beyond a length.  `BoundedList`
says what its operations do to such a list: bytes are appended as a whole or not at all, a word is
replaced where both its bytes are there, and nothing else changes anything.

* `BoundedList.perform_buffer`: one operation on a buffer does what it does to the list.
* `Checked.perform_eq`: as long as the list has not outgrown its bound, the room that an operation
  computes is no negative number.
* `Buffer.refines_bounded_list`: both follow for any row of operations on a new buffer, and a buffer
  that is cleared is as good as new.
-/
import RouteDiscovery.Proofs.Wire.InRange

namespace RouteDiscovery.Wire

namespace Buffer

/-- An operation on a buffer. -/
inductive Op where
  | putByte (value : UInt8)
  | putWord (value : UInt16)
  | put (data : List UInt8)
  | ensure (needed : ℕ)
  | patchWord (offset : ℕ) (value : UInt16)
  | clear
deriving DecidableEq, Repr

/-- What an operation replies: that it was done, an error, or nothing if a step of it was out of
range. -/
abbrev Reply := Option (Except WireError Unit)

/-- What comes of a put. -/
def settle (b : Buffer) : Except WireError Buffer → Reply × Buffer
  | .ok b' => (some (.ok ()), b')
  | .error e => (some (.error e), b)

/-- Carries out an operation.  A word that is not there cannot be replaced. -/
def perform (b : Buffer) : Op → Reply × Buffer
  | .putByte value => b.settle (b.putByte value)
  | .putWord value => b.settle (b.putWord value)
  | .put data => b.settle (b.put data)
  | .ensure needed => (some (b.ensure needed), b)
  | .patchWord offset value =>
    match b.patchWord? offset value with
    | some b' => (some (.ok ()), b')
    | none => (none, b)
  | .clear => (some (.ok ()), b.clear)

/-- Carries out one operation after another; the replies are in the order of the operations. -/
def performAll {σ : Type} (perform : σ → Op → Reply × σ) : σ → List Op → List Reply × σ
  | s, [] => ([], s)
  | s, op :: ops =>
    let first := perform s op
    let later := performAll perform first.2 ops
    (first.1 :: later.1, later.2)

/-- Two systems with the same replies, one of which is a view of the other, have the same replies in
any row of operations. -/
lemma performAll_map {σ τ : Type} (f : σ → Op → Reply × σ) {g : τ → Op → Reply × τ} (view : τ → σ)
    (Good : τ → Prop)
    (hstep : ∀ t op, Good t → f (view t) op = ((g t op).1, view (g t op).2) ∧ Good (g t op).2)
    {t : τ} (ht : Good t) (ops : List Op) :
    performAll f (view t) ops = ((performAll g t ops).1, view (performAll g t ops).2) ∧
      Good (performAll g t ops).2 := by
  induction ops generalizing t with
  | nil => exact ⟨rfl, ht⟩
  | cons op ops ih =>
    obtain ⟨hfirst, hgood⟩ := hstep t op ht
    obtain ⟨hlater, hlast⟩ := ih hgood
    refine ⟨?_, hlast⟩
    rw [performAll, hfirst, hlater]
    rfl

end Buffer

/-! ## Bounded lists -/

namespace BoundedList

open Buffer (Op Reply)

/-- The two octets of a number, the more significant one first. -/
def octets (w : UInt16) : List UInt8 := [(w.toNat / 256).toUInt8, (w.toNat % 256).toUInt8]

/-- What is said of a number of bytes that are to be appended to a list. -/
def verdict (kind : BufferKind) (bound : ℕ) (l : List UInt8) (needed : ℕ) : Except WireError Unit :=
  if l.length + needed ≤ bound then .ok () else .error (.capacity kind needed (bound - l.length))

/-- Appends bytes if the list stays within its bound. -/
def append (kind : BufferKind) (bound : ℕ) (l data : List UInt8) : Reply × List UInt8 :=
  (some (verdict kind bound l data.length),
    if l.length + data.length ≤ bound then l ++ data else l)

/-- Replaces two bytes. -/
def overwrite (l : List UInt8) (offset : ℕ) (w : UInt16) : List UInt8 :=
  (l.set offset (w.toNat / 256).toUInt8).set (offset + 1) (w.toNat % 256).toUInt8

/-- What an operation on a buffer does to the list of its bytes. -/
def perform (kind : BufferKind) (bound : ℕ) (l : List UInt8) : Op → Reply × List UInt8
  | .putByte value => append kind bound l [value]
  | .putWord value => append kind bound l (octets value)
  | .put data => append kind bound l data
  | .ensure needed => (some (verdict kind bound l needed), l)
  | .patchWord offset value =>
    if offset + 2 ≤ l.length then (some (.ok ()), overwrite l offset value) else (none, l)
  | .clear => (some (.ok ()), [])

variable {kind : BufferKind} {bound : ℕ} {l : List UInt8}

/-- The buffer that holds a list. -/
def buffer (kind : BufferKind) (bound : ℕ) (l : List UInt8) : Buffer :=
  { kind, capacity := bound, bytes := l }

lemma octets_eq (w : UInt16) : octets w = wordBytes w := by
  have hhigh : (w.toNat / 256).toUInt8 = (w >>> 8).toUInt8 := by
    apply UInt8.toNat_inj.1
    show w.toNat / 256 % 2 ^ 8 = w.toNat >>> 8 % 2 ^ 8
    rw [Nat.shiftRight_eq_div_pow]
  have hlow : (w.toNat % 256).toUInt8 = w.toUInt8 := by
    apply UInt8.toNat_inj.1
    show w.toNat % 256 % 2 ^ 8 = w.toNat % 2 ^ 8
    omega
  rw [octets, hhigh, hlow, wordBytes]

/-- Replacing a word is replacing its two bytes. -/
lemma overwrite_eq {offset : ℕ} (h : offset + 2 ≤ l.length) (w : UInt16) :
    overwrite l offset w = l.take offset ++ wordBytes w ++ l.drop (offset + 2) := by
  obtain ⟨xs, x, y, ys, rfl, rfl⟩ : ∃ xs x y ys, l = xs ++ x :: y :: ys ∧ xs.length = offset := by
    refine ⟨l.take offset, l[offset], l[offset + 1], l.drop (offset + 2), ?_, by simp; omega⟩
    rw [← List.drop_eq_getElem_cons, ← List.drop_eq_getElem_cons, List.take_append_drop]
  rw [← octets_eq]
  simp [overwrite, octets]

lemma length_overwrite (l : List UInt8) (offset : ℕ) (w : UInt16) :
    (overwrite l offset w).length = l.length := by
  simp [overwrite]

lemma ensure_buffer (hl : l.length ≤ bound) (needed : ℕ) :
    (buffer kind bound l).ensure needed = verdict kind bound l needed := by
  have hroom : (buffer kind bound l).remaining = bound - l.length := rfl
  have hiff : needed ≤ bound - l.length ↔ l.length + needed ≤ bound := by omega
  simp only [Buffer.ensure, verdict, hroom, hiff]
  rfl

lemma settle_buffer (hl : l.length ≤ bound) (data : List UInt8) :
    (buffer kind bound l).settle ((buffer kind bound l).put data) =
      ((append kind bound l data).1, buffer kind bound (append kind bound l data).2) := by
  rw [Buffer.put, ensure_buffer hl, append, verdict]
  split <;> rfl

/-- Appending stays within the bound. -/
lemma length_append (hl : l.length ≤ bound) (data : List UInt8) :
    (append kind bound l data).2.length ≤ bound := by
  simp only [append]
  split
  · next hfit => rwa [List.length_append]
  · exact hl

lemma length_perform (hl : l.length ≤ bound) (op : Op) :
    (perform kind bound l op).2.length ≤ bound := by
  cases op with
  | putByte value => exact length_append hl _
  | putWord value => exact length_append hl _
  | put data => exact length_append hl data
  | ensure needed => exact hl
  | patchWord offset value =>
    simp only [perform]
    split
    · rwa [length_overwrite]
    · exact hl
  | clear => exact Nat.zero_le bound

/-- An operation on a buffer does what it does to the list. -/
lemma perform_buffer (hl : l.length ≤ bound) (op : Op) :
    (buffer kind bound l).perform op =
      ((perform kind bound l op).1, buffer kind bound (perform kind bound l op).2) := by
  cases op with
  | putByte value => exact settle_buffer hl [value]
  | putWord value =>
    rw [perform, octets_eq]
    exact settle_buffer hl (wordBytes value)
  | put data => exact settle_buffer hl data
  | ensure needed => rw [Buffer.perform, ensure_buffer hl, perform]
  | patchWord offset value =>
    have hlength : (buffer kind bound l).length = l.length := rfl
    simp only [Buffer.perform, Buffer.patchWord?, perform, hlength]
    by_cases h : offset + 2 ≤ l.length
    · simp only [if_pos h, overwrite_eq h]
      rfl
    · simp only [if_neg h]
  | clear => rfl

end BoundedList

/-! ## Steps in range -/

namespace Checked

open Buffer (Op Reply)

/-- An operation with its steps checked where they are made. -/
def Work.perform : Op → Work Unit
  | .putByte value => Work.put [value]
  | .putWord value => Work.put (wordBytes value)
  | .put data => Work.put data
  | .ensure needed => do Work.of (ensure (← get) needed)
  | .patchWord offset value => Work.patch offset value
  | .clear => modify Buffer.clear

/-- Carries out an operation; one with a step out of range leaves the buffer. -/
def perform (b : Buffer) (op : Op) : Reply × Buffer :=
  match (Work.perform op).run.run b with
  | some (r, b') => (some r, b')
  | none => (none, b)

variable {b : Buffer}

lemma perform_put (hb : Fits b) (data : List UInt8) :
    (Work.put data).run.run b = some (match b.put data with
      | .ok b' => (.ok (), b')
      | .error e => (.error e, b)) := by
  refine (agrees_put hb data).trans (congrArg some ?_)
  show b.write [.ok data] = _
  rw [Buffer.write]
  cases b.put data <;> rfl

/-- In a buffer that has not outgrown its capacity no operation has a step out of range, except that
a word may be replaced where there is none. -/
lemma perform_eq (hb : Fits b) (op : Op) : perform b op = b.perform op := by
  have hput : ∀ data, (match (Work.put data).run.run b with
      | some (r, b') => (some r, b')
      | none => (none, b)) = b.settle (b.put data) := by
    intro data
    rw [perform_put hb]
    cases b.put data <;> rfl
  cases op with
  | putByte value => exact hput [value]
  | putWord value => exact hput (wordBytes value)
  | put data => exact hput data
  | ensure needed =>
    have hrun : (Work.perform (.ensure needed)).run.run b = some (b.ensure needed, b) := by
      show (ensure b needed).run.map _ = _
      rw [yields_ensure hb]
      rfl
    rw [perform, hrun, Buffer.perform]
  | patchWord offset value =>
    rw [perform, Buffer.perform]
    by_cases h : offset + 2 ≤ b.length
    · obtain ⟨b', hb'⟩ : ∃ b', b.patchWord? offset value = some b' := ⟨_, if_pos h⟩
      have hrun : (Work.perform (.patchWord offset value)).run.run b = some (.ok (), b') := by
        refine (agrees_patch h value).trans ?_
        show some (Except.ok (), Draft.fill b offset value) = _
        rw [Draft.fill, hb']
        rfl
      rw [hrun, hb']
    · have hnone : b.patchWord? offset value = none := if_neg h
      have hrun : (Work.perform (.patchWord offset value)).run.run b = none := by
        show ((Checked.patch b offset value).run.map _ >>= _) = _
        rw [Checked.patch, hnone]
        rfl
      rw [hrun, hnone]
  | clear => rfl

end Checked

/-! ## Rows of operations -/

namespace Buffer

/-- **A buffer is a bounded list.**  For every capacity and every row of operations on a new buffer:

* the replies, and the bytes that the buffer holds in the end, are those of a list that is bounded
  by the capacity (`BoundedList.perform`);
* kind and capacity stay, the buffer has not outgrown its capacity, and so the room that is left is
  a difference that is not negative, in the end and in each operation on the way;
* if the buffer is cleared then, it does in any further row of operations what a new one does. -/
theorem refines_bounded_list (kind : BufferKind) (capacity : ℕ) (ops : List Op) :
    let new : Buffer := { kind, capacity }
    let reached := (performAll perform new ops).2
    let list := performAll (BoundedList.perform kind capacity) [] ops
    (performAll perform new ops).1 = list.1 ∧ reached.bytes = list.2 ∧
      reached.kind = kind ∧ reached.capacity = capacity ∧
      reached.length ≤ capacity ∧
      Checked.Yields (Checked.subtract reached.capacity reached.length) (.ok reached.remaining) ∧
      performAll Checked.perform new ops = performAll perform new ops ∧
      ∀ later, performAll perform (reached.perform .clear).2 later =
        performAll perform new later := by
  intro new reached list
  have hempty : ([] : List UInt8).length ≤ capacity := Nat.zero_le capacity
  obtain ⟨hrun, hlength⟩ := performAll_map perform
    (BoundedList.buffer kind capacity) (fun l => l.length ≤ capacity)
    (fun l op hl => ⟨BoundedList.perform_buffer hl op, BoundedList.length_perform hl op⟩) hempty ops
  obtain ⟨hchecked, -⟩ := performAll_map Checked.perform
    (BoundedList.buffer kind capacity) (fun l => l.length ≤ capacity)
    (fun l op hl => by
      have hfits : Checked.Fits (BoundedList.buffer kind capacity l) := hl
      exact ⟨(Checked.perform_eq hfits op).trans (BoundedList.perform_buffer hl op),
        BoundedList.length_perform hl op⟩) hempty ops
  have hreached : reached = BoundedList.buffer kind capacity list.2 := congrArg Prod.snd hrun
  have hfits : Checked.Fits reached := hreached ▸ hlength
  have hclear : (reached.perform .clear).2 = new := by
    rw [hreached]
    rfl
  refine ⟨congrArg Prod.fst hrun, congrArg Buffer.bytes hreached, congrArg Buffer.kind hreached,
    congrArg Buffer.capacity hreached, hreached ▸ hlength, Checked.yields_subtract hfits,
    hchecked.trans hrun.symm, fun later => ?_⟩
  rw [hclear]

end Buffer

end RouteDiscovery.Wire
