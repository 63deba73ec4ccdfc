/-
# Streams of TLVs

TLVs are put into one buffer one after another; one that is refused is left out.  Nothing between
the TLVs says where one ends and the next begins, so a reader has only the flags and the length of
each to go by.

* `TlvStream.puts` puts the TLVs part after part, with each step checked where it is made, and gives
  a record of what came of each (`TlvStream.Put`).
* `TlvStream.Put.Atomic` says what one TLV comes to: all its bytes, or an error and no byte.
* `TlvStream.puts_eq_some`: this holds for every TLV of every stream, and the buffer is read as the
  TLVs that were not refused.
-/
import RouteDiscovery.Proofs.Wire.Decode
import RouteDiscovery.Proofs.Wire.InRange

namespace RouteDiscovery.Wire

namespace TlvStream

/-- A TLV to be put.  The index is an octet, and the value may have any length. -/
structure Item where
  type : TlvType
  index : UInt8
  value : List UInt8
deriving DecidableEq, Repr

/-- The TLV, with its index as a number. -/
def Item.tlv (i : Item) : AddrTlv := ⟨i.type, i.index.toNat, i.value⟩

/-- The number of bytes of the TLV. -/
def Item.size (i : Item) : ℕ := addrTlvSize i.type i.value.length

/-- What came of putting a TLV into a buffer. -/
structure Put where
  item : Item
  before : Buffer
  reply : Except WireError Unit
  after : Buffer

/-- Puts TLVs into a buffer one after another.  Gives what came of each and the buffer in the end,
or nothing if a step was out of range. -/
def puts (b : Buffer) : List Item → Option (List Put × Buffer)
  | [] => some ([], b)
  | item :: items => do
    let (reply, after) ← (Checked.Work.putTlv item.tlv).run.run b
    let (later, last) ← puts after items
    return (⟨item, b, reply, after⟩ :: later, last)

/-- The TLVs that were not refused. -/
def accepted (row : List Put) : List AddrTlv :=
  (row.filter (·.reply.isOk)).map (·.item.tlv)

/-- Putting a TLV into a buffer of this kind and capacity comes to all of its bytes or to none. -/
structure Put.Atomic (kind : BufferKind) (capacity : ℕ) (p : Put) : Prop where
  kind_eq : p.before.kind = kind
  capacity_eq : p.before.capacity = capacity
  /-- The room that is left is a difference that is not negative. -/
  length_le : p.before.length ≤ capacity
  /-- A value that is too long is refused first; then there must be room for the whole TLV. -/
  reply_eq : p.reply =
    if maxTlvValueLength < p.item.value.length then .error (.tlvValueTooLong p.item.value.length)
    else if capacity - p.before.length < p.item.size then
      .error (.capacity kind p.item.size (capacity - p.before.length))
    else .ok ()
  /-- A TLV that is not refused is appended. -/
  appended : p.reply = .ok () →
    p.item.tlv.bytes.length = p.item.size ∧
      p.after = { p.before with bytes := p.before.bytes ++ p.item.tlv.bytes }
  /-- A TLV that is refused leaves the buffer. -/
  kept : ∀ e, p.reply = .error e → p.after = p.before
  /-- Putting the TLV as one piece comes to the same. -/
  encode_eq : p.item.tlv.encode p.before = p.reply.map fun _ => p.after

variable {kind : BufferKind} {capacity : ℕ} {b : Buffer}

lemma Item.index_le (i : Item) : i.tlv.index ≤ maxShortLength := Nat.le_of_lt_succ i.index.toNat_lt

/-! ## One TLV -/

/-- What putting a TLV comes to, as the three cases of the reply. -/
lemma write_piece (t : AddrTlv) (b : Buffer) :
    b.write [t.piece] =
      if maxTlvValueLength < t.value.length then (.error (.tlvValueTooLong t.value.length), b)
      else if b.remaining < addrTlvSize t.type t.value.length then
        (.error (.capacity b.kind (addrTlvSize t.type t.value.length) b.remaining), b)
      else (.ok (), b.extend t.bytes) := by
  by_cases hlong : maxTlvValueLength < t.value.length
  · rw [if_pos hlong, AddrTlv.piece, if_neg (Nat.not_le.2 hlong)]
    rfl
  rw [if_neg hlong, AddrTlv.piece, if_pos (Nat.not_lt.1 hlong), Buffer.write, ← t.length_bytes]
  by_cases hfull : b.remaining < t.bytes.length
  · rw [if_pos hfull, Buffer.put_of_lt hfull]
  · rw [if_neg hfull, Buffer.put_of_le (Nat.not_lt.1 hfull)]
    rfl

/-- A TLV that is put, part after part, comes to all of its bytes or to none. -/
lemma exists_put (hkind : b.kind = kind) (hcapacity : b.capacity = capacity)
    (hb : b.length ≤ capacity) (item : Item) :
    ∃ reply after, (Checked.Work.putTlv item.tlv).run.run b = some (reply, after) ∧
      Put.Atomic kind capacity ⟨item, b, reply, after⟩ := by
  subst hkind hcapacity
  have hrun : (Checked.Work.putTlv item.tlv).run.run b = some (b.write [item.tlv.piece]) :=
    Checked.agrees_putTlv hb item.index_le
  have hencode : item.tlv.encode b = (b.write [item.tlv.piece]).1.map
      fun _ => (b.write [item.tlv.piece]).2 := by
    rw [AddrTlv.encode, Buffer.writeAll]
    rcases b.write [item.tlv.piece] with ⟨e | u, b'⟩ <;> rfl
  have hwrite := write_piece item.tlv b
  refine ⟨_, _, hrun, rfl, rfl, hb, ?_, fun h => ⟨item.tlv.length_bytes, ?_⟩, fun e h => ?_,
    hencode⟩
  · rw [hwrite]
    simp only [apply_ite Prod.fst]
    rfl
  all_goals
    rw [hwrite] at h ⊢
    -- the buffer is extended where there is no error, and nowhere else
    split_ifs at h ⊢ <;> rfl

/-! ## The whole stream -/

lemma Put.Atomic.fits {p : Put} (h : p.Atomic kind capacity) :
    p.after.kind = kind ∧ p.after.capacity = capacity ∧ p.after.length ≤ capacity := by
  obtain ⟨hkind, hcapacity, hlength, hreply, happended, hkept, -⟩ := h
  cases hr : p.reply with
  | error e => exact hkept e hr ▸ ⟨hkind, hcapacity, hlength⟩
  | ok u =>
    obtain ⟨hsize, hafter⟩ := happended hr
    rw [hr] at hreply
    have hroom : p.item.size ≤ capacity - p.before.length := by
      by_contra hlt
      rw [if_pos (Nat.not_le.1 hlt)] at hreply
      split at hreply <;> exact absurd hreply (by simp)
    refine hafter ▸ ⟨hkind, hcapacity, ?_⟩
    show (p.before.bytes ++ p.item.tlv.bytes).length ≤ capacity
    rw [Buffer.length] at hlength hroom
    rw [List.length_append, hsize]
    omega

/-- The bytes that putting a TLV appends are those of the TLVs that were not refused. -/
lemma Put.Atomic.bytes_after {p : Put} (h : p.Atomic kind capacity) :
    p.after.bytes = p.before.bytes ++ (accepted [p]).flatMap AddrTlv.bytes := by
  cases hr : p.reply with
  | error e =>
    have hnone : accepted [p] = [] := by simp [accepted, hr, Except.isOk, Except.toBool]
    rw [h.kept e hr, hnone, List.flatMap_nil, List.append_nil]
  | ok u =>
    have hone : accepted [p] = [p.item.tlv] := by simp [accepted, hr, Except.isOk, Except.toBool]
    rw [(h.appended hr).2, hone, List.flatMap_singleton]

lemma accepted_cons (p : Put) (row : List Put) :
    accepted (p :: row) = accepted [p] ++ accepted row := by
  rw [accepted, ← List.singleton_append, List.filter_append, List.map_append]
  rfl

/-- A stream that is put into a buffer leaves in it the TLVs that were not refused. -/
lemma exists_puts (hkind : b.kind = kind) (hcapacity : b.capacity = capacity)
    (hb : b.length ≤ capacity) (items : List Item) :
    ∃ row last, puts b items = some (row, last) ∧ row.map (·.item) = items ∧
      (∀ p ∈ row, p.Atomic kind capacity) ∧
      last.bytes = b.bytes ++ (accepted row).flatMap AddrTlv.bytes := by
  induction items generalizing b with
  | nil =>
    refine ⟨[], b, rfl, rfl, fun p hp => absurd hp List.not_mem_nil, ?_⟩
    exact (List.append_nil b.bytes).symm
  | cons item items ih =>
    obtain ⟨reply, after, hrun, hatomic⟩ := exists_put hkind hcapacity hb item
    obtain ⟨hkind', hcapacity', hlength'⟩ := hatomic.fits
    obtain ⟨row, last, hlater, hitems, hrow, hbytes⟩ := ih hkind' hcapacity' hlength'
    refine ⟨⟨item, b, reply, after⟩ :: row, last, ?_, congrArg (item :: ·) hitems, ?_, ?_⟩
    · rw [puts, hrun]
      show (puts after items).bind _ = _
      rw [hlater]
      rfl
    · exact List.forall_mem_cons.2 ⟨hatomic, hrow⟩
    · rw [hbytes, hatomic.bytes_after, accepted_cons _ row, List.flatMap_append, List.append_assoc]

/-- TLVs that were not refused can be read. -/
lemma reads_accepted {row : List Put} (h : ∀ p ∈ row, p.Atomic kind capacity) :
    ∀ t ∈ accepted row, Reads Reader.tlv t.bytes t := by
  intro t ht
  obtain ⟨p, hp, rfl⟩ := List.mem_map.1 ht
  obtain ⟨hmem, hok⟩ := List.mem_filter.1 hp
  refine Reads.tlv p.item.index_le ?_
  show p.item.value.length ≤ maxTlvValueLength
  refine Nat.not_lt.1 fun hlong => ?_
  rw [(h p hmem).reply_eq, if_pos hlong] at hok
  exact absurd hok (by simp [Except.isOk, Except.toBool])

/-- **A stream of TLVs is atomic in each TLV and can be read in one way only.**  TLVs of any type,
index and value are put into a new buffer of any kind and capacity, part after part:

* no step is out of range, so every TLV of the stream has its record, in their order;
* each TLV is put as a whole or not at all: the reply is the error that its value is longer than two
  octets can say, or else that the room is less than its size, or else that it is appended; if there
  is an error the buffer stays as it was;
* a reader that is driven by the flags finds in the buffer the TLVs that were not refused. -/
theorem puts_eq_some (kind : BufferKind) (capacity : ℕ) (items : List Item) :
    ∃ row last, puts { kind, capacity } items = some (row, last) ∧ row.map (·.item) = items ∧
      (∀ p ∈ row, p.Atomic kind capacity) ∧
      Reader.tlv.untilEnd last.bytes = some (accepted row) := by
  obtain ⟨row, last, hrun, hitems, hrow, hbytes⟩ :=
    exists_puts (b := { kind, capacity }) rfl rfl (Nat.zero_le capacity) items
  have hread : ∀ t ∈ accepted row, Reads Reader.tlv t.bytes (id t) := reads_accepted hrow
  refine ⟨row, last, hrun, hitems, hrow, ?_⟩
  rw [hbytes, List.nil_append, Reads.untilEnd hread fun t _ => by simp [AddrTlv.bytes],
    List.map_id]

/-- The second TLV does not fit; the third one does, and is found behind the first. -/
example : ((puts { kind := .message, capacity := 12 }
      [⟨⟨1, none⟩, 0, [7]⟩, ⟨⟨2, some 9⟩, 1, [8, 8, 8]⟩, ⟨⟨3, some 9⟩, 2, []⟩]).map
        fun r => Reader.tlv.untilEnd r.2.bytes) =
    some (some [⟨⟨1, none⟩, 0, [7]⟩, ⟨⟨3, some 9⟩, 2, []⟩]) := by
  decide

end TlvStream

end RouteDiscovery.Wire
