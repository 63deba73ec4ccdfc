/-
# Nothing is out of range

A writer computes with numbers and positions that it does not check where it uses them: the room of
a buffer and the length of a block are differences, the type of a TLV is looked up in the table and
its value in the arena, lengths are filled in at offsets, and counts and lengths are cut to one or
two octets.  All this is safe because of checks that were made elsewhere and earlier.

`Checked` is such work with each of these steps checked where it is made.  It has no result if a
difference is negative, a position is not there or a number does not fit.  `Checked.create` is the
making of a message in this way, and it has the result that `MessageWriter.create` has, whatever the
provider does (`MessageWriter.create_checked`).
-/
import Mathlib.Data.List.Forall2
import RouteDiscovery.Proofs.Wire.Append

namespace RouteDiscovery.Wire

/-- Work that may fail with an error, and has no result at all if a step is out of range. -/
abbrev Checked (α : Type) := ExceptT WireError Option α

namespace Checked

variable {α β : Type}

/-! ## Steps that may be out of range -/

def must (x : Option α) : Checked α := ExceptT.lift x

/-- The difference of two numbers, which must not be negative. -/
def subtract (m n : ℕ) : Checked ℕ := must (if n ≤ m then some (m - n) else none)

/-- The element at a position, which must be there. -/
def element (l : List α) (i : ℕ) : Checked α := must l[i]?

/-- A range of a list, which must lie within it. -/
def slice (l : List α) (start length : ℕ) : Checked (List α) :=
  must (if start + length ≤ l.length then some ((l.drop start).take length) else none)

/-- A number as an octet, which must hold it. -/
def octet (n : ℕ) : Checked UInt8 := must (if n ≤ maxShortLength then some n.toUInt8 else none)

/-- A number as a word, which must hold it. -/
def word (n : ℕ) : Checked UInt16 := must (if n ≤ maxWord then some n.toUInt16 else none)

def ofExcept (r : Except WireError α) : Checked α := ExceptT.mk (some r)

/-! ## Buffers -/

/-- Fails unless the given number of bytes fits. -/
def ensure (b : Buffer) (needed : ℕ) : Checked Unit := do
  let room ← subtract b.capacity b.length
  if needed ≤ room then pure () else throw (.capacity b.kind needed room)

/-- Appends bytes. -/
def put (b : Buffer) (data : List UInt8) : Checked Buffer := do
  ensure b data.length
  return b.extend data

/-- Puts one piece after another. -/
def putAll (b : Buffer) : List (Checked (List UInt8)) → Checked Buffer
  | [] => pure b
  | piece :: pieces => do
    let data ← piece
    let b ← put b data
    putAll b pieces

/-- Replaces the word at an offset. -/
def patch (b : Buffer) (offset : ℕ) (w : UInt16) : Checked Buffer := must (b.patchWord? offset w)

/-! ## Drafts -/

/-- The length of a TLV, in one octet or two. -/
def lengthOctets (t : AddrTlv) : Checked (List UInt8) :=
  if t.isLong then wordBytes <$> word t.value.length
  else (fun n => [n]) <$> octet t.value.length

/-- The bytes of a TLV. -/
def tlvPiece (t : AddrTlv) : Checked (List UInt8) := do
  let index ← octet t.index
  if maxTlvValueLength < t.value.length then throw (.tlvValueTooLong t.value.length)
  else
    let length ← lengthOctets t
    return [t.type.kind, t.flags.bits] ++ t.type.ext.toList ++ [index] ++ length ++ t.value

/-- The TLV of an entry, with the position of its type. -/
def resolve (d : Draft) (e : TlvEntry) : Checked (ℕ × AddrTlv) := do
  let type ← element d.declared e.position
  let value ← slice d.arena.bytes e.start e.length
  return (e.position, ⟨type, e.index, value⟩)

/-- The pieces of the address block. -/
def addressPieces (d : Draft) : List (Checked (List UInt8)) :=
  [(fun n => [n]) <$> octet d.addresses.length, pure [0]] ++
    d.addresses.map fun a => pure a.addr.bytes

/-- Writes the address block and its TLV block. -/
def encodeAddresses (d : Draft) (b : Buffer) : Checked Buffer := do
  let b ← putAll b (addressPieces d)
  let tlvs ← d.entries.mapM (resolve d)
  let blockStart := b.length
  let b ← putAll b (pure (wordBytes 0) :: (tlvs.mergeSort Draft.tlvLe).map fun t => tlvPiece t.2)
  let written ← subtract b.length blockStart
  let blockLength ← ofExcept (lengthField (← subtract written 2))
  patch b blockStart blockLength

/-- Writes the address block if there are addresses. -/
def encodeBlock (d : Draft) (b : Buffer) : Checked Buffer :=
  if d.addresses.isEmpty then pure b else encodeAddresses d b

/-- Writes the message into an empty buffer. -/
def encode (d : Draft) (type : MsgType) (b : Buffer) : Checked Buffer := do
  -- the width less one stands in the second octet
  let _ ← subtract d.width 1
  let b ← putAll b ((d.headPieces type).map ofExcept)
  let b ← encodeBlock d b
  let size ← ofExcept (lengthField b.length)
  patch b 2 size

/-- What the answer to a call relies on: an address that is marked is there, and the arena has not
outgrown its capacity. -/
def InRange (d : Draft) : Call → Bool
  | .addAddress addr _ => (d.indexOf? addr).all (· < d.addresses.length)
  | .addTlv .. => d.arena.length ≤ d.arena.capacity
  | _ => true

/-! ## Messages -/

variable {σ : Type}

/-- Carries out a script, whose calls must be in range. -/
def runScript : Script σ α → Session σ → Option (α × Session σ)
  | .done a, s => some (a, s)
  | .call c next, s =>
    if InRange s.draft c then
      let (answer, draft) := s.draft.answer c
      runScript (next answer) { s with draft, calls := s.calls ++ [⟨c, answer⟩] }
    else none
  | .read next, s => runScript (next s.context) s
  | .write context next, s => runScript next { s with context }
  | .emit e next, s => runScript next { s with events := e :: s.events }

/-- Carries out the callbacks that build a message. -/
def compose (p : ContentProvider σ) (s : Session σ) :
    Option (Except WireError Unit × List MessageWriter.Callback × Session σ) := do
  match ← runScript p.addHeader.run s with
  | (.error e, s) => return (.error e, [.header], s)
  | (.ok (), s) =>
    let (r, s) ← runScript p.addAddresses.run s
    return (r, [.header, .addresses], s)

/-- Appends a message to a packet. -/
def appendMessage (packet : Buffer) (message : List UInt8) : Checked Buffer := do
  ensure packet (message.length + if packet.isEmpty then 1 else 0)
  let packet ← if packet.isEmpty then put packet [packetHeader] else pure packet
  put packet message

/-- Encodes a draft and appends it to the packet. -/
def appendDraft (w : MessageWriter) (type : MsgType) (d : Draft) : Checked (Buffer × Buffer) := do
  let message ← encode d type { kind := .message, capacity := w.config.msgSize }
  let packet ← appendMessage w.packet message.bytes
  return (packet, message)

/-- Lets a provider build one message and appends it to the packet. -/
def create (w : MessageWriter) (p : ContentProvider σ) (context : σ) :
    Option (MessageWriter.Created σ) :=
  match w.width? p.type with
  | none => some { result := .error (.unregistered p.type.code), writer := w, context }
  | some width => do
    match ← compose p (w.opening p context width) with
    | (.error e, callbacks, s) => return w.aborted p callbacks s e
    | (.ok (), callbacks, s) =>
      match ← (appendDraft w p.type s.draft).run with
      | .error e => return w.aborted p callbacks s e
      | .ok (packet, message) => return w.finished p callbacks s packet message

/-! ## Results -/

/-- The work has a result, and this is it. -/
def Yields (c : Checked α) (r : Except WireError α) : Prop := c.run = some r

lemma yields_pure (a : α) : Yields (pure a) (.ok a) := rfl

lemma yields_ofExcept (r : Except WireError α) : Yields (ofExcept r) r := rfl

lemma Yields.bind {c : Checked α} {r : Except WireError α} {f : α → Checked β}
    {g : α → Except WireError β} (h : Yields c r) (hf : ∀ a, r = .ok a → Yields (f a) (g a)) :
    Yields (c >>= f) (r >>= g) := by
  rw [Yields, ExceptT.run_bind, h]
  cases r with
  | error e => rfl
  | ok a => exact hf a rfl

/-- A step in range goes on with its result. -/
lemma Yields.bind_ok {c : Checked α} {a : α} {f : α → Checked β} {r : Except WireError β}
    (h : Yields c (.ok a)) (hf : Yields (f a) r) : Yields (c >>= f) r := by
  rw [Yields, ExceptT.run_bind, h]
  exact hf

lemma Yields.map {c : Checked α} {a : α} (h : Yields c (.ok a)) (f : α → β) :
    Yields (f <$> c) (.ok (f a)) := by
  rw [Yields, ExceptT.run_map, h]
  rfl

lemma yields_must {x : Option α} {a : α} (h : x = some a) : Yields (must x) (.ok a) := by
  rw [Yields, must, ExceptT.run_lift, h]
  rfl

lemma yields_subtract {m n : ℕ} (h : n ≤ m) : Yields (subtract m n) (.ok (m - n)) :=
  yields_must (if_pos h)

/-! ## Buffers in range -/

/-- A buffer that has not outgrown its capacity. -/
def Fits (b : Buffer) : Prop := b.length ≤ b.capacity

variable {b b' : Buffer} {data : List UInt8}

lemma yields_ensure (hb : Fits b) (needed : ℕ) : Yields (ensure b needed) (b.ensure needed) := by
  refine (yields_subtract hb).bind_ok ?_
  rw [Buffer.ensure, Buffer.remaining]
  split <;> rfl

lemma yields_put (hb : Fits b) (data : List UInt8) : Yields (put b data) (b.put data) :=
  (yields_ensure hb data.length).bind fun _ _ => yields_pure _

lemma Fits.of_put (hb : Fits b) (h : b.put data = .ok b') : Fits b' := by
  obtain rfl := Buffer.eq_extend_of_put h
  by_contra hlt
  rw [Fits, Buffer.length_extend, Buffer.capacity_extend, Nat.not_le] at hlt
  obtain ⟨needed, available, -, herror⟩ := Buffer.put_exceeded hb hlt
  exact absurd (herror.symm.trans h) (by simp)

/-- The first piece has been put when all are. -/
lemma writeAll_ok_cons {pieces : List Buffer.Piece} {piece : Buffer.Piece}
    (h : b.writeAll (piece :: pieces) = .ok b') :
    ∃ data, piece = .ok data ∧ b.put data = .ok (b.extend data) ∧
      (b.extend data).writeAll pieces = .ok b' := by
  cases piece with
  | error e => exact absurd h (by simp [Buffer.writeAll_cons_error])
  | ok data =>
    rw [Buffer.writeAll_cons_ok] at h
    cases hput : b.put data with
    | error e =>
      rw [hput, error_bind] at h
      exact absurd h (by simp)
    | ok b₁ =>
      obtain rfl := Buffer.eq_extend_of_put hput
      rw [hput, ok_bind] at h
      exact ⟨data, rfl, hput, h⟩

/-- Pieces that have been put went behind what was there. -/
lemma Fits.of_writeAll {pieces : List Buffer.Piece} (hb : Fits b)
    (h : b.writeAll pieces = .ok b') : Fits b' ∧ ∃ bytes, b' = b.extend bytes := by
  induction pieces generalizing b with
  | nil =>
    obtain rfl := Except.ok.inj (Buffer.writeAll_nil.symm.trans h)
    exact ⟨hb, [], Buffer.extend_nil.symm⟩
  | cons piece pieces ih =>
    obtain ⟨data, rfl, hput, hrest⟩ := writeAll_ok_cons h
    obtain ⟨hfits, bytes, rfl⟩ := ih (hb.of_put hput) hrest
    exact ⟨hfits, data ++ bytes, Buffer.extend_extend data bytes⟩

/-- What is written holds the pieces that it began with. -/
lemma Fits.le_length {pieces rest : List Buffer.Piece} {bytes : List UInt8} (hb : Fits b)
    (hpieces : Buffer.Amounts pieces bytes) (h : b.writeAll (pieces ++ rest) = .ok b') :
    b.length + bytes.length ≤ b'.length := by
  induction hpieces generalizing b with
  | nil =>
    obtain ⟨-, bytes, rfl⟩ := hb.of_writeAll h
    rw [Buffer.length_extend, List.length_nil]
    omega
  | @cons data bytes pieces _ ih =>
    obtain ⟨data', hdata, hput, hrest⟩ := writeAll_ok_cons h
    obtain rfl := Except.ok.inj hdata
    have hle := ih (hb.of_put hput) hrest
    rw [Buffer.length_extend] at hle
    rw [List.length_append]
    omega

/-- Pieces that have results are put as these are. -/
lemma yields_putAll (hb : Fits b) {pieces : List (Checked (List UInt8))}
    {results : List Buffer.Piece} (h : List.Forall₂ Yields pieces results) :
    Yields (putAll b pieces) (b.writeAll results) := by
  induction h generalizing b with
  | nil => rfl
  | @cons piece result pieces results hpiece _ ih =>
    cases result with
    | error e =>
      -- the work ends here, in both
      rw [putAll, Yields, ExceptT.run_bind, hpiece]
      rfl
    | ok data =>
      rw [Buffer.writeAll_cons_ok]
      exact hpiece.bind_ok ((yields_put hb data).bind fun b' hput => ih (hb.of_put hput))

lemma yields_patch {offset : ℕ} (h : offset + 2 ≤ b.length) (w : UInt16) :
    Yields (patch b offset w) (.ok (Draft.fill b offset w)) := by
  refine yields_must ?_
  rw [Draft.fill, Buffer.patchWord?, if_pos h]
  rfl

/-! ## Drafts in range -/

variable {d : Draft}

lemma yields_octet {n : ℕ} (h : n ≤ maxShortLength) : Yields (octet n) (.ok n.toUInt8) :=
  yields_must (if_pos h)

lemma yields_word {n : ℕ} (h : n ≤ maxWord) : Yields (word n) (.ok n.toUInt16) :=
  yields_must (if_pos h)

lemma yields_lengthOctets {t : AddrTlv} (h : t.value.length ≤ maxTlvValueLength) :
    Yields (lengthOctets t) (.ok t.lengthBytes) := by
  unfold lengthOctets AddrTlv.lengthBytes
  split
  · exact (yields_word h).map _
  · next hshort =>
    simp only [AddrTlv.isLong, decide_eq_true_eq, Nat.not_lt] at hshort
    exact (yields_octet hshort).map _

lemma yields_tlvPiece {t : AddrTlv} (hindex : t.index ≤ maxShortLength) :
    Yields (tlvPiece t) t.piece := by
  refine (yields_octet hindex).bind_ok ?_
  by_cases hlong : maxTlvValueLength < t.value.length
  · rw [if_pos hlong, AddrTlv.piece, if_neg (Nat.not_le.2 hlong)]
    rfl
  · rw [if_neg hlong, AddrTlv.piece, if_pos (Nat.not_lt.1 hlong)]
    exact (yields_lengthOctets (Nat.not_lt.1 hlong)).bind_ok (yields_pure _)

/-- The entries of a draft that can be written down are all found. -/
lemma yields_resolve (hs : d.Sound) :
    Yields (d.entries.mapM (resolve d)) (.ok d.tlvs) := by
  have hentry : ∀ e ∈ d.entries, ∃ t, d.resolve? e = some t ∧ Yields (resolve d e) (.ok t) := by
    intro e he
    obtain ⟨type, htype⟩ : ∃ type, d.declared[e.position]? = some type :=
      ⟨_, List.getElem?_eq_getElem (hs.position e he)⟩
    refine ⟨(e.position, ⟨type, e.index, d.valueOf e⟩), ?_, ?_⟩
    · rw [Draft.resolve?, htype]
      rfl
    · exact (yields_must htype).bind_ok ((yields_must (if_pos (hs.stored e he))).bind_ok
        (yields_pure _))
  unfold Draft.tlvs
  generalize d.entries = entries at hentry
  induction entries with
  | nil => rfl
  | cons e entries ih =>
    obtain ⟨t, ht, hyields⟩ := hentry e List.mem_cons_self
    have hrest := ih fun e he => hentry e (List.mem_cons_of_mem _ he)
    rw [List.mapM_cons, List.filterMap_cons_some ht]
    exact hyields.bind_ok (hrest.bind_ok (yields_pure _))

lemma yields_addressPieces (hs : d.Sound) :
    List.Forall₂ Yields (addressPieces d) d.addressPieces := by
  have haddresses : List.Forall₂ Yields (d.addresses.map fun a => pure a.addr.bytes)
      (d.addresses.map fun a => .ok a.addr.bytes) := by
    rw [List.forall₂_map_left_iff, List.forall₂_map_right_iff, List.forall₂_same]
    exact fun _ _ => rfl
  exact .cons ((yields_octet hs.count).map _) (.cons rfl haddresses)

lemma yields_encodeAddresses (hs : d.Sound) (hb : Fits b) :
    Yields (encodeAddresses d b) (d.encodeAddresses b) := by
  have hsecond : List.Forall₂ Yields
      (pure (wordBytes 0) :: (d.tlvs.mergeSort Draft.tlvLe).map fun t => tlvPiece t.2)
      (.ok (wordBytes 0) :: d.sortedTlvs.map (·.piece)) := by
    refine .cons rfl ?_
    rw [Draft.sortedTlvs, List.map_map, List.forall₂_map_left_iff, List.forall₂_map_right_iff,
      List.forall₂_same]
    intro t ht
    have hindex := (hs.mem_sortedTlvs (List.mem_map_of_mem ht)).1
    exact yields_tlvPiece (Nat.le_trans (Nat.le_of_lt hindex) hs.count)
  refine (yields_putAll hb (yields_addressPieces hs)).bind fun b₁ hb₁ => ?_
  refine (yields_resolve hs).bind_ok ?_
  have hfits₁ := (hb.of_writeAll hb₁).1
  refine (yields_putAll hfits₁ hsecond).bind fun b₂ hb₂ => ?_
  have hlength : b₁.length + 2 ≤ b₂.length :=
    hfits₁.le_length (Buffer.Amounts.single (wordBytes 0)) hb₂
  refine (yields_subtract (by omega)).bind_ok ((yields_subtract (by omega)).bind_ok ?_)
  refine (yields_ofExcept _).bind fun length _ => ?_
  exact yields_patch hlength length

/-- The address block is put behind what is there. -/
lemma length_le_of_encodeAddresses (hs : d.Sound) (hkind : b.kind = .message) (hb : Fits b)
    (h : d.encodeAddresses b = .ok b') : b.length ≤ b'.length := by
  by_cases hfit : b.length + d.addressBlock.length ≤ b.capacity ∧ d.tlvBytes.length ≤ maxWord
  · rw [Draft.encodeAddresses_of_fits hs.values_short hfit.1 hfit.2] at h
    rw [← Except.ok.inj h, Buffer.length_extend]
    omega
  · rw [not_and_or, Nat.not_le, Nat.not_le] at hfit
    obtain ⟨needed, available, -, herror⟩ :=
      Draft.encodeAddresses_exceeded hs.values_short hkind hb hfit
    exact absurd (herror.symm.trans h) (by simp)

/-- The header begins with four bytes, so there is room for the size. -/
lemma four_le_of_headPieces {type : MsgType} (hb : Fits b)
    (h : b.writeAll (d.headPieces type) = .ok b') : 4 ≤ b'.length := by
  obtain ⟨rest, hpieces⟩ : ∃ rest, d.headPieces type =
      [.ok [type.code], .ok [d.header.flagsByte d.width], .ok (wordBytes 0)] ++ rest := ⟨_, rfl⟩
  rw [hpieces] at h
  have hle := hb.le_length (Buffer.Amounts.single (wordBytes 0)).cons.cons h
  simp only [List.length_append, List.length_cons, List.length_nil, length_wordBytes] at hle
  omega

/-- A draft that can be written down is encoded without a step out of range. -/
lemma yields_encode (hs : d.Sound) (hwidth : 0 < d.width) (type : MsgType)
    (hkind : b.kind = .message) (hb : Fits b) : Yields (encode d type b) (d.encode type b) := by
  have hhead : List.Forall₂ Yields ((d.headPieces type).map ofExcept) (d.headPieces type) := by
    rw [List.forall₂_map_left_iff, List.forall₂_same]
    exact fun _ _ => rfl
  rw [Draft.encode_eq]
  refine (yields_subtract hwidth).bind_ok ((yields_putAll hb hhead).bind fun b₁ hb₁ => ?_)
  obtain ⟨hfits₁, bytes, rfl⟩ := hb.of_writeAll hb₁
  have hfour := four_le_of_headPieces hb hb₁
  have hblock : Yields (encodeBlock d (b.extend bytes))
      (if d.addresses.isEmpty then pure (b.extend bytes)
        else d.encodeAddresses (b.extend bytes)) := by
    unfold encodeBlock
    split
    · rfl
    · exact yields_encodeAddresses hs hfits₁
  refine hblock.bind fun b₂ hb₂ => (yields_ofExcept _).bind fun size _ => ?_
  have hle : (b.extend bytes).length ≤ b₂.length := by
    split at hb₂
    · exact Nat.le_of_eq (congrArg Buffer.length (Except.ok.inj hb₂))
    · exact length_le_of_encodeAddresses hs hkind hfits₁ hb₂
  exact yields_patch (by omega) size

/-! ## Messages in range -/

lemma inRange_of_fits (hd : Fits d.arena) (c : Call) : InRange d c = true := by
  cases c with
  | addAddress addr mandatory =>
    -- an index that is found is that of an address
    simp only [InRange, Option.all_eq_true, decide_eq_true_eq]
    intro index hindex
    exact (List.findIdx?_eq_some_iff_getElem.1 hindex).1
  | addTlv index type value allowDuplicate => exact decide_eq_true hd
  | _ => rfl

lemma Fits.addTlv {d' : Draft} {index : ℕ} {type : TlvType} {value : List UInt8}
    {allowDuplicate : Bool} (hd : Fits d.arena)
    (h : d.addTlv index type value allowDuplicate = .ok d') : Fits d'.arena := by
  unfold Draft.addTlv at h
  -- the one branch that is no error is that in which the value was put
  repeat' split at h
  all_goals cases h
  next hput => exact hd.of_put hput

/-- The arena does not outgrow its capacity. -/
lemma Fits.answer (hd : Fits d.arena) (c : Call) : Fits (d.answer c).2.arena := by
  cases c with
  | addAddress addr mandatory =>
    simp only [Draft.answer]
    split
    · next h =>
      obtain ⟨-, ⟨-, rfl⟩ | ⟨-, -, -, rfl⟩⟩ := Draft.addAddress_cases h
      · exact hd
      · exact hd
    · exact hd
  | addTlv index type value allowDuplicate =>
    simp only [Draft.answer]
    split
    · next h => exact hd.addTlv h
    · exact hd
  | _ => exact hd

/-- A script finds each of its calls in range. -/
lemma runScript_eq (script : Script σ α) (s : Session σ) (hs : Fits s.draft.arena) :
    runScript script s = some (script.run s) := by
  induction script generalizing s with
  | done a => rfl
  | call c next ih =>
    rw [runScript, if_pos (inRange_of_fits hs c)]
    exact ih _ _ (hs.answer c)
  | read next ih => exact ih s.context s hs
  | write context next ih => exact ih _ hs
  | emit e next ih => exact ih _ hs

lemma compose_eq (p : ContentProvider σ) (s : Session σ) (hs : Fits s.draft.arena) :
    compose p s = some (MessageWriter.compose p s) := by
  have hheader : Fits (p.addHeader.run.run s).2.draft.arena :=
    Script.run_invariant (P := fun d _ => Fits d.arena) (fun _ _ c h => h.answer c) _ s hs
  rw [compose, runScript_eq _ s hs, MessageWriter.compose]
  rcases hrun : p.addHeader.run.run s with ⟨e | done, headed⟩
  · rfl
  · rw [hrun] at hheader
    show (runScript p.addAddresses.run headed >>= _) = _
    rw [runScript_eq _ headed hheader]
    rfl

lemma yields_appendMessage {packet : Buffer} (hpacket : Fits packet) (message : List UInt8) :
    Yields (appendMessage packet message) (MessageWriter.appendMessage packet message) := by
  rw [appendMessage, MessageWriter.appendMessage]
  refine (yields_ensure hpacket _).bind fun _ _ => ?_
  by_cases hempty : packet.isEmpty = true
  · simp only [hempty, if_true]
    exact (yields_put hpacket _).bind fun b hb => yields_put (hpacket.of_put hb) _
  · simp only [hempty]
    exact yields_put hpacket _

/-- A draft that can be written down is put into the packet without a step out of range. -/
lemma yields_appendDraft {w : MessageWriter} (hs : d.Sound) (hwidth : 0 < d.width)
    (hpacket : Fits w.packet) (type : MsgType) :
    Yields (appendDraft w type d) (w.appendDraft type d) := by
  have hempty : Fits { kind := .message, capacity := w.config.msgSize } := Nat.zero_le _
  rw [MessageWriter.appendDraft_eq]
  refine (yields_encode hs hwidth type rfl hempty).bind fun message _ => ?_
  exact (yields_appendMessage hpacket message.bytes).bind fun _ _ => yields_pure _

end Checked

namespace MessageWriter

variable {σ : Type}

/-- **No step is out of range.**  A writer whose packet has not outgrown its capacity makes a
message of a type with a width: whatever its provider does, every difference, position, range,
offset and narrowed number that is used on the way is in range, and the result is the same. -/
theorem create_checked (w : MessageWriter) (p : ContentProvider σ) (context : σ)
    (hwidth : ∀ width, w.width? p.type = some width → 0 < width)
    (hpacket : Checked.Fits w.packet) :
    Checked.create w p context = some (w.create p context) := by
  cases hregistered : w.width? p.type with
  | none =>
    rw [Checked.create, hregistered, create_unregistered hregistered]
  | some width =>
    have hopening : Checked.Fits (w.opening p context width).draft.arena := Nat.zero_le _
    rw [Checked.create, hregistered]
    show (Checked.compose p (w.opening p context width) >>= _) = _
    rw [Checked.compose_eq _ _ hopening]
    rcases hcompose : compose p (w.opening p context width) with ⟨e | done, callbacks, s⟩
    · rw [create_rejected hregistered hcompose]
      rfl
    · obtain ⟨hs, hr⟩ := reflects_of_compose hcompose
      have hpositive : 0 < s.draft.width := by
        rw [hr.width_eq]
        exact hwidth width hregistered
      have happended := Checked.yields_appendDraft hs hpositive hpacket p.type
      show ((Checked.appendDraft w p.type s.draft).run >>= _) = _
      rw [happended]
      cases happend : w.appendDraft p.type s.draft with
      | error e =>
        rw [create_refused hregistered hcompose happend]
        rfl
      | ok packed =>
        rw [create_finished hregistered hcompose happend]
        rfl

end MessageWriter

end RouteDiscovery.Wire
