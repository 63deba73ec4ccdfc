/-
# Frames

The bytes of a draft, written down at once (`Draft.frame`):

    <type> <flags and width> <size of the frame> <selected header fields> <0>
    [<number of addresses> <0> <addresses> <length of the TLVs> <TLVs>]

`Draft.encode` puts the same bytes piece by piece and fills in both lengths afterwards.  For a
draft whose selected header fields are set and whose TLV values are not too long

* `Draft.encode_of_fits`: it gives the frame, if the frame fits the buffer and its size two octets;
* `Draft.encode_exceeded`: otherwise it reports too little room in the message buffer.

`Draft.complete_of_encode`: a draft that is encoded has all header fields that it selects.
-/
import RouteDiscovery.Proofs.Wire.Pieces

namespace RouteDiscovery.Wire

/-! ## Header fields -/

namespace MsgHeader

/-- The bytes of a header field, if its flag selects it. -/
def selected {α : Type} (h : MsgHeader) (flag : MsgFlags) (value : Option α)
    (bytes : α → List UInt8) : List UInt8 :=
  if h.flags.contains flag then (value.map bytes).getD [] else []

/-- The bytes of the selected header fields. -/
def fieldBytes (h : MsgHeader) : List UInt8 :=
  h.selected .originator h.originator (·.bytes) ++ h.selected .hopLimit h.hopLimit (fun n => [n]) ++
    h.selected .hopCount h.hopCount (fun n => [n]) ++ h.selected .seqNum h.seqNum wordBytes

/-- The selected header fields are set, and the originator has the width of the message. -/
structure Complete (h : MsgHeader) (width : ℕ) : Prop where
  originator : h.flags.contains .originator = true →
    ∃ a, h.originator = some a ∧ a.length = width
  hopLimit : h.flags.contains .hopLimit = true → ∃ n, h.hopLimit = some n
  hopCount : h.flags.contains .hopCount = true → ∃ n, h.hopCount = some n
  seqNum : h.flags.contains .seqNum = true → ∃ n, h.seqNum = some n

variable {h : MsgHeader} {width : ℕ}

lemma amounts_field {α : Type} {flag : MsgFlags} {value : Option α} {name : String}
    {piece : α → Buffer.Piece} {bytes : α → List UInt8}
    (hset : h.flags.contains flag = true → ∃ v, value = some v ∧ piece v = .ok (bytes v)) :
    Buffer.Amounts (h.field flag name value piece) (h.selected flag value bytes) := by
  unfold field selected
  split
  · next hflag =>
    obtain ⟨v, rfl, hv⟩ := hset hflag
    simpa only [hv, Option.map_some, Option.getD_some] using Buffer.Amounts.single (bytes v)
  · exact .nil

/-- What the pieces of a complete header amount to. -/
lemma Complete.amounts_pieces (hc : h.Complete width) (type : MsgType) :
    Buffer.Amounts (h.pieces type width)
      ([type.code, h.flagsByte width] ++ (wordBytes 0 ++ h.fieldBytes)) := by
  have hfixed : Buffer.Amounts [.ok [type.code], .ok [h.flagsByte width], .ok (wordBytes 0)]
      ([type.code, h.flagsByte width] ++ wordBytes 0) :=
    (Buffer.Amounts.single (wordBytes 0)).cons.cons
  have horiginator : Buffer.Amounts
      (h.field .originator "originator" h.originator (originatorPiece width))
      (h.selected .originator h.originator (·.bytes)) :=
    amounts_field fun hflag => (hc.originator hflag).imp fun _ ha => ⟨ha.1, if_pos ha.2⟩
  have hhopLimit : Buffer.Amounts (h.field .hopLimit "hop-limit" h.hopLimit fun n => .ok [n])
      (h.selected .hopLimit h.hopLimit fun n => [n]) :=
    amounts_field fun hflag => (hc.hopLimit hflag).imp fun _ hn => ⟨hn, rfl⟩
  have hhopCount : Buffer.Amounts (h.field .hopCount "hop-count" h.hopCount fun n => .ok [n])
      (h.selected .hopCount h.hopCount fun n => [n]) :=
    amounts_field fun hflag => (hc.hopCount hflag).imp fun _ hn => ⟨hn, rfl⟩
  have hseqNum : Buffer.Amounts (h.field .seqNum "seq-num" h.seqNum fun n => .ok (wordBytes n))
      (h.selected .seqNum h.seqNum wordBytes) :=
    amounts_field fun hflag => (hc.seqNum hflag).imp fun _ hn => ⟨hn, rfl⟩
  have hall := (((hfixed.append horiginator).append hhopLimit).append hhopCount).append hseqNum
  simpa only [pieces, fieldBytes, List.append_assoc] using hall

lemma exists_of_error_not_mem {α : Type} {flag : MsgFlags} {value : Option α} {name : String}
    {piece : α → Buffer.Piece} (herr : ∀ e, .error e ∉ h.field flag name value piece)
    (hflag : h.flags.contains flag = true) : ∃ v data, value = some v ∧ piece v = .ok data := by
  unfold field at herr
  rw [if_pos hflag] at herr
  cases value with
  | none => exact absurd (List.mem_singleton_self _) (herr (.missingField name))
  | some v =>
    cases hv : piece v with
    | error e => exact absurd (by simp [hv]) (herr e)
    | ok data => exact ⟨v, data, rfl, hv⟩

/-- A header without a piece that fails is complete. -/
lemma complete_of_error_not_mem (type : MsgType) (herr : ∀ e, .error e ∉ h.pieces type width) :
    h.Complete width := by
  simp only [pieces, List.mem_append, not_or] at herr
  refine ⟨fun hflag => ?_, fun hflag => ?_, fun hflag => ?_, fun hflag => ?_⟩
  · obtain ⟨a, data, ha, hpiece⟩ := exists_of_error_not_mem (fun e => (herr e).1.1.1.2) hflag
    refine ⟨a, ha, ?_⟩
    by_contra hlen
    exact absurd hpiece (by simp [originatorPiece, hlen])
  · obtain ⟨n, -, hn, -⟩ := exists_of_error_not_mem (fun e => (herr e).1.1.2) hflag
    exact ⟨n, hn⟩
  · obtain ⟨n, -, hn, -⟩ := exists_of_error_not_mem (fun e => (herr e).1.2) hflag
    exact ⟨n, hn⟩
  · obtain ⟨n, -, hn, -⟩ := exists_of_error_not_mem (fun e => (herr e).2) hflag
    exact ⟨n, hn⟩

end MsgHeader

namespace Draft

variable {d : Draft} {type : MsgType} {b : Buffer}

/-! ## The address block -/

def tlvBytes (d : Draft) : List UInt8 := d.sortedTlvs.flatMap AddrTlv.bytes

/-- The number of addresses, no flags, and the addresses. -/
def addressBytes (d : Draft) : List UInt8 :=
  [d.addresses.length.toUInt8, 0] ++ d.addresses.flatMap fun a => a.addr.bytes

/-- The address block with its TLVs. -/
def addressBlock (d : Draft) : List UInt8 :=
  d.addressBytes ++ (wordBytes d.tlvBytes.length.toUInt16 ++ d.tlvBytes)

/-- No value of a TLV is too long. -/
def Short (d : Draft) : Prop := ∀ t ∈ d.sortedTlvs, t.value.length ≤ maxTlvValueLength

lemma length_addressBlock (d : Draft) :
    d.addressBlock.length = d.addressBytes.length + (2 + d.tlvBytes.length) := by
  simp only [addressBlock, List.length_append, length_wordBytes]

lemma amounts_addressPieces (d : Draft) : Buffer.Amounts d.addressPieces d.addressBytes := by
  have haddresses : Buffer.Amounts (d.addresses.map fun a => .ok a.addr.bytes)
      (d.addresses.flatMap fun a => a.addr.bytes) := Buffer.Amounts.map fun _ _ => rfl
  exact haddresses.cons.cons

lemma Short.amounts_tlvPieces (hs : d.Short) :
    Buffer.Amounts (.ok (wordBytes 0) :: d.sortedTlvs.map AddrTlv.piece)
      (wordBytes 0 ++ d.tlvBytes) :=
  (Buffer.Amounts.map fun t ht => if_pos (hs t ht)).cons

/-- Filling in a word that is written leaves the bytes around it. -/
lemma fill_extend (b : Buffer) (xs ys : List UInt8) (u w : UInt16) :
    fill (b.extend (xs ++ (wordBytes u ++ ys))) (b.length + xs.length) w =
      b.extend (xs ++ (wordBytes w ++ ys)) := by
  have hbytes : (b.extend (xs ++ (wordBytes u ++ ys))).bytes =
      (b.bytes ++ xs) ++ (wordBytes u ++ ys) := (List.append_assoc _ _ _).symm
  have hlength : b.length + xs.length = (b.bytes ++ xs).length := List.length_append.symm
  rw [fill, hlength, Buffer.patchWord?_append hbytes]
  simp only [Option.getD_some, Buffer.extend, List.append_assoc]

/-- Where the address block fits, all that is left to do is to fill in the length of its TLVs. -/
lemma Short.encodeAddresses_eq (hs : d.Short)
    (hfit : b.length + d.addressBlock.length ≤ b.capacity) :
    d.encodeAddresses b = lengthField d.tlvBytes.length >>= fun length =>
      .ok (b.extend (d.addressBytes ++ (wordBytes length ++ d.tlvBytes))) := by
  rw [length_addressBlock] at hfit
  have hfirst := d.amounts_addressPieces.writeAll_of_fits (b := b) (by omega)
  have hsecond := hs.amounts_tlvPieces.writeAll_of_fits (b := b.extend d.addressBytes) (by
    simp only [Buffer.length_extend, Buffer.capacity_extend, List.length_append, length_wordBytes]
    omega)
  rw [Buffer.extend_extend] at hsecond
  have hlength : (b.extend (d.addressBytes ++ (wordBytes 0 ++ d.tlvBytes))).length -
      (b.extend d.addressBytes).length - 2 = d.tlvBytes.length := by
    simp only [Buffer.length_extend, List.length_append, length_wordBytes]
    omega
  rw [encodeAddresses, hfirst, ok_bind, hsecond, ok_bind, hlength]
  refine congrArg (lengthField _ >>= ·) (funext fun length => ?_)
  rw [Buffer.length_extend, fill_extend]
  rfl

/-- The address block fits: it is written, and the length of its TLVs is filled in. -/
lemma encodeAddresses_of_fits (hs : d.Short)
    (hfit : b.length + d.addressBlock.length ≤ b.capacity) (hblock : d.tlvBytes.length ≤ maxWord) :
    d.encodeAddresses b = .ok (b.extend d.addressBlock) := by
  rw [hs.encodeAddresses_eq hfit, lengthField_of_le hblock]
  rfl

/-- The address block does not fit, or the length of its TLVs does not fit two octets. -/
lemma encodeAddresses_exceeded (hs : d.Short) (hkind : b.kind = .message)
    (hb : b.length ≤ b.capacity)
    (h : b.capacity < b.length + d.addressBlock.length ∨ maxWord < d.tlvBytes.length) :
    Exceeded .message (d.encodeAddresses b) := by
  by_cases hfit : b.length + d.addressBlock.length ≤ b.capacity
  · -- everything is written, and the length of the TLVs is reported
    rw [hs.encodeAddresses_eq hfit]
    exact (lengthField_exceeded (h.resolve_left (Nat.not_lt.2 hfit))).bind _
  · rw [length_addressBlock] at hfit
    unfold encodeAddresses
    by_cases haddresses : b.length + d.addressBytes.length ≤ b.capacity
    · -- the addresses are written, and there is no room for the TLVs
      have hsecond := hs.amounts_tlvPieces.writeAll_exceeded (b := b.extend d.addressBytes)
        (by simpa only [Buffer.length_extend, Buffer.capacity_extend] using haddresses) (by
        simp only [Buffer.length_extend, Buffer.capacity_extend, List.length_append,
          length_wordBytes]
        omega)
      rw [Buffer.kind_extend, hkind] at hsecond
      rw [d.amounts_addressPieces.writeAll_of_fits haddresses]
      exact hsecond.bind _
    · have hfirst := d.amounts_addressPieces.writeAll_exceeded hb (Nat.lt_of_not_le haddresses)
      rw [hkind] at hfirst
      exact hfirst.bind _

/-! ## The frame -/

/-- The bytes of the message after its size. -/
def body (d : Draft) : List UInt8 :=
  d.header.fieldBytes ++ wordBytes 0 ++ if d.addresses.isEmpty then [] else d.addressBlock

def frameSize (d : Draft) : ℕ := 4 + d.body.length

/-- The bytes of the message. -/
def frame (d : Draft) (type : MsgType) : List UInt8 :=
  [type.code, d.header.flagsByte d.width] ++ (wordBytes d.frameSize.toUInt16 ++ d.body)

@[simp] lemma length_frame (d : Draft) (type : MsgType) :
    (d.frame type).length = d.frameSize := by
  simp only [frame, frameSize, List.length_append, List.length_cons, List.length_nil,
    length_wordBytes]
  omega

/-- What the pieces before the address block amount to. -/
def headBytes (d : Draft) (type : MsgType) : List UInt8 :=
  [type.code, d.header.flagsByte d.width] ++ (wordBytes 0 ++ d.header.fieldBytes) ++ wordBytes 0

lemma amounts_headPieces (hc : d.header.Complete d.width) (type : MsgType) :
    Buffer.Amounts (d.headPieces type) (d.headBytes type) :=
  (hc.amounts_pieces type).append (.single (wordBytes 0))

/-- The message before its size is filled in. -/
lemma headBytes_append_block (d : Draft) (type : MsgType) :
    d.headBytes type ++ (if d.addresses.isEmpty then [] else d.addressBlock) =
      [type.code, d.header.flagsByte d.width] ++ (wordBytes 0 ++ d.body) := by
  simp only [headBytes, body, List.append_assoc]

lemma length_headBytes (d : Draft) (type : MsgType) :
    (d.headBytes type).length = 6 + d.header.fieldBytes.length := by
  simp only [headBytes, List.length_append, List.length_cons, List.length_nil, length_wordBytes]
  omega

lemma frameSize_eq (d : Draft) : d.frameSize =
    6 + d.header.fieldBytes.length + if d.addresses.isEmpty then 0 else d.addressBlock.length := by
  simp only [frameSize, body, List.length_append, length_wordBytes]
  split
  · simp only [List.length_nil]
    omega
  · omega

lemma encode_eq (d : Draft) (type : MsgType) (b : Buffer) :
    d.encode type b = b.writeAll (d.headPieces type) >>= fun b₁ =>
      (if d.addresses.isEmpty then pure b₁ else d.encodeAddresses b₁) >>= fun b₂ =>
        lengthField b₂.length >>= fun size => pure (fill b₂ 2 size) := by
  unfold encode
  congr 1
  funext b₁
  split <;> rfl

/-- A frame that fits the buffer and whose size fits two octets is what is written. -/
lemma encode_of_fits (hc : d.header.Complete d.width) (hs : d.Short) (hempty : b.bytes = [])
    (hfit : d.frameSize ≤ b.capacity) (hword : d.frameSize ≤ maxWord) :
    d.encode type b = .ok (b.extend (d.frame type)) := by
  have hzero : b.length = 0 := List.length_eq_zero_iff.2 hempty
  have hsize := d.frameSize_eq
  have hhead := d.length_headBytes type
  have hfirst := (amounts_headPieces hc type).writeAll_of_fits (b := b) (by omega)
  have hsecond : (if d.addresses.isEmpty then pure (b.extend (d.headBytes type))
      else d.encodeAddresses (b.extend (d.headBytes type))) =
      .ok (b.extend ([type.code, d.header.flagsByte d.width] ++ (wordBytes 0 ++ d.body))) := by
    rw [← headBytes_append_block, ← Buffer.extend_extend]
    split
    · rw [Buffer.extend_nil]
      rfl
    · next hne =>
      rw [if_neg hne] at hsize
      have hblock := d.length_addressBlock
      refine encodeAddresses_of_fits hs ?_ (by omega)
      rw [Buffer.length_extend, Buffer.capacity_extend]
      omega
  have hlength : (b.extend ([type.code, d.header.flagsByte d.width] ++
      (wordBytes 0 ++ d.body))).length = d.frameSize := by
    simp only [Buffer.length_extend, frameSize, List.length_append, List.length_cons,
      List.length_nil, length_wordBytes]
    omega
  have hfill := fill_extend b [type.code, d.header.flagsByte d.width] d.body 0
    d.frameSize.toUInt16
  rw [hzero] at hfill
  rw [encode_eq, hfirst, ok_bind, hsecond, ok_bind, hlength, lengthField_of_le hword, ok_bind]
  exact congrArg Except.ok hfill

/-- A frame that does not fit the buffer, or whose size does not fit two octets, is reported. -/
lemma encode_exceeded (hc : d.header.Complete d.width) (hs : d.Short) (hkind : b.kind = .message)
    (hempty : b.bytes = []) (h : b.capacity < d.frameSize ∨ maxWord < d.frameSize) :
    Exceeded .message (d.encode type b) := by
  have hzero : b.length = 0 := List.length_eq_zero_iff.2 hempty
  have hsize := d.frameSize_eq
  have hhead := d.length_headBytes type
  rw [encode_eq]
  by_cases hfit : b.length + (d.headBytes type).length ≤ b.capacity
  · rw [(amounts_headPieces hc type).writeAll_of_fits hfit, ok_bind]
    by_cases hnone : d.addresses.isEmpty = true
    · -- the size alone is too large
      rw [if_pos hnone] at hsize ⊢
      exact (lengthField_exceeded (by rw [Buffer.length_extend]; omega)).bind _
    · rw [if_neg hnone] at hsize ⊢
      have hblock := d.length_addressBlock
      by_cases hblockFit : (b.extend (d.headBytes type)).length + d.addressBlock.length ≤ b.capacity ∧
          d.tlvBytes.length ≤ maxWord
      · -- everything is written, and the size of the frame is reported
        rw [encodeAddresses_of_fits hs hblockFit.1 hblockFit.2]
        have hlt := hblockFit.1
        rw [Buffer.length_extend] at hlt
        exact (lengthField_exceeded (by simp only [Buffer.length_extend]; omega)).bind _
      · rw [not_and_or, Nat.not_le, Nat.not_le] at hblockFit
        exact (encodeAddresses_exceeded (b := b.extend (d.headBytes type)) hs hkind
          (by rwa [Buffer.length_extend]) hblockFit).bind _
  · have hfirst := (amounts_headPieces hc type).writeAll_exceeded (b := b) (by omega)
      (Nat.lt_of_not_le hfit)
    rw [hkind] at hfirst
    exact hfirst.bind _

/-- A draft that is encoded has all header fields that it selects. -/
lemma complete_of_encode {b' : Buffer} (h : d.encode type b = .ok b') :
    d.header.Complete d.width := by
  rw [encode_eq] at h
  cases hhead : b.writeAll (d.headPieces type) with
  | error e =>
    rw [hhead, error_bind] at h
    exact absurd h (by simp)
  | ok b₁ =>
    -- a field that is selected and not set would be a piece that fails
    refine MsgHeader.complete_of_error_not_mem type fun e hmem => ?_
    exact Buffer.error_not_mem_of_writeAll hhead e (List.mem_append_left _ hmem)

/-- What is encoded is the frame, and its size fits two octets. -/
lemma frame_of_encode (hs : d.Short) (hkind : b.kind = .message) (hempty : b.bytes = [])
    {b' : Buffer} (h : d.encode type b = .ok b') :
    b' = b.extend (d.frame type) ∧ d.frameSize ≤ maxWord := by
  have hc := complete_of_encode h
  by_cases hfit : d.frameSize ≤ b.capacity ∧ d.frameSize ≤ maxWord
  · rw [encode_of_fits hc hs hempty hfit.1 hfit.2] at h
    exact ⟨(Except.ok.inj h).symm, hfit.2⟩
  · rw [not_and_or, Nat.not_le, Nat.not_le] at hfit
    obtain ⟨needed, available, -, herror⟩ : Exceeded .message (d.encode type b) :=
      encode_exceeded hc hs hkind hempty hfit
    exact absurd (herror.symm.trans h) (by simp)

end Draft

end RouteDiscovery.Wire
