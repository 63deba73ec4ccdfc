/-
# Reading packets

A reader of the packet format that knows nothing of drafts and buffers.  It takes bytes from the
front, follows the flags and the lengths that it finds, and refuses what the format does not allow:
packet flags, TLVs of the message itself, address flags, TLVs without an index or a value, and
bytes that belong to nothing.

`Reads r octets a` says that the reader `r` takes exactly `octets` from the front, whatever follows,
and finds `a`.  Readers that follow one another read bytes that follow one another (`Reads.bind`),
so the main result, `Draft.reads_frame`, is put together from the fields: the frame of a sound draft
is read as the message of this draft.
-/
import RouteDiscovery.Proofs.Wire.Calls

namespace RouteDiscovery.Wire

/-- What a reader finds in a message. -/
structure Message where
  type : MsgType
  /-- The width of the addresses. -/
  width : ℕ
  flags : MsgFlags
  /-- The octets of the originator. -/
  originator : Option (List UInt8)
  hopLimit : Option UInt8
  hopCount : Option UInt8
  seqNum : Option UInt16
  /-- The octets of the addresses. -/
  addresses : List (List UInt8)
  /-- The TLVs of the addresses. -/
  tlvs : List AddrTlv
deriving DecidableEq, Repr

/-! ## Readers -/

/-- A reader takes bytes from the front, or refuses them. -/
abbrev Reader (α : Type) := StateT (List UInt8) Option α

namespace Reader

variable {α : Type}

def byte : Reader UInt8
  | [] => none
  | b :: rest => some (b, rest)

def word : Reader UInt16 := do
  let hi ← byte
  let lo ← byte
  return wordOfBytes hi lo

/-- As many bytes as asked for. -/
def bytes (n : ℕ) : Reader (List UInt8) := fun s =>
  if n ≤ s.length then some (s.take n, s.drop n) else none

/-- What is there only if something else says so. -/
def optional (present : Bool) (r : Reader α) : Reader (Option α) :=
  if present then some <$> r else pure none

/-- One thing several times. -/
def times (r : Reader α) : ℕ → Reader (List α)
  | 0 => pure []
  | n + 1 => do
    let a ← r
    let as ← r.times n
    return a :: as

/-- Reads until nothing is left, in at most so many rounds. -/
def rounds (r : Reader α) : ℕ → List UInt8 → Option (List α)
  | _, [] => some []
  | 0, _ :: _ => none
  | n + 1, s => do
    let (a, rest) ← r s
    let as ← r.rounds n rest
    return a :: as

/-- Reads until nothing is left.  Each round takes a byte at least, so there are enough rounds. -/
def untilEnd (r : Reader α) (s : List UInt8) : Option (List α) := r.rounds s.length s

/-- Reads everything that there is. -/
def whole (r : Reader α) (s : List UInt8) : Option α :=
  match r s with
  | some (a, []) => some a
  | _ => none

/-- A part of a known length, which is looked at as a whole. -/
def framed (n : ℕ) (f : List UInt8 → Option α) : Reader α := do
  let part ← bytes n
  StateT.lift (f part)

/-! ## The format -/

/-- The flags of an address TLV with one index and a value; type extension and long length are
free. -/
def isSingleValue (flags : TlvFlags) : Bool := flags.bits &&& 0x77 = 0x50

/-- The length of the value of a TLV. -/
def tlvLength (long : Bool) : Reader ℕ :=
  if long then UInt16.toNat <$> word else UInt8.toNat <$> byte

def tlv : Reader AddrTlv := do
  let kind ← byte
  let flags ← TlvFlags.mk <$> byte
  guard (isSingleValue flags)
  let ext ← optional (flags.contains .hasTypeExt) byte
  let index ← byte
  let length ← tlvLength (flags.contains .extLen)
  let value ← bytes length
  return ⟨⟨kind, ext⟩, index.toNat, value⟩

/-- An address block with its TLVs. -/
def addressBlock (width : ℕ) : Reader (List (List UInt8) × List AddrTlv) := do
  let count ← byte
  let flags ← byte
  guard (flags = 0)
  let addresses ← (bytes width).times count.toNat
  let length ← word
  let tlvs ← framed length.toNat tlv.untilEnd
  return (addresses, tlvs)

/-- An address block, if there is one. -/
def addressPart (width : ℕ) (s : List UInt8) : Option (List (List UInt8) × List AddrTlv) :=
  if s.isEmpty then some ([], []) else (addressBlock width).whole s

/-- The header fields that the flags select, and no TLVs of the message itself. -/
def fields (type : MsgType) (width : ℕ) (flags : MsgFlags) : Reader Message := do
  let originator ← optional (flags.contains .originator) (bytes width)
  let hopLimit ← optional (flags.contains .hopLimit) byte
  let hopCount ← optional (flags.contains .hopCount) byte
  let seqNum ← optional (flags.contains .seqNum) word
  let length ← word
  guard (length = 0)
  return { type, width, flags, originator, hopLimit, hopCount, seqNum, addresses := [], tlvs := [] }

/-- What follows the size of a message. -/
def body (type : MsgType) (width : ℕ) (flags : MsgFlags) (s : List UInt8) : Option Message := do
  let (m, rest) ← fields type width flags s
  let (addresses, tlvs) ← addressPart width rest
  return { m with addresses, tlvs }

/-- A message; its size counts from its first byte. -/
def message : Reader Message := do
  let type ← MsgType.mk <$> byte
  let second ← byte
  let size ← word
  guard (fixedHeaderLength ≤ size.toNat)
  framed (size.toNat - fixedHeaderLength)
    (body type ((second &&& 0x0F).toNat + 1) ⟨second &&& 0xF0⟩)

end Reader

/-- A packet: no version but zero, no packet flags, and messages up to the end. -/
def readPacket : List UInt8 → Option (List Message)
  | [] => none
  | b :: rest => if b = 0 then Reader.message.untilEnd rest else none

/-! ## Octets -/

/-- The two octets of a word make the word. -/
lemma wordOfBytes_octets (w : UInt16) : wordOfBytes (w >>> 8).toUInt8 w.toUInt8 = w := by
  have hlo : w.toNat % 2 ^ 8 < 2 ^ 8 := Nat.mod_lt _ (by decide)
  have hlt := w.toNat_lt
  have hhi : (w.toNat >>> 8 % 2 ^ 8) <<< 8 % 2 ^ 16 = (w.toNat / 2 ^ 8) <<< 8 := by
    rw [Nat.shiftRight_eq_div_pow, Nat.shiftLeft_eq, Nat.shiftLeft_eq]
    omega
  apply UInt16.toNat_inj.1
  calc (wordOfBytes (w >>> 8).toUInt8 w.toUInt8).toNat
      = (w.toNat >>> 8 % 2 ^ 8) <<< 8 % 2 ^ 16 ||| w.toNat % 2 ^ 8 := rfl
    _ = (w.toNat / 2 ^ 8) <<< 8 + w.toNat % 2 ^ 8 := by
      rw [hhi, Nat.shiftLeft_add_eq_or_of_lt hlo]
    _ = w.toNat := by
      rw [Nat.shiftLeft_eq]
      omega

lemma toNat_toUInt8 {n : ℕ} (h : n ≤ 255) : n.toUInt8.toNat = n :=
  Nat.mod_eq_of_lt (Nat.lt_succ_of_le h)

lemma toNat_toUInt16 {n : ℕ} (h : n ≤ maxWord) : n.toUInt16.toNat = n :=
  Nat.mod_eq_of_lt (Nat.lt_succ_of_le h)

/-- Octets whose halves do not overlap. -/
lemma and_high {f : UInt8} {n : ℕ} (hf : f &&& 0x0F = 0) (hn : n < 16) :
    (f ||| n.toUInt8) &&& 0xF0 = f := by
  have hlow : ∀ n < 16, n.toUInt8 &&& 0xF0 = 0 := by decide
  calc (f ||| n.toUInt8) &&& 0xF0
      = (f &&& 0xF0) ||| (n.toUInt8 &&& 0xF0) := UInt8.toBitVec_inj.1 BitVec.and_or_distrib_right
    _ = (f &&& 0xF0) ||| (f &&& 0x0F) := by rw [hlow n hn, hf]
    _ = f &&& (0xF0 ||| 0x0F) := UInt8.toBitVec_inj.1 BitVec.and_or_distrib_left.symm
    _ = f := UInt8.and_neg_one

lemma and_low {f : UInt8} {n : ℕ} (hf : f &&& 0x0F = 0) (hn : n < 16) :
    ((f ||| n.toUInt8) &&& 0x0F).toNat = n := by
  have hlow : ∀ n < 16, (n.toUInt8 &&& 0x0F).toNat = n := by decide
  have hsplit : (f ||| n.toUInt8) &&& 0x0F = (f &&& 0x0F) ||| (n.toUInt8 &&& 0x0F) :=
    UInt8.toBitVec_inj.1 BitVec.and_or_distrib_right
  rw [hsplit, hf, UInt8.zero_or, hlow n hn]

namespace AddrTlv

/-! The flags of a TLV say what the TLV is made of. -/

lemma isSingleValue_flags (t : AddrTlv) : Reader.isSingleValue t.flags = true := by
  unfold flags
  cases t.type.ext.isSome <;> cases t.isLong <;> rfl

lemma contains_hasTypeExt (t : AddrTlv) :
    t.flags.contains .hasTypeExt = t.type.ext.isSome := by
  unfold flags
  cases t.type.ext.isSome <;> cases t.isLong <;> rfl

lemma contains_extLen (t : AddrTlv) : t.flags.contains .extLen = t.isLong := by
  unfold flags
  cases t.type.ext.isSome <;> cases t.isLong <;> rfl

end AddrTlv

/-! ## Reading what was written -/

/-- A header field as a reader finds it: there only if its flag selects it. -/
def MsgHeader.carried {α : Type} (h : MsgHeader) (flag : MsgFlags) (value : Option α) : Option α :=
  if h.flags.contains flag then value else none

/-- The reader takes exactly these bytes from the front, whatever follows, and finds this. -/
def Reads {α : Type} (r : Reader α) (octets : List UInt8) (a : α) : Prop :=
  ∀ rest, r (octets ++ rest) = some (a, rest)

namespace Reads

variable {α β : Type} {r : Reader α} {octets octets' : List UInt8} {a : α}

lemma pure (a : α) : Reads (Pure.pure a) [] a := fun _ => rfl

lemma bind {f : α → Reader β} {b : β} (h : Reads r octets a) (h' : Reads (f a) octets' b) :
    Reads (r >>= f) (octets ++ octets') b := by
  intro rest
  have hstep : (r >>= f) (octets ++ octets' ++ rest) = f a (octets' ++ rest) := by
    rw [List.append_assoc]
    show (r (octets ++ (octets' ++ rest))).bind (fun p => f p.1 p.2) = f a (octets' ++ rest)
    rw [h]
    rfl
  rw [hstep, h']

lemma map (h : Reads r octets a) (f : α → β) : Reads (f <$> r) octets (f a) := by
  intro rest
  show (r (octets ++ rest)).bind (fun p => some (f p.1, p.2)) = some (f a, rest)
  rw [h]
  rfl

/-- The last step of a reader gives what it found. -/
lemma answer (h : Reads r octets a) (f : α → β) :
    Reads (r >>= fun x => Pure.pure (f x)) octets (f a) := by
  have hlast := h.bind (f := fun x => Pure.pure (f x)) (pure (f a))
  rwa [List.append_nil] at hlast

lemma ensured {p : Prop} [Decidable p] (h : p) : Reads (guard p) [] () := by
  intro rest
  simp only [guard, if_pos h]
  rfl

lemma byte (b : UInt8) : Reads Reader.byte [b] b := fun _ => rfl

lemma word (w : UInt16) : Reads Reader.word (wordBytes w) w := by
  have h : Reads Reader.word (wordBytes w) (wordOfBytes (w >>> 8).toUInt8 w.toUInt8) :=
    (byte _).bind ((byte _).bind (pure _))
  rwa [wordOfBytes_octets] at h

lemma bytes (l : List UInt8) : Reads (Reader.bytes l.length) l l := by
  intro rest
  simp only [Reader.bytes, List.length_append, Nat.le_add_right, if_true, List.take_left,
    List.drop_left]

/-- Things of one kind that follow one another. -/
lemma times {γ : Type} {l : List γ} {item : γ → α} {octets : γ → List UInt8}
    (h : ∀ x ∈ l, Reads r (octets x) (item x)) :
    Reads (r.times l.length) (l.flatMap octets) (l.map item) := by
  induction l with
  | nil => exact pure []
  | cons x l ih =>
    have hrest := (ih fun y hy => h y (List.mem_cons_of_mem x hy)).answer (item x :: ·)
    exact (h x List.mem_cons_self).bind (f := fun a => r.times l.length >>= fun as =>
      Pure.pure (a :: as)) hrest

lemma whole (h : Reads r octets a) : r.whole octets = some a := by
  have hrest := h []
  rw [List.append_nil] at hrest
  simp only [Reader.whole, hrest]

lemma framed {f : List UInt8 → Option α} (h : f octets = some a) :
    Reads (Reader.framed octets.length f) octets a := by
  have hpart : Reads (StateT.lift (f octets)) [] a := fun rest => by
    simp only [h]
    rfl
  have hall := (bytes octets).bind (f := fun part => StateT.lift (f part)) hpart
  rwa [List.append_nil] at hall

/-- Things of one kind up to the end, if there are enough rounds. -/
lemma rounds {γ : Type} {l : List γ} {item : γ → α} {octets : γ → List UInt8} {n : ℕ}
    (h : ∀ x ∈ l, Reads r (octets x) (item x)) (hne : ∀ x ∈ l, octets x ≠ [])
    (hn : l.length ≤ n) : r.rounds n (l.flatMap octets) = some (l.map item) := by
  induction l generalizing n with
  | nil => cases n <;> rfl
  | cons x l ih =>
    cases n with
    | zero => exact absurd hn (by simp)
    | succ n =>
      have hrest := ih (n := n) (fun y hy => h y (List.mem_cons_of_mem x hy))
        (fun y hy => hne y (List.mem_cons_of_mem x hy)) (Nat.le_of_succ_le_succ hn)
      have hfirst := h x List.mem_cons_self (l.flatMap octets)
      obtain ⟨b, rest, hcons⟩ := List.exists_cons_of_ne_nil (hne x List.mem_cons_self)
      rw [List.flatMap_cons, hcons, List.cons_append, Reader.rounds, ← List.cons_append, ← hcons,
        hfirst]
      · show (r.rounds n (l.flatMap octets)).bind (fun as => some (item x :: as)) = _
        rw [hrest]
        rfl
      · simp

/-- Things of one kind up to the end, none of which is empty. -/
lemma untilEnd {γ : Type} {l : List γ} {item : γ → α} {octets : γ → List UInt8}
    (h : ∀ x ∈ l, Reads r (octets x) (item x)) (hne : ∀ x ∈ l, octets x ≠ []) :
    r.untilEnd (l.flatMap octets) = some (l.map item) := by
  refine rounds h hne ?_
  -- each thing takes a byte at least, so there are no more things than bytes
  have hpos : ∀ x ∈ l, 1 ≤ (octets x).length :=
    fun x hx => List.length_pos_iff.2 (hne x hx)
  clear h hne
  induction l with
  | nil => exact Nat.le_refl 0
  | cons x l ih =>
    have hrest := ih fun y hy => hpos y (List.mem_cons_of_mem x hy)
    have hfirst := hpos x List.mem_cons_self
    simp only [List.flatMap_cons, List.length_append, List.length_cons]
    omega

/-- One thing and nothing after it. -/
lemma untilEnd_single (h : Reads r octets a) (hne : octets ≠ []) : r.untilEnd octets = some [a] := by
  have hitem : ∀ x ∈ [octets], Reads r (id x) ((fun _ => a) x) :=
    fun x hx => by rw [List.mem_singleton.1 hx]; exact h
  have hall := untilEnd hitem fun x hx => by rw [List.mem_singleton.1 hx]; exact hne
  rwa [List.flatMap_singleton] at hall

/-! ### The fields of the format -/

/-- A header field that is selected and set. -/
lemma field {γ : Type} {h : MsgHeader} {flag : MsgFlags} {value : Option γ}
    {octets : γ → List UInt8} {item : γ → α}
    (hset : h.flags.contains flag = true → ∃ v, value = some v ∧ Reads r (octets v) (item v)) :
    Reads (Reader.optional (h.flags.contains flag) r) (h.selected flag value octets)
      (h.carried flag (value.map item)) := by
  unfold Reader.optional MsgHeader.selected MsgHeader.carried
  split
  · next hflag =>
    obtain ⟨v, rfl, hv⟩ := hset hflag
    exact hv.map some
  · exact pure none

lemma ext (ext : Option UInt8) :
    Reads (Reader.optional ext.isSome Reader.byte) ext.toList ext := by
  cases ext with
  | none => exact pure none
  | some e => exact (byte e).map some

lemma tlvLength {t : AddrTlv} (hlength : t.value.length ≤ maxTlvValueLength) :
    Reads (Reader.tlvLength t.isLong) t.lengthBytes t.value.length := by
  unfold AddrTlv.lengthBytes Reader.tlvLength
  split
  · have h := (word t.value.length.toUInt16).map UInt16.toNat
    rwa [toNat_toUInt16 hlength] at h
  · next hshort =>
    have hle : t.value.length ≤ maxShortLength := by
      simpa only [AddrTlv.isLong, decide_eq_true_eq, Nat.not_lt] using hshort
    have h := (byte t.value.length.toUInt8).map UInt8.toNat
    rwa [toNat_toUInt8 hle] at h

/-- A TLV whose index fits one octet and the length of whose value fits two. -/
lemma tlv {t : AddrTlv} (hindex : t.index ≤ maxAddresses)
    (hlength : t.value.length ≤ maxTlvValueLength) : Reads Reader.tlv t.bytes t := by
  have hbytes : t.bytes = [t.type.kind] ++ ([t.flags.bits] ++ ([] ++ (t.type.ext.toList ++
      ([t.index.toUInt8] ++ (t.lengthBytes ++ t.value))))) := by
    simp only [AddrTlv.bytes, List.append_assoc, List.cons_append, List.nil_append]
  have hflags : Reads (TlvFlags.mk <$> Reader.byte) [t.flags.bits] t.flags :=
    (byte t.flags.bits).map TlvFlags.mk
  have hvalue := (bytes t.value).answer fun value => (⟨t.type, t.index, value⟩ : AddrTlv)
  rw [hbytes]
  refine (byte _).bind (hflags.bind ((ensured t.isSingleValue_flags).bind ?_))
  -- what follows is what the flags announce
  rw [t.contains_hasTypeExt, t.contains_extLen]
  refine (ext _).bind ((byte _).bind ((tlvLength hlength).bind ?_))
  rw [toNat_toUInt8 hindex]
  exact hvalue

lemma addressBlock {d : Draft} (hs : d.Sound) (hblock : d.tlvBytes.length ≤ maxWord) :
    Reads (Reader.addressBlock d.width) d.addressBlock
      (d.addresses.map (·.addr.bytes), d.sortedTlvs) := by
  have hbytes : d.addressBlock = [d.addresses.length.toUInt8] ++ ([0] ++ ([] ++
      ((d.addresses.flatMap fun a => a.addr.bytes) ++
        (wordBytes d.tlvBytes.length.toUInt16 ++ d.tlvBytes)))) := by
    simp only [Draft.addressBlock, Draft.addressBytes, List.cons_append, List.nil_append]
  have haddresses : Reads ((Reader.bytes d.width).times d.addresses.length)
      (d.addresses.flatMap fun a => a.addr.bytes) (d.addresses.map (·.addr.bytes)) := by
    refine times fun a ha => ?_
    have hread := bytes a.addr.bytes
    rwa [show a.addr.bytes.length = d.width from hs.width a ha] at hread
  have htlvs : Reader.tlv.untilEnd d.tlvBytes = some d.sortedTlvs := by
    have hread : ∀ t ∈ d.sortedTlvs, Reads Reader.tlv t.bytes (id t) := by
      intro t ht
      obtain ⟨hindex, hlength⟩ := hs.mem_sortedTlvs ht
      exact tlv (Nat.le_of_lt (Nat.lt_of_lt_of_le hindex hs.count)) hlength
    have hall := untilEnd hread fun t _ => by simp [AddrTlv.bytes]
    rwa [List.map_id] at hall
  rw [hbytes]
  refine (byte _).bind ((byte _).bind ((ensured rfl).bind ?_))
  rw [toNat_toUInt8 hs.count]
  refine haddresses.bind ((word _).bind ?_)
  rw [toNat_toUInt16 hblock]
  exact (framed htlvs).answer fun tlvs => (d.addresses.map (·.addr.bytes), tlvs)

end Reads

/-! ## The message of a draft -/

namespace Draft

/-- The message that a draft stands for. -/
def message (d : Draft) (type : MsgType) : Message where
  type := type
  width := d.width
  flags := d.header.flags
  originator := d.header.carried .originator (d.header.originator.map (·.bytes))
  hopLimit := d.header.carried .hopLimit d.header.hopLimit
  hopCount := d.header.carried .hopCount d.header.hopCount
  seqNum := d.header.carried .seqNum d.header.seqNum
  addresses := d.addresses.map (·.addr.bytes)
  tlvs := d.sortedTlvs

variable {d : Draft} {type : MsgType}

/-- The header fields are read, and there are no TLVs of the message itself. -/
lemma reads_fields (type : MsgType) (hc : d.header.Complete d.width) :
    Reads (Reader.fields type d.width d.header.flags) (d.header.fieldBytes ++ wordBytes 0)
      { d.message type with addresses := [], tlvs := [] } := by
  have horiginator : Reads (Reader.optional (d.header.flags.contains .originator)
      (Reader.bytes d.width)) (d.header.selected .originator d.header.originator (·.bytes))
      (d.header.carried .originator (d.header.originator.map (·.bytes))) :=
    Reads.field fun hflag => (hc.originator hflag).imp fun a ha => ⟨ha.1, by
      have hread := Reads.bytes a.bytes
      rwa [show a.bytes.length = d.width from ha.2] at hread⟩
  have hhopLimit : Reads (Reader.optional (d.header.flags.contains .hopLimit) Reader.byte)
      (d.header.selected .hopLimit d.header.hopLimit fun n => [n])
      (d.header.carried .hopLimit (d.header.hopLimit.map id)) :=
    Reads.field fun hflag => (hc.hopLimit hflag).imp fun n hn => ⟨hn, Reads.byte n⟩
  have hhopCount : Reads (Reader.optional (d.header.flags.contains .hopCount) Reader.byte)
      (d.header.selected .hopCount d.header.hopCount fun n => [n])
      (d.header.carried .hopCount (d.header.hopCount.map id)) :=
    Reads.field fun hflag => (hc.hopCount hflag).imp fun n hn => ⟨hn, Reads.byte n⟩
  have hseqNum : Reads (Reader.optional (d.header.flags.contains .seqNum) Reader.word)
      (d.header.selected .seqNum d.header.seqNum wordBytes)
      (d.header.carried .seqNum (d.header.seqNum.map id)) :=
    Reads.field fun hflag => (hc.seqNum hflag).imp fun n hn => ⟨hn, Reads.word n⟩
  rw [Option.map_id] at hhopLimit hhopCount hseqNum
  simp only [MsgHeader.fieldBytes, List.append_assoc]
  refine horiginator.bind (hhopLimit.bind (hhopCount.bind (hseqNum.bind ?_)))
  have hblock := (Reads.ensured (p := (0 : UInt16) = 0) rfl).answer
    fun _ => ({ d.message type with addresses := [], tlvs := [] } : Message)
  have hall := (Reads.word 0).bind (f := fun length => guard (length = 0) >>= fun _ =>
    pure ({ d.message type with addresses := [], tlvs := [] } : Message)) hblock
  rwa [List.append_nil] at hall

/-- The part after the header is read: there is an address block or nothing. -/
lemma addressPart_eq_some (hs : d.Sound) (hblock : d.frameSize ≤ maxWord) :
    Reader.addressPart d.width (if d.addresses.isEmpty then [] else d.addressBlock) =
      some (d.addresses.map (·.addr.bytes), d.sortedTlvs) := by
  have hsize := d.frameSize_eq
  have hlength := d.length_addressBlock
  unfold Reader.addressPart
  by_cases hempty : d.addresses.isEmpty = true
  · have hnone : d.addresses = [] := List.isEmpty_iff.1 hempty
    -- a TLV would belong to an address
    have htlvs : d.sortedTlvs = [] := by
      refine List.eq_nil_iff_forall_not_mem.2 fun t ht => ?_
      have hindex := (hs.mem_sortedTlvs ht).1
      rw [hnone] at hindex
      exact absurd hindex (Nat.not_lt_zero _)
    rw [if_pos hempty, htlvs, hnone]
    rfl
  · rw [if_neg hempty] at hsize ⊢
    have hne : d.addressBlock.isEmpty = false := by
      rw [List.isEmpty_eq_false_iff, ← List.length_pos_iff]
      omega
    rw [hne]
    exact (Reads.addressBlock hs (by omega)).whole

/-- What follows the size of the frame is read. -/
lemma body_eq_some (hs : d.Sound) (hc : d.header.Complete d.width)
    (hsize : d.frameSize ≤ maxWord) :
    Reader.body type d.width d.header.flags d.body = some (d.message type) := by
  have hfields := reads_fields type hc
    (if d.addresses.isEmpty then [] else d.addressBlock)
  unfold Reader.body Draft.body
  rw [hfields]
  show (Reader.addressPart d.width _).bind (fun part =>
    some { d.message type with addresses := part.1, tlvs := part.2 }) = _
  rw [addressPart_eq_some hs hsize]
  rfl

/-- **Reading a frame.**  The frame of a sound draft is read as the message of the draft,
whatever follows it.  The bits of the flags that have no name must not be set, because the width
lies there. -/
theorem reads_frame (hs : d.Sound) (hc : d.header.Complete d.width)
    (hnamed : d.header.flags.bits &&& 0x0F = 0) (hpos : 0 < d.width)
    (hle : d.width ≤ maxAddressLength) (hsize : d.frameSize ≤ maxWord) :
    Reads Reader.message (d.frame type) (d.message type) := by
  have hbytes : d.frame type = [type.code] ++ ([d.header.flagsByte d.width] ++
      (wordBytes d.frameSize.toUInt16 ++ ([] ++ d.body))) := rfl
  have hlt : (d.width - 1) % 16 < 16 := Nat.mod_lt _ (by decide)
  have hflags : d.header.flagsByte d.width &&& 0xF0 = d.header.flags.bits := and_high hnamed hlt
  have hwidth : (d.header.flagsByte d.width &&& 0x0F).toNat + 1 = d.width := by
    have hlow : (d.header.flagsByte d.width &&& 0x0F).toNat = (d.width - 1) % 16 :=
      and_low hnamed hlt
    unfold maxAddressLength at hle
    omega
  have hword := toNat_toUInt16 hsize
  have hbody : d.body.length = d.frameSize.toUInt16.toNat - fixedHeaderLength := by
    rw [hword, frameSize, fixedHeaderLength]
    omega
  have hfixed : fixedHeaderLength ≤ d.frameSize.toUInt16.toNat := by
    rw [hword, frameSize]
    exact Nat.le_add_right _ _
  -- the second byte falls apart into flags and width, and the size says how long the body is
  rw [hbytes]
  refine ((Reads.byte _).map MsgType.mk).bind ((Reads.byte _).bind ((Reads.word _).bind
    ((Reads.ensured hfixed).bind ?_)))
  rw [hflags, hwidth, ← hbody]
  exact Reads.framed (body_eq_some hs hc hsize)

end Draft

end RouteDiscovery.Wire
