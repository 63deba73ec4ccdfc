/-
# The width in a message header

The second byte of a message has the flags in its high half and the width of the addresses, less
one, in its low half.  Flags are written as they were set, so bits in their low half lie on the
width, and a reader takes its width from what it finds there.

* `MsgHeader.flagsByte_low_iff`: the low half is the width less one exactly if the flags keep clear
  of it (`MsgFlags.ClearOf`); the high half is always that of the flags.
* `Reader.message_width`: all addresses that a reader finds have the width that it has read.
* `ReusingWriter.addresses_read_iff`: so a reader finds the originator and the addresses of a
  message exactly if the flags keep clear of the width, or the message has no address at all.
-/
import RouteDiscovery.Proofs.Wire.Handover

namespace RouteDiscovery.Wire

/-! ## The second byte -/

/-- In the low half of the flags only such bits are set as are set in the width less one. -/
def MsgFlags.ClearOf (flags : MsgFlags) (width : ℕ) : Prop :=
  flags.bits &&& 0x0F &&& ~~~(width - 1).toUInt8 = 0

instance (flags : MsgFlags) (width : ℕ) : Decidable (flags.ClearOf width) :=
  inferInstanceAs (Decidable (_ = _))

lemma or_and_high (f : UInt8) {n : ℕ} (hn : n < 16) :
    (f ||| n.toUInt8) &&& 0xF0 = f &&& 0xF0 := by
  have hlow : ∀ n < 16, n.toUInt8 &&& 0xF0 = 0 := by decide
  have hsplit : (f ||| n.toUInt8) &&& 0xF0 = (f &&& 0xF0) ||| (n.toUInt8 &&& 0xF0) :=
    UInt8.toBitVec_inj.1 BitVec.and_or_distrib_right
  rw [hsplit, hlow n hn, UInt8.or_zero]

lemma or_and_low_iff (f : UInt8) {n : ℕ} (hn : n < 16) :
    (f ||| n.toUInt8) &&& 0x0F = n.toUInt8 ↔ f &&& 0x0F &&& ~~~n.toUInt8 = 0 := by
  -- only the low half of the flags matters, and there are sixteen of these
  have hhalves : ∀ m < 16, ∀ n < 16,
      (m.toUInt8 ||| n.toUInt8 = n.toUInt8 ↔ m.toUInt8 &&& ~~~n.toUInt8 = 0) := by decide
  have hlow : ∀ n < 16, n.toUInt8 &&& 0x0F = n.toUInt8 := by decide
  have hsplit : (f ||| n.toUInt8) &&& 0x0F = (f &&& 0x0F) ||| (n.toUInt8 &&& 0x0F) :=
    UInt8.toBitVec_inj.1 BitVec.and_or_distrib_right
  have hlt : (f &&& 0x0F).toNat < 16 := Nat.lt_of_le_of_lt Nat.and_le_right (by decide)
  have hhalf := hhalves (f &&& 0x0F).toNat hlt n hn
  rw [Nat.toUInt8_eq, UInt8.ofNat_toNat] at hhalf
  rw [hsplit, hlow n hn]
  exact hhalf

namespace MsgHeader

variable {h : MsgHeader} {width : ℕ}

lemma flagsByte_of_width (hle : width ≤ maxAddressLength) :
    h.flagsByte width = h.flags.bits ||| (width - 1).toUInt8 := by
  unfold maxAddressLength at hle
  rw [flagsByte, Nat.mod_eq_of_lt (by omega)]

lemma flagsByte_high (hle : width ≤ maxAddressLength) :
    h.flagsByte width &&& 0xF0 = h.flags.bits &&& 0xF0 := by
  unfold maxAddressLength at hle
  rw [flagsByte_of_width hle, or_and_high _ (by omega)]

/-- The low half of the second byte is the width less one exactly if the flags keep clear of it. -/
lemma flagsByte_low_iff (hle : width ≤ maxAddressLength) :
    h.flagsByte width &&& 0x0F = (width - 1).toUInt8 ↔ h.flags.ClearOf width := by
  unfold maxAddressLength at hle
  rw [flagsByte_of_width hle, or_and_low_iff _ (by omega)]
  rfl

/-- The width that a reader takes from the second byte. -/
def widthRead (h : MsgHeader) (width : ℕ) : ℕ := (h.flagsByte width &&& 0x0F).toNat + 1

lemma widthRead_le (h : MsgHeader) (width : ℕ) : h.widthRead width ≤ maxAddressLength :=
  Nat.succ_le_of_lt (Nat.lt_of_le_of_lt Nat.and_le_right (by decide))

lemma widthRead_eq_iff (hpos : 0 < width) (hle : width ≤ maxAddressLength) :
    h.widthRead width = width ↔ h.flags.ClearOf width := by
  unfold maxAddressLength at hle
  have hnat : ((width - 1).toUInt8).toNat = width - 1 := toNat_toUInt8 (by omega)
  rw [← flagsByte_low_iff hle, ← UInt8.toNat_inj, hnat, widthRead]
  omega

/-- The header as a reader finds it, who takes no more than the high half for flags. -/
def named (h : MsgHeader) : MsgHeader := { h with flags := ⟨h.flags.bits &&& 0xF0⟩ }

/-- The flags that select fields lie in the high half. -/
lemma contains_named (flag : MsgFlags) (hflag : flag.bits &&& 0xF0 = flag.bits) :
    h.named.flags.contains flag = h.flags.contains flag := by
  have hbits : h.flags.bits &&& 0xF0 &&& flag.bits = h.flags.bits &&& flag.bits := by
    rw [UInt8.and_assoc, UInt8.and_comm 0xF0, hflag]
  simp only [MsgFlags.contains, named, hbits]

lemma selected_named {α : Type} (flag : MsgFlags) (hflag : flag.bits &&& 0xF0 = flag.bits)
    (value : Option α) (bytes : α → List UInt8) :
    h.named.selected flag value bytes = h.selected flag value bytes := by
  simp only [selected, contains_named flag hflag]

lemma carried_named {α : Type} (flag : MsgFlags) (hflag : flag.bits &&& 0xF0 = flag.bits)
    (value : Option α) : h.named.carried flag value = h.carried flag value := by
  simp only [carried, contains_named flag hflag]

lemma fieldBytes_named : h.named.fieldBytes = h.fieldBytes := by
  have horiginator := selected_named (h := h) .originator rfl h.originator (·.bytes)
  have hhopLimit := selected_named (h := h) .hopLimit rfl h.hopLimit fun n => [n]
  have hhopCount := selected_named (h := h) .hopCount rfl h.hopCount fun n => [n]
  have hseqNum := selected_named (h := h) .seqNum rfl h.seqNum wordBytes
  simp only [fieldBytes, ← horiginator, ← hhopLimit, ← hhopCount, ← hseqNum]
  rfl

/-- The second byte is the same with the flags and the width that are read from it. -/
lemma flagsByte_named (hle : width ≤ maxAddressLength) :
    h.named.flagsByte (h.widthRead width) = h.flagsByte width := by
  have hlt : (h.flagsByte width &&& 0x0F).toNat < 16 :=
    Nat.lt_of_le_of_lt Nat.and_le_right (by decide)
  have hlow : ((h.widthRead width - 1) % 16).toUInt8 = h.flagsByte width &&& 0x0F := by
    rw [widthRead, Nat.add_sub_cancel, Nat.mod_eq_of_lt hlt, Nat.toUInt8_eq, UInt8.ofNat_toNat]
  calc h.named.flagsByte (h.widthRead width)
      = (h.flagsByte width &&& 0xF0) ||| (h.flagsByte width &&& 0x0F) := by
        rw [flagsByte, hlow, named, ← flagsByte_high hle]
    _ = h.flagsByte width &&& (0xF0 ||| 0x0F) :=
        UInt8.toBitVec_inj.1 BitVec.and_or_distrib_left.symm
    _ = h.flagsByte width := UInt8.and_neg_one

/-- A complete header is complete for another width if it selects no originator. -/
lemma Complete.named {width' : ℕ} (hc : h.Complete width)
    (hwidth : h.carried .originator h.originator = none ∨ width' = width) :
    h.named.Complete width' := by
  refine ⟨fun hflag => ?_, fun hflag => ?_, fun hflag => ?_, fun hflag => ?_⟩ <;>
    rw [contains_named _ rfl] at hflag
  · obtain ⟨a, ha, hlength⟩ := hc.originator hflag
    refine ⟨a, ha, hwidth.elim (fun hnone => ?_) fun heq => hlength.trans heq.symm⟩
    rw [carried, if_pos hflag, ha] at hnone
    exact absurd hnone (by simp)
  · exact hc.hopLimit hflag
  · exact hc.hopCount hflag
  · exact hc.seqNum hflag

end MsgHeader

/-! ## What readers find -/

/-- Whatever the reader finds, it has the property. -/
def Finds {α : Type} (r : Reader α) (P : α → Prop) : Prop :=
  ∀ s a rest, r s = some (a, rest) → P a

namespace Finds

variable {α β : Type} {r : Reader α} {P : α → Prop} {Q : β → Prop}

lemma anything : Finds r fun _ => True := fun _ _ _ _ => trivial

lemma pure {a : α} (h : P a) : Finds (Pure.pure a) P := by
  intro s b rest hb
  obtain rfl : a = b := congrArg Prod.fst (Option.some.inj hb)
  exact h

lemma bind {f : α → Reader β} (h : Finds r P) (h' : ∀ a, P a → Finds (f a) Q) :
    Finds (r >>= f) Q := by
  intro s b rest hb
  obtain ⟨⟨a, rest'⟩, ha, hf⟩ := Option.bind_eq_some_iff.1 hb
  exact h' a (h s a rest' ha) rest' b rest hf

lemma bytes (n : ℕ) : Finds (Reader.bytes n) fun l => l.length = n := by
  intro s l rest hl
  unfold Reader.bytes at hl
  split at hl
  · next hle =>
    obtain rfl : s.take n = l := congrArg Prod.fst (Option.some.inj hl)
    exact List.length_take_of_le hle
  · exact absurd hl (by simp)

lemma optional (present : Bool) (h : Finds r P) :
    Finds (Reader.optional present r) fun o => ∀ a ∈ o, P a := by
  cases present with
  | false => exact pure fun a ha => absurd ha (by simp)
  | true =>
    intro s o rest ho
    obtain ⟨⟨a, rest'⟩, ha, hsome⟩ := Option.bind_eq_some_iff.1 ho
    obtain rfl : some a = o := congrArg Prod.fst (Option.some.inj hsome)
    intro b hb
    obtain rfl := Option.some.inj hb
    exact h s a rest' ha

lemma times (h : Finds r P) (n : ℕ) : Finds (r.times n) fun l => ∀ a ∈ l, P a := by
  induction n with
  | zero => exact pure fun a ha => absurd ha List.not_mem_nil
  | succ n ih =>
    refine h.bind fun a ha => ih.bind fun l hl => pure fun b hb => ?_
    rcases List.mem_cons.1 hb with rfl | hb
    · exact ha
    · exact hl b hb

lemma framed {n : ℕ} {f : List UInt8 → Option α} (h : ∀ part a, f part = some a → P a) :
    Finds (Reader.framed n f) P := by
  refine anything.bind fun part _ s a rest ha => ?_
  obtain ⟨b, hb, hsome⟩ := Option.bind_eq_some_iff.1 ha
  obtain rfl : b = a := congrArg Prod.fst (Option.some.inj hsome)
  exact h part b hb

end Finds

namespace Reader

/-- The originator and the addresses of the message have the width of the message. -/
structure HasWidth (m : Message) (width : ℕ) : Prop where
  width_eq : m.width = width
  originator : ∀ octets ∈ m.originator, octets.length = width
  addresses : ∀ octets ∈ m.addresses, octets.length = width

lemma finds_addressBlock (width : ℕ) :
    Finds (addressBlock width) fun block => ∀ octets ∈ block.1, octets.length = width := by
  refine Finds.anything.bind fun count _ => Finds.anything.bind fun flags _ =>
    Finds.anything.bind fun _ _ => ((Finds.bytes width).times count.toNat).bind fun l hl => ?_
  exact Finds.anything.bind fun length _ => Finds.anything.bind fun tlvs _ => Finds.pure hl

lemma finds_fields (type : MsgType) (width : ℕ) (flags : MsgFlags) :
    Finds (fields type width flags) fun m => HasWidth m width := by
  refine ((Finds.bytes width).optional _).bind fun originator horiginator =>
    Finds.anything.bind fun hopLimit _ => Finds.anything.bind fun hopCount _ =>
    Finds.anything.bind fun seqNum _ => Finds.anything.bind fun length _ =>
    Finds.anything.bind fun _ _ => Finds.pure ?_
  exact ⟨rfl, horiginator, fun octets hoctets => absurd hoctets List.not_mem_nil⟩

lemma hasWidth_of_body {type : MsgType} {width : ℕ} {flags : MsgFlags} {s : List UInt8}
    {m : Message} (h : body type width flags s = some m) : HasWidth m width := by
  obtain ⟨⟨m', rest⟩, hfields, h⟩ := Option.bind_eq_some_iff.1 h
  obtain ⟨⟨addresses, tlvs⟩, hpart, h⟩ := Option.bind_eq_some_iff.1 h
  obtain rfl := Option.some.inj h
  have hm := finds_fields type width flags s m' rest hfields
  refine ⟨hm.width_eq, hm.originator, ?_⟩
  unfold addressPart at hpart
  split at hpart
  · -- without an address block there is no address
    obtain rfl : [] = addresses := congrArg Prod.fst (Option.some.inj hpart)
    exact fun octets hoctets => absurd hoctets List.not_mem_nil
  · unfold whole at hpart
    split at hpart
    · next block hblock =>
      obtain rfl := Option.some.inj hpart
      exact finds_addressBlock width rest _ _ hblock
    · exact absurd hpart (by simp)

/-- All addresses that are found have the width that was read from the second byte. -/
lemma message_width {type second : UInt8} {s rest : List UInt8} {m : Message}
    (h : message (type :: second :: s) = some (m, rest)) :
    HasWidth m ((second &&& 0x0F).toNat + 1) := by
  have hfinds : Finds (do
      let size ← word
      guard (fixedHeaderLength ≤ size.toNat)
      framed (size.toNat - fixedHeaderLength)
        (body ⟨type⟩ ((second &&& 0x0F).toNat + 1) ⟨second &&& 0xF0⟩))
      fun m => HasWidth m ((second &&& 0x0F).toNat + 1) :=
    Finds.anything.bind fun size _ => Finds.anything.bind fun _ _ =>
      Finds.framed fun _ _ => hasWidth_of_body
  exact hfinds s m rest h

end Reader

/-! ## Drafts -/

namespace Draft

variable {d : Draft}

/-- The draft as a reader finds it, who takes flags and width from the second byte. -/
def asRead (d : Draft) : Draft :=
  { d with width := d.header.widthRead d.width, header := d.header.named }

/-- A draft and what a reader finds it to be are written alike. -/
lemma frame_asRead (hle : d.width ≤ maxAddressLength) (type : MsgType) :
    d.asRead.frame type = d.frame type := by
  have hbody : d.asRead.body = d.body := by
    show d.header.named.fieldBytes ++ _ ++ _ = _
    rw [MsgHeader.fieldBytes_named]
    rfl
  have hflags : d.asRead.header.flagsByte d.asRead.width = d.header.flagsByte d.width :=
    MsgHeader.flagsByte_named hle
  rw [frame, frame, frameSize, frameSize, hbody, hflags]

lemma frameSize_asRead (hle : d.width ≤ maxAddressLength) : d.asRead.frameSize = d.frameSize := by
  have hlength := congrArg List.length (frame_asRead (d := d) hle ⟨0⟩)
  rwa [length_frame, length_frame] at hlength

lemma originator_message (d : Draft) (type : MsgType) : (d.message type).originator =
    (d.header.carried .originator d.header.originator).map (·.bytes) := by
  unfold message MsgHeader.carried
  split <;> rfl

lemma originator_asRead (d : Draft) (type : MsgType) :
    (d.asRead.message type).originator = (d.message type).originator := by
  rw [originator_message, originator_message]
  exact congrArg _ (MsgHeader.carried_named _ rfl _)

/-- The message has no address, neither that of an originator nor others. -/
def NoAddress (m : Message) : Prop := m.originator = none ∧ m.addresses = []

/-- A draft whose width is read as it is, or does not matter, is read. -/
lemma reads_asRead (hs : d.Sound) (hc : d.header.Complete d.width) (hpos : 0 < d.width)
    (hle : d.width ≤ maxAddressLength) (hsize : d.frameSize ≤ maxWord) {type : MsgType}
    (h : d.header.flags.ClearOf d.width ∨ NoAddress (d.message type)) :
    Reads Reader.message (d.frame type) (d.asRead.message type) := by
  have hwidth := MsgHeader.widthRead_eq_iff (h := d.header) hpos hle
  have hsound : d.asRead.Sound := by
    refine ⟨fun a ha => ?_, hs.count, hs.position, hs.index, hs.stored, hs.short⟩
    rcases h with hclear | hnone
    · exact (hs.width a ha).trans (hwidth.2 hclear).symm
    · have haddresses : d.addresses = [] := List.map_eq_nil_iff.1 hnone.2
      rw [show d.asRead.addresses = [] from haddresses] at ha
      exact absurd ha List.not_mem_nil
  have hcomplete : d.asRead.header.Complete d.asRead.width := by
    refine hc.named (h.symm.imp (fun hnone => ?_) hwidth.2)
    have horiginator := hnone.1
    rwa [originator_message, Option.map_eq_none_iff] at horiginator
  have hnamed : d.asRead.header.flags.bits &&& 0x0F = 0 := by
    show d.header.flags.bits &&& 0xF0 &&& 0x0F = 0
    rw [UInt8.and_assoc]
    exact UInt8.and_zero
  rw [← frame_asRead hle]
  exact reads_frame hsound hcomplete hnamed (Nat.succ_pos _) (MsgHeader.widthRead_le _ _)
    (frameSize_asRead hle ▸ hsize)

/-- The originator and the addresses are read exactly if the flags keep clear of the width, or there
is no address. -/
lemma reads_addresses_iff (hs : d.Sound) (hc : d.header.Complete d.width) (hpos : 0 < d.width)
    (hle : d.width ≤ maxAddressLength) (hsize : d.frameSize ≤ maxWord) (type : MsgType) :
    (∃ found, Reads Reader.message (d.frame type) found ∧
      found.originator = (d.message type).originator ∧
      found.addresses = (d.message type).addresses) ↔
    d.header.flags.ClearOf d.width ∨ NoAddress (d.message type) := by
  constructor
  · rintro ⟨found, hread, horiginator, haddresses⟩
    have hwidth : Reader.HasWidth found (d.header.widthRead d.width) :=
      Reader.message_width (hread [])
    by_contra hnot
    rw [not_or] at hnot
    rw [← MsgHeader.widthRead_eq_iff hpos hle] at hnot
    -- an address that is there has the width of the draft, and not the one that is read
    refine hnot.2 ⟨?_, ?_⟩
    · rw [originator_message, Option.map_eq_none_iff]
      cases hcarried : d.header.carried .originator d.header.originator with
      | none => rfl
      | some a =>
        exfalso
        have hflag : d.header.flags.contains .originator = true := by
          by_contra hflag
          rw [MsgHeader.carried, if_neg hflag] at hcarried
          exact absurd hcarried (by simp)
        obtain ⟨a', ha', hlength⟩ := hc.originator hflag
        rw [MsgHeader.carried, if_pos hflag, ha'] at hcarried
        obtain rfl := Option.some.inj hcarried
        rw [originator_message, MsgHeader.carried, if_pos hflag, ha', Option.map_some]
          at horiginator
        exact hnot.1 ((hwidth.originator a'.bytes horiginator).symm.trans hlength)
    · show d.addresses.map _ = []
      rw [List.map_eq_nil_iff, List.eq_nil_iff_forall_not_mem]
      intro a ha
      have hmem : a.addr.bytes ∈ found.addresses := by
        rw [haddresses]
        exact List.mem_map_of_mem (f := fun a : DraftAddress => a.addr.bytes) ha
      exact hnot.1 ((hwidth.addresses _ hmem).symm.trans (hs.width a ha))
  · intro h
    exact ⟨d.asRead.message type, reads_asRead hs hc hpos hle hsize h, d.originator_asRead type,
      rfl⟩

end Draft

/-! ## Messages that were made -/

namespace ReusingWriter

open MessageWriter CallRecord

variable {σ : Type}

/-- A message that was made in reused memory is the frame of a draft that keeps what the calls said,
and the width of its type is one of an address. -/
lemma built_of_made {config : WriterConfig} {history : List Op} {p : ContentProvider σ}
    {context : σ} (hmade : ((after config history).create p context).1.result = .ok ()) :
    ∃ width d, Built (after config history).toMessageWriter p
      ((after config history).create p context).1 width d ∧
      0 < width ∧ width ≤ maxAddressLength := by
  have hmirrors := mirrors_after config history
  rw [hmirrors.create] at hmade ⊢
  rw [hmirrors.writer]
  rcases create_cases (Loaded.after config history).writer p context with
    ⟨e, hresult, -⟩ | ⟨width, d, hbuilt⟩
  · exact absurd (hmade.symm.trans hresult) (by simp)
  · exact ⟨width, d, hbuilt, (holds_after config history).widths.of_width? hbuilt.registered⟩

/-- **When a reader finds the addresses.**  After any history, let a provider make a message of a
type with a width.  The second byte of the message has the high half of the flags that were set
last.  Its low half is the width less one exactly if the flags keep clear of the width.  A reader,
who takes the width from there, finds the originator and the addresses that were added exactly if
the flags keep clear of the width, or the message has no address at all. -/
theorem addresses_read_iff (config : WriterConfig) (history : List Op) (p : ContentProvider σ)
    (context : σ) (width : ℕ) (hwidth : (after config history).width? p.type = some width)
    (hmade : ((after config history).create p context).1.result = .ok ()) :
    let w := after config history
    let c := (w.create p context).1
    let m : Made := ⟨p.type, width, (w.table? p.type).getD [], c.calls⟩
    let flags := (Draft.headerOf c.calls).flags
    c.writer.packet = w.packet.extend (lead w.packet ++ m.octets) ∧
      (∃ second, m.octets[1]? = some second ∧ second &&& 0xF0 = flags.bits &&& 0xF0 ∧
        (second &&& 0x0F = (width - 1).toUInt8 ↔ flags.ClearOf width)) ∧
      ((∃ found, Reads Reader.message m.octets found ∧
          found.originator = m.message.originator ∧ found.addresses = m.message.addresses) ↔
        flags.ClearOf width ∨ Draft.NoAddress m.message) := by
  intro w c m flags
  obtain ⟨width', d, hbuilt, hpos, hle⟩ := built_of_made hmade
  obtain rfl : width' = width := Option.some.inj (hbuilt.registered.symm.trans hwidth)
  -- the message is the frame of the draft that the provider left
  have hframe : d.frame p.type = m.octets := hbuilt.frame_eq
  have hmessage : d.message p.type = m.message := message_of_reflects (m := m) hbuilt.reflects
  have hflags : d.header.flags = flags := congrArg MsgHeader.flags hbuilt.reflects.header
  have hdwidth : d.width = width' := hbuilt.reflects.width_eq
  rw [← hframe, ← hmessage, ← hflags, ← hdwidth]
  rw [← hdwidth] at hpos hle
  refine ⟨?_, ⟨d.header.flagsByte d.width, rfl, MsgHeader.flagsByte_high hle,
    MsgHeader.flagsByte_low_iff hle⟩, ?_⟩
  · exact congrArg MessageWriter.packet hbuilt.writer
  · exact Draft.reads_addresses_iff hbuilt.sound hbuilt.complete hpos hle hbuilt.size p.type

/-- A provider whose flags have a bit in the half of the width. -/
def flaggedProvider (flags : UInt8) : ContentProvider Unit where
  type := ⟨10⟩
  addHeader := do
    CallbackScript.tell (.setFlags ⟨flags⟩)
    CallbackScript.tell (.setOriginator ⟨[10, 0, 0, 1], by decide, by decide⟩)
    CallbackScript.tell (.setHopLimit 7)
  addAddresses := do
    let _ ← CallbackScript.addAddress ⟨[10, 0, 0, 1], by decide, by decide⟩ true
    let _ ← CallbackScript.addAddress ⟨[10, 0, 0, 2], by decide, by decide⟩ true

/-- Addresses of four octets, for which the low half of the second byte is three. -/
def quadHistory : List Op := [.registerMessage ⟨10⟩ 4]

lemma create_flagged (flags : UInt8) :
    ((after {} quadHistory).create (flaggedProvider flags) ()).1 =
      (Loaded.after {} quadHistory).writer.create (flaggedProvider flags) () :=
  congrArg Prod.fst ((mirrors_after {} quadHistory).create (flaggedProvider flags) ())

/-- The message of the provider. -/
def flaggedMessage (flags : UInt8) : Made :=
  ⟨⟨10⟩, 4, [], ((Loaded.after {} quadHistory).writer.create (flaggedProvider flags) ()).calls⟩

/-- A bit that the width has too does no harm. -/
theorem addresses_read_flagged :
    ((after {} quadHistory).create (flaggedProvider 0xC2) ()).1.result = .ok () ∧
      (flaggedMessage 0xC2).octets[1]? = some 0xC3 ∧
      ∃ found, Reads Reader.message (flaggedMessage 0xC2).octets found ∧
        found.originator = some [10, 0, 0, 1] ∧
        found.addresses = [[10, 0, 0, 1], [10, 0, 0, 2]] := by
  have hmade : ((after {} quadHistory).create (flaggedProvider 0xC2) ()).1.result = .ok () := by
    rw [create_flagged]
    decide_cbv
  obtain ⟨-, -, hread⟩ := addresses_read_iff {} quadHistory (flaggedProvider 0xC2) () 4 rfl hmade
  rw [create_flagged] at hread
  have hclear : (Draft.headerOf (flaggedMessage 0xC2).calls).flags.ClearOf 4 := by decide_cbv
  obtain ⟨found, hfound, horiginator, haddresses⟩ := hread.2 (.inl hclear)
  refine ⟨hmade, by decide_cbv, found, hfound, horiginator.trans ?_, haddresses.trans ?_⟩
  · have hsome : (flaggedMessage 0xC2).message.originator = some [10, 0, 0, 1] := by decide_cbv
    exact hsome
  · have htwo : (flaggedMessage 0xC2).message.addresses = [[10, 0, 0, 1], [10, 0, 0, 2]] := by
      decide_cbv
    exact htwo

/-- A bit that the width does not have makes another width of it. -/
theorem width_overlaid :
    ¬ ∀ (config : WriterConfig) (history : List Op) (p : ContentProvider Unit) (width : ℕ),
      (after config history).width? p.type = some width →
      ((after config history).create p ()).1.result = .ok () →
      let m : Made := ⟨p.type, width, ((after config history).table? p.type).getD [],
        ((after config history).create p ()).1.calls⟩
      (∃ second, m.octets[1]? = some second ∧ second &&& 0x0F = (width - 1).toUInt8 ∧
        second &&& 0xF0 = (Draft.headerOf m.calls).flags.bits &&& 0xF0) ∧
      ∃ found, Reads Reader.message m.octets found ∧
        found.originator = m.message.originator ∧ found.addresses = m.message.addresses := by
  intro h
  have hmade : ((after {} quadHistory).create (flaggedProvider 0xC4) ()).1.result = .ok () := by
    rw [create_flagged]
    decide_cbv
  obtain ⟨⟨second, hsecond, hlow, -⟩, -⟩ := h {} quadHistory (flaggedProvider 0xC4) 4 rfl hmade
  rw [create_flagged] at hsecond
  have hbyte : (flaggedMessage 0xC4).octets[1]? = some 0xC7 := by decide_cbv
  obtain rfl : 0xC7 = second := Option.some.inj (hbyte.symm.trans hsecond)
  exact absurd hlow (by decide)

end ReusingWriter

end RouteDiscovery.Wire
