/-
# When a message fits

Room is checked at every put: of values in the arena, of pieces in the message buffer, of the
message in the packet, and of both lengths that have two octets.  For a provider that passes errors
on and whose calls are valid, all this comes to one bound for each buffer.

* `messageLength`: the number of bytes of the message that some calls ask for, and
  `Draft.Reflects.frameSize_eq`: a draft that keeps what the calls said is written down in as many.
* `MessageWriter.Verdict`: the message is made, or the first buffer that is too small is reported
  (`MessageWriter.create_verdict`).
* `ReusingWriter.create_capacity` says this of every writer that can be reached, and that larger
  buffers change nothing about a message that was made.
-/
import RouteDiscovery.Proofs.Wire.Independence
import RouteDiscovery.Proofs.Wire.Handover
import RouteDiscovery.Proofs.Wire.PassingOn

namespace RouteDiscovery.Wire

open CallRecord CallbackScript

/-! ## The length of a message -/

namespace MsgHeader

variable {h : MsgHeader} {width : ℕ}

/-- The number of bytes of the selected header fields. -/
def fieldsLength (h : MsgHeader) (width : ℕ) : ℕ :=
  (if h.flags.contains .originator then width else 0) +
    (if h.flags.contains .hopLimit then 1 else 0) + (if h.flags.contains .hopCount then 1 else 0) +
      if h.flags.contains .seqNum then 2 else 0

lemma length_selected {α : Type} {flag : MsgFlags} {value : Option α} {bytes : α → List UInt8}
    {n : ℕ} (hset : h.flags.contains flag = true → ∃ v, value = some v ∧ (bytes v).length = n) :
    (h.selected flag value bytes).length = if h.flags.contains flag then n else 0 := by
  unfold selected
  split
  · next hflag =>
    obtain ⟨v, rfl, hv⟩ := hset hflag
    exact hv
  · rfl

lemma Complete.length_fieldBytes (hc : h.Complete width) :
    h.fieldBytes.length = h.fieldsLength width := by
  have horiginator : (h.selected .originator h.originator (·.bytes)).length =
      if h.flags.contains .originator then width else 0 := length_selected hc.originator
  have hlimit : (h.selected .hopLimit h.hopLimit fun n => [n]).length =
      if h.flags.contains .hopLimit then 1 else 0 :=
    length_selected fun hflag => (hc.hopLimit hflag).imp fun _ hn => ⟨hn, rfl⟩
  have hcount : (h.selected .hopCount h.hopCount fun n => [n]).length =
      if h.flags.contains .hopCount then 1 else 0 :=
    length_selected fun hflag => (hc.hopCount hflag).imp fun _ hn => ⟨hn, rfl⟩
  have hseq : (h.selected .seqNum h.seqNum wordBytes).length =
      if h.flags.contains .seqNum then 2 else 0 :=
    length_selected fun hflag => (hc.seqNum hflag).imp fun n hn => ⟨hn, length_wordBytes n⟩
  simp only [fieldBytes, fieldsLength, List.length_append, hlimit, hcount, hseq, horiginator]

end MsgHeader

/-- The number of bytes of the message that some calls ask for. -/
def messageLength (width : ℕ) (calls : List CallRecord) : ℕ :=
  4 + (Draft.headerOf calls).fieldsLength width + 2 +
    if (known calls).isEmpty then 0
    else
      4 + (known calls).length * width +
        ((taken calls).map fun t => addrTlvSize t.type t.value.length).sum

namespace Draft

variable {d : Draft} {width : ℕ} {table : List TlvType} {calls : List CallRecord}

lemma Reflects.length_tlvBytes (hr : d.Reflects width table calls) :
    d.tlvBytes.length = ((taken calls).map fun t => addrTlvSize t.type t.value.length).sum := by
  have hperm : d.sortedTlvs.Perm (taken calls) := by
    rw [MessageWriter.sortedTlvs_eq hr.tlvs]
    exact List.mergeSort_perm _ _
  rw [tlvBytes, List.length_flatMap]
  simp only [AddrTlv.length_bytes]
  exact (hperm.map _).sum_nat

lemma Reflects.length_addressBytes (hr : d.Reflects width table calls) (hs : d.Sound) :
    d.addressBytes.length = 2 + (known calls).length * width := by
  have hwidth : ∀ a ∈ d.addresses, a.addr.bytes.length = width := by
    intro a ha
    rw [← hr.width_eq]
    exact hs.width a ha
  rw [addressBytes, List.length_append, List.length_flatMap, List.map_congr_left hwidth,
    List.map_const', List.sum_replicate_nat, hr.count]
  rfl

/-- A draft that keeps what the calls said is written down in as many bytes as these ask for. -/
lemma Reflects.frameSize_eq (hr : d.Reflects width table calls) (hs : d.Sound)
    (hc : d.header.Complete d.width) : d.frameSize = messageLength width calls := by
  have hempty : d.addresses.isEmpty = (known calls).isEmpty := by
    rw [← hr.map_addr, List.isEmpty_map]
  rw [Draft.frameSize_eq, hc.length_fieldBytes, length_addressBlock, hr.length_addressBytes hs,
    hr.length_tlvBytes, hempty, hr.width_eq, hr.header, messageLength]
  split <;> omega

end Draft

/-! ## One writer -/

lemma Exceeded.ne_ok {α : Type} {kind : BufferKind} {r : Except WireError α} {a : α}
    (h : Exceeded kind r) : r ≠ .ok a := by
  obtain ⟨needed, available, -, rfl⟩ := h
  simp

namespace MessageWriter

variable {σ : Type} {w : MessageWriter} {p : ContentProvider σ} {context : σ} {width : ℕ}

/-- What becomes of a message whose TLV values, whose own bytes and which with the packet have these
numbers of bytes: it is made, or the first buffer that is too small for it is reported. -/
inductive Verdict (config : WriterConfig) (values size packed : ℕ)
    (result : Except WireError Unit) : Prop
  | made (values_le : values ≤ config.addrTlvSize) (size_le : size ≤ config.msgSize)
      (word : size ≤ maxWord) (packed_le : packed ≤ config.packetSize) (ok : result = .ok ())
  | addressTlv (lacks : config.addrTlvSize < values) (error : Exceeded .addressTlv result)
  | message (values_le : values ≤ config.addrTlvSize) (lacks : min config.msgSize maxWord < size)
      (error : Exceeded .message result)
  | packet (values_le : values ≤ config.addrTlvSize) (size_le : size ≤ min config.msgSize maxWord)
      (lacks : config.packetSize < packed) (error : Exceeded .packet result)

namespace Verdict

variable {config : WriterConfig} {values size packed : ℕ} {result : Except WireError Unit}

lemma ok_iff (h : Verdict config values size packed result) : result = .ok () ↔
    values ≤ config.addrTlvSize ∧ size ≤ config.msgSize ∧ size ≤ maxWord ∧
      packed ≤ config.packetSize := by
  cases h with
  | made values_le size_le word packed_le ok =>
    exact ⟨fun _ => ⟨values_le, size_le, word, packed_le⟩, fun _ => ok⟩
  | addressTlv lacks error => exact ⟨fun hok => absurd hok error.ne_ok, fun hfit => by omega⟩
  | message _ lacks error => exact ⟨fun hok => absurd hok error.ne_ok, fun hfit => by omega⟩
  | packet _ _ lacks error => exact ⟨fun hok => absurd hok error.ne_ok, fun hfit => by omega⟩

lemma blames_addressTlv (h : Verdict config values size packed result)
    (hlt : config.addrTlvSize < values) : Exceeded .addressTlv result := by
  cases h with
  | addressTlv _ error => exact error
  | _ => omega

lemma blames_message (h : Verdict config values size packed result)
    (hvalues : values ≤ config.addrTlvSize) (hlt : min config.msgSize maxWord < size) :
    Exceeded .message result := by
  cases h with
  | message _ _ error => exact error
  | _ => omega

lemma blames_packet (h : Verdict config values size packed result)
    (hvalues : values ≤ config.addrTlvSize) (hsize : size ≤ min config.msgSize maxWord)
    (hlt : config.packetSize < packed) : Exceeded .packet result := by
  cases h with
  | packet _ _ _ error => exact error
  | _ => omega

end Verdict

/-- The number of bytes in the packet once a message of the given size is there. -/
def packedWith (w : MessageWriter) (size : ℕ) : ℕ :=
  w.pending + size + if w.pending = 0 then 1 else 0

/-- The packet is the one that was allocated, and it has not outgrown it. -/
structure Allocated (w : MessageWriter) : Prop where
  packet : w.packet.clear = { kind := .packet, capacity := w.config.packetSize }
  room : w.packet.length ≤ w.packet.capacity

/-- A message goes into the packet with what leads it. -/
lemma packedWith_eq (w : MessageWriter) (octets : List UInt8) :
    w.packedWith octets.length = w.packet.length + (octets.length + (lead w.packet).length) := by
  have hempty : w.packet.isEmpty = true ↔ w.pending = 0 := List.isEmpty_iff_length_eq_zero
  rw [packedWith, pending, Nat.add_assoc]
  simp only [length_lead, hempty, pending]

/-- A draft is put into the packet, or the first buffer that is too small for it is reported. -/
lemma appendDraft_verdict (hw : w.Allocated) {d : Draft} (hc : d.header.Complete d.width)
    (hs : d.Short) (type : MsgType) {values : ℕ} (hvalues : values ≤ w.config.addrTlvSize) :
    Verdict w.config values d.frameSize (w.packedWith d.frameSize)
      ((w.appendDraft type d).map fun _ => ()) := by
  have hkind : w.packet.kind = .packet := congrArg Buffer.kind hw.packet
  have hcapacity : w.packet.capacity = w.config.packetSize := congrArg Buffer.capacity hw.packet
  have hroom := hw.room
  rw [appendDraft_eq]
  by_cases hsize : d.frameSize ≤ w.config.msgSize ∧ d.frameSize ≤ maxWord
  · -- the message is written, and it depends on the packet whether it is taken
    have hbytes : (Buffer.extend { kind := .message, capacity := w.config.msgSize }
        (d.frame type)).bytes = d.frame type := List.nil_append _
    have hpackedWith := w.packedWith_eq (d.frame type)
    rw [Draft.length_frame] at hpackedWith
    rw [Draft.encode_of_fits hc hs rfl hsize.1 hsize.2, ok_bind, hbytes]
    by_cases hpacked : w.packedWith d.frameSize ≤ w.config.packetSize
    · have hfit : (d.frame type).length + (lead w.packet).length ≤ w.packet.remaining := by
        rw [Draft.length_frame, Buffer.remaining]
        omega
      rw [appendMessage_of_fits hfit]
      exact .made hvalues hsize.1 hsize.2 hpacked rfl
    · have hlt : w.packet.remaining < (d.frame type).length + (lead w.packet).length := by
        rw [Draft.length_frame, Buffer.remaining]
        omega
      rw [appendMessage_of_lt hlt, hkind]
      exact .packet hvalues (Nat.le_min.2 hsize) (Nat.lt_of_not_le hpacked) ⟨_, _, hlt, rfl⟩
  · rw [not_and_or, Nat.not_le, Nat.not_le] at hsize
    obtain ⟨needed, available, hneeded, herror⟩ : Exceeded .message
        (d.encode type { kind := .message, capacity := w.config.msgSize }) :=
      Draft.encode_exceeded hc hs rfl rfl hsize
    refine .message hvalues (by omega) ⟨needed, available, hneeded, ?_⟩
    rw [herror]
    rfl

/-- **What becomes of a message.**  A provider that passes errors on and whose calls are valid has
its message made, or the first buffer that is too small for it is reported. -/
theorem create_verdict (hw : w.Allocated) (hwidth : w.width? p.type = some width)
    (hpasses : p.PassesOn)
    (hvalid : AllValid width ((w.table? p.type).getD []) [] (p.asked context))
    (hcomplete : (Draft.headerOf (p.asked context)).Complete width) :
    Verdict w.config (valueBytes (taken (p.asked context)))
      (messageLength width (p.asked context))
      (w.packedWith (messageLength width (p.asked context))) (w.create p context).result := by
  rcases hcompose : compose p (w.opening p context width) with ⟨r, callbacks, s⟩
  obtain ⟨-, hfollows⟩ := compose_foretold hcompose
  cases compose_comes hpasses hcompose with
  | refused h => exact absurd hvalid h
  | exceeded _ lacks error =>
    obtain ⟨needed, available, hneeded, herror⟩ := error
    obtain rfl : r = _ := herror
    rw [create_rejected hwidth hcompose]
    exact .addressTlv lacks ⟨needed, available, hneeded, rfl⟩
  | asAsked _ fits same =>
    obtain ⟨rfl, hcalls⟩ := Prod.mk.inj same
    rw [hcalls] at hfollows
    have hc : s.draft.header.Complete s.draft.width := by
      rw [hfollows.reflects.header, hfollows.reflects.width_eq]
      exact hcomplete
    have hverdict := appendDraft_verdict hw hc hfollows.sound.values_short p.type fits
    rw [hfollows.reflects.frameSize_eq hfollows.sound hc] at hverdict
    cases happend : w.appendDraft p.type s.draft with
    | error e =>
      rw [happend] at hverdict
      rw [create_refused hwidth hcompose happend]
      exact hverdict
    | ok packed =>
      rw [happend] at hverdict
      rw [create_finished hwidth hcompose happend]
      exact hverdict

/-- A provider that passes errors on and whose message was made has made the calls that it asks
for. -/
lemma calls_of_made (hwidth : w.width? p.type = some width) (hpasses : p.PassesOn)
    (hmade : (w.create p context).result = .ok ()) :
    (w.create p context).calls = p.asked context := by
  rcases hcompose : compose p (w.opening p context width) with ⟨e | _, callbacks, s⟩
  · rw [create_rejected hwidth hcompose] at hmade
    exact absurd hmade (by simp [aborted])
  · rw [calls_create hwidth hcompose]
    exact congrArg Prod.snd ((compose_comes hpasses hcompose).same_of_ok rfl)

/-- A message that was made is the one that was asked for, and it has the length that the calls ask
for. -/
lemma packet_of_made (context : σ) (hwidth : w.width? p.type = some width) (hpasses : p.PassesOn)
    (hmade : (w.create p context).result = .ok ()) :
    let octets := Made.octets ⟨p.type, width, (w.table? p.type).getD [], p.asked context⟩
    octets.length = messageLength width (p.asked context) ∧
      (w.create p context).writer.packet = w.packet.extend (lead w.packet ++ octets) := by
  intro octets
  rcases create_cases w p context with ⟨e, herror, -⟩ | ⟨width', d, hbuilt⟩
  · exact absurd (herror.symm.trans hmade) (by simp)
  · obtain rfl : width' = width := Option.some.inj (hbuilt.registered.symm.trans hwidth)
    have hcalls := calls_of_made hwidth hpasses hmade
    have hframe := hbuilt.frame_eq
    have hsize := hbuilt.reflects.frameSize_eq hbuilt.sound hbuilt.complete
    rw [hcalls] at hframe hsize
    refine ⟨?_, ?_⟩
    · rw [← hsize, ← Draft.length_frame d p.type, hframe]
    · rw [hbuilt.writer, hframe]

end MessageWriter

/-! ## Writers that can be reached -/

namespace ReusingWriter

open MessageWriter

variable {σ : Type}

lemma Mirrors.allocated {config : WriterConfig} {w : ReusingWriter} {l : Loaded}
    (h : Mirrors config w l) (hcarries : Carries l) : l.writer.Allocated := by
  refine ⟨?_, hcarries.room⟩
  rw [h.packet, h.capacities]
  rfl

/-- What a writer that can be reached makes is made by a writer with an allocated packet. -/
lemma create_after (config : WriterConfig) (history : List Op) (p : ContentProvider σ)
    (context : σ) :
    (after config history).toMessageWriter.Allocated ∧ (after config history).config = config ∧
      ((after config history).create p context).1 =
        (after config history).toMessageWriter.create p context := by
  have hmirrors := mirrors_after config history
  have hallocated := hmirrors.allocated (carries_after config history)
  have hcapacities := hmirrors.capacities
  rw [← hmirrors.writer] at hallocated hcapacities
  refine ⟨hallocated, hcapacities, ?_⟩
  rw [hmirrors.create, hmirrors.writer]

/-- **When a message fits.**  After any history, let a provider of a type with a width pass errors
on, and let the calls that it asks for be valid and its header complete.  Its values have `values`
bytes then, its message has `size`, and the packet would have `packed` with it.

* The message is made if and only if each buffer is large enough for what it has to hold and the
  length of the message has two octets; and then the packet has `packed` bytes.
* Otherwise the first of the buffers that is too small is reported, the arena before the message
  buffer (which also stands for the length field) and this before the packet, with more bytes needed
  than were available.
* A writer with buffers as large or larger, which knows the same of the type and in whose packet as
  many bytes wait, makes every message that this one makes, with the same bytes. -/
theorem create_capacity (config : WriterConfig) (history : List Op) (p : ContentProvider σ)
    (context : σ) (width : ℕ) (hwidth : (after config history).width? p.type = some width)
    (hpasses : p.PassesOn)
    (hvalid : AllValid width (((after config history).table? p.type).getD []) []
      (p.asked context))
    (hcomplete : (Draft.headerOf (p.asked context)).Complete width) :
    let w := after config history
    let created := (w.create p context).1
    let values := valueBytes (taken (p.asked context))
    let size := messageLength width (p.asked context)
    let packed := w.pending + size + if w.pending = 0 then 1 else 0
    (created.result = .ok () ↔ values ≤ config.addrTlvSize ∧ size ≤ config.msgSize ∧
      size ≤ maxWord ∧ packed ≤ config.packetSize) ∧
    (created.result = .ok () → created.writer.pending = packed) ∧
    (config.addrTlvSize < values → Exceeded .addressTlv created.result) ∧
    (values ≤ config.addrTlvSize → min config.msgSize maxWord < size →
      Exceeded .message created.result) ∧
    (values ≤ config.addrTlvSize → size ≤ min config.msgSize maxWord →
      config.packetSize < packed → Exceeded .packet created.result) ∧
    ∀ (config' : WriterConfig) (history' : List Op), config.addrTlvSize ≤ config'.addrTlvSize →
      config.msgSize ≤ config'.msgSize → config.packetSize ≤ config'.packetSize →
      let w' := after config' history'
      w'.width? p.type = some width → w'.table? p.type = w.table? p.type →
      w'.pending = w.pending → created.result = .ok () →
      let created' := (w'.create p context).1
      created'.result = .ok () ∧ ∃ added,
        created.writer.packet = w.packet.extend added ∧
        created'.writer.packet = w'.packet.extend added := by
  intro w created values size packed
  obtain ⟨hallocated, hconfig, hcreated⟩ := create_after config history p context
  have hverdict := create_verdict hallocated hwidth hpasses hvalid hcomplete
  rw [hconfig, ← hcreated] at hverdict
  have hfit : created.result = .ok () ↔ values ≤ config.addrTlvSize ∧ size ≤ config.msgSize ∧
      size ≤ maxWord ∧ packed ≤ config.packetSize := hverdict.ok_iff
  have hmessage := packet_of_made context hwidth hpasses
  rw [← hcreated] at hmessage
  refine ⟨hfit, fun hmade => ?_, hverdict.blames_addressTlv, hverdict.blames_message,
    hverdict.blames_packet, ?_⟩
  · obtain ⟨hlength, hpacket⟩ := hmessage hmade
    rw [pending, hpacket, Buffer.length_extend, List.length_append, Nat.add_comm (lead _).length,
      ← packedWith_eq, hlength]
    rfl
  · intro config' history' haddrTlv hmsg hpacketSize w' hwidth' htable hpending hmade created'
    obtain ⟨hvalues, hsize, hword, hroom⟩ := hfit.1 hmade
    obtain ⟨hallocated', hconfig', hcreated'⟩ := create_after config' history' p context
    have hverdict' := create_verdict hallocated' hwidth' hpasses (htable ▸ hvalid) hcomplete
    have hmessage' := packet_of_made context hwidth' hpasses
    rw [hconfig', ← hcreated', packedWith, hpending] at hverdict'
    have hmade' : created'.result = .ok () := hverdict'.ok_iff.2
      ⟨Nat.le_trans hvalues haddrTlv, Nat.le_trans hsize hmsg, hword,
        Nat.le_trans hroom hpacketSize⟩
    -- as many bytes wait, so what leads the message is the same
    have hlead : lead w'.packet = lead w.packet := lead_congr hpending
    rw [← hcreated', htable, hlead] at hmessage'
    exact ⟨hmade', _, (hmessage hmade).2, (hmessage' hmade').2⟩

/-- The sample provider in buffers that its message fills, and in each of them with one byte
less. -/
theorem create_capacity_sample :
    let result (config : WriterConfig) :=
      ((after config (sampleHistory.take 2)).create sampleProvider ()).1.result
    result { addrTlvSize := 3, msgSize := 33, packetSize := 34 } = .ok () ∧
      Exceeded .addressTlv (result { addrTlvSize := 2, msgSize := 33, packetSize := 34 }) ∧
      Exceeded .message (result { addrTlvSize := 3, msgSize := 32, packetSize := 34 }) ∧
      Exceeded .packet (result { addrTlvSize := 3, msgSize := 33, packetSize := 33 }) := by
  intro result
  have hpasses : sampleProvider.PassesOn := by
    refine ⟨?_, ?_⟩
    · refine passesOn_bind (passesOn_tell fun _ => rfl) fun _ => ?_
      refine passesOn_bind (passesOn_tell fun _ => rfl) fun _ => ?_
      exact passesOn_tell fun _ => rfl
    · refine passesOn_bind (passesOn_addAddress _ _) fun first => ?_
      refine passesOn_bind (passesOn_addAddress _ _) fun second => ?_
      refine passesOn_bind (passesOn_addAddress _ _) fun again => ?_
      refine passesOn_bind (passesOn_addTlv _ _ _ _) fun _ => ?_
      refine passesOn_bind (passesOn_addTlv _ _ _ _) fun _ => ?_
      exact passesOn_addTlv _ _ _ _
  have hvalid : AllValid 2 [⟨0, some 3⟩, ⟨1, none⟩] [] (sampleProvider.asked ()) := by
    decide_cbv
  have hheader : Draft.headerOf (sampleProvider.asked ()) =
      { flags := ⟨0x50⟩, hopLimit := some 7, seqNum := some 258 } := by decide_cbv
  have hcomplete : (Draft.headerOf (sampleProvider.asked ())).Complete 2 := by
    rw [hheader]
    exact ⟨fun h => absurd h (by decide), fun _ => ⟨7, rfl⟩, fun h => absurd h (by decide),
      fun _ => ⟨258, rfl⟩⟩
  have hvalues : valueBytes (taken (sampleProvider.asked ())) = 3 := by decide_cbv
  have hsize : messageLength 2 (sampleProvider.asked ()) = 33 := by decide_cbv
  have hpending : ∀ config, (after config (sampleHistory.take 2)).pending = 0 := fun _ => rfl
  have hone := fun config : WriterConfig =>
    create_capacity config (sampleHistory.take 2) sampleProvider () 2 rfl hpasses hvalid hcomplete
  simp only [hvalues, hsize, hpending] at hone
  refine ⟨(hone _).1.2 (by decide), ?_, ?_, ?_⟩
  · exact (hone _).2.2.1 (by decide)
  · exact (hone _).2.2.2.1 (by decide) (by decide)
  · exact (hone _).2.2.2.2.1 (by decide) (by decide) (by decide)

end ReusingWriter

end RouteDiscovery.Wire
