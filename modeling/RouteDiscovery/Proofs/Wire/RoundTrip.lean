/-
# Packets say what was made

A message writer goes through a history of registrations, messages of arbitrary content providers,
flushes and discards.  Beside it we keep which messages wait in its packet (`Loaded`), each with the
calls of its provider; `Made.message` is the message that these calls ask for.

`MessageWriter.Holds` ties the packet to these messages, and every operation preserves it
(`MessageWriter.Holds.step`).  Hence a packet that is handed over is read as exactly the messages
that were made, in the order in which they were made (`MessageWriter.flush_reads`).
-/
import Mathlib.Data.List.Permutation
import RouteDiscovery.Proofs.Wire.Append
import RouteDiscovery.Proofs.Wire.Decode

namespace RouteDiscovery.Wire.MessageWriter

open CallRecord

/-! ## Histories -/

/-- An operation on a message writer. -/
inductive Op : Type 1 where
  | registerMessage (type : MsgType) (width : ℕ)
  | registerProvider (type : MsgType) (table : List TlvType)
  /-- Lets a provider build a message. -/
  | create {σ : Type} (p : ContentProvider σ) (context : σ)
  | flush {ε τ : Type} (target : PacketTarget ε τ) (t : τ)
  | discard

/-- A message that was built. -/
structure Made where
  type : MsgType
  /-- The width that was registered for its type. -/
  width : ℕ
  /-- The TLVs that were declared for its type. -/
  table : List TlvType
  /-- The calls of its provider, with their answers. -/
  calls : List CallRecord

namespace Made

/-- The order of TLVs: by position of the type in the table, then by index of the address. -/
def tlvLe (table : List TlvType) (s t : AddrTlv) : Bool :=
  table.findIdx (· = s.type) < table.findIdx (· = t.type) ||
    (table.findIdx (· = s.type) = table.findIdx (· = t.type) && s.index ≤ t.index)

/-- The message that the calls ask for: of each header field that the flags select the last value,
the accepted addresses each once in the order of their first call, and the accepted TLVs in their
order, those of equal rank in the order of the calls. -/
def message (m : Made) : Message where
  type := m.type
  width := m.width
  flags := (Draft.headerOf m.calls).flags
  originator := (Draft.headerOf m.calls).carried .originator
    ((last? originator? m.calls).map (·.bytes))
  hopLimit := (Draft.headerOf m.calls).carried .hopLimit (last? hopLimit? m.calls)
  hopCount := (Draft.headerOf m.calls).carried .hopCount (last? hopCount? m.calls)
  seqNum := (Draft.headerOf m.calls).carried .seqNum (last? seqNum? m.calls)
  addresses := (m.calls.filterMap address?).eraseDups.map (·.bytes)
  tlvs := (m.calls.filterMap tlv?).mergeSort (tlvLe m.table)

/-! The TLVs of `Made.message` are in order, and those of one rank stay as they were called. -/

/-- The rank of a TLV: the position of its type in the table, and the index of its address. -/
def rank (table : List TlvType) (t : AddrTlv) : ℕ × ℕ := (table.findIdx (· = t.type), t.index)

lemma tlvLe_iff {table : List TlvType} {s t : AddrTlv} :
    tlvLe table s t = true ↔ (rank table s).1 < (rank table t).1 ∨
      (rank table s).1 = (rank table t).1 ∧ (rank table s).2 ≤ (rank table t).2 := by
  simp only [tlvLe, rank, Bool.or_eq_true, Bool.and_eq_true, decide_eq_true_eq]

lemma tlvLe_trans (table : List TlvType) (s t u : AddrTlv) (hst : tlvLe table s t = true)
    (htu : tlvLe table t u = true) : tlvLe table s u = true := by
  rw [tlvLe_iff] at hst htu ⊢
  omega

lemma tlvLe_total (table : List TlvType) (s t : AddrTlv) :
    (tlvLe table s t || tlvLe table t s) = true := by
  rw [Bool.or_eq_true, tlvLe_iff, tlvLe_iff]
  omega

theorem tlvs_sorted (m : Made) : m.message.tlvs.Pairwise fun s t => tlvLe m.table s t = true :=
  List.pairwise_mergeSort (tlvLe_trans m.table) (tlvLe_total m.table) _

theorem tlvs_stable (m : Made) (k : ℕ × ℕ) :
    m.message.tlvs.filter (rank m.table · = k) =
      (m.calls.filterMap tlv?).filter (rank m.table · = k) := by
  have hequal : ((m.calls.filterMap tlv?).filter (rank m.table · = k)).Pairwise
      fun s t => tlvLe m.table s t = true := by
    refine List.pairwise_of_forall_mem_list fun s hs t ht => ?_
    have hrank : rank m.table s = rank m.table t := by
      rw [of_decide_eq_true (List.mem_filter.1 hs).2, of_decide_eq_true (List.mem_filter.1 ht).2]
    rw [tlvLe_iff, hrank]
    exact .inr ⟨rfl, Nat.le_refl _⟩
  have hsub := List.sublist_mergeSort (tlvLe_trans m.table) (tlvLe_total m.table) hequal
    List.filter_sublist
  have hfilter := hsub.filter (rank m.table · = k)
  simp only [List.filter_filter, Bool.and_self] at hfilter
  -- of a sublist with as many members nothing is missing
  refine (hfilter.eq_of_length ?_).symm
  exact ((List.mergeSort_perm _ _).filter _).length_eq.symm

/-- All flags that were set have names. -/
def IsNamed (m : Made) : Prop := ∀ flags ∈ m.calls.filterMap flags?, flags.bits &&& 0x0F = 0

instance (m : Made) : Decidable m.IsNamed :=
  inferInstanceAs (Decidable (∀ flags ∈ m.calls.filterMap flags?, flags.bits &&& 0x0F = 0))

end Made

/-- A message writer with the messages that wait in its packet. -/
structure Loaded where
  writer : MessageWriter
  /-- The messages in the order in which they were built. -/
  made : List Made := []

namespace Loaded

/-- The messages in the packet after a provider was let build one. -/
def madeAfter {σ : Type} (l : Loaded) (p : ContentProvider σ) (created : Created σ) : List Made :=
  match created.result with
  | .ok () =>
    l.made ++ [{ type := p.type, width := (l.writer.width? p.type).getD 0,
                 table := (l.writer.table? p.type).getD [], calls := created.calls }]
  | .error _ => l.made

/-- Carries out one operation. -/
def step (l : Loaded) : Op → Loaded
  | .registerMessage type width => { l with writer := (l.writer.registerMessage type width).state }
  | .registerProvider type table => { l with writer := (l.writer.registerProvider type table).state }
  | .create p context =>
    { writer := (l.writer.create p context).writer
      made := l.madeAfter p (l.writer.create p context) }
  | .flush target t => { writer := (l.writer.flush target t).state.1 }
  | .discard => { writer := l.writer.discard }

/-- A new writer after a history. -/
def after (config : WriterConfig) (history : List Op) : Loaded :=
  history.foldl step { writer := .new config }

/-- What holds of a new writer and is kept by every operation holds after every history. -/
lemma after_invariant {P : Loaded → Prop} {config : WriterConfig} (hnew : P { writer := .new config })
    (hstep : ∀ l op, P l → P (l.step op)) (history : List Op) : P (.after config history) :=
  List.foldlRecOn history step hnew fun l hl op _ => hstep l op hl

end Loaded

/-! ## The invariant -/

/-- The packet of some messages: the packet header and the messages, or nothing. -/
def packetOf : List (List UInt8) → List UInt8
  | [] => []
  | frames => packetHeader :: frames.flatten

/-- These octets are read as the message. -/
def Made.IsWrittenAs (m : Made) (octets : List UInt8) : Prop :=
  octets ≠ [] ∧ (m.IsNamed → Reads Reader.message octets m.message)

/-- All registered widths are widths of addresses. -/
def WidthsFit (w : MessageWriter) : Prop :=
  ∀ r ∈ w.registry, ∀ width, r.width = some width → 0 < width ∧ width ≤ maxAddressLength

/-- The packet of the writer holds the messages. -/
structure Holds (l : Loaded) : Prop where
  widths : l.writer.WidthsFit
  frames : ∃ frames : List (Made × List UInt8), frames.map Prod.fst = l.made ∧
    (∀ f ∈ frames, f.1.IsWrittenAs f.2) ∧ l.writer.packet.bytes = packetOf (frames.map Prod.snd)

/-! ## One message -/

lemma sortedTlvs_eq {d : Draft} {table : List TlvType} {l : List AddrTlv}
    (h : d.tlvs = l.map (Draft.ranked table)) : d.sortedTlvs = l.mergeSort (Made.tlvLe table) := by
  -- the order looks at the ranks only, so the TLVs can be ranked before or after they are sorted
  have hsort : (l.mergeSort (Made.tlvLe table)).map (Draft.ranked table) =
      (l.map (Draft.ranked table)).mergeSort Draft.tlvLe :=
    List.map_mergeSort fun _ _ _ _ => rfl
  have hsnd : (fun t : ℕ × AddrTlv => t.2) ∘ Draft.ranked table = id := rfl
  rw [Draft.sortedTlvs, h, ← hsort, List.map_map, hsnd, List.map_id]

/-- A draft that keeps what the calls said stands for the message that the calls ask for. -/
lemma message_of_reflects {m : Made} {d : Draft} (h : d.Reflects m.width m.table m.calls) :
    d.message m.type = m.message := by
  have haddresses : d.addresses.map (·.addr.bytes) =
      ((m.calls.filterMap address?).eraseDups).map (·.bytes) := by
    rw [← h.addresses, List.map_map]
    rfl
  rw [Draft.message, h.header, h.width_eq, haddresses, sortedTlvs_eq h.tlvs]
  rfl

/-- The frame of a draft is written as the message that the calls ask for. -/
lemma isWrittenAs_frame {m : Made} {d : Draft} (hs : d.Sound)
    (hr : d.Reflects m.width m.table m.calls) (hc : d.header.Complete d.width)
    (hsize : d.frameSize ≤ maxWord) (hpos : 0 < m.width) (hle : m.width ≤ maxAddressLength) :
    m.IsWrittenAs (d.frame m.type) := by
  refine ⟨by simp [Draft.frame], fun hnamed => ?_⟩
  have hflags : d.header.flags.bits &&& 0x0F = 0 := by
    rw [hr.header]
    show ((last? flags? m.calls).getD .empty).bits &&& 0x0F = 0
    -- flags that were never set are empty
    cases hlast : last? flags? m.calls with
    | none => rfl
    | some flags => exact hnamed flags (List.mem_of_getLast? hlast)
  rw [← message_of_reflects hr]
  rw [← hr.width_eq] at hpos hle
  exact Draft.reads_frame hs hc hflags hpos hle hsize

/-! ## One operation -/

lemma WidthsFit.update {w : MessageWriter} (h : w.WidthsFit) (type : MsgType)
    {f : Registration → Registration}
    (hf : ∀ r : Registration, ∀ width, (f r).width = some width →
      r.width = some width ∨ 0 < width ∧ width ≤ maxAddressLength) :
    (w.update type f).WidthsFit := by
  intro r hr width hwidth
  simp only [MessageWriter.update] at hr
  split at hr
  · -- the type has a registration, which is changed in its place
    obtain ⟨r', hr', rfl⟩ := List.mem_map.1 hr
    split at hwidth
    · exact (hf r' width hwidth).elim (h r' hr' width) id
    · exact h r' hr' width hwidth
  · rcases List.mem_append.1 hr with hr | hr
    · exact h r hr width hwidth
    · rw [List.mem_singleton.1 hr] at hwidth
      exact (hf _ width hwidth).elim (fun hnone => absurd hnone (by simp)) id

lemma WidthsFit.registerMessage {w : MessageWriter} (h : w.WidthsFit) (type : MsgType)
    (width : ℕ) : (w.registerMessage type width).state.WidthsFit := by
  unfold MessageWriter.registerMessage
  split
  · exact h
  · next hwidth =>
    split
    · exact h
    · refine h.update type fun r n hn => .inr ?_
      cases hn
      rw [not_or] at hwidth
      exact ⟨Nat.pos_of_ne_zero hwidth.1, Nat.le_of_not_lt hwidth.2⟩

lemma WidthsFit.registerProvider {w : MessageWriter} (h : w.WidthsFit) (type : MsgType)
    (table : List TlvType) : (w.registerProvider type table).state.WidthsFit := by
  unfold MessageWriter.registerProvider
  split
  · exact h
  · exact h.update type fun r n hn => .inl hn

/-! Registrations leave the packet. -/

lemma packet_registerMessage (w : MessageWriter) (type : MsgType) (width : ℕ) :
    (w.registerMessage type width).state.packet = w.packet := by
  unfold registerMessage
  split
  · rfl
  · split <;> rfl

lemma packet_registerProvider (w : MessageWriter) (type : MsgType) (table : List TlvType) :
    (w.registerProvider type table).state.packet = w.packet := by
  unfold registerProvider
  split <;> rfl

lemma WidthsFit.of_width? {w : MessageWriter} (h : w.WidthsFit) {type : MsgType} {width : ℕ}
    (hwidth : w.width? type = some width) : 0 < width ∧ width ≤ maxAddressLength := by
  obtain ⟨r, hr, hrwidth⟩ := Option.bind_eq_some_iff.1 hwidth
  exact h r (List.mem_of_find?_eq_some hr) width hrwidth

lemma packetOf_snoc (b : Buffer) (frames : List (List UInt8)) (octets : List UInt8)
    (hne : ∀ f ∈ frames, f ≠ []) (h : b.bytes = packetOf frames) :
    (b.extend (lead b ++ octets)).bytes = packetOf (frames ++ [octets]) := by
  cases frames with
  | nil =>
    have hempty : b.isEmpty = true := List.isEmpty_iff.2 h
    simp only [Buffer.extend, h, lead, hempty, packetOf, if_true, List.nil_append,
      List.flatten_cons, List.flatten_nil, List.append_nil, List.singleton_append]
  | cons frame frames =>
    have hfull : b.isEmpty = false := by
      rw [Buffer.isEmpty, h]
      rfl
    simp [Buffer.extend, h, lead, hfull, packetOf]

/-- An operation that fails to build a message does nothing. -/
lemma step_of_error {l : Loaded} {σ : Type} {p : ContentProvider σ} {context : σ} {e : WireError}
    (h : (l.writer.create p context).result = .error e) : l.step (.create p context) = l := by
  simp only [Loaded.step, Loaded.madeAfter, h, writer_of_error h]

lemma Holds.create {l : Loaded} {σ : Type} (h : Holds l) (p : ContentProvider σ) (context : σ) :
    Holds (l.step (.create p context)) := by
  rcases create_cases l.writer p context with ⟨e, hresult, -⟩ | ⟨width, d, hbuilt⟩
  · rw [step_of_error hresult]
    exact h
  · obtain ⟨frames, hmade, hwritten, hpacket⟩ := h.frames
    obtain ⟨hpos, hle⟩ := h.widths.of_width? hbuilt.registered
    simp only [Loaded.step, Loaded.madeAfter, hbuilt.result, hbuilt.writer, hbuilt.registered,
      Option.getD_some]
    -- the new message goes behind those that wait
    refine ⟨h.widths, frames ++ [(⟨p.type, width, (l.writer.table? p.type).getD [],
      (l.writer.create p context).calls⟩, d.frame p.type)], ?_, ?_, ?_⟩
    · rw [List.map_append, hmade]
      rfl
    · intro f hf
      rcases List.mem_append.1 hf with hf | hf
      · exact hwritten f hf
      · rw [List.mem_singleton.1 hf]
        exact isWrittenAs_frame hbuilt.sound hbuilt.reflects hbuilt.complete hbuilt.size hpos hle
    · rw [List.map_append]
      refine packetOf_snoc _ _ _ (fun octets hoctets => ?_) hpacket
      obtain ⟨f, hf, rfl⟩ := List.mem_map.1 hoctets
      exact (hwritten f hf).1

lemma Holds.empty {w : MessageWriter} (hwidths : w.WidthsFit) (hempty : w.packet.bytes = []) :
    Holds { writer := w } :=
  ⟨hwidths, [], rfl, fun _ hf => absurd hf List.not_mem_nil, hempty⟩

/-- Every operation keeps the packet to the messages that were built. -/
lemma Holds.step {l : Loaded} (h : Holds l) (op : Op) : Holds (l.step op) := by
  cases op with
  | registerMessage type width =>
    obtain ⟨frames, hmade, hwritten, hpacket⟩ := h.frames
    refine ⟨h.widths.registerMessage type width, frames, hmade, hwritten, ?_⟩
    simp only [Loaded.step, packet_registerMessage, hpacket]
  | registerProvider type table =>
    obtain ⟨frames, hmade, hwritten, hpacket⟩ := h.frames
    refine ⟨h.widths.registerProvider type table, frames, hmade, hwritten, ?_⟩
    simp only [Loaded.step, packet_registerProvider, hpacket]
  | create p context => exact h.create p context
  | flush target t =>
    simp only [Loaded.step, flush]
    -- the packet is empty afterwards, whether it was handed over or there was none
    split
    · next hempty => exact .empty h.widths (List.isEmpty_iff.1 hempty)
    · exact .empty h.widths rfl
  | discard => exact .empty h.widths rfl

/-- After every history the packet holds the messages that were built. -/
lemma holds_after (config : WriterConfig) (history : List Op) :
    Holds (.after config history) :=
  Loaded.after_invariant (.empty (fun _ hr => absurd hr List.not_mem_nil) rfl)
    (fun _ op hl => hl.step op) history

/-! ## The packet that is handed over -/

/-- A packet of messages whose flags have names is read as these messages. -/
lemma readPacket_packetOf {frames : List (Made × List UInt8)} (hne : frames ≠ [])
    (hwritten : ∀ f ∈ frames, f.1.IsWrittenAs f.2) (hnamed : ∀ f ∈ frames, f.1.IsNamed) :
    readPacket (packetOf (frames.map Prod.snd)) = some (frames.map (·.1.message)) := by
  have hread : Reader.message.untilEnd (frames.flatMap Prod.snd) =
      some (frames.map (·.1.message)) :=
    Reads.untilEnd (fun f hf => (hwritten f hf).2 (hnamed f hf)) fun f hf => (hwritten f hf).1
  cases frames with
  | nil => exact absurd rfl hne
  | cons f frames =>
    rw [List.flatMap_def] at hread
    exact hread

/-- **Reading undoes writing.**  After any history of a message writer, flush hands a packet over
exactly if messages wait in it.  If all flags that their providers set have names, a reader of the
packet format finds exactly these messages in the packet, in the order in which they were made, each
as the calls of its provider ask for it; and flush answers with the number of bytes. -/
theorem flush_reads (config : WriterConfig) (history : List Op)
    (hnamed : ∀ m ∈ (Loaded.after config history).made, m.IsNamed) :
    let l := Loaded.after config history
    (l.made = [] → ∀ {ε τ : Type} (target : PacketTarget ε τ) (t : τ),
      l.writer.flush target t = { answer := .ok 0, state := (l.writer, t) }) ∧
    (l.made ≠ [] → ∃ packet, readPacket packet = some (l.made.map Made.message) ∧
      ∀ {ε τ : Type} (target : PacketTarget ε τ) (t : τ),
        (l.writer.flush target t).state = (l.writer.discard, (target packet t).state) ∧
        (l.writer.flush target t).answer =
          (target packet t).answer.map fun _ => packet.length) := by
  intro l
  obtain ⟨frames, hmade, hwritten, hpacket⟩ := (holds_after config history).frames
  have hlength : frames.length = l.made.length := by rw [← hmade, List.length_map]
  refine ⟨fun hnone ε τ target t => ?_, fun hsome => ⟨l.writer.packet.bytes, ?_, ?_⟩⟩
  · have hframes : frames = [] := List.eq_nil_of_length_eq_zero (by rw [hlength, hnone]; rfl)
    have hempty : l.writer.packet.isEmpty = true := by
      rw [Buffer.isEmpty, hpacket, hframes]
      rfl
    rw [flush, if_pos hempty]
  · have hne : frames ≠ [] := by
      rintro rfl
      exact hsome hmade.symm
    rw [hpacket, readPacket_packetOf hne hwritten, ← hmade, List.map_map]
    · rfl
    · intro f hf
      exact hnamed f.1 (hmade ▸ List.mem_map_of_mem hf)
  · intro ε τ target t
    have hfull : ¬ l.writer.packet.isEmpty = true := by
      cases frames with
      | nil => exact absurd hmade.symm hsome
      | cons f frames =>
        rw [Buffer.isEmpty, hpacket]
        exact Bool.false_ne_true
    rw [flush, if_neg hfull]
    exact ⟨rfl, rfl⟩

/-- A provider that names an address twice and adds its TLVs against their order. -/
def sampleProvider : ContentProvider Unit where
  type := ⟨10⟩
  addHeader := do
    CallbackScript.tell (.setFlags ⟨0x50⟩)
    CallbackScript.tell (.setHopLimit 7)
    CallbackScript.tell (.setSeqNum 258)
  addAddresses := do
    let first ← CallbackScript.addAddress ⟨[10, 1], by decide, by decide⟩ true
    let second ← CallbackScript.addAddress ⟨[10, 2], by decide, by decide⟩ false
    let again ← CallbackScript.addAddress ⟨[10, 1], by decide, by decide⟩ false
    CallbackScript.addTlv second ⟨1, none⟩ [5] false
    CallbackScript.addTlv first ⟨1, none⟩ [] false
    CallbackScript.addTlv again ⟨0, some 3⟩ [6, 7] false

/-- A history with two messages in one packet. -/
def sampleHistory : List Op :=
  [.registerMessage ⟨10⟩ 2, .registerProvider ⟨10⟩ [⟨0, some 3⟩, ⟨1, none⟩],
    .create sampleProvider (), .create sampleProvider ()]

/-- The message of the provider. -/
def sampleMessage : Message where
  type := ⟨10⟩
  width := 2
  flags := ⟨0x50⟩
  originator := none
  hopLimit := some 7
  hopCount := none
  seqNum := some 258
  addresses := [[10, 1], [10, 2]]
  tlvs := [⟨⟨0, some 3⟩, 0, [6, 7]⟩, ⟨⟨1, none⟩, 0, []⟩, ⟨⟨1, none⟩, 1, [5]⟩]

theorem flush_reads_sample :
    ∃ packet, readPacket packet = some [sampleMessage, sampleMessage] ∧
      ∀ {ε τ : Type} (target : PacketTarget ε τ) (t : τ),
        ((Loaded.after {} sampleHistory).writer.flush target t).state.2 =
          (target packet t).state := by
  have hmade : (Loaded.after {} sampleHistory).made.map Made.message =
      [sampleMessage, sampleMessage] := by decide_cbv
  have hflags : (Loaded.after {} sampleHistory).made.map (·.calls.filterMap flags?) =
      [[⟨0x50⟩], [⟨0x50⟩]] := by decide_cbv
  have hnamed : ∀ m ∈ (Loaded.after {} sampleHistory).made, m.IsNamed := by
    intro m hm
    have hset : m.calls.filterMap flags? = [⟨0x50⟩] := by
      have hmem := List.mem_map_of_mem (f := fun m : Made => m.calls.filterMap flags?) hm
      rw [hflags] at hmem
      simpa using hmem
    unfold Made.IsNamed
    rw [hset]
    decide
  have hsome : (Loaded.after {} sampleHistory).made ≠ [] := by
    intro hnone
    rw [hnone] at hmade
    exact absurd hmade (by simp)
  obtain ⟨packet, hread, hflush⟩ := (flush_reads {} sampleHistory hnamed).2 hsome
  refine ⟨packet, hmade ▸ hread, fun target t => ?_⟩
  rw [(hflush target t).1]

end RouteDiscovery.Wire.MessageWriter
