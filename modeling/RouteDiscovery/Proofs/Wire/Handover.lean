/-
# From messages to packets

A message that was made waits in the packet of its writer until the packet is handed over or
discarded.  This file follows the messages of a whole history.

* `Message.octets` are the bytes of a message, written down from what a reader finds in it.
* The journal of a history (`ReusingWriter.journal`) says of each operation what came of it: which
  message was made, with which packets the target was called.  What waits after a journal
  (`waiting`) and what it hands over (`deliveries`) are read off the journal alone.
* `MessageWriter.Carries` ties the packet to the messages that wait, and every operation keeps it
  (`MessageWriter.Carries.step`).

`ReusingWriter.nothing_lost` puts this together: a target is called with the packet of exactly the
messages that were made since the last flush or discard, in the order in which they were made.
-/
import Mathlib.Algebra.GroupWithZero.Nat
import RouteDiscovery.Proofs.Wire.Reuse

namespace RouteDiscovery.Wire

/-! ## The bytes of a message -/

namespace Message

/-- The bytes of the header fields that the message has. -/
def fieldOctets (m : Message) : List UInt8 :=
  m.originator.getD [] ++ m.hopLimit.toList ++ m.hopCount.toList ++
    (m.seqNum.map wordBytes).getD []

def tlvOctets (m : Message) : List UInt8 := m.tlvs.flatMap AddrTlv.bytes

/-- The address block with its TLVs; a message without addresses has none. -/
def blockOctets (m : Message) : List UInt8 :=
  if m.addresses.isEmpty then []
  else
    [m.addresses.length.toUInt8, 0] ++ m.addresses.flatten ++
      (wordBytes m.tlvOctets.length.toUInt16 ++ m.tlvOctets)

/-- The bytes after the size. -/
def bodyOctets (m : Message) : List UInt8 := m.fieldOctets ++ wordBytes 0 ++ m.blockOctets

/-- The bytes of the message: its type, its flags with the width of its addresses, its size, its
header fields, no TLVs of its own, and its addresses with their TLVs. -/
def octets (m : Message) : List UInt8 :=
  [m.type.code, m.flags.bits ||| ((m.width - 1) % 16).toUInt8] ++
    (wordBytes (4 + m.bodyOctets.length).toUInt16 ++ m.bodyOctets)

lemma octets_ne_nil (m : Message) : m.octets ≠ [] := by
  simp [octets]

end Message

namespace Draft

variable (d : Draft) (type : MsgType)

lemma fieldOctets_message : (d.message type).fieldOctets = d.header.fieldBytes := by
  -- each field is there in both or in neither
  have hselected : ∀ {α : Type} (flag : MsgFlags) (value : Option α) (bytes : α → List UInt8),
      d.header.selected flag value bytes =
        ((d.header.carried flag value).map bytes).getD [] := by
    intro α flag value bytes
    unfold MsgHeader.selected MsgHeader.carried
    split <;> rfl
  have hbyte : ∀ value : Option UInt8, value.toList = (value.map fun n => [n]).getD [] := by
    intro value
    cases value <;> rfl
  have horiginator : d.header.carried .originator (d.header.originator.map (·.bytes)) =
      (d.header.carried .originator d.header.originator).map (·.bytes) := by
    unfold MsgHeader.carried
    split <;> rfl
  simp only [Message.fieldOctets, MsgHeader.fieldBytes, Draft.message, hselected, hbyte,
    horiginator]

lemma blockOctets_message : (d.message type).blockOctets =
    if d.addresses.isEmpty then [] else d.addressBlock := by
  have haddresses : (d.message type).addresses.flatten =
      d.addresses.flatMap fun a => a.addr.bytes := by
    rw [List.flatMap_def]
    rfl
  have hempty : (d.message type).addresses.isEmpty = d.addresses.isEmpty := List.isEmpty_map
  have hlength : (d.message type).addresses.length = d.addresses.length := List.length_map _
  have htlvs : (d.message type).tlvOctets = d.tlvBytes := rfl
  rw [Message.blockOctets, haddresses, hempty, hlength, htlvs]
  rfl

/-- The frame of a draft is the bytes of its message. -/
lemma frame_eq_octets : d.frame type = (d.message type).octets := by
  have hbody : (d.message type).bodyOctets = d.body := by
    rw [Message.bodyOctets, fieldOctets_message, blockOctets_message]
    rfl
  rw [Message.octets, hbody]
  rfl

end Draft

/-! ## Journals -/

namespace MessageWriter

variable {ε τ : Type}

/-- The bytes of a message that was made. -/
def Made.octets (m : Made) : List UInt8 := m.message.octets

/-- The target that also writes down with which packets it is called. -/
def PacketTarget.logged (target : PacketTarget ε τ) : PacketTarget ε (τ × List (List UInt8)) :=
  fun packet t =>
    { answer := (target packet t.1).answer
      state := ((target packet t.1).state, t.2 ++ [packet])
      events := (target packet t.1).events }

/-- The packets with which a flush calls its target. -/
def handed (w : MessageWriter) (target : PacketTarget ε τ) (t : τ) : List (List UInt8) :=
  (w.flush target.logged (t, [])).state.2.2

/-- What came of an operation. -/
inductive Entry where
  | registered
  | made (m : Made)
  | notMade (e : WireError)
  /-- The target was called with these packets, one after another. -/
  | flushed (packets : List (List UInt8))
  | discarded

namespace Entry

/-- The messages that wait after an operation, if these waited before it. -/
def leave (waiting : List Made) : Entry → List Made
  | registered | notMade _ => waiting
  | made m => waiting ++ [m]
  | flushed _ | discarded => []

/-- The message that was made, if one was. -/
def made? : Entry → Option Made
  | made m => some m
  | _ => none

/-- The packets with which a target was called. -/
def packets : Entry → List (List UInt8)
  | flushed packets => packets
  | _ => []

end Entry

/-- The messages that wait after a journal: those made since the last flush or discard. -/
def waiting (journal : List Entry) : List Made := journal.foldl Entry.leave []

/-- The messages that wait at each flush of a journal, if these wait before it. -/
def deliveries : List Made → List Entry → List (List Made)
  | _, [] => []
  | before, .flushed _ :: journal => before :: deliveries [] journal
  | before, e :: journal => deliveries (e.leave before) journal

/-- The packets that carry some messages: one packet, or none where there is no message. -/
def packetsOf (messages : List Made) : List (List UInt8) :=
  if messages.isEmpty then [] else [0 :: messages.flatMap Made.octets]

end MessageWriter

namespace ReusingWriter

open MessageWriter

/-- What comes of an operation. -/
def entry (w : ReusingWriter) : Op → Entry
  | .registerMessage _ _ | .registerProvider _ _ => .registered
  | .create p context =>
    match (w.create p context).1.result with
    | .ok () =>
      .made { type := p.type, width := (w.width? p.type).getD 0,
              table := (w.table? p.type).getD [], calls := (w.create p context).1.calls }
    | .error e => .notMade e
  | .flush target t => .flushed (w.handed target t)
  | .discard => .discarded

/-- What comes of the operations of a history. -/
def journal : ReusingWriter → List Op → List Entry
  | _, [] => []
  | w, op :: history => w.entry op :: (w.step op).journal history

end ReusingWriter

namespace MessageWriter

/-! ## The packet carries the messages that wait -/

variable {w : MessageWriter} {l : Loaded}

/-- The packet of the writer is that of the messages that wait, and it is no larger than its
buffer. -/
structure Carries (l : Loaded) : Prop where
  bytes : l.writer.packet.bytes = packetOf (l.made.map Made.octets)
  room : l.writer.packet.length ≤ l.writer.packet.capacity

/-- A message is appended only where there is room for it. -/
lemma room_of_appendMessage {packet packet' : Buffer} {octets : List UInt8}
    (hroom : packet.length ≤ packet.capacity) (h : appendMessage packet octets = .ok packet') :
    packet'.length ≤ packet'.capacity := by
  rcases Nat.lt_or_ge packet.remaining (octets.length + (lead packet).length) with hlt | hle
  · rw [appendMessage_of_lt hlt] at h
    exact absurd h (by simp)
  · obtain rfl := extend_of_appendMessage h
    rw [Buffer.remaining] at hle
    rw [Buffer.length_extend, Buffer.capacity_extend, List.length_append]
    omega

lemma room_of_appendDraft {type : MsgType} {d : Draft} {packet message : Buffer}
    (hroom : w.packet.length ≤ w.packet.capacity)
    (h : w.appendDraft type d = .ok (packet, message)) : packet.length ≤ packet.capacity := by
  rw [appendDraft_eq] at h
  cases hencode : d.encode type { kind := .message, capacity := w.config.msgSize } with
  | error e =>
    rw [hencode, error_bind] at h
    exact absurd h (by simp)
  | ok message' =>
    rw [hencode, ok_bind] at h
    cases happend : appendMessage w.packet message'.bytes with
    | error e =>
      rw [happend, error_bind] at h
      exact absurd h (by simp)
    | ok packet' =>
      rw [happend, ok_bind] at h
      obtain rfl : packet' = packet := congrArg Prod.fst (Except.ok.inj h)
      exact room_of_appendMessage hroom happend

lemma room_of_create {σ : Type} (hroom : w.packet.length ≤ w.packet.capacity)
    (p : ContentProvider σ) (context : σ) :
    (w.create p context).writer.packet.length ≤ (w.create p context).writer.packet.capacity := by
  cases hwidth : w.width? p.type with
  | none =>
    rw [create_unregistered hwidth]
    exact hroom
  | some width =>
    rcases hcompose : compose p (w.opening p context width) with ⟨e | _, callbacks, s⟩
    · rw [create_rejected hwidth hcompose]
      exact hroom
    · cases happend : w.appendDraft p.type s.draft with
      | error e =>
        rw [create_refused hwidth hcompose happend]
        exact hroom
      | ok packed =>
        rw [create_finished hwidth hcompose happend]
        exact room_of_appendDraft hroom happend

/-- The bytes of a message that was built are those that its provider asked for. -/
lemma Built.frame_eq {σ : Type} {p : ContentProvider σ} {created : Created σ} {width : ℕ}
    {d : Draft} (h : Built w p created width d) :
    d.frame p.type =
      Made.octets ⟨p.type, width, (w.table? p.type).getD [], created.calls⟩ := by
  rw [Draft.frame_eq_octets, Made.octets]
  exact congrArg Message.octets (message_of_reflects (m := ⟨p.type, width, _, _⟩) h.reflects)

lemma Carries.create {σ : Type} (h : Carries l) (p : ContentProvider σ) (context : σ) :
    Carries (l.step (.create p context)) := by
  rcases create_cases l.writer p context with ⟨e, hresult, -⟩ | ⟨width, d, hbuilt⟩
  · rw [step_of_error hresult]
    exact h
  · have hroom := room_of_create h.room p context
    refine ⟨?_, hroom⟩
    simp only [Loaded.step, Loaded.madeAfter, hbuilt.result, hbuilt.registered, Option.getD_some,
      List.map_append, List.map_cons, List.map_nil, ← hbuilt.frame_eq]
    rw [hbuilt.writer]
    refine packetOf_snoc _ _ _ ?_ h.bytes
    intro octets hoctets
    obtain ⟨m, -, rfl⟩ := List.mem_map.1 hoctets
    exact m.message.octets_ne_nil

lemma Carries.empty (hempty : w.packet.bytes = []) : Carries { writer := w } := by
  refine ⟨hempty, ?_⟩
  rw [Buffer.length, hempty]
  exact Nat.zero_le _

/-- Every operation keeps the packet to the messages that wait. -/
lemma Carries.step (h : Carries l) (op : Op) : Carries (l.step op) := by
  cases op with
  | registerMessage type width =>
    refine ⟨?_, ?_⟩
    · simpa only [Loaded.step, packet_registerMessage] using h.bytes
    · simpa only [Loaded.step, packet_registerMessage] using h.room
  | registerProvider type table =>
    refine ⟨?_, ?_⟩
    · simpa only [Loaded.step, packet_registerProvider] using h.bytes
    · simpa only [Loaded.step, packet_registerProvider] using h.room
  | create p context => exact h.create p context
  | flush target t =>
    simp only [Loaded.step, flush]
    -- the packet is empty afterwards, whether it was handed over or there was none
    split
    · next hempty => exact .empty (List.isEmpty_iff.1 hempty)
    · exact .empty rfl
  | discard => exact .empty rfl

/-! ## What a flush hands over -/

variable {ε τ : Type}

/-- A flush calls its target once with the packet, unless the packet is empty. -/
lemma handed_eq (w : MessageWriter) (target : PacketTarget ε τ) (t : τ) :
    w.handed target t = if w.packet.isEmpty then [] else [w.packet.bytes] := by
  unfold handed flush
  split <;> rfl

lemma packet_flush (w : MessageWriter) (target : PacketTarget ε τ) (t : τ) :
    (w.flush target t).state.1.packet.bytes = [] := by
  unfold flush
  split
  · next hempty => exact List.isEmpty_iff.1 hempty
  · rfl

lemma Carries.isEmpty_iff (h : Carries l) : l.writer.packet.isEmpty = true ↔ l.made = [] := by
  rw [Buffer.isEmpty, h.bytes, List.isEmpty_iff]
  cases l.made with
  | nil => simp [packetOf]
  | cons m made => simp [packetOf]

lemma Carries.bytes_of_ne_nil (h : Carries l) (hne : l.made ≠ []) :
    l.writer.packet.bytes = 0 :: l.made.flatMap Made.octets := by
  have hheader : packetHeader = 0 := by decide
  rw [h.bytes, List.flatMap_def]
  cases hmade : l.made with
  | nil => exact absurd hmade hne
  | cons m made =>
    rw [List.map_cons, packetOf, hheader]
    simp

lemma Carries.handed (h : Carries l) (target : PacketTarget ε τ) (t : τ) :
    l.writer.handed target t = packetsOf l.made := by
  rw [handed_eq, packetsOf]
  cases hmade : l.made with
  | nil =>
    rw [if_pos (h.isEmpty_iff.2 hmade)]
    rfl
  | cons m made =>
    have hne : l.made ≠ [] := by
      rw [hmade]
      exact List.cons_ne_nil m made
    have hfull : ¬ l.writer.packet.isEmpty = true := fun hempty => hne (h.isEmpty_iff.1 hempty)
    rw [if_neg hfull, h.bytes_of_ne_nil hne, hmade]
    rfl

/-- As many bytes wait as the messages have, and the packet header. -/
lemma Carries.pending_eq (h : Carries l) :
    l.writer.pending =
      if l.made = [] then 0 else 1 + (l.made.map fun m => m.octets.length).sum := by
  rw [pending, Buffer.length]
  split
  · next hnone =>
    rw [h.bytes, hnone]
    rfl
  · next hne =>
    rw [h.bytes_of_ne_nil hne, List.length_cons, List.length_flatMap, Nat.add_comm]

end MessageWriter

namespace ReusingWriter

open MessageWriter

/-! ## Whole histories -/

variable {config : WriterConfig} {w : ReusingWriter} {l : Loaded}

/-- The journal tells which messages wait after an operation. -/
lemma Mirrors.made_step (h : Mirrors config w l) (op : Op) :
    (l.step op).made = (w.entry op).leave l.made := by
  cases op with
  | registerMessage type width => rfl
  | registerProvider type table => rfl
  | create p context =>
    simp only [Loaded.step, Loaded.madeAfter, entry, h.create, h.writer]
    cases (l.writer.create p context).result <;> rfl
  | flush target t => rfl
  | discard => rfl

/-- A target is called with the packet of the messages that wait. -/
lemma Mirrors.flushed_eq (h : Mirrors config w l) (hcarries : Carries l) {op : Op}
    {packets : List (List UInt8)} (hentry : w.entry op = .flushed packets) :
    packets = packetsOf l.made := by
  cases op with
  | registerMessage type width => simp [entry] at hentry
  | registerProvider type table => simp [entry] at hentry
  | create p context =>
    simp only [entry] at hentry
    split at hentry <;> simp at hentry
  | flush target t =>
    simp only [entry, Entry.flushed.injEq] at hentry
    rw [← hentry, h.writer, hcarries.handed]
  | discard => simp [entry] at hentry

/-- The journal tells which messages wait after a history. -/
lemma Mirrors.made_after (h : Mirrors config w l) (history : List Op) :
    (history.foldl Loaded.step l).made = (w.journal history).foldl Entry.leave l.made := by
  induction history generalizing w l with
  | nil => rfl
  | cons op history ih =>
    rw [journal, List.foldl_cons, List.foldl_cons, ih (h.step op), h.made_step op]

/-- The journal tells which packets a history hands over. -/
lemma Mirrors.packets_journal (h : Mirrors config w l) (hcarries : Carries l)
    (history : List Op) :
    (w.journal history).flatMap Entry.packets =
      (deliveries l.made (w.journal history)).flatMap packetsOf := by
  induction history generalizing w l with
  | nil => rfl
  | cons op history ih =>
    have hrest := ih (h.step op) (hcarries.step op)
    have hflushed : ∀ packets, w.entry op = .flushed packets → packets = packetsOf l.made :=
      fun packets => h.flushed_eq hcarries
    rw [h.made_step op] at hrest
    rw [journal, List.flatMap_cons, hrest]
    -- a flush closes a delivery, and any other entry goes on with what waits
    cases hentry : w.entry op with
    | flushed packets =>
      rw [Entry.packets, hflushed packets hentry]
      rfl
    | registered => rfl
    | made m => rfl
    | notMade e => rfl
    | discarded => rfl

end ReusingWriter

namespace MessageWriter

/-- What is handed over, and then what waits, is some of what was made, in its order. -/
lemma sublist_made (before : List Made) (journal : List Entry) :
    ((deliveries before journal).flatten ++ journal.foldl Entry.leave before).Sublist
      (before ++ journal.filterMap Entry.made?) := by
  induction journal generalizing before with
  | nil => simp [deliveries]
  | cons e journal ih =>
    cases e with
    | made m =>
      have hrest := ih (before ++ [m])
      simpa [deliveries, Entry.leave, Entry.made?] using hrest
    | flushed packets =>
      have hrest := ih []
      simpa [deliveries, Entry.leave, List.filterMap_cons, Entry.made?] using hrest
    | discarded =>
      have hrest := ih []
      simp only [deliveries, Entry.leave, Entry.made?, List.foldl_cons, List.filterMap_cons,
        List.nil_append] at hrest ⊢
      exact hrest.trans (List.sublist_append_right _ _)
    | registered => exact ih before
    | notMade e => exact ih before

/-- Nothing is missing where nothing was discarded. -/
lemma eq_made_of_not_discarded (before : List Made) {journal : List Entry}
    (hkept : .discarded ∉ journal) :
    (deliveries before journal).flatten ++ journal.foldl Entry.leave before =
      before ++ journal.filterMap Entry.made? := by
  induction journal generalizing before with
  | nil => simp [deliveries]
  | cons e journal ih =>
    rw [List.mem_cons, not_or] at hkept
    cases e with
    | made m =>
      have hrest := ih (before ++ [m]) hkept.2
      simpa [deliveries, Entry.leave, Entry.made?] using hrest
    | flushed packets =>
      have hrest := ih [] hkept.2
      simpa [deliveries, Entry.leave, List.filterMap_cons, Entry.made?] using hrest
    | discarded => exact absurd rfl hkept.1
    | registered => exact ih before hkept.2
    | notMade e => exact ih before hkept.2

end MessageWriter

namespace ReusingWriter

open MessageWriter

/-- After every history the packet carries the messages that wait. -/
lemma carries_after (config : WriterConfig) (history : List Op) :
    Carries (.after config history) :=
  Loaded.after_invariant (.empty rfl) (fun _ op hl => hl.step op) history

/-- **Nothing is lost, doubled or reordered between making and handing over.**  For every history of
registrations, messages of arbitrary providers, flushes to arbitrary targets and discards:

* a flush calls its target once if a message was made since the last flush or discard, and else not
  at all, with the byte 0 and the bytes of exactly these messages in the order in which they were
  made; it answers with the number of bytes or what the target says, and zero without a call; and
  the packet is empty afterwards, whatever the target says;
* so the packets of the whole history carry the messages that waited at each of its flushes, what
  is handed over and then what still waits is some of what was made, in its order, and all of it
  where nothing was discarded;
* a message that could not be made leaves the packet as it was;
* as many bytes wait as the waiting messages have, and one before them, and never more than the
  packet buffer holds. -/
theorem nothing_lost (config : WriterConfig) (history : List Op) :
    let w := after config history
    let journal := (new config).journal history
    (∀ {ε τ : Type} (target : PacketTarget ε τ) (t : τ),
      w.handed target t = packetsOf (waiting journal) ∧
        (w.flush target t).state.1.packet.bytes = [] ∧
        (waiting journal = [] →
          (w.flush target t).answer = .ok 0 ∧ (w.flush target t).state.2 = t) ∧
        (waiting journal ≠ [] →
          (w.flush target t).answer = (target w.packet.bytes t).answer.map fun _ => w.pending)) ∧
    journal.flatMap Entry.packets = (deliveries [] journal).flatMap packetsOf ∧
    ((deliveries [] journal).flatten ++ waiting journal).Sublist
      (journal.filterMap Entry.made?) ∧
    (.discarded ∉ journal →
      (deliveries [] journal).flatten ++ waiting journal = journal.filterMap Entry.made?) ∧
    (∀ {σ : Type} (p : ContentProvider σ) (context : σ) (e : WireError),
      (w.create p context).1.result = .error e →
        (w.create p context).1.writer.packet = w.packet) ∧
    w.pending = (if waiting journal = [] then 0
      else 1 + ((waiting journal).map fun m => m.octets.length).sum) ∧
    w.pending ≤ config.packetSize := by
  intro w journal
  have hnew : Mirrors config (new config) { writer := .new config } := ⟨rfl, rfl, rfl, rfl⟩
  have hmirrors := mirrors_after config history
  have hcarries := carries_after config history
  have hmade : (Loaded.after config history).made = waiting journal := hnew.made_after history
  have hwriter : w.toMessageWriter = (Loaded.after config history).writer := hmirrors.writer
  rw [← hmade, hwriter]
  refine ⟨fun target t => ⟨hcarries.handed target t, packet_flush _ target t, ?_, ?_⟩, ?_, ?_, ?_,
    ?_, hcarries.pending_eq, ?_⟩
  · intro hnone
    rw [flush, if_pos (hcarries.isEmpty_iff.2 hnone)]
    exact ⟨rfl, rfl⟩
  · intro hsome
    rw [flush, if_neg fun hempty => hsome (hcarries.isEmpty_iff.1 hempty)]
  · exact hnew.packets_journal (.empty rfl) history
  · rw [hmade]
    exact sublist_made [] journal
  · intro hkept
    rw [hmade]
    exact eq_made_of_not_discarded [] hkept
  · intro σ p context e he
    rw [hmirrors.create] at he ⊢
    rw [writer_of_error he]
  · have hcapacity : (Loaded.after config history).writer.packet.capacity = config.packetSize :=
      congrArg Buffer.capacity hmirrors.packet
    rw [← hcapacity]
    exact hcarries.room

end ReusingWriter

end RouteDiscovery.Wire
