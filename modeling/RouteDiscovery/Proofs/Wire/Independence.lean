/-
# Messages do not depend on earlier ones

Two writers of the same capacities may have gone through quite different histories.  If both know
the same of a message type and as many bytes wait in their packets, nobody can tell them apart when
a provider makes a message of this type.

The memory in which messages are made carries nothing over (`ReusingWriter.mirrors_after`).  What is
left of a history is the registry and the packet.  The message itself does not look at the packet,
and appending looks at the room in the packet only (`MessageWriter.appendMessage_congr`).  So
writers that are level (`MessageWriter.Level`) make a message alike, and
`ReusingWriter.create_independent` follows.
-/
import RouteDiscovery.Proofs.Wire.Reuse

namespace RouteDiscovery.Wire

/-! ## Level writers -/

namespace MessageWriter

variable {σ : Type} {w w' : MessageWriter} {packet packet' : Buffer}

/-- Whether a message is the first is told by the length of the packet. -/
lemma lead_congr (hlength : packet.length = packet'.length) : lead packet = lead packet' := by
  have hempty : packet.isEmpty = packet'.isEmpty := by
    rw [Buffer.isEmpty, Buffer.isEmpty, Bool.eq_iff_iff, List.isEmpty_iff_length_eq_zero,
      List.isEmpty_iff_length_eq_zero]
    exact Eq.congr_left hlength
  rw [lead, lead, hempty]

/-- Packets of one capacity and one length take a message alike. -/
lemma appendMessage_congr (hclear : packet.clear = packet'.clear)
    (hlength : packet.length = packet'.length) (octets : List UInt8) :
    (∃ e, appendMessage packet octets = .error e ∧ appendMessage packet' octets = .error e) ∨
      ∃ added, appendMessage packet octets = .ok (packet.extend added) ∧
        appendMessage packet' octets = .ok (packet'.extend added) := by
  obtain ⟨hkind, hcapacity, -⟩ := Buffer.mk.inj hclear
  have hremaining : packet.remaining = packet'.remaining := by
    unfold Buffer.remaining
    rw [hcapacity, hlength]
  have hlead := lead_congr hlength
  rcases Nat.lt_or_ge packet.remaining (octets.length + (lead packet).length) with hlt | hle
  · refine .inl ⟨_, appendMessage_of_lt hlt, ?_⟩
    rw [hlead, hremaining] at hlt
    rw [hkind, hremaining, hlead]
    exact appendMessage_of_lt hlt
  · refine .inr ⟨lead packet ++ octets, appendMessage_of_fits hle, ?_⟩
    rw [hlead, hremaining] at hle
    rw [hlead]
    exact appendMessage_of_fits hle

/-- Writers of the same capacities with as many bytes in their packets. -/
structure Level (w w' : MessageWriter) : Prop where
  config : w.config = w'.config
  packet : w.packet.clear = w'.packet.clear
  pending : w.pending = w'.pending

lemma Level.appendDraft (h : Level w w') (type : MsgType) (d : Draft) :
    (∃ e, w.appendDraft type d = .error e ∧ w'.appendDraft type d = .error e) ∨
      ∃ message added, w.appendDraft type d = .ok (w.packet.extend added, message) ∧
        w'.appendDraft type d = .ok (w'.packet.extend added, message) := by
  rw [appendDraft_eq, appendDraft_eq, ← h.config]
  cases d.encode type { kind := .message, capacity := w.config.msgSize } with
  | error e => exact .inl ⟨e, rfl, rfl⟩
  | ok message =>
    rw [ok_bind, ok_bind]
    rcases appendMessage_congr h.packet h.pending message.bytes with
      ⟨e, he, he'⟩ | ⟨added, hadded, hadded'⟩
    · rw [he, he']
      exact .inl ⟨e, rfl, rfl⟩
    · rw [hadded, hadded']
      exact .inr ⟨message, added, rfl, rfl⟩

/-- Two makings of a message show the same: to the caller, to the provider and in the log. -/
structure Created.Alike (c c' : Created σ) : Prop where
  result : c.result = c'.result
  callbacks : c.callbacks = c'.callbacks
  calls : c.calls = c'.calls
  context : c.context = c'.context
  events : c.events = c'.events

lemma Level.create (h : Level w w') {p : ContentProvider σ} (context : σ)
    (hwidth : w.width? p.type = w'.width? p.type) (htable : w.table? p.type = w'.table? p.type) :
    (w.create p context).Alike (w'.create p context) ∧
      ∃ added, (w.create p context).writer.packet = w.packet.extend added ∧
        (w'.create p context).writer.packet = w'.packet.extend added := by
  -- where nothing is appended the packets are as they were
  have hnothing : ∃ added, w.packet = w.packet.extend added ∧ w'.packet = w'.packet.extend added :=
    ⟨[], Buffer.extend_nil.symm, Buffer.extend_nil.symm⟩
  cases hw : w.width? p.type with
  | none =>
    rw [create_unregistered hw, create_unregistered (hwidth ▸ hw)]
    exact ⟨⟨rfl, rfl, rfl, rfl, rfl⟩, hnothing⟩
  | some width =>
    have hw' : w'.width? p.type = some width := hwidth ▸ hw
    have hopening : w'.opening p context width = w.opening p context width := by
      unfold opening
      rw [htable, h.config]
    rcases hcompose : compose p (w.opening p context width) with ⟨e | _, callbacks, s⟩ <;>
      have hcompose' := hopening ▸ hcompose
    · rw [create_rejected hw hcompose, create_rejected hw' hcompose']
      exact ⟨⟨rfl, rfl, rfl, rfl, rfl⟩, hnothing⟩
    · rcases h.appendDraft p.type s.draft with ⟨e, he, he'⟩ | ⟨message, added, hadded, hadded'⟩
      · rw [create_refused hw hcompose he, create_refused hw' hcompose' he']
        exact ⟨⟨rfl, rfl, rfl, rfl, rfl⟩, hnothing⟩
      · rw [create_finished hw hcompose hadded, create_finished hw' hcompose' hadded']
        exact ⟨⟨rfl, rfl, rfl, rfl, rfl⟩, added, rfl, rfl⟩

end MessageWriter

/-! ## Two histories -/

namespace ReusingWriter

open MessageWriter

variable {σ : Type}

/-- **A message does not depend on the messages before it.**  Two writers of the same capacities
have each a history of their own: registrations, messages that were made or stopped anywhere,
packets that were flushed or discarded.  If they know the same of a message type and as many bytes
wait in their packets, they let a provider make a message of this type alike: with the same
callbacks, the same answers to its calls and the same result; and both packets get the same bytes.
When the message cannot be made, each packet is left as it was. -/
theorem create_independent (config : WriterConfig) (history history' : List Op)
    (p : ContentProvider σ) (context : σ)
    (hwidth : (after config history).width? p.type = (after config history').width? p.type)
    (htable : (after config history).table? p.type = (after config history').table? p.type)
    (hpending : (after config history).pending = (after config history').pending) :
    let w := after config history
    let w' := after config history'
    let c := (w.create p context).1
    let c' := (w'.create p context).1
    c.Alike c' ∧
      (∃ added, c.writer.packet = w.packet.extend added ∧
        c'.writer.packet = w'.packet.extend added) ∧
      ∀ e, c.result = .error e → c.writer.packet = w.packet ∧ c'.writer.packet = w'.packet := by
  have h := mirrors_after config history
  have h' := mirrors_after config history'
  rw [h.writer, h'.writer] at hwidth htable hpending
  have hlevel : Level (Loaded.after config history).writer (Loaded.after config history').writer :=
    ⟨h.capacities.trans h'.capacities.symm, h.packet.trans h'.packet.symm, hpending⟩
  obtain ⟨halike, happended⟩ := hlevel.create context hwidth htable
  simp only [h.create, h'.create, h.writer, h'.writer]
  refine ⟨halike, happended, fun e he => ?_⟩
  rw [writer_of_error he, writer_of_error (halike.result ▸ he)]
  exact ⟨rfl, rfl⟩

/-- A provider that forgets the sequence number that its flags announce, so that its message stops
in the header. -/
def forgetfulProvider : ContentProvider Unit where
  type := ⟨10⟩
  addHeader := do
    CallbackScript.tell (.setFlags ⟨0x50⟩)
    CallbackScript.tell (.setHopLimit 9)
  addAddresses := do
    let only ← CallbackScript.addAddress ⟨[10, 3], by decide, by decide⟩ true
    CallbackScript.addTlv only ⟨1, none⟩ [7] false

/-- A history with a message that stopped and a packet that was not taken. -/
def troubledHistory : List Op :=
  [.registerProvider ⟨10⟩ [⟨0, some 3⟩, ⟨1, none⟩], .registerMessage ⟨10⟩ 2,
    .create forgetfulProvider (), .create sampleProvider (),
    .flush (ε := Unit) (fun _ t => { answer := .error (), state := t }) (),
    .create sampleProvider (), .create sampleProvider ()]

theorem create_independent_sample :
    (after {} sampleHistory).pending = 67 ∧ (after {} troubledHistory).pending = 67 ∧
      ((after {} sampleHistory).create sampleProvider ()).1.Alike
        ((after {} troubledHistory).create sampleProvider ()).1 ∧
      ∃ added,
        ((after {} sampleHistory).create sampleProvider ()).1.writer.packet =
          (after {} sampleHistory).packet.extend added ∧
        ((after {} troubledHistory).create sampleProvider ()).1.writer.packet =
          (after {} troubledHistory).packet.extend added := by
  -- the messages that were made are evaluated in fresh memory, and the one that stopped is dropped
  have hstopped : (Loaded.after {} (troubledHistory.take 2)).step (.create forgetfulProvider ()) =
      .after {} (troubledHistory.take 2) := step_of_error (e := .missingField "seq-num") rfl
  have h := (mirrors_after {} sampleHistory).writer
  have h' : (after {} troubledHistory).toMessageWriter =
      ((troubledHistory.drop 3).foldl Loaded.step (.after {} (troubledHistory.take 2))).writer := by
    rw [← hstopped]
    exact (mirrors_after {} troubledHistory).writer
  have hpending : (after {} sampleHistory).pending = 67 := by
    rw [h]
    decide_cbv
  have hpending' : (after {} troubledHistory).pending = 67 := by
    rw [h']
    decide_cbv
  have hwidth : (after {} sampleHistory).width? ⟨10⟩ = (after {} troubledHistory).width? ⟨10⟩ := by
    rw [h, h']
    decide_cbv
  have htable : (after {} sampleHistory).table? ⟨10⟩ = (after {} troubledHistory).table? ⟨10⟩ := by
    rw [h, h']
    decide_cbv
  obtain ⟨halike, happended, -⟩ := create_independent {} sampleHistory troubledHistory
    sampleProvider () hwidth htable (hpending.trans hpending'.symm)
  exact ⟨hpending, hpending', halike, happended⟩

end ReusingWriter

end RouteDiscovery.Wire
