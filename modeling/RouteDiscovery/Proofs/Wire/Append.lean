/-
# Messages in packets

What `MessageWriter.create` does to the packet.  A message goes behind those that wait there, the
first one behind the packet header; a message that does not fit is refused for too little room.

* `MessageWriter.appendMessage_of_fits`, `MessageWriter.appendMessage_exceeded`: the two outcomes;
* `MessageWriter.create_cases`: a message that could not be built leaves the writer; a message that
  was built is the frame of the draft that its provider left, and this draft keeps what the calls
  said.
-/
import RouteDiscovery.Proofs.Wire.Calls

namespace RouteDiscovery.Wire.MessageWriter

variable {packet packet' : Buffer} {octets : List UInt8}

/-! ## Appending -/

/-- What goes before a message: the packet header before the first. -/
def lead (packet : Buffer) : List UInt8 := if packet.isEmpty then [packetHeader] else []

lemma length_lead : (lead packet).length = if packet.isEmpty then 1 else 0 := by
  unfold lead
  cases packet.isEmpty <;> rfl

lemma appendMessage_eq (packet : Buffer) (octets : List UInt8) :
    appendMessage packet octets =
      packet.ensure (octets.length + (lead packet).length) >>= fun _ =>
        packet.put (lead packet) >>= fun packet => packet.put octets := by
  unfold appendMessage lead
  cases packet.isEmpty with
  | true => rfl
  | false =>
    -- behind other messages nothing is put before the message
    have hnothing : packet.put [] = .ok packet := by
      rw [Buffer.put_of_le (Nat.zero_le _), List.append_nil]
    simp only [Bool.false_eq_true, if_false, hnothing]
    rfl

lemma appendMessage_of_fits (h : octets.length + (lead packet).length ≤ packet.remaining) :
    appendMessage packet octets = .ok (packet.extend (lead packet ++ octets)) := by
  have hensure : packet.ensure (octets.length + (lead packet).length) = .ok () := if_pos h
  have hroom : octets.length ≤ (packet.extend (lead packet)).remaining := by
    unfold Buffer.remaining at h ⊢
    rw [Buffer.length_extend, Buffer.capacity_extend]
    omega
  rw [appendMessage_eq, hensure, ok_bind, Buffer.put_of_le (by omega), ok_bind]
  refine (Buffer.put_of_le hroom).trans ?_
  exact congrArg Except.ok (Buffer.extend_extend (lead packet) octets)

/-- A message that does not fit is refused with the room that it and its lead need. -/
lemma appendMessage_of_lt (h : packet.remaining < octets.length + (lead packet).length) :
    appendMessage packet octets =
      .error (.capacity packet.kind (octets.length + (lead packet).length) packet.remaining) := by
  have hensure : packet.ensure (octets.length + (lead packet).length) =
      .error (.capacity packet.kind _ packet.remaining) := if_neg (Nat.not_le.2 h)
  rw [appendMessage_eq, hensure]
  rfl

lemma appendMessage_exceeded (h : packet.remaining < octets.length + (lead packet).length) :
    Exceeded packet.kind (appendMessage packet octets) := ⟨_, _, h, appendMessage_of_lt h⟩

/-- A message that was appended stands behind those that were there. -/
lemma extend_of_appendMessage (h : appendMessage packet octets = .ok packet') :
    packet' = packet.extend (lead packet ++ octets) := by
  by_cases hroom : octets.length + (lead packet).length ≤ packet.remaining
  · rw [appendMessage_of_fits hroom] at h
    exact (Except.ok.inj h).symm
  · rw [appendMessage_of_lt (Nat.lt_of_not_le hroom)] at h
    exact absurd h (by simp)

/-! ## Building a message -/

variable {σ : Type} {w : MessageWriter} {p : ContentProvider σ} {context : σ} {width : ℕ}
  {callbacks : List Callback} {s : Session σ}

/-- The session in which a provider starts. -/
def opening (w : MessageWriter) (p : ContentProvider σ) (context : σ) (width : ℕ) : Session σ where
  draft := .start width ((w.table? p.type).getD []) w.config.addrTlvSize
  context := context

/-- The draft that a provider leaves can be written down and keeps what the calls said. -/
lemma reflects_of_compose {r : Except WireError Unit}
    (h : compose p (w.opening p context width) = (r, callbacks, s)) :
    s.draft.Sound ∧ s.draft.Reflects width ((w.table? p.type).getD []) s.calls := by
  have hreflects := compose_reflects p context width ((w.table? p.type).getD [])
    w.config.addrTlvSize
  unfold opening at h
  simpa only [h] using hreflects

lemma create_unregistered (hwidth : w.width? p.type = none) : w.create p context =
    { result := .error (.unregistered p.type.code), writer := w, context } := by
  unfold create
  rw [hwidth]

/-- The provider's callbacks fail. -/
lemma create_rejected {e : WireError} (hwidth : w.width? p.type = some width)
    (hcompose : compose p (w.opening p context width) = (.error e, callbacks, s)) :
    w.create p context = w.aborted p callbacks s e := by
  unfold create
  rw [hwidth]
  unfold opening at hcompose
  simp only [hcompose]

/-- The message does not fit. -/
lemma create_refused {e : WireError} (hwidth : w.width? p.type = some width)
    (hcompose : compose p (w.opening p context width) = (.ok (), callbacks, s))
    (happend : w.appendDraft p.type s.draft = .error e) :
    w.create p context = w.aborted p callbacks s e := by
  unfold create
  rw [hwidth]
  unfold opening at hcompose
  simp only [hcompose, happend]

/-- The message is in the packet. -/
lemma create_finished {message : Buffer} (hwidth : w.width? p.type = some width)
    (hcompose : compose p (w.opening p context width) = (.ok (), callbacks, s))
    (happend : w.appendDraft p.type s.draft = .ok (packet, message)) :
    w.create p context = w.finished p callbacks s packet message := by
  unfold create
  rw [hwidth]
  unfold opening at hcompose
  simp only [hcompose, happend]

lemma appendDraft_eq (w : MessageWriter) (type : MsgType) (d : Draft) :
    w.appendDraft type d =
      d.encode type { kind := .message, capacity := w.config.msgSize } >>= fun message =>
        appendMessage w.packet message.bytes >>= fun packet => .ok (packet, message) := rfl

/-- A draft that is put into the packet stands there as its frame. -/
lemma frame_of_appendDraft {type : MsgType} {d : Draft} {message : Buffer} (hs : d.Short)
    (h : w.appendDraft type d = .ok (packet, message)) :
    d.header.Complete d.width ∧ d.frameSize ≤ maxWord ∧
      packet = w.packet.extend (lead w.packet ++ d.frame type) := by
  rw [appendDraft_eq] at h
  cases hencode : d.encode type { kind := .message, capacity := w.config.msgSize } with
  | error e =>
    rw [hencode, error_bind] at h
    exact absurd h (by simp)
  | ok message' =>
    obtain ⟨rfl, hsize⟩ := Draft.frame_of_encode hs rfl rfl hencode
    rw [hencode, ok_bind] at h
    cases happend : appendMessage w.packet (d.frame type) with
    | error e =>
      exact absurd h (by simp [Buffer.extend, happend, error_bind])
    | ok packet' =>
      have hpacket : packet' = packet := by
        simp only [Buffer.extend, List.nil_append, happend, ok_bind, Except.ok.injEq,
          Prod.mk.injEq] at h
        exact h.1
      exact ⟨Draft.complete_of_encode hencode, hsize,
        hpacket ▸ extend_of_appendMessage happend⟩

/-- The message of a provider is in the packet: its type has a width, and the frame of the draft that
the provider left stands behind what was there. -/
structure Built (w : MessageWriter) (p : ContentProvider σ) (created : Created σ) (width : ℕ)
    (d : Draft) : Prop where
  result : created.result = .ok ()
  registered : w.width? p.type = some width
  sound : d.Sound
  reflects : d.Reflects width ((w.table? p.type).getD []) created.calls
  complete : d.header.Complete d.width
  size : d.frameSize ≤ maxWord
  writer : created.writer = { w with packet := w.packet.extend (lead w.packet ++ d.frame p.type) }

/-- The outcomes of building a message: an error, which leaves the writer, or the message. -/
lemma create_cases (w : MessageWriter) (p : ContentProvider σ) (context : σ) :
    (∃ e, (w.create p context).result = .error e ∧ (w.create p context).writer = w) ∨
      ∃ width d, Built w p (w.create p context) width d := by
  cases hwidth : w.width? p.type with
  | none =>
    rw [create_unregistered hwidth]
    exact .inl ⟨_, rfl, rfl⟩
  | some width =>
    rcases hcompose : compose p (w.opening p context width) with ⟨_ | _, callbacks, s⟩
    · rw [create_rejected hwidth hcompose]
      exact .inl ⟨_, rfl, rfl⟩
    · cases happend : w.appendDraft p.type s.draft with
      | error e =>
        rw [create_refused hwidth hcompose happend]
        exact .inl ⟨e, rfl, rfl⟩
      | ok packed =>
        obtain ⟨packet, message⟩ := packed
        obtain ⟨hs, hr⟩ := reflects_of_compose hcompose
        obtain ⟨hcomplete, hsize, rfl⟩ := frame_of_appendDraft hs.values_short happend
        rw [create_finished hwidth hcompose happend]
        exact .inr ⟨width, s.draft, rfl, hwidth, hs, hr, hcomplete, hsize, rfl⟩

/-- A message that was begun is aborted or finished, after its other callbacks. -/
lemma create_ends (hwidth : w.width? p.type = some width) {r : Except WireError Unit}
    (hcompose : compose p (w.opening p context width) = (r, callbacks, s)) :
    (∃ e, w.create p context = w.aborted p callbacks s e) ∨
      ∃ packet message, w.create p context = w.finished p callbacks s packet message := by
  cases r with
  | error e => exact .inl ⟨e, create_rejected hwidth hcompose⟩
  | ok done =>
    cases happend : w.appendDraft p.type s.draft with
    | error e => exact .inl ⟨e, create_refused hwidth hcompose happend⟩
    | ok packed => exact .inr ⟨packed.1, packed.2, create_finished hwidth hcompose happend⟩

/-- A message that could not be made is of an unknown type, or it failed in its callbacks, or after
them. -/
lemma error_cases {e : WireError} (h : (w.create p context).result = .error e) :
    (w.width? p.type = none ∧ e = .unregistered p.type.code) ∨
      ∃ width, w.width? p.type = some width ∧
        ((compose p (w.opening p context width)).1 = .error e ∨
          w.appendDraft p.type (compose p (w.opening p context width)).2.2.draft = .error e) := by
  cases hwidth : w.width? p.type with
  | none =>
    rw [create_unregistered hwidth] at h
    exact .inl ⟨rfl, (Except.error.inj h).symm⟩
  | some width =>
    refine .inr ⟨width, rfl, ?_⟩
    rcases hcompose : compose p (w.opening p context width) with ⟨e' | done, callbacks, s⟩
    · rw [create_rejected hwidth hcompose] at h
      exact .inl (congrArg Except.error (Except.error.inj h))
    · refine .inr ?_
      cases happend : w.appendDraft p.type s.draft with
      | error e' =>
        rw [create_refused hwidth hcompose happend] at h
        exact congrArg Except.error (Except.error.inj h)
      | ok packed =>
        rw [create_finished hwidth hcompose happend] at h
        exact absurd h (by simp [finished])

/-- Whatever becomes of the message, the calls are those of its callbacks. -/
lemma calls_create (hwidth : w.width? p.type = some width) {r : Except WireError Unit}
    (hcompose : compose p (w.opening p context width) = (r, callbacks, s)) :
    (w.create p context).calls = s.calls := by
  rcases create_ends hwidth hcompose with ⟨e, hcreate⟩ | ⟨packet, message, hcreate⟩
  · rw [hcreate, aborted]
  · rw [hcreate, finished]

/-- A message that could not be built leaves the writer. -/
lemma writer_of_error {e : WireError} (h : (w.create p context).result = .error e) :
    (w.create p context).writer = w := by
  rcases create_cases w p context with ⟨-, -, hwriter⟩ | ⟨width, d, hbuilt⟩
  · exact hwriter
  · exact absurd (hbuilt.result.symm.trans h) (by simp)

end RouteDiscovery.Wire.MessageWriter
