/-
# Which callbacks a provider gets

A provider learns of its message only through its callbacks, so it is the provider that has to say
which of them it got.  `ContentProvider.noting` is the provider whose callbacks first write down that
they were called and with which context, and then do what they did before; the notes stand beside
its context, where the callbacks do not see them (`Script.beside`).

* `MessageWriter.create_noting`: noting shows nowhere but in the notes;
* `ReusingWriter.callsBack`: after any history, a provider of a type without a width gets
  no callback; any other gets its header callback, its address callback if the first succeeded, and
  at last either finish or abort, finish exactly if the message is in the packet.
-/
import RouteDiscovery.Proofs.Wire.Handover

namespace RouteDiscovery.Wire

open MessageWriter

variable {σ ρ α : Type}

/-! ## Contexts with something beside them -/

/-- The session with something beside its context. -/
def Session.beside (s : Session σ) (r : ρ) : Session (σ × ρ) :=
  { draft := s.draft, context := (s.context, r), calls := s.calls, events := s.events }

/-- What was made, with something beside the context. -/
def MessageWriter.Created.beside (c : Created σ) (r : ρ) : Created (σ × ρ) :=
  { result := c.result, writer := c.writer, context := (c.context, r), callbacks := c.callbacks,
    calls := c.calls, events := c.events }

namespace Script

/-- The script on a context that has something beside it. -/
def beside : Script σ α → Script (σ × ρ) α
  | done a => done a
  | call c next => call c fun x => (next x).beside
  | read next => read fun s => (next s.1).beside
  | write context next => read fun s => write (context, s.2) next.beside
  | emit e next => emit e next.beside

/-- A script leaves alone what is beside its context. -/
lemma run_beside (script : Script σ α) (s : Session σ) (r : ρ) :
    script.beside.run (s.beside r) = ((script.run s).1, (script.run s).2.beside r) := by
  induction script generalizing s with
  | done a => rfl
  | call c next ih =>
    exact ih (s.draft.answer c).1
      { s with draft := (s.draft.answer c).2, calls := s.calls ++ [⟨c, (s.draft.answer c).1⟩] }
  | read next ih => exact ih s.context s
  | write context next ih => exact ih { s with context }
  | emit e next ih => exact ih { s with events := e :: s.events }

end Script

/-! ## Providers that take notes -/

/-- The note of a callback. -/
structure CallbackNote (σ : Type) where
  callback : Callback
  /-- The context with which it was called. -/
  context : σ
deriving DecidableEq, Repr

/-- The script of a callback that is written down first. -/
def Script.noted (callback : Callback) (script : Script σ α) :
    Script (σ × List (CallbackNote σ)) α :=
  .read fun s => .write (s.1, s.2 ++ [⟨callback, s.1⟩]) script.beside

lemma Script.run_noted (callback : Callback) (script : Script σ α) (s : Session σ)
    (notes : List (CallbackNote σ)) :
    (script.noted callback).run (s.beside notes) =
      ((script.run s).1, (script.run s).2.beside (notes ++ [⟨callback, s.context⟩])) :=
  script.run_beside s (notes ++ [CallbackNote.mk callback s.context])

namespace ContentProvider

/-- The last callback of a provider, written down first. -/
def notedEnd (callback : Callback) (f : σ → Outcome σ Unit) (s : σ × List (CallbackNote σ)) :
    Outcome (σ × List (CallbackNote σ)) Unit :=
  { answer := (), state := ((f s.1).state, s.2 ++ [⟨callback, s.1⟩]), events := (f s.1).events }

/-- The provider that writes down its callbacks. -/
def noting (p : ContentProvider σ) : ContentProvider (σ × List (CallbackNote σ)) where
  type := p.type
  addHeader := ExceptT.mk (p.addHeader.run.noted .header)
  addAddresses := ExceptT.mk (p.addAddresses.run.noted .addresses)
  finish := notedEnd .finish p.finish
  abort := notedEnd .abort p.abort

/-- The last callback of a message. -/
def ending (p : ContentProvider σ) : Except WireError Unit → σ → Outcome σ Unit
  | .ok () => p.finish
  | .error _ => p.abort

/-- The callbacks that build a message: that for the addresses only after a header. -/
def building (p : ContentProvider σ) (s : Session σ) : List (CallbackNote σ) :=
  match p.addHeader.run.run s with
  | (.error _, _) => [⟨.header, s.context⟩]
  | (.ok (), headed) => [⟨.header, s.context⟩, ⟨.addresses, headed.context⟩]

end ContentProvider

namespace MessageWriter

variable {w : MessageWriter} {p : ContentProvider σ} {context : σ} {width : ℕ}

/-- The last callback of a message. -/
def lastCallback : Except WireError Unit → Callback
  | .ok () => .finish
  | .error _ => .abort

/-- The callbacks of a message, with their contexts. -/
def noted (w : MessageWriter) (p : ContentProvider σ) (context : σ) : List (CallbackNote σ) :=
  match w.width? p.type with
  | none => []
  | some width =>
    p.building (w.opening p context width) ++
      [⟨lastCallback (w.create p context).result,
        (compose p (w.opening p context width)).2.2.context⟩]

/-- After a header come the addresses. -/
lemma compose_of_header {s headed : Session σ} (h : p.addHeader.run.run s = (.ok (), headed)) :
    compose p s = ((p.addAddresses.run.run headed).1, [.header, .addresses],
      (p.addAddresses.run.run headed).2) := by
  unfold compose
  rw [h]

lemma compose_noting (p : ContentProvider σ) (s : Session σ) (notes : List (CallbackNote σ)) :
    compose p.noting (s.beside notes) =
      ((compose p s).1, (compose p s).2.1, (compose p s).2.2.beside (notes ++ p.building s)) := by
  have hheader : p.noting.addHeader.run.run (s.beside notes) = _ :=
    p.addHeader.run.run_noted .header s notes
  rcases hrun : p.addHeader.run.run s with ⟨e | done, headed⟩ <;> rw [hrun] at hheader
  · unfold compose ContentProvider.building
    simp only [hrun, hheader]
  · have haddresses : p.noting.addAddresses.run.run
        (headed.beside (notes ++ [⟨.header, s.context⟩])) = _ :=
      p.addAddresses.run.run_noted .addresses headed
        (notes ++ [CallbackNote.mk .header s.context])
    rw [compose_of_header hrun, compose_of_header hheader, haddresses, ContentProvider.building,
      hrun, List.append_assoc]
    rfl

/-- **Noting shows in the notes only.**  A provider that writes down its callbacks makes the message
that it made before, and its notes are the callbacks of the message. -/
theorem create_noting (w : MessageWriter) (p : ContentProvider σ) (context : σ)
    (notes : List (CallbackNote σ)) :
    w.create p.noting (context, notes) =
      (w.create p context).beside (notes ++ w.noted p context) := by
  cases hwidth : w.width? p.type with
  | none =>
    have hwidth' : w.width? p.noting.type = none := hwidth
    rw [create_unregistered hwidth, create_unregistered hwidth', noted, hwidth, List.append_nil]
    rfl
  | some width =>
    have hwidth' : w.width? p.noting.type = some width := hwidth
    have hnoting : compose p.noting (w.opening p.noting (context, notes) width) = _ :=
      compose_noting p (w.opening p context width) notes
    simp only [noted, hwidth]
    rcases hcompose : compose p (w.opening p context width) with ⟨e | done, callbacks, s⟩ <;>
      rw [hcompose] at hnoting
    · rw [create_rejected hwidth hcompose, create_rejected hwidth' hnoting, ← List.append_assoc]
      rfl
    · cases happend : w.appendDraft p.type s.draft with
      | error e =>
        have happend' : w.appendDraft p.noting.type (s.beside (notes ++
          p.building (w.opening p context width))).draft = .error e := happend
        rw [create_refused hwidth hcompose happend, create_refused hwidth' hnoting happend',
          ← List.append_assoc]
        rfl
      | ok packed =>
        have happend' : w.appendDraft p.noting.type (s.beside (notes ++
          p.building (w.opening p context width))).draft = .ok packed := happend
        rw [create_finished hwidth hcompose happend, create_finished hwidth' hnoting happend',
          ← List.append_assoc]
        rfl

/-- The last callback works on what the others leave; between them the writer says what came of the
message. -/
lemma create_ending (hwidth : w.width? p.type = some width) :
    let s := (compose p (w.opening p context width)).2.2
    let last := p.ending (w.create p context).result s.context
    (w.create p context).context = last.state ∧
      ∃ said : Log.Event, said.level = .debug ∧
        (said.message = "message created" ∨ said.message = "message build failed") ∧
        (w.create p context).events = s.events.reverse ++ said :: last.events := by
  rcases hcompose : compose p (w.opening p context width) with ⟨e | done, callbacks, s⟩
  · rw [create_rejected hwidth hcompose]
    exact ⟨rfl, failedEvent p.type e, rfl, .inr rfl, rfl⟩
  · cases happend : w.appendDraft p.type s.draft with
    | error e =>
      rw [create_refused hwidth hcompose happend]
      exact ⟨rfl, failedEvent p.type e, rfl, .inr rfl, rfl⟩
    | ok packed =>
      rw [create_finished hwidth hcompose happend]
      exact ⟨rfl, createdEvent p.type s.draft packed.2.length, rfl, .inl rfl, rfl⟩

/-- A message that was made is in the packet, and one that was not is not. -/
lemma create_ok_iff (hwidth : w.width? p.type = some width) :
    (w.create p context).result = .ok () ↔
      (w.create p context).writer.packet = w.packet.extend (lead w.packet ++ Made.octets
        ⟨p.type, width, (w.table? p.type).getD [], (w.create p context).calls⟩) := by
  rcases create_cases w p context with ⟨e, hresult, hwriter⟩ | ⟨width', d, hbuilt⟩
  · rw [hresult, hwriter]
    refine ⟨fun h => absurd h (by simp), fun h => ?_⟩
    -- a message has bytes, so a packet with one more message is another packet
    have hlength := congrArg Buffer.length h
    rw [Buffer.length_extend, List.length_append] at hlength
    have hpos := List.length_pos_iff.2 (Message.octets_ne_nil
      (Made.message ⟨p.type, width, (w.table? p.type).getD [], (w.create p context).calls⟩))
    rw [Made.octets] at hlength
    omega
  · obtain rfl : width' = width := Option.some.inj (hbuilt.registered.symm.trans hwidth)
    refine ⟨fun _ => ?_, fun _ => hbuilt.result⟩
    rw [← hbuilt.frame_eq, hbuilt.writer]

end MessageWriter

lemma ContentProvider.callback_building (p : ContentProvider σ) (s : Session σ) :
    (p.building s).map (·.callback) =
      .header :: if (p.addHeader.run.run s).1.toBool then [.addresses] else [] := by
  unfold building
  rcases p.addHeader.run.run s with ⟨e | done, headed⟩ <;> rfl

/-! ## The order of the callbacks -/

namespace ReusingWriter

/-- What a provider writes down of its callbacks while it makes a message. -/
def notes (w : ReusingWriter) (p : ContentProvider σ) (context : σ) : List (CallbackNote σ) :=
  (w.create p.noting (context, [])).1.context.2

/-- A writer calls a provider back in order. -/
structure CallsBack (w : ReusingWriter) (p : ContentProvider σ) (context : σ) : Prop where
  /-- The provider makes its message as it does when it takes no notes. -/
  noted : (w.create p.noting (context, [])).1 = (w.create p context).1.beside (w.notes p context)
  /-- A type without a width is reported, and there is no callback at all. -/
  unregistered : w.width? p.type = none →
    (w.create p context).1.result = .error (.unregistered p.type.code) ∧ w.notes p context = []
  /-- The header callback comes first, then the address callback if the header callback succeeded,
  and last comes one of finish and abort: finish if the message was made and abort if not. -/
  order : ∀ width, w.width? p.type = some width →
    (w.notes p context).map (·.callback) =
      .header :: (if (p.addHeader.run.run (w.opening p context width)).1.toBool
        then [.addresses] else []) ++ [lastCallback (w.create p context).1.result]
  /-- The message was made if and only if its bytes were appended to the packet. -/
  appended : ∀ width, w.width? p.type = some width →
    ((w.create p context).1.result = .ok () ↔
      (w.create p context).1.writer.packet = w.packet.extend (lead w.packet ++ Made.octets
        ⟨p.type, width, (w.table? p.type).getD [], (w.create p context).1.calls⟩))
  /-- Otherwise the packet is as it was. -/
  unchanged : ∀ e, (w.create p context).1.result = .error e →
    (w.create p context).1.writer.packet = w.packet

variable {config : WriterConfig} {w : ReusingWriter} {l : Loaded}

/-- The notes of a provider are the callbacks of the message. -/
lemma Mirrors.notes (h : Mirrors config w l) (p : ContentProvider σ) (context : σ) :
    w.notes p context = l.writer.noted p context := by
  rw [ReusingWriter.notes, h.create, create_noting]
  rfl

/-- **A provider is called back in order**, whatever its callbacks do and whatever the writer has
gone through. -/
theorem callsBack (config : WriterConfig) (history : List Op) (p : ContentProvider σ)
    (context : σ) : CallsBack (after config history) p context := by
  have h := mirrors_after config history
  constructor
  · rw [h.notes, h.create, h.create, create_noting]
    rfl
  · intro hwidth
    rw [h.writer] at hwidth
    rw [h.notes, h.create, create_unregistered hwidth, MessageWriter.noted, hwidth]
    exact ⟨rfl, rfl⟩
  · intro width hwidth
    rw [h.writer] at hwidth ⊢
    rw [h.notes, h.create, MessageWriter.noted, hwidth]
    simp only [List.map_append, p.callback_building, List.map_cons, List.map_nil]
  · intro width hwidth
    rw [h.writer] at hwidth ⊢
    rw [h.create]
    exact create_ok_iff hwidth
  · intro e he
    rw [h.create] at he ⊢
    rw [h.writer, writer_of_error he]

end ReusingWriter

end RouteDiscovery.Wire
