/-
# Reused memory does not show

A writer that makes all its messages in one workspace (`ReusingWriter`) does what a writer does that
takes fresh memory for each of them (`MessageWriter`).

* `InPlace.Performs x b r`: the work `x` on the buffer `b` comes to the result `r`, and whatever it
  comes to, clearing undoes it.  Work done piece after piece performs what is computed piece after
  piece (`InPlace.Performs.bind`).
* `ReusingWriter.create_eq`: in unused memory, making a message gives what the other writer gives,
  and the memory is as unused afterwards, wherever the making stopped.
* `ReusingWriter.mirrors_after`: so after any history the two writers are alike.
-/
import RouteDiscovery.Proofs.Wire.RoundTrip
import RouteDiscovery.Wire.Reuse

namespace RouteDiscovery.Wire

/-! ## Working in place -/

namespace InPlace

variable {α β : Type} {b b' : Buffer} {e : WireError}

lemma run_bind_ok {x : InPlace α} {f : α → InPlace β} {a : α} (h : x.run.run b = (.ok a, b')) :
    (x >>= f).run.run b = (f a).run.run b' := by
  rw [ExceptT.run_bind, StateT.run_bind, h]
  rfl

lemma run_bind_error {x : InPlace α} {f : α → InPlace β} (h : x.run.run b = (.error e, b')) :
    (x >>= f).run.run b = (.error e, b') := by
  rw [ExceptT.run_bind, StateT.run_bind, h]
  rfl

/-- Work on a buffer comes to a result: the buffer that the result says, or its error.  Whatever
was done to the buffer by then, clearing undoes it. -/
inductive Performs (x : InPlace Unit) (b : Buffer) : Except WireError Buffer → Prop
  | ok {b' : Buffer} (run : x.run.run b = (.ok (), b')) (clear : b'.clear = b.clear) :
      Performs x b (.ok b')
  | error {e : WireError} {left : Buffer} (run : x.run.run b = (.error e, left))
      (clear : left.clear = b.clear) : Performs x b (.error e)

namespace Performs

variable {x y : InPlace Unit} {r : Except WireError Buffer} {f : Buffer → Except WireError Buffer}

/-- Work that goes on as other work does on what it has made of the buffer. -/
lemma of_run (hy : Performs y b' r) (hrun : x.run.run b = y.run.run b')
    (hclear : b'.clear = b.clear) : Performs x b r := by
  cases hy with
  | ok run clear => exact .ok (hrun.trans run) (clear.trans hclear)
  | error run clear => exact .error (hrun.trans run) (clear.trans hclear)

lemma bind (hx : Performs x b r) (hy : ∀ b', Performs y b' (f b')) :
    Performs (x >>= fun _ => y) b (r >>= f) := by
  cases hx with
  | ok run clear => exact (hy _).of_run (run_bind_ok run) clear
  | error run clear => exact .error (run_bind_error run) clear

/-- Work that looks at the buffer first. -/
lemma get {g : Buffer → InPlace Unit} (h : Performs (g b) b r) :
    Performs (MonadState.get >>= g) b r := h.of_run rfl rfl

/-- Work that goes on with a value, if there is one. -/
lemma lift {v : Except WireError α} {g : α → InPlace Unit} {f : α → Except WireError Buffer}
    (h : ∀ a, Performs (g a) b (f a)) : Performs (liftM v >>= g) b (v >>= f) := by
  cases v with
  | error e => exact .error rfl rfl
  | ok a => exact (h a).of_run rfl rfl

/-- Work that changes the buffer at once. -/
lemma change {g : Buffer → Buffer} (h : (g b).clear = b.clear) :
    Performs (modify g) b (.ok (g b)) := .ok rfl h

end Performs

lemma clear_write (pieces : List Buffer.Piece) (b : Buffer) :
    (b.write pieces).2.clear = b.clear := by
  induction pieces generalizing b with
  | nil => rfl
  | cons piece pieces ih =>
    cases piece with
    | error e => rfl
    | ok data =>
      rw [Buffer.write]
      cases hput : b.put data with
      | error e => rfl
      | ok b' =>
        obtain rfl := Buffer.eq_extend_of_put hput
        exact ih _

lemma performs_write (pieces : List Buffer.Piece) (b : Buffer) :
    Performs (write pieces) b (b.writeAll pieces) := by
  have hclear := clear_write pieces b
  rw [Buffer.writeAll]
  rcases hwrite : b.write pieces with ⟨_ | _, b'⟩ <;> rw [hwrite] at hclear
  · exact .error hwrite hclear
  · exact .ok hwrite hclear

end InPlace

/-! ## Writing a message -/

namespace Draft

open InPlace

lemma clear_fill (b : Buffer) (offset : ℕ) (w : UInt16) : (fill b offset w).clear = b.clear := by
  unfold fill Buffer.patchWord?
  split <;> rfl

lemma performs_fillAddresses (d : Draft) (b : Buffer) :
    Performs d.fillAddresses b (d.encodeAddresses b) := by
  refine (performs_write d.addressPieces b).bind fun b₁ => .get ?_
  refine (performs_write _ b₁).bind fun b₂ => .get (.lift fun blockLength => ?_)
  exact .change (clear_fill b₂ b₁.length blockLength)

/-- Writing the message in place performs its encoding into the cleared buffer. -/
lemma performs_fillMessage (d : Draft) (type : MsgType) (b : Buffer) :
    Performs (d.fillMessage type) b (d.encode type b.clear) := by
  -- the size is filled in at the end, with or without an address block before it
  have hsize : ∀ b' : Buffer,
      Performs (do
        let size ← lengthField (← get).length
        modify (fill · 2 size)) b' (do
        let size ← lengthField b'.length
        return fill b' 2 size) :=
    fun b' => .get (.lift fun size => .change (clear_fill b' 2 size))
  show Performs _ b (.ok b.clear >>= d.encode type)
  refine (Performs.change (g := Buffer.clear) rfl).bind fun b' => ?_
  refine (performs_write (d.headPieces type) b').bind fun b₁ => ?_
  cases d.addresses.isEmpty with
  | true => exact hsize b₁
  | false => exact (d.performs_fillAddresses b₁).bind hsize

end Draft

/-! ## Appending the message -/

namespace InPlace

open MessageWriter

variable {octets : List UInt8} {packet : Buffer}

lemma performs_append (octets : List UInt8) (packet : Buffer) :
    Performs (append octets) packet (appendMessage packet octets) := by
  have hput : ∀ (data : List UInt8) (b : Buffer), Performs (write [.ok data]) b (b.put data) := by
    intro data b
    have hone := performs_write [.ok data] b
    rw [Buffer.writeAll_cons_ok] at hone
    cases hdata : b.put data <;> rw [hdata] at hone <;> exact hone
  refine .get (.lift fun _ => ?_)
  cases packet.isEmpty with
  | true => exact (hput [packetHeader] packet).bind (hput octets)
  | false => exact hput octets packet

/-- A message that cannot be appended leaves the packet. -/
lemma run_append (octets : List UInt8) (packet : Buffer) :
    (append octets).run.run packet = match appendMessage packet octets with
      | .ok packet' => (.ok (), packet')
      | .error e => (.error e, packet) := by
  by_cases hroom : octets.length + (lead packet).length ≤ packet.remaining
  · have happend := performs_append octets packet
    rw [appendMessage_of_fits hroom] at happend ⊢
    cases happend with
    | ok run _ => exact run
  · -- the room is checked before anything is put
    have hensure : packet.ensure (octets.length + (lead packet).length) =
        .error (.capacity packet.kind _ packet.remaining) := if_neg hroom
    rw [length_lead] at hensure
    rw [appendMessage_of_lt (Nat.lt_of_not_le hroom), length_lead]
    refine run_bind_error (x := liftM (packet.ensure _)) ?_
    rw [hensure]
    rfl

end InPlace

/-! ## Making a message -/

lemma Draft.clear_arena_answer (d : Draft) (c : Call) :
    (d.answer c).2.arena.clear = d.arena.clear := by
  cases c with
  | addAddress addr mandatory =>
    simp only [Draft.answer]
    split
    · next h => obtain ⟨-, ⟨-, rfl⟩ | ⟨-, -, -, rfl⟩⟩ := Draft.addAddress_cases h <;> rfl
    · rfl
  | addTlv index type value allowDuplicate =>
    simp only [Draft.answer]
    split
    · next h => obtain ⟨-, -, -, rfl⟩ := Draft.addTlv_cases h; rfl
    · rfl
  | _ => rfl

namespace ReusingWriter

open MessageWriter

variable {σ : Type} {w : ReusingWriter} {config : WriterConfig}

lemma clear_arena_compose (p : ContentProvider σ) (s : Session σ) :
    (compose p s).2.2.draft.arena.clear = s.draft.arena.clear :=
  compose_invariant (P := fun d _ => d.arena.clear = s.draft.arena.clear)
    (fun d _ c h => (d.clear_arena_answer c).trans h) p s rfl

variable {p : ContentProvider σ} {context : σ} {width : ℕ} {e : WireError}
  {callbacks : List Callback} {s : Session σ} {message packet : Buffer}

/-- A provider starts in the reused draft as in a fresh one. -/
lemma opening_eq (hunused : w.workspace = .new w.config) (p : ContentProvider σ) (context : σ)
    (width : ℕ) :
    { draft := w.workspace.reset.draft width ((w.table? p.type).getD []), context } =
      w.opening p context width := by
  rw [hunused]
  rfl

/-- The provider's callbacks fail. -/
lemma attempt_rejected (hunused : w.workspace = .new w.config)
    (hcompose : compose p (w.opening p context width) = (.error e, callbacks, s)) :
    w.attempt p width context =
      { result := .error e, callbacks, session := s, workspace := w.workspace.reset.keep s.draft,
        packet := w.packet } := by
  unfold attempt
  simp only [opening_eq hunused, hcompose]

/-- The message does not fit into the message buffer. -/
lemma attempt_unfilled (hunused : w.workspace = .new w.config)
    (hcompose : compose p (w.opening p context width) = (.ok (), callbacks, s))
    (hfill : (s.draft.fillMessage p.type).run.run w.workspace.message = (.error e, message)) :
    w.attempt p width context =
      { result := .error e, callbacks, session := s,
        workspace := { w.workspace.reset.keep s.draft with message }, packet := w.packet } := by
  have hfill' : (s.draft.fillMessage p.type).run.run (w.workspace.reset.keep s.draft).message =
      (.error e, message) := hfill
  unfold attempt
  simp only [opening_eq hunused, hcompose, hfill']

/-- The message is in the message buffer, and it goes into the packet if it fits. -/
lemma attempt_filled {r : Except WireError Unit} (hunused : w.workspace = .new w.config)
    (hcompose : compose p (w.opening p context width) = (.ok (), callbacks, s))
    (hfill : (s.draft.fillMessage p.type).run.run w.workspace.message = (.ok (), message))
    (happend : (InPlace.append message.bytes).run.run w.packet = (r, packet)) :
    w.attempt p width context =
      { result := r, callbacks, session := s,
        workspace := { w.workspace.reset.keep s.draft with message }, packet } := by
  have hfill' : (s.draft.fillMessage p.type).run.run (w.workspace.reset.keep s.draft).message =
      (.ok (), message) := hfill
  unfold attempt
  simp only [opening_eq hunused, hcompose, hfill', happend]

/-- What becomes of the draft that a provider leaves: it is in the packet, or the packet is as it
was.  The message buffer has only been filled. -/
lemma attempt_composed (hunused : w.workspace = .new w.config)
    (hcompose : compose p (w.opening p context width) = (.ok (), callbacks, s)) :
    ∃ message : Buffer, message.clear = w.workspace.message.clear ∧
      ((∃ packet, w.appendDraft p.type s.draft = .ok (packet, message) ∧
          w.attempt p width context =
            { result := .ok (), callbacks, session := s,
              workspace := { w.workspace.reset.keep s.draft with message }, packet }) ∨
        (∃ e, w.appendDraft p.type s.draft = .error e ∧
          w.attempt p width context =
            { result := .error e, callbacks, session := s,
              workspace := { w.workspace.reset.keep s.draft with message },
              packet := w.packet })) := by
  have hfill := s.draft.performs_fillMessage p.type w.workspace.message
  have hempty : w.workspace.message.clear = { kind := .message, capacity := w.config.msgSize } := by
    rw [hunused]
    rfl
  rw [hempty] at hfill
  rw [appendDraft_eq]
  cases hencode : s.draft.encode p.type { kind := .message, capacity := w.config.msgSize } with
  | error e =>
    rw [hencode] at hfill
    cases hfill with
    | error run clear =>
      exact ⟨_, clear, .inr ⟨e, rfl, attempt_unfilled hunused hcompose run⟩⟩
  | ok message =>
    rw [hencode] at hfill
    cases hfill with
    | ok run clear =>
      have hrun := InPlace.run_append message.bytes w.packet
      rw [ok_bind]
      refine ⟨message, clear, ?_⟩
      cases happend : appendMessage w.packet message.bytes with
      | error e =>
        rw [happend] at hrun
        exact .inr ⟨e, rfl, attempt_filled hunused hcompose run hrun⟩
      | ok packet =>
        rw [happend] at hrun
        exact .inl ⟨packet, rfl, attempt_filled hunused hcompose run hrun⟩

/-- A message that could not be made. -/
lemma create_of_failure {a : Attempt σ} (hwidth : w.width? p.type = some width)
    (ha : w.attempt p width context = a) (hresult : a.result = .error e)
    (hpacket : a.packet = w.packet) :
    w.create p context = (w.aborted p a.callbacks a.session e, a.workspace.cleared) := by
  unfold create
  simp only [hwidth, ha, hresult, hpacket]

/-- A message that was made. -/
lemma create_of_success {a : Attempt σ} (hwidth : w.width? p.type = some width)
    (ha : w.attempt p width context = a) (hresult : a.result = .ok ()) :
    w.create p context =
      (w.finished p a.callbacks a.session a.packet a.workspace.message, a.workspace.cleared) := by
  unfold create
  simp only [hwidth, ha, hresult]
  rfl

/-- Memory in which bytes were put at most is unused when it is cleared. -/
lemma cleared_eq (hunused : w.workspace = .new w.config) {d : Draft}
    (harena : d.arena.clear = w.workspace.arena.clear)
    (hmessage : message.clear = w.workspace.message.clear) :
    Workspace.cleared { w.workspace.reset.keep d with message } = w.workspace := by
  have hclear : Workspace.cleared { w.workspace.reset.keep d with message } =
      { arena := d.arena.clear, message := message.clear } := rfl
  rw [hclear, harena, hmessage, hunused]
  rfl

/-- **Making a message in reused memory.**  In unused memory a message is made as in fresh memory,
and the memory is unused again afterwards, wherever the making stopped. -/
theorem create_eq (hunused : w.workspace = .new w.config) (p : ContentProvider σ) (context : σ) :
    w.create p context = (w.toMessageWriter.create p context, w.workspace) := by
  cases hwidth : w.width? p.type with
  | none =>
    rw [create_unregistered hwidth]
    unfold create
    rw [hwidth]
  | some width =>
    have harena : (compose p (w.opening p context width)).2.2.draft.arena.clear =
        w.workspace.arena.clear := by
      rw [clear_arena_compose, hunused]
      rfl
    rcases hcompose : compose p (w.opening p context width) with ⟨e | _, callbacks, s⟩ <;>
      rw [hcompose] at harena
    · rw [create_of_failure hwidth (attempt_rejected hunused hcompose) rfl rfl,
        create_rejected hwidth hcompose]
      exact Prod.ext rfl (cleared_eq hunused harena rfl)
    · obtain ⟨message, hmessage, ⟨packet, happend, ha⟩ | ⟨e, happend, ha⟩⟩ :=
        attempt_composed hunused hcompose
      · rw [create_of_success hwidth ha rfl, create_finished hwidth hcompose happend]
        exact Prod.ext rfl (cleared_eq hunused harena hmessage)
      · rw [create_of_failure hwidth ha rfl rfl, create_refused hwidth hcompose happend]
        exact Prod.ext rfl (cleared_eq hunused harena hmessage)

/-! ## Histories -/

/-- Carries out one operation. -/
def step (w : ReusingWriter) : Op → ReusingWriter
  | .registerMessage type width =>
    { w with toMessageWriter := (w.registerMessage type width).state }
  | .registerProvider type table =>
    { w with toMessageWriter := (w.registerProvider type table).state }
  | .create p context =>
    { toMessageWriter := (w.create p context).1.writer, workspace := (w.create p context).2 }
  | .flush target t => { w with toMessageWriter := (w.flush target t).state.1 }
  | .discard => { w with toMessageWriter := w.discard }

/-- A new writer after a history. -/
def after (config : WriterConfig) (history : List Op) : ReusingWriter :=
  history.foldl step (.new config)

/-- A writer with reused memory is where a writer with fresh memory is: the same state with the
capacities that it was given, and nothing is left in the memory. -/
structure Mirrors (config : WriterConfig) (w : ReusingWriter) (l : Loaded) : Prop where
  writer : w.toMessageWriter = l.writer
  capacities : l.writer.config = config
  packet : l.writer.packet.clear = (MessageWriter.new config).packet
  unused : w.workspace = .new config

lemma Mirrors.create {l : Loaded} (h : Mirrors config w l) (p : ContentProvider σ) (context : σ) :
    w.create p context = (l.writer.create p context, .new config) := by
  have hunused : w.workspace = .new w.config := by rw [h.unused, h.writer, h.capacities]
  rw [create_eq hunused, h.writer, h.unused]

/-- No operation changes the capacities. -/
lemma step_capacities (l : Loaded) (op : Op) :
    (l.step op).writer.config = l.writer.config ∧
      (l.step op).writer.packet.clear = l.writer.packet.clear := by
  cases op with
  | registerMessage type width =>
    simp only [Loaded.step, registerMessage]
    split
    · exact ⟨rfl, rfl⟩
    · split <;> exact ⟨rfl, rfl⟩
  | registerProvider type table =>
    simp only [Loaded.step, registerProvider]
    split <;> exact ⟨rfl, rfl⟩
  | create p context =>
    simp only [Loaded.step]
    rcases create_cases l.writer p context with ⟨e, -, hwriter⟩ | ⟨width, d, hbuilt⟩
    · rw [hwriter]
      exact ⟨rfl, rfl⟩
    · rw [hbuilt.writer]
      exact ⟨rfl, rfl⟩
  | flush target t =>
    simp only [Loaded.step, flush]
    split <;> exact ⟨rfl, rfl⟩
  | discard => exact ⟨rfl, rfl⟩

/-- Every operation takes both writers to the same place. -/
lemma Mirrors.step {l : Loaded} (h : Mirrors config w l) (op : Op) :
    Mirrors config (w.step op) (l.step op) := by
  obtain ⟨hcapacities, hpacket⟩ := step_capacities l op
  have hsame : (w.step op).toMessageWriter = (l.step op).writer ∧
      (w.step op).workspace = .new config := by
    cases op with
    | create p context =>
      constructor <;> simp only [ReusingWriter.step, Loaded.step, h.create]
    | _ => exact ⟨by simp only [ReusingWriter.step, Loaded.step, h.writer], h.unused⟩
  exact ⟨hsame.1, hcapacities.trans h.capacities, hpacket.trans h.packet, hsame.2⟩

/-- After every history a writer with reused memory is where one with fresh memory is. -/
theorem mirrors_after (config : WriterConfig) (history : List Op) :
    Mirrors config (.after config history) (.after config history) := by
  have hrun : ∀ w l, Mirrors config w l →
      Mirrors config (history.foldl ReusingWriter.step w) (history.foldl Loaded.step l) := by
    induction history with
    | nil => exact fun _ _ h => h
    | cons op history ih => exact fun _ _ h => ih _ _ (h.step op)
  exact hrun _ _ ⟨rfl, rfl, rfl, rfl⟩

end ReusingWriter

end RouteDiscovery.Wire
