/-
# One event, one line

An event is shown on one line, unless it carries a text of outside that has line breaks of its own.
There are four kinds of such events (`Carries`): a transport may give a reason in words of its own,
and so may the reader of documents, and a content provider may miss a field of any name.

* `Event.BreaksAs`: the line of the event breaks as often as a given text.
* `Carries.breaksAs`: the line of an event of these kinds breaks as often as the text that it carries.
* `Told`: an event is of one of these kinds, or its line does not break.  `RouteSender.told_send` and
  the lemmas before it go through what is logged, step by step.
* `Logged` is what the program can log, and `Logged.line_breaks` says how often such a line breaks.
-/
import RouteDiscovery.Node.Load
import RouteDiscovery.Node.Request
import RouteDiscovery.Proofs.Log.Breaks
import RouteDiscovery.Proofs.Route.Verdicts
import RouteDiscovery.Proofs.Wire.OwnErrors

namespace RouteDiscovery

open Log Wire

/-! ## Errors -/

/-- The words of outside in an error of a transport. -/
def TransportError.reason : TransportError → String
  | io reason | rejected reason => reason
  | queueFull | closed => ""

lemma TransportError.breaks_message (e : TransportError) :
    breaks e.message = breaks e.reason := by
  cases e with
  | io reason => exact (breaks_append _ _).trans (Nat.zero_add _)
  | rejected reason => exact (breaks_append _ _).trans (Nat.zero_add _)
  | queueFull => rfl
  | closed => rfl

namespace Wire.WireError

/-- The word of outside in an error of the wire format: the name of a field. -/
def reason : WireError → String
  | missingField name => name
  | _ => ""

lemma breaks_message (e : WireError) : breaks e.message = breaks e.reason := by
  unfold message
  cases e with
  | capacity buffer needed available =>
    simp only [breaks_append, breaks_nat]
    cases buffer <;> rfl
  | missingField name =>
    have hwords : breaks "message header field missing: " = 0 := rfl
    show breaks ("message header field missing: " ++ name) = breaks name
    rw [breaks_append, hwords, Nat.zero_add]
  | tooManyAddresses => rfl
  | _ =>
    simp only [breaks_append, breaks_nat, breaks_byte]
    rfl

/-- The writer's own errors are on one line. -/
lemma IsOwn.breaks_reason {e : WireError} (h : e.IsOwn) : breaks e.reason = 0 := by
  cases e with
  | missingField name =>
    have hname : ∀ name ∈ MsgHeader.fieldNames, breaks name = 0 := by decide
    exact hname name h
  | _ => rfl

end Wire.WireError

/-! ## Events -/

/-- The line of the event breaks as often as the text. -/
structure Log.Event.BreaksAs (e : Event) (outside : String) : Prop where
  component : ∀ c, e.component = some c → breaks c = 0
  texts : (e.asIs.map breaks).sum = breaks outside

/-- The line of an event of no component breaks where the texts of the event do. -/
lemma Log.Event.BreaksAs.of_texts {e : Event} {outside : String} (hcomponent : e.component = none)
    (htexts : (e.asIs.map breaks).sum = breaks outside) : e.BreaksAs outside where
  component c hc := absurd (hcomponent.symm.trans hc) (by simp)
  texts := htexts

/-! ### Events that carry a text of outside -/

/-- What the event carries is a text of outside. -/
inductive Carries : Event → String → Prop
  /-- The reason of a transport that did not take a packet. -/
  | notTaken (d : Delivery) (e : TransportError) : Carries (d.failedEvent e) e.reason
  /-- The same reason, in what the node says of its request. -/
  | requestFailed (target : Ipv6) (e : TransportError) :
      Carries (NodeConfig.requestEvent target (.error (.transport e))) e.reason
  /-- The reason of the reader of documents. -/
  | unreadable (path reason : String) : Carries (FileLayer.event path (.unreadable reason)) reason
  /-- The name of the field that a content provider misses. -/
  | fieldMissing (type : MsgType) (name : String) :
      Carries (MessageWriter.failedEvent type (.missingField name)) name

lemma Delivery.breaksAs_failedEvent (d : Delivery) (e : TransportError) :
    (d.failedEvent e).BreaksAs e.reason := by
  have hclosed : breaks "packet send failed" = 0 ∧ breaks "next_hop" = 0 ∧ breaks "error" = 0 := by
    decide
  refine .of_texts rfl ?_
  simp [Event.asIs, FieldValue.asIs, failedEvent, e.breaks_message, hclosed]

/-- The line of a request that failed breaks where the wording of its error does. -/
lemma NodeConfig.breaksAs_requestEvent (target : Ipv6) {e : SendError} {outside : String}
    (h : breaks e.message = breaks outside) : (requestEvent target (.error e)).BreaksAs outside where
  component := by
    rintro c ⟨⟩
    decide
  texts := by
    have hclosed : breaks "Route request for " = 0 ∧ breaks " failed: " = 0 := by decide
    simp [Event.asIs, requestEvent, Event.componentWarn, hclosed, h]

lemma FileLayer.breaksAs_event_unreadable (path reason : String) :
    (event path (.unreadable reason)).BreaksAs reason := by
  have hclosed : breaks "Failed to parse config file " = 0 ∧ breaks ": " = 0 ∧
      breaks ", using defaults" = 0 := by decide
  refine .of_texts rfl ?_
  simp [Event.asIs, event, hclosed]

lemma Wire.MessageWriter.breaksAs_failedEvent (type : MsgType) (e : WireError) :
    (failedEvent type e).BreaksAs e.reason := by
  have hclosed : breaks "message build failed" = 0 ∧ breaks "msg_type" = 0 ∧ breaks "" = 0 ∧
      breaks "error" = 0 := by decide
  refine .of_texts rfl ?_
  simp [Event.asIs, FieldValue.asIs, failedEvent, e.breaks_message, hclosed]

/-- The line of an event breaks as often as the text of outside that the event carries. -/
lemma Carries.breaksAs {e : Event} {outside : String} (h : Carries e outside) :
    e.BreaksAs outside := by
  cases h with
  | notTaken d e => exact d.breaksAs_failedEvent e
  | requestFailed target e =>
    have hwords : breaks "transport failed: " = 0 := rfl
    refine NodeConfig.breaksAs_requestEvent target ?_
    show breaks ("transport failed: " ++ e.message) = breaks e.reason
    rw [breaks_append, hwords, Nat.zero_add, e.breaks_message]
  | unreadable path => exact FileLayer.breaksAs_event_unreadable path outside
  | fieldMissing type => exact MessageWriter.breaksAs_failedEvent type (.missingField outside)

/-- What only informs carries nothing of outside. -/
lemma Carries.level_ne_info {e : Event} {outside : String} (h : Carries e outside) :
    e.level ≠ .info := by
  cases h <;> exact nofun

/-! ### One event after another -/

/-- The event carries a text of outside, or its line does not break. -/
def Told (e : Event) : Prop := (∃ outside, Carries e outside) ∨ e.BreaksAs ""

namespace Told

/-- An event without line breaks. -/
lemma plain {e : Event} (hcomponent : e.component = none) (h : ∀ s ∈ e.asIs, breaks s = 0) :
    Told e := by
  refine .inr (.of_texts hcomponent ?_)
  rw [show breaks "" = 0 from rfl, List.sum_eq_zero_iff_forall_eq_nat]
  intro n hn
  obtain ⟨s, hs, rfl⟩ := List.mem_map.1 hn
  exact h s hs

/-! ### The store and the writer -/

lemma advanceEvent (s : Store) : Told s.advanceEvent :=
  plain rfl (by simp +decide [Event.asIs, FieldValue.asIs, Store.advanceEvent])

lemma createdEvent (type : MsgType) (d : Draft) (size : ℕ) :
    Told (MessageWriter.createdEvent type d size) :=
  plain rfl (by simp +decide [Event.asIs, FieldValue.asIs, MessageWriter.createdEvent])

lemma flushedEvent (length : ℕ) (ok : Bool) : Told (MessageWriter.flushedEvent length ok) :=
  plain rfl (by simp +decide [Event.asIs, FieldValue.asIs, MessageWriter.flushedEvent])

lemma sendEvent (m : RouteMessage) (data : RouteData) (nextHop : Ipv6) :
    Told (RouteSender.sendEvent m data nextHop) :=
  plain rfl (by
    cases m <;>
      simp +decide [Event.asIs, FieldValue.asIs, RouteSender.sendEvent, RouteSender.sendText])

/-- Only the name of a field can break the line of a message that was not built. -/
lemma failedEvent (type : MsgType) (e : WireError) : Told (MessageWriter.failedEvent type e) := by
  have hbreaks := MessageWriter.breaksAs_failedEvent type e
  cases e with
  | missingField name => exact .inl ⟨name, .fieldMissing type name⟩
  | _ => exact .inr hbreaks

lemma releaseEvents (issued : SeqNum) (s : Store) : ∀ e ∈ (s.release issued).events, Told e :=
  List.forall_mem_singleton.2 (plain rfl (by simp +decide [Event.asIs, FieldValue.asIs]))

/-- The last callback of a reply gives its number in digits, and that of a request says nothing. -/
lemma ending (m : RouteMessage) (data : RouteData) (result : Except WireError Unit)
    (n : Numbering) : ∀ e ∈ ((m.content data).ending result n).events, Told e := by
  obtain ⟨store, reserved⟩ := n
  cases m with
  | request => cases result <;> exact List.forall_mem_nil _
  | reply =>
    cases result <;> cases reserved
    · exact List.forall_mem_nil _
    · exact List.forall_mem_append.2 ⟨releaseEvents _ _,
        List.forall_mem_singleton.2 (plain rfl (by simp +decide [Event.asIs, FieldValue.asIs]))⟩
    · exact List.forall_mem_nil _
    · exact List.forall_mem_singleton.2 (plain rfl (by simp +decide [Event.asIs, FieldValue.asIs]))

/-! ### Sending -/

lemma sentEvent (m : RouteMessage) (length : ℕ) (nextHop : Ipv6) :
    Told (RouteSender.sentEvent m length nextHop) :=
  plain rfl (by simp +decide [Event.asIs, FieldValue.asIs, RouteSender.sentEvent])

lemma openedEvent (config : WriterConfig) : Told (RouteSender.openedEvent config) :=
  plain rfl (by simp +decide [Event.asIs, FieldValue.asIs, RouteSender.openedEvent])

lemma encodeFailedEvent (m : RouteMessage) {e : WireError} (h : breaks e.reason = 0) :
    Told (RouteSender.encodeFailedEvent m e) :=
  plain rfl (by
    simp +decide [Event.asIs, FieldValue.asIs, RouteSender.encodeFailedEvent, e.breaks_message, h])

lemma notTaken (d : Delivery) (e : TransportError) : Told (d.failedEvent e) :=
  .inl ⟨e.reason, .notTaken d e⟩

/-- What the node says of its request, by what became of it. -/
lemma requestEvent (target : Ipv6) {answer : Except SendError ℕ}
    (h : ∀ cause, answer = .error (.encode cause) → breaks cause.reason = 0) :
    Told (NodeConfig.requestEvent target answer) := by
  cases answer with
  | ok length =>
    exact plain rfl (by simp +decide [Event.asIs, FieldValue.asIs, NodeConfig.requestEvent])
  | error e =>
    cases e with
    | unspecified role =>
      exact .inr (NodeConfig.breaksAs_requestEvent target (by cases role <;> decide))
    | encode cause =>
      have hwords : breaks "encoding failed: " = 0 := rfl
      refine .inr (NodeConfig.breaksAs_requestEvent target ?_)
      show breaks ("encoding failed: " ++ cause.message) = 0
      rw [breaks_append, cause.breaks_message, h cause rfl, hwords]
    | transport cause => exact .inl ⟨cause.reason, .requestFailed target cause⟩

/-! ### Loading -/

lemma fileEvent (path : String) (layer : FileLayer) : Told (layer.event path) := by
  cases layer with
  | notFound => exact plain rfl (by simp +decide [Event.asIs, FileLayer.event])
  | noSection => exact plain rfl (by simp +decide [Event.asIs, FileLayer.event])
  | found config => exact plain rfl (by simp +decide [Event.asIs, FileLayer.event])
  | unreadable reason => exact .inl ⟨reason, .unreadable path reason⟩

/-- The values of the variables are shown as they are read. -/
lemma overrideEvent {o : Override} (ho : o ∈ Override.all) (value : o.α) :
    Told (o.event value) := by
  have hshown : breaks o.label = 0 ∧ ∀ value, breaks (o.shown value) = 0 := by
    simp only [Override.all, List.mem_cons, List.not_mem_nil, or_false] at ho
    rcases ho with rfl | rfl | rfl | rfl
    · exact ⟨by decide, Ipv6.breaks_text⟩
    · exact ⟨by decide, breaks_nat⟩
    · exact ⟨by decide, Ipv6.breaks_text⟩
    · exact ⟨by decide, breaks_nat⟩
  exact plain rfl (by simp +decide [Event.asIs, Override.event, hshown])

lemma finalEvent (c : NodeConfig) : Told c.finalEvent := by
  have htarget : breaks (NodeConfig.targetText c.requestTarget) = 0 := by
    cases c.requestTarget with
    | none => decide
    | some a => simp +decide [NodeConfig.targetText]
  exact plain rfl (by simp +decide [Event.asIs, NodeConfig.finalEvent, htarget])

end Told

/-! ## Making messages -/

namespace Wire

variable {σ α : Type}

/-- The script without its events. -/
def Script.mute : Script σ α → Script σ α
  | done a => done a
  | call c next => call c fun x => (next x).mute
  | read next => read fun s => (next s).mute
  | write context next => write context next.mute
  | emit _ next => next.mute

/-- A muted script does the same, and logs nothing. -/
lemma Script.run_mute (script : Script σ α) (s : Session σ) (events : List Event) :
    script.mute.run { s with events } =
      ((script.run s).1, { (script.run s).2 with events }) := by
  induction script generalizing s with
  | done a => rfl
  | call c next ih => exact ih _ { s with draft := _, calls := _ }
  | read next ih => exact ih s.context s
  | write context next ih => exact ih { s with context }
  | emit e next ih => exact ih { s with events := e :: s.events }

/-- The provider without its events, so that only the writer says something. -/
def ContentProvider.mute (p : ContentProvider σ) : ContentProvider σ where
  type := p.type
  addHeader := ExceptT.mk p.addHeader.run.mute
  addAddresses := ExceptT.mk p.addAddresses.run.mute
  finish s := { p.finish s with events := [] }
  abort s := { p.abort s with events := [] }

namespace MessageWriter

/-- What is logged while a message is made: the events of the callbacks, and among them what the
writer says of the message. -/
lemma mem_events_create {w : MessageWriter} {p : ContentProvider σ} {context : σ} {e : Event}
    (he : e ∈ (w.create p context).events) :
    ∃ width, w.width? p.type = some width ∧
      let s := (compose p (w.opening p context width)).2.2
      (e ∈ s.events ∨ (∃ d size, e = createdEvent p.type d size) ∨
        (∃ cause, (w.create p context).result = .error cause ∧ e = failedEvent p.type cause) ∨
        e ∈ (p.ending (w.create p context).result s.context).events) := by
  cases hwidth : w.width? p.type with
  | none =>
    rw [create_unregistered hwidth] at he
    exact absurd he List.not_mem_nil
  | some width =>
    refine ⟨width, rfl, ?_⟩
    rcases hcompose : compose p (w.opening p context width) with ⟨r, callbacks, s⟩
    rcases create_ends hwidth hcompose with ⟨cause, hcreate⟩ | ⟨packet, message, hcreate⟩
    all_goals
      rw [hcreate] at he ⊢
      rcases List.mem_append.1 he with he | he
      · exact .inl (List.mem_reverse.1 he)
      rcases List.mem_cons.1 he with rfl | he
    · exact .inr (.inr (.inl ⟨cause, rfl, rfl⟩))
    · exact .inr (.inr (.inr he))
    · exact .inr (.inl ⟨_, _, rfl⟩)
    · exact .inr (.inr (.inr he))

/-- The callbacks of a muted provider log nothing. -/
lemma events_compose_mute (w : MessageWriter) (p : ContentProvider σ) (context : σ) (width : ℕ) :
    (compose p.mute (w.opening p.mute context width)).2.2.events = [] := by
  have hheader := p.addHeader.run.run_mute (w.opening p context width) []
  rcases hrun : p.addHeader.run.run (w.opening p context width) with ⟨e | done, headed⟩
  all_goals rw [hrun] at hheader
  · have hmute : p.mute.addHeader.run.run (w.opening p.mute context width) =
        (.error e, { headed with events := [] }) := hheader
    unfold compose
    rw [hmute]
  · have hmute : p.mute.addHeader.run.run (w.opening p.mute context width) =
        (.ok (), { headed with events := [] }) := hheader
    rw [compose_of_header hmute]
    exact congrArg (fun r => r.2.events) (p.addAddresses.run.run_mute headed [])

lemma events_ending_mute (p : ContentProvider σ) (result : Except WireError Unit) (context : σ) :
    (p.mute.ending result context).events = [] := by
  cases result <;> rfl

/-- Whatever a provider does, what the writer says of its message is told. -/
lemma told_create_mute (w : MessageWriter) (p : ContentProvider σ) (context : σ) :
    ∀ e ∈ (w.create p.mute context).events, Told e := by
  intro e he
  obtain ⟨width, -, hcallback | ⟨d, size, rfl⟩ | ⟨cause, -, rfl⟩ | hlast⟩ := mem_events_create he
  · rw [events_compose_mute] at hcallback
    exact absurd hcallback List.not_mem_nil
  · exact .createdEvent _ d size
  · exact .failedEvent _ cause
  · rw [events_ending_mute] at hlast
    exact absurd hlast List.not_mem_nil

end MessageWriter

end Wire

namespace RouteMessage

variable {w : MessageWriter} {m : RouteMessage} {data : RouteData} {n : Numbering}

/-- The content of a route message passes errors on. -/
lemma passesOn (m : RouteMessage) (data : RouteData) : (m.content data).PassesOn := by
  have hheader : (headerScript data : CallbackScript Numbering Unit).run.PassesOn :=
    CallbackScript.passesOn_bind (CallbackScript.passesOn_tell fun _ => rfl) fun _ =>
      CallbackScript.passesOn_tell fun _ => rfl
  have htake :
      (ExceptT.lift (Script.step Numbering.take) : CallbackScript Numbering SeqNum).run.PassesOn :=
    .read fun _ => .write _ (.emit _ (.done _))
  cases m with
  | request =>
    refine ⟨hheader, ?_⟩
    refine CallbackScript.passesOn_bind (CallbackScript.passesOn_addAddress _ _) fun _ => ?_
    refine CallbackScript.passesOn_bind (CallbackScript.passesOn_addAddress _ _) fun _ => ?_
    refine CallbackScript.passesOn_bind (CallbackScript.passesOn_addTlv _ _ _ _) fun _ => ?_
    exact CallbackScript.passesOn_addTlv _ _ _ _
  | reply =>
    refine ⟨hheader, CallbackScript.passesOn_bind htake fun _ => ?_⟩
    refine CallbackScript.passesOn_bind (CallbackScript.passesOn_addAddress _ _) fun _ => ?_
    refine CallbackScript.passesOn_bind (CallbackScript.passesOn_addAddress _ _) fun _ => ?_
    refine CallbackScript.passesOn_bind (CallbackScript.passesOn_addTlv _ _ _ _) fun _ => ?_
    refine CallbackScript.passesOn_bind (CallbackScript.passesOn_addTlv _ _ _ _) fun _ => ?_
    exact CallbackScript.passesOn_addTlv _ _ _ _

lemma told_create (w : MessageWriter) (m : RouteMessage) (data : RouteData) (n : Numbering) :
    ∀ e ∈ (w.create (m.content data) n).events, Told e := by
  intro e he
  obtain ⟨width, -, hcallback | ⟨d, size, rfl⟩ | ⟨cause, -, rfl⟩ | hlast⟩ :=
    MessageWriter.mem_events_create he
  · rw [m.events_compose data width e hcallback]
    exact .advanceEvent n.store
  · exact .createdEvent _ d size
  · exact .failedEvent _ cause
  · exact Told.ending m data _ _ e hlast

/-- A route message that cannot be built has an error on one line. -/
lemma breaks_reason {cause : WireError}
    (h : (w.create (m.content data) n).result = .error cause) : breaks cause.reason = 0 := by
  rcases MessageWriter.error_create (m.passesOn data) h with rfl | hown
  · rfl
  · exact hown.breaks_reason

end RouteMessage

/-! ## Sending -/

namespace RouteSender

variable {τ : Type}

lemma told_flush (w : MessageWriter) (d : Delivery) (t : Transport τ) (s : τ) :
    ∀ e ∈ (w.flush (d.target t) s).events, Told e := by
  unfold MessageWriter.flush
  split
  · exact List.forall_mem_nil _
  · refine List.forall_mem_append.2 ⟨?_, List.forall_mem_singleton.2 (.flushedEvent _ _)⟩
    show ∀ e ∈ d.events (t.send w.packet.bytes d.nextHop s).1, Told e
    cases (t.send w.packet.bytes d.nextHop s).1 with
    | ok done => exact List.forall_mem_nil _
    | error cause => exact List.forall_mem_singleton.2 (.notTaken d cause)

lemma told_deliver (s : RouteSender τ) (t : Transport τ) (store : Store) (m : RouteMessage) :
    ∀ e ∈ (s.deliver t store m).events, Told e := by
  have hflush := told_flush s.writer s.delivery t s.transport
  simp only [deliver]
  split
  · exact hflush
  · exact List.forall_mem_append.2 ⟨hflush, List.forall_mem_singleton.2 (.sentEvent _ _ _)⟩

lemma told_emit (s : RouteSender τ) (t : Transport τ) (store : Store) (m : RouteMessage) :
    ∀ e ∈ (s.emit t store m).events, Told e := by
  have hcreate := m.told_create s.writer s.delivery.data { store, reserved := s.reserved }
  simp only [emit, conclude]
  split
  · next cause hresult =>
    exact List.forall_mem_append.2 ⟨hcreate, List.forall_mem_singleton.2
      (.encodeFailedEvent m (RouteMessage.breaks_reason hresult))⟩
  · exact List.forall_mem_append.2 ⟨hcreate, told_deliver _ t _ m⟩

/-- A message that could not be built is reported on one line. -/
lemma breaks_reason_emit {s : RouteSender τ} {t : Transport τ} {store : Store} {m : RouteMessage}
    {cause : WireError} (h : (s.emit t store m).answer = .error (.encode cause)) :
    breaks cause.reason = 0 := by
  simp only [emit, conclude] at h
  split at h
  · next cause' hresult =>
    obtain rfl : cause' = cause := by simpa using h
    exact RouteMessage.breaks_reason hresult
  · simp only [deliver] at h
    split at h <;> exact absurd h (by simp)

lemma told_send (s : RouteSender τ) (t : Transport τ) (store : Store) (m : RouteMessage)
    (data : RouteData) (nextHop : Ipv6) : ∀ e ∈ (s.send t store m data nextHop).events, Told e := by
  rw [send]
  cases validate data nextHop with
  | error e => exact List.forall_mem_nil _
  | ok done => exact List.forall_mem_cons.2 ⟨.sendEvent m data nextHop, told_emit _ t store m⟩

lemma told_request (c : NodeConfig) (t : Transport τ) (store : Store) (s : RouteSender τ)
    (target : Ipv6) : ∀ e ∈ (c.requestRoute t store s target).events, Told e := by
  refine List.forall_mem_append.2 ⟨told_send _ _ _ _ _ _, List.forall_mem_singleton.2
    (.requestEvent target fun cause hcause => ?_)⟩
  rw [send] at hcause
  cases hvalid : validate (c.requestData store target) linkLocalRouters with
  | error e =>
    obtain ⟨role, rfl⟩ := exists_of_validate hvalid
    rw [hvalid] at hcause
    exact absurd hcause (by simp)
  | ok done =>
    rw [hvalid] at hcause
    exact breaks_reason_emit hcause

end RouteSender

/-! ## All that is logged -/

lemma Store.told_run (s : Store) (ops : List Store.Op) : ∀ e ∈ (s.run ops).events, Told e := by
  have happly : ∀ (s : Store) (op : Store.Op), ∀ e ∈ (s.apply op).events, Told e := by
    intro s op
    cases op with
    | current => exact List.forall_mem_nil _
    | increment => exact List.forall_mem_singleton.2 (.advanceEvent s)
    | reserve => exact List.forall_mem_singleton.2 (.advanceEvent s)
    | release issued => exact Told.releaseEvents issued s
  induction ops generalizing s with
  | nil => exact List.forall_mem_nil _
  | cons op ops ih => exact List.forall_mem_append.2 ⟨happly s op, ih _⟩

namespace Wire.MessageWriter

lemma told_registerMessage (w : MessageWriter) (type : MsgType) (width : ℕ) :
    ∀ e ∈ (w.registerMessage type width).events, Told e := by
  unfold registerMessage
  split_ifs
  · exact List.forall_mem_nil _
  · exact List.forall_mem_nil _
  · exact List.forall_mem_singleton.2 (.plain rfl (by simp +decide [Event.asIs, FieldValue.asIs]))

lemma told_registerProvider (w : MessageWriter) (type : MsgType) (table : List TlvType) :
    ∀ e ∈ (w.registerProvider type table).events, Told e := by
  unfold registerProvider
  split_ifs
  · exact List.forall_mem_nil _
  · exact List.forall_mem_singleton.2 (.plain rfl (by simp +decide [Event.asIs, FieldValue.asIs]))

/-- A target that logs nothing itself leaves it to the writer. -/
lemma told_flush {ε τ : Type} (w : MessageWriter) (send : List UInt8 → τ → Except ε Unit × τ)
    (t : τ) : ∀ e ∈ (w.flush (fun packet t =>
      { answer := (send packet t).1, state := (send packet t).2 }) t).events, Told e := by
  unfold flush
  split
  · exact List.forall_mem_nil _
  · exact List.forall_mem_singleton.2 (.flushedEvent _ _)

end Wire.MessageWriter

lemma RouteSender.told_registerAll (ms : List RouteMessage) (w : MessageWriter) :
    ∀ e ∈ (registerAll ms w).events, Told e := by
  induction ms generalizing w with
  | nil => exact List.forall_mem_nil _
  | cons m ms ih =>
    have htable := w.told_registerProvider m.type m.table
    have hwidth :=
      (w.registerProvider m.type m.table).state.told_registerMessage m.type nodeAddressLength
    simp only [registerAll]
    split
    · exact htable
    · split
      · exact List.forall_mem_append.2 ⟨htable, hwidth⟩
      · exact List.forall_mem_append.2 ⟨List.forall_mem_append.2 ⟨htable, hwidth⟩, ih _⟩

lemma Override.told_applyAll {overrides : List Override} (h : ∀ o ∈ overrides, o ∈ all)
    (env : Environment) (c : NodeConfig) : ∀ e ∈ (applyAll overrides env c).events, Told e := by
  induction overrides generalizing c with
  | nil => exact List.forall_mem_nil _
  | cons o rest ih =>
    obtain ⟨hfirst, hrest⟩ := List.forall_mem_cons.1 h
    refine List.forall_mem_append.2 ⟨?_, ih hrest _⟩
    unfold apply
    split
    · exact List.forall_mem_nil _
    · exact List.forall_mem_singleton.2 (.overrideEvent hfirst _)

/-- What the program can log, by what it does. -/
inductive Logged : Event → Prop
  | store {s : Store} {ops : List Store.Op} {e : Event} (h : e ∈ (s.run ops).events) : Logged e
  | registerMessage {w : MessageWriter} {type : MsgType} {width : ℕ} {e : Event}
      (h : e ∈ (w.registerMessage type width).events) : Logged e
  | registerProvider {w : MessageWriter} {type : MsgType} {table : List TlvType} {e : Event}
      (h : e ∈ (w.registerProvider type table).events) : Logged e
  /-- What a writer says of the message of a provider, whatever the provider is. -/
  | create {σ : Type} {w : MessageWriter} {p : ContentProvider σ} {context : σ} {e : Event}
      (h : e ∈ (w.create p.mute context).events) : Logged e
  | createRoute {w : MessageWriter} {m : RouteMessage} {data : RouteData} {n : Numbering}
      {e : Event} (h : e ∈ (w.create (m.content data) n).events) : Logged e
  /-- What a writer says of a packet, whatever the target is. -/
  | flush {ε τ : Type} {w : MessageWriter} {send : List UInt8 → τ → Except ε Unit × τ} {t : τ}
      {e : Event} (h : e ∈ (w.flush (fun packet t =>
        { answer := (send packet t).1, state := (send packet t).2 }) t).events) : Logged e
  | deliver {τ : Type} {w : MessageWriter} {d : Delivery} {t : Transport τ} {s : τ} {e : Event}
      (h : e ∈ (w.flush (d.target t) s).events) : Logged e
  | new {τ : Type} {config : WriterConfig} {transport : τ} {e : Event}
      (h : e ∈ (RouteSender.new config transport).events) : Logged e
  | send {τ : Type} {s : RouteSender τ} {t : Transport τ} {store : Store} {m : RouteMessage}
      {data : RouteData} {nextHop : Ipv6} {e : Event}
      (h : e ∈ (s.send t store m data nextHop).events) : Logged e
  | request {τ : Type} {c : NodeConfig} {t : Transport τ} {store : Store} {s : RouteSender τ}
      {target : Ipv6} {e : Event} (h : e ∈ (c.requestRoute t store s target).events) : Logged e
  | load {v : Type} [Record.Source v] {reader : DocumentReader v} {path : String}
      {file : FileState} {env : Environment} {e : Event}
      (h : e ∈ (NodeConfig.load reader path file env).events) : Logged e

namespace Logged

lemma told {e : Event} (h : Logged e) : Told e := by
  cases h with
  | store h => exact Store.told_run _ _ e h
  | registerMessage h => exact MessageWriter.told_registerMessage _ _ _ e h
  | registerProvider h => exact MessageWriter.told_registerProvider _ _ _ e h
  | create h => exact MessageWriter.told_create_mute _ _ _ e h
  | createRoute h => exact RouteMessage.told_create _ _ _ _ e h
  | flush h => exact MessageWriter.told_flush _ _ _ e h
  | deliver h => exact RouteSender.told_flush _ _ _ _ e h
  | new h =>
    exact List.forall_mem_append.2 ⟨RouteSender.told_registerAll _ _,
      List.forall_mem_singleton.2 (.openedEvent _)⟩ e h
  | send h => exact RouteSender.told_send _ _ _ _ _ _ e h
  | request h => exact RouteSender.told_request _ _ _ _ _ e h
  | load h =>
    exact List.forall_mem_cons.2 ⟨.fileEvent _ _, List.forall_mem_append.2
      ⟨Override.told_applyAll (fun _ ho => ho) _ _,
        List.forall_mem_singleton.2 (.finalEvent _)⟩⟩ e h

end Logged

/-- The line of an event breaks where its texts do. -/
lemma Log.Event.BreaksAs.lineText {e : Event} {outside : String} (h : e.BreaksAs outside)
    (style : LineStyle) {time : String} (htime : breaks time = 0)
    (hservice : breaks style.service = 0) :
    breaks (style.lineText time e) = breaks outside := by
  have hname : breaks (componentName style.service e.component) = 0 := by
    cases hcomponent : e.component with
    | none => exact hservice
    | some component =>
      have hdash : breaks "-" = 0 := rfl
      rw [componentName, breaks_append, breaks_append, hservice, hdash,
        h.component component hcomponent]
  rw [style.breaks_lineText htime hname, h.texts]

/-- **One event, one line, but for the texts of outside.**  Whatever the program logs, and in whatever
style and at whatever time it is shown: the line ends with a line break, and besides this one it has
exactly as many as the text of outside that the event carries, and none if the event carries no such
text. -/
theorem Logged.line_breaks {e : Event} (h : Logged e) (style : LineStyle) {time : String}
    (htime : breaks time = 0) (hservice : breaks style.service = 0) :
    ∃ text, style.line time e = text ++ "\n" ∧
      (∀ outside, Carries e outside → breaks text = breaks outside) ∧
      ((∀ outside, ¬ Carries e outside) → breaks text = 0) := by
  refine ⟨style.lineText time e, rfl,
    fun outside hcarries => hcarries.breaksAs.lineText style htime hservice, fun hnone => ?_⟩
  rcases h.told with ⟨outside, hcarries⟩ | hplain
  · exact absurd hcarries (hnone outside)
  · exact hplain.lineText style htime hservice

namespace RouteSender

/-- A transport that takes no packet, and gives a reason of two lines. -/
def refuseAtLength : Transport Unit := ⟨fun _ _ s => (.error (.io "no route\nno link"), s)⟩

/-- What is logged of a packet that was refused for this reason. -/
def refusedEvent : Event :=
  Delivery.failedEvent { nextHop := .localhost } (.io "no route\nno link")

/-- A new sender that hands a request to this transport logs the reason. -/
lemma logged_refusedEvent : Logged refusedEvent := by
  have hfits : ¬ RouteMessage.request.TooLarge {} sampleData := by
    unfold RouteMessage.TooLarge
    decide
  have hvalid : validate sampleData .localhost = .ok () := rfl
  obtain ⟨hanswer, -⟩ :=
    (Reachable.new ()).idle.send_of_fits refuseAtLength ⟨1⟩ .request hvalid hfits
  have hsaid := ((new {} ()).state.send_accounts refuseAtLength ⟨1⟩ .request sampleData
    .localhost).verdict
  rw [hanswer] at hsaid
  have hmem : refusedEvent ∈ ((new {} ()).state.send refuseAtLength ⟨1⟩ .request sampleData
      .localhost).events.filter Event.isVerdict := by
    rw [hsaid]
    exact List.mem_singleton_self refusedEvent
  exact .send (List.mem_of_mem_filter hmem)

/-- The reason is on two lines, and so is the event. -/
theorem refused_on_two_lines :
    Logged refusedEvent ∧ breaks (LineStyle.line ⟨"aodvv2", false⟩ "" refusedEvent) = 2 := by
  refine ⟨logged_refusedEvent, ?_⟩
  have htext : breaks (LineStyle.lineText ⟨"aodvv2", false⟩ "" refusedEvent) = _ :=
    (Delivery.breaksAs_failedEvent _ _).lineText _ rfl rfl
  have hreason : breaks (TransportError.io "no route\nno link").reason = 1 := by decide
  rw [LineStyle.line, breaks_append, htext, hreason]
  decide

/-- The reason of two lines breaks the line once; the event of a new sender carries nothing. -/
theorem refused_line_breaks :
    breaks "" = 0 ∧ breaks "aodvv2" = 0 ∧ Logged refusedEvent ∧ Logged (openedEvent {}) ∧
      (∃ text, LineStyle.line ⟨"aodvv2", false⟩ "" refusedEvent = text ++ "\n" ∧
        breaks text = 1) ∧
      ∃ text, LineStyle.line ⟨"aodvv2", false⟩ "" (openedEvent {}) = text ++ "\n" ∧
        breaks text = 0 := by
  have htime : breaks "" = 0 := rfl
  have hservice : breaks "aodvv2" = 0 := rfl
  have hopened : Logged (openedEvent {}) :=
    @Logged.new Unit {} () _ (List.mem_append_right _ (List.mem_singleton_self _))
  obtain ⟨text, hline, hbreaks, -⟩ :=
    logged_refusedEvent.line_breaks ⟨"aodvv2", false⟩ htime hservice
  obtain ⟨text', hline', -, hnone⟩ := hopened.line_breaks ⟨"aodvv2", false⟩ htime hservice
  refine ⟨htime, hservice, logged_refusedEvent, hopened, ⟨text, hline, ?_⟩, ⟨text', hline', ?_⟩⟩
  · exact (hbreaks _ (.notTaken _ _)).trans (by decide)
  · exact hnone fun outside hcarries => hcarries.level_ne_info rfl

end RouteSender

end RouteDiscovery
