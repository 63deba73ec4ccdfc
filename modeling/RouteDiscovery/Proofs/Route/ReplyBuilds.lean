/-
# Replies under construction

A reply takes its number from the node's store when its addresses are added.  While it is built
others work on the store (`RouteMessage.replyAmid`), and the build may fail anywhere, so the number
has to find its end: it is spent when the reply is in the packet, and offered back otherwise.

A `ReplyMaker` is a message writer with the numbers of its replies.  It is put through replies,
other operations on its writer, and work of others on the store.  What is seen of one reply is what
building it gives (`ReplyMaker.made`) and its callbacks, each with the numbers that it finds
(`ReplyMaker.notes`).  `ReplyMaker.finishes_or_aborts_once` says that a number in the cell is always
the number of the reply at hand.
-/
import RouteDiscovery.Proofs.SeqNum.Reservations
import RouteDiscovery.Proofs.Wire.Interleaving
import RouteDiscovery.Route.Content

namespace RouteDiscovery

open Wire MessageWriter

/-! ## One reply -/

/-- The numbers after others have worked on the store. -/
def Numbering.worked (ops : List Store.Op) (n : Numbering) : Numbering :=
  (n.onStore (·.run ops)).state

lemma Numbering.changed_worked (others : List (List Store.Op)) (n : Numbering) :
    changed (others.map worked) n =
      { store := (n.store.run others.flatten).state, reserved := n.reserved } := by
  induction others generalizing n with
  | nil => rfl
  | cons ops others ih =>
    have hrest := ih (n.worked ops)
    rw [List.flatten_cons, (Store.run_append _ _ _).1]
    exact hrest

namespace RouteMessage

/-- What fills in a reply while others work on the store: before each of its calls, and at the end
of its addresses. -/
def replyAmid (data : RouteData) (others : List (List Store.Op)) : ContentProvider Numbering :=
  (reply.content data).amid (others.map Numbering.worked)

/-- What a reply adds when it has taken its number. -/
def replyParts (data : RouteData) (number : SeqNum) : CallbackScript Numbering Unit := do
  let originator ← CallbackScript.addAddress (.ofIpv6 data.originator.addr) true
  let target ← CallbackScript.addAddress (.ofIpv6 data.target.addr) true
  addTlvOnce originator .originatorSeqNum (wordBytes data.originator.seqNum)
  addTlvOnce target .targetSeqNum (wordBytes number)
  addTlvOnce target .metric [data.target.metric]

lemma run_replyScript (data : RouteData) : (replyScript data).run =
    (Script.step Numbering.take).bind fun number => (replyParts data number).run := rfl

lemma quiet_replyParts (data : RouteData) (number : SeqNum) :
    (replyParts data number).run.Quiet := by
  refine CallbackScript.quiet_bind (CallbackScript.quiet_addAddress _ _) fun originator => ?_
  refine CallbackScript.quiet_bind (CallbackScript.quiet_addAddress _ _) fun target => ?_
  refine CallbackScript.quiet_bind (CallbackScript.quiet_addTlv _ _ _ _) fun _ => ?_
  refine CallbackScript.quiet_bind (CallbackScript.quiet_addTlv _ _ _ _) fun _ => ?_
  exact CallbackScript.quiet_addTlv _ _ _ _

/-- A reply takes its number first, and then it leaves the numbers to the others. -/
lemma run_amid_replyScript (data : RouteData) (changes : List (Numbering → Numbering))
    (s : Session Numbering) :
    let alone := (replyScript data).run.run s
    ((replyScript data).run.amid changes).run s =
        (alone.1, { alone.2 with context := changed changes s.context.take.state }) ∧
      alone.2.events = s.context.take.events.reverse ++ s.events := by
  have hquiet := quiet_replyParts data s.context.take.answer
  have hparts := hquiet.run_amid changes
    { s with context := s.context.take.state, events := s.context.take.events.reverse ++ s.events }
    s.context.take.state
  rw [run_replyScript]
  exact ⟨hparts, hquiet.events_run _⟩

/-- The events of steps on the store. -/
def storeEvents (events : List Log.Event) : List Log.Event :=
  events.filter fun e =>
    e.message = "sequence number incremented" ∨ e.message = "sequence number released"

variable {w : MessageWriter} {n : Numbering} {width : ℕ} (data : RouteData)
  (others : List (List Store.Op))

/-- The callbacks of a reply come to what they come to alone.  They leave the number of the store in
the cell, and the store as the others have left it. -/
lemma compose_replyAmid (w : MessageWriter) (n : Numbering) (width : ℕ) :
    let alone := compose (reply.content data) (w.opening (reply.content data) n width)
    compose (replyAmid data others) (w.opening (replyAmid data others) n width) =
        (alone.1, alone.2.1, { alone.2.2 with
          context := { store := (n.store.advance.run others.flatten).state
                       reserved := some n.store.value } }) ∧
      alone.2.2.events = [n.store.advanceEvent] := by
  obtain ⟨headed, hheader, hcontext, hevents⟩ : ∃ headed,
      (reply.content data).addHeader.run.run (w.opening (reply.content data) n width) =
        (.ok (), headed) ∧ headed.context = n ∧ headed.events = [] :=
    ⟨_, rfl, rfl, rfl⟩
  have hheader' : (replyAmid data others).addHeader.run.run
      (w.opening (replyAmid data others) n width) = (.ok (), headed) := hheader
  obtain ⟨haddresses, hevents'⟩ :=
    run_amid_replyScript data (others.map Numbering.worked) headed
  rw [Numbering.changed_worked, hcontext] at haddresses
  rw [hevents, hcontext] at hevents'
  have hamid : (replyAmid data others).addAddresses.run.run headed = _ := haddresses
  rw [compose_of_header hheader, compose_of_header hheader', hamid]
  exact ⟨rfl, hevents'⟩

/-- What comes of a reply does not depend on the others. -/
lemma result_replyAmid (w : MessageWriter) (n : Numbering) :
    (w.create (replyAmid data others) n).result = (w.create (reply.content data) n).result := by
  cases hwidth : w.width? reply.type with
  | none =>
    have halone : w.width? (reply.content data).type = none := hwidth
    have hamid : w.width? (replyAmid data others).type = none := hwidth
    rw [create_unregistered halone, create_unregistered hamid]
    rfl
  | some width =>
    have halone : w.width? (reply.content data).type = some width := hwidth
    have hamid : w.width? (replyAmid data others).type = some width := hwidth
    have hsame := (compose_replyAmid data others w n width).1
    rcases hcompose : compose (reply.content data) (w.opening (reply.content data) n width) with
      ⟨e | done, callbacks, s⟩ <;> rw [hcompose] at hsame
    · rw [create_rejected halone hcompose, create_rejected hamid hsame]
      rfl
    · -- the draft is the same, so it fits or does not fit with the others as it does alone
      cases happend : w.appendDraft reply.type s.draft with
      | error e =>
        rw [create_refused halone hcompose happend, create_refused hamid hsame happend]
        rfl
      | ok packed =>
        rw [create_finished halone hcompose happend, create_finished hamid hsame happend]
        rfl

/-- The callbacks of a reply, each with the numbers that it finds. -/
lemma noted_replyAmid (hwidth : w.width? reply.type = some width) :
    w.noted (replyAmid data others) n =
      [⟨.header, n⟩, ⟨.addresses, n⟩, ⟨lastCallback (w.create (replyAmid data others) n).result,
        (n.store.advance.run others.flatten).state, some n.store.value⟩] := by
  have hwidth' : w.width? (replyAmid data others).type = some width := hwidth
  rw [MessageWriter.noted, hwidth']
  simp only [(compose_replyAmid data others w n width).1]
  rfl

/-- A reply takes one number, and the rest is up to its last callback. -/
lemma create_replyAmid (hwidth : w.width? reply.type = some width) :
    let made := w.create (replyAmid data others) n
    let last := (replyAmid data others).ending made.result
      { store := (n.store.advance.run others.flatten).state, reserved := some n.store.value }
    made.context = last.state ∧
      storeEvents made.events = n.store.advanceEvent :: storeEvents last.events := by
  intro made last
  have hwidth' : w.width? (replyAmid data others).type = some width := hwidth
  obtain ⟨hcontext, said, -, hsaid, hevents⟩ : made.context = _ ∧ _ := create_ending hwidth'
  obtain ⟨hcompose, hbegun⟩ := compose_replyAmid data others w n width
  simp only [hcompose] at hcontext hevents
  rw [hbegun] at hevents
  refine ⟨hcontext, ?_⟩
  -- what the writer says of the message is no step on the store
  have hother : storeEvents [said] = [] := by
    rcases hsaid with hsaid | hsaid <;> simp [storeEvents, hsaid]
  calc storeEvents made.events
      = storeEvents ([n.store.advanceEvent] ++ ([said] ++ last.events)) := congrArg _ hevents
    _ = storeEvents [n.store.advanceEvent] ++ (storeEvents [said] ++ storeEvents last.events) := by
        simp only [storeEvents, List.filter_append]
    _ = n.store.advanceEvent :: storeEvents last.events := by
        rw [hother]
        rfl

/-- A reply that is in the packet has spent its number. -/
lemma ending_ok (later : Store) (issued : SeqNum) :
    let last := (replyAmid data others).ending (.ok ()) { store := later, reserved := some issued }
    last.state = { store := later } ∧ storeEvents last.events = [] := by
  refine ⟨rfl, ?_⟩
  simp [storeEvents, ContentProvider.ending, replyAmid, ContentProvider.amid, content,
    Numbering.commit]

/-- A reply that could not be built offers its number back. -/
lemma ending_error (e : WireError) (later : Store) (issued : SeqNum) :
    let last := (replyAmid data others).ending (.error e)
      { store := later, reserved := some issued }
    last.state = { store := (later.release issued).state } ∧
      storeEvents last.events = (later.release issued).events := by
  refine ⟨rfl, ?_⟩
  simp [storeEvents, ContentProvider.ending, replyAmid, ContentProvider.amid, content,
    Numbering.handBack, Store.release]

/-- No number stays in the cell. -/
lemma reserved_create (hreserved : n.reserved = none) :
    (w.create (replyAmid data others) n).context.reserved = none := by
  cases hwidth : w.width? reply.type with
  | none =>
    have hwidth' : w.width? (replyAmid data others).type = none := hwidth
    rw [create_unregistered hwidth']
    exact hreserved
  | some width =>
    rw [(create_replyAmid data others hwidth).1]
    cases (w.create (replyAmid data others) n).result <;> rfl

end RouteMessage

/-! ## Runs of replies -/

/-- A message writer with the numbers of its replies. -/
structure ReplyMaker where
  writer : ReusingWriter
  numbers : Numbering

namespace ReplyMaker

open RouteMessage

/-- A step of a run. -/
inductive Step : Type 1 where
  /-- Any operation on the writer. -/
  | write (op : Op)
  /-- Others work on the store. -/
  | store (ops : List Store.Op)
  /-- A reply is built, and others work on the store in the meantime. -/
  | reply (data : RouteData) (others : List (List Store.Op))

/-- What building a reply gives. -/
def made (maker : ReplyMaker) (data : RouteData) (others : List (List Store.Op)) :
    Created Numbering :=
  (maker.writer.create (replyAmid data others) maker.numbers).1

/-- The callbacks of a reply, each with the numbers that it finds. -/
def notes (maker : ReplyMaker) (data : RouteData) (others : List (List Store.Op)) :
    List (CallbackNote Numbering) :=
  maker.writer.notes (replyAmid data others) maker.numbers

def step (maker : ReplyMaker) : Step → ReplyMaker
  | .write op => { maker with writer := maker.writer.step op }
  | .store ops => { maker with numbers := maker.numbers.worked ops }
  | .reply data others =>
    { writer := maker.writer.step (.create (replyAmid data others) maker.numbers)
      numbers := (maker.made data others).context }

/-- A new writer over a store, after a run. -/
def after (config : WriterConfig) (start : Store) (steps : List Step) : ReplyMaker :=
  steps.foldl step { writer := .new config, numbers := { store := start } }

/-- Between the steps the writer has some history behind it, and the cell is empty. -/
structure AtRest (config : WriterConfig) (maker : ReplyMaker) : Prop where
  writer : ∃ history, maker.writer = .after config history
  reserved : maker.numbers.reserved = none

variable {config : WriterConfig} {maker : ReplyMaker}

/-- A reply is made as in fresh memory. -/
lemma AtRest.made_eq (h : maker.AtRest config) :
    ∃ w : MessageWriter, maker.writer.toMessageWriter = w ∧
      (∀ data others, maker.made data others = w.create (replyAmid data others) maker.numbers) ∧
      ∀ data others, maker.notes data others = w.noted (replyAmid data others) maker.numbers := by
  obtain ⟨history, hhistory⟩ := h.writer
  have hmirrors := ReusingWriter.mirrors_after config history
  rw [← hhistory] at hmirrors
  refine ⟨_, hmirrors.writer, fun data others => ?_, fun data others => hmirrors.notes _ _⟩
  rw [made, hmirrors.create]

lemma AtRest.step (h : maker.AtRest config) (s : Step) : (maker.step s).AtRest config := by
  obtain ⟨history, hhistory⟩ := h.writer
  have hwriter : ∀ op, ∃ history, maker.writer.step op = .after config history := by
    intro op
    refine ⟨history ++ [op], ?_⟩
    rw [hhistory, ReusingWriter.after, ReusingWriter.after, List.foldl_append]
    rfl
  cases s with
  | write op => exact ⟨hwriter op, h.reserved⟩
  | store ops => exact ⟨⟨history, hhistory⟩, h.reserved⟩
  | reply data others =>
    refine ⟨hwriter (.create (replyAmid data others) maker.numbers), ?_⟩
    obtain ⟨w, -, hmade, -⟩ := h.made_eq
    have hreserved := reserved_create data others (w := w) h.reserved
    rw [← hmade] at hreserved
    exact hreserved

lemma atRest_after (config : WriterConfig) (start : Store) (steps : List Step) :
    (after config start steps).AtRest config := by
  have hrun : ∀ maker : ReplyMaker, maker.AtRest config →
      (steps.foldl step maker).AtRest config := by
    induction steps with
    | nil => exact fun _ h => h
    | cons s steps ih => exact fun maker h => ih (maker.step s) (h.step s)
  exact hrun _ ⟨⟨[], rfl⟩, rfl⟩

/-- Without a width there is no callback. -/
lemma AtRest.unregistered (h : maker.AtRest config) (data : RouteData)
    (others : List (List Store.Op)) (hnone : maker.writer.width? RouteMessage.reply.type = none) :
    maker.notes data others = [] ∧ (maker.made data others).context = maker.numbers := by
  obtain ⟨w, hwriter, hmade, hnotes⟩ := h.made_eq
  have hnone' : w.width? (replyAmid data others).type = none := by
    rw [← hwriter]
    exact hnone
  rw [hmade, hnotes, MessageWriter.noted, hnone', create_unregistered hnone']
  exact ⟨rfl, rfl⟩

/-- The callbacks of a reply, and what becomes of its number. -/
lemma AtRest.registered (h : maker.AtRest config) (data : RouteData)
    (others : List (List Store.Op)) (hsome : maker.writer.width? RouteMessage.reply.type ≠ none) :
    let made := maker.made data others
    let issued := maker.numbers.store.value
    let later := (maker.numbers.store.advance.run others.flatten).state
    maker.notes data others =
        [⟨.header, maker.numbers⟩, ⟨.addresses, maker.numbers⟩,
          ⟨lastCallback made.result, later, some issued⟩] ∧
      (made.result = .ok () → made.context = { store := later } ∧
        storeEvents made.events = [maker.numbers.store.advanceEvent]) ∧
      ∀ e, made.result = .error e →
        made.context = { store := (later.release issued).state } ∧
          storeEvents made.events =
            maker.numbers.store.advanceEvent :: (later.release issued).events := by
  intro made issued later
  obtain ⟨w, hwriter, hmade, hnotes⟩ := h.made_eq
  have hcreated : made = w.create (replyAmid data others) maker.numbers := hmade data others
  rw [hnotes, hcreated]
  obtain ⟨width, hwidth⟩ := Option.ne_none_iff_exists'.1 hsome
  have hwidth' : w.width? RouteMessage.reply.type = some width := by
    rw [← hwriter]
    exact hwidth
  obtain ⟨hcontext, hevents⟩ := create_replyAmid data others (n := maker.numbers) hwidth'
  refine ⟨noted_replyAmid data others hwidth', fun hok => ?_, fun e he => ?_⟩
  · obtain ⟨hstate, hnothing⟩ := ending_ok data others later issued
    rw [hcontext, hevents, hok, hnothing]
    exact ⟨hstate, rfl⟩
  · obtain ⟨hstate, hreleased⟩ := ending_error data others e later issued
    rw [hcontext, hevents, he, hreleased]
    exact ⟨hstate, rfl⟩

/-- **Exactly one of finish and abort.**  Take any run: operations on the writer, replies that end
anywhere, and work of others on the store between and during the replies.  Then

* the writer calls every provider back in order (`ReusingWriter.CallsBack`);
* no number is in the cell between the steps;
* a reply whose type has no width gets no callback and leaves the numbers;
* any other reply finds the cell empty at its first two callbacks and its own number there at its
  last.  It takes one number of the store and no other; it keeps it if the reply is in the packet;
  and otherwise it offers this number back, once. -/
theorem finishes_or_aborts_once (config : WriterConfig) (start : Store) (steps : List Step) :
    let maker := after config start steps
    (∀ {σ : Type} (p : ContentProvider σ) (context : σ), maker.writer.CallsBack p context) ∧
    maker.numbers.reserved = none ∧
    ∀ data others,
      let made := maker.made data others
      let issued := maker.numbers.store.value
      let later := (maker.numbers.store.advance.run others.flatten).state
      (maker.writer.width? RouteMessage.reply.type = none →
        maker.notes data others = [] ∧ made.context = maker.numbers) ∧
      (maker.writer.width? RouteMessage.reply.type ≠ none →
        maker.notes data others =
            [⟨.header, maker.numbers⟩, ⟨.addresses, maker.numbers⟩,
              ⟨lastCallback made.result, later, some issued⟩] ∧
          (made.result = .ok () → made.context = { store := later } ∧
            storeEvents made.events = [maker.numbers.store.advanceEvent]) ∧
          ∀ e, made.result = .error e →
            made.context = { store := (later.release issued).state } ∧
              storeEvents made.events =
                maker.numbers.store.advanceEvent :: (later.release issued).events) := by
  intro maker
  have hrest : maker.AtRest config := atRest_after config start steps
  obtain ⟨history, hhistory⟩ := hrest.writer
  refine ⟨fun p context => ?_, hrest.reserved,
    fun data others => ⟨hrest.unregistered data others, hrest.registered data others⟩⟩
  rw [hhistory]
  exact ReusingWriter.callsBack config history p context

end ReplyMaker

end RouteDiscovery
