/-
# Failed sends leave no trace

Senders share the node's sequence number.  A send may be refused because an address is unspecified,
or fail because its message cannot be built.  By then the sender has loaded the delivery, written
into its buffers and, for a reply, taken a number from the store.

Of all this nothing is seen later.  What a sender does depends on its core only, which is the sender
without the delivery at hand and the counter of encoding failures (`RouteSender.send_core`), and a
failed send leaves the core (`RouteSender.Idle.core_of_failed`).  So a run from which the failed
sends are deleted agrees with the run, step by step (`Site.failed_sends_erasable`).

The senders make their messages in fresh memory here.  Senders that reuse their memory do the same,
wherever a message stopped (`ReusingSender.send_reused`).
-/
import RouteDiscovery.Proofs.Route.ReplyNumbers

namespace RouteDiscovery

open Wire

/-- The counters without the encoding failures. -/
def SendCounts.ofTransport (c : SendCounts) : SendCounts := { c with encodeFailures := 0 }

/-! ## The core of a sender -/

namespace RouteSender

variable {τ : Type} {config : WriterConfig} {s : RouteSender τ}

/-- The sender without what a failed send changes: the delivery at hand and the counter of encoding
failures. -/
def core (s : RouteSender τ) : RouteSender τ :=
  { s with delivery := {}, counts := s.counts.ofTransport }

/-- Two sends are alike: the same answer, the same store, and the same core afterwards. -/
structure Alike (sent sent' : Sent τ) : Prop where
  answer : sent.answer = sent'.answer
  store : sent.state.2 = sent'.state.2
  core : sent.state.1.core = sent'.state.1.core

/-! The counter of encoding failures is never looked at. -/

lemma deliver_counts (s : RouteSender τ) (t : Transport τ) (store : Store) (m : RouteMessage) :
    Alike ({ s with counts := s.counts.ofTransport }.deliver t store m) (s.deliver t store m) := by
  simp only [deliver]
  cases (s.writer.flush (s.delivery.target t) s.transport).answer with
  | error e => exact ⟨rfl, rfl, rfl⟩
  | ok length => cases m <;> exact ⟨rfl, rfl, rfl⟩

lemma emit_counts (s : RouteSender τ) (t : Transport τ) (store : Store) (m : RouteMessage) :
    Alike ({ s with counts := s.counts.ofTransport }.emit t store m) (s.emit t store m) := by
  simp only [emit, conclude]
  generalize s.writer.create (m.content s.delivery.data) { store, reserved := s.reserved } = made
  cases made.result with
  | error e => exact ⟨rfl, rfl, rfl⟩
  | ok done =>
    obtain ⟨hanswer, hstore, hcore⟩ := deliver_counts
      { s with writer := made.writer, reserved := made.context.reserved } t made.context.store m
    exact ⟨hanswer, hstore, hcore⟩

/-- **A send depends on the core.** -/
theorem send_core (s : RouteSender τ) (t : Transport τ) (store : Store) (m : RouteMessage)
    (data : RouteData) (nextHop : Ipv6) :
    Alike (s.core.send t store m data nextHop) (s.send t store m data nextHop) := by
  simp only [send]
  cases validate data nextHop with
  | error e => exact ⟨rfl, rfl, rfl⟩
  | ok done =>
    obtain ⟨hanswer, hstore, hcore⟩ :=
      emit_counts { s with delivery := deliveryOf m data nextHop } t store m
    exact ⟨hanswer, hstore, hcore⟩

/-- The packets that a send hands over depend on the core. -/
lemma handed_core (s : RouteSender τ) (t : Transport τ) (store : Store) (m : RouteMessage)
    (data : RouteData) (nextHop : Ipv6) :
    s.core.handed t store m data nextHop = s.handed t store m data nextHop :=
  congrArg (·.transport.2) (s.logging.send_core t.logged store m data nextHop).core

/-! ## Failed sends -/

/-- The send was refused, or its message could not be built. -/
def isFailure : Except SendError ℕ → Bool
  | .error (.unspecified _) => true
  | .error (.encode _) => true
  | _ => false

/-- A message that could not be built is counted as such. -/
lemma counts_of_encode_failed {t : Transport τ} {store : Store} {m : RouteMessage}
    {data : RouteData} {nextHop : Ipv6} {e : WireError}
    (hfailed : (s.send t store m data nextHop).answer = .error (.encode e)) :
    (s.send t store m data nextHop).state.1.counts = s.counts.encodeFailed := by
  cases hvalid : validate data nextHop with
  | error cause =>
    obtain ⟨role, rfl⟩ := exists_of_validate hvalid
    rw [send_invalid hvalid] at hfailed
    exact absurd hfailed (by simp)
  | ok done =>
    simp only [send, hvalid, emit, conclude] at hfailed ⊢
    cases hresult : (s.writer.create (m.content (deliveryOf m data nextHop).data)
        { store, reserved := s.reserved }).result with
    | error e => rfl
    | ok made =>
      -- what the transport answers is no encoding failure
      simp only [hresult, deliver] at hfailed
      split at hfailed <;> exact absurd hfailed (by simp)

/-- **A failed send leaves the core.**  Neither has the store changed, nor was anything handed
over. -/
theorem Idle.core_of_failed (hs : s.Idle config) (t : Transport τ) (store : Store)
    (m : RouteMessage) (data : RouteData) (nextHop : Ipv6)
    (hfailed : isFailure (s.send t store m data nextHop).answer = true) :
    (s.send t store m data nextHop).state.1.core = s.core ∧
      (s.send t store m data nextHop).state.2 = store ∧
      s.handed t store m data nextHop = [] := by
  cases hvalid : validate data nextHop with
  | error e =>
    rw [handed, send_invalid hvalid, send_invalid hvalid]
    exact ⟨rfl, rfl, rfl⟩
  | ok done =>
    by_cases h : RouteMessage.TooLarge config m data
    · obtain ⟨⟨_, _, _, -, hanswer⟩, htransport, hstore, hidle⟩ :=
        hs.send_exceeded t store m hvalid h
      refine ⟨?_, hstore, (hs.handed_eq t store m hvalid).1 h⟩
      unfold core
      rw [hidle.writer, hs.writer, hidle.reserved, hs.reserved, htransport,
        counts_of_encode_failed hanswer]
      rfl
    · -- a message that fits is handed over, so this send has not failed
      obtain ⟨hanswer, -, -, -⟩ := hs.send_of_fits t store m hvalid h
      have hnone : ∀ length r, isFailure (answerOf length r) = false := by
        intro length r
        cases r <;> rfl
      rw [hanswer, hnone] at hfailed
      exact absurd hfailed (by simp)

end RouteSender

/-! ## Steps of a site -/

/-- A step of a site: a send of one of its senders, or an operation on the shared number. -/
inductive Step (τ : Type) where
  | send (call : SendCall τ)
  | store (op : Store.Op)

/-- What a step answers. -/
inductive StepAnswer where
  /-- There is no answer without the sender that is asked for. -/
  | sent (answer : Option (Except SendError ℕ))
  | stored (answer : Store.Answer)

/-- What is seen of a step. -/
structure StepRecord where
  answer : StepAnswer
  /-- The store after the step. -/
  store : Store

/-- Whether the step is a failed send. -/
def StepRecord.isFailure (r : StepRecord) : Bool :=
  match r.answer with
  | .sent (some answer) => RouteSender.isFailure answer
  | _ => false

namespace Site

variable {τ : Type} {site site' : Site τ}

/-- The site after a step. -/
def step (site : Site τ) : Step τ → Site τ
  | .send call => site.perform call
  | .store op => (site.onStore op 1).state

/-- What is seen of a step. -/
def observe (site : Site τ) (s : Step τ) : StepRecord where
  answer := match s with
    | .send call =>
      .sent (site.send call.transport call.index call.message call.data call.nextHop).answer
    | .store op => .stored (site.onStore op 1).answer
  store := (site.step s).store

/-- The packets that a step hands over to the transport of the sender at an index. -/
def arriving (site : Site τ) (index : ℕ) : Step τ → List HandedOver
  | .send call => if call.index = index then site.handed call else []
  | .store _ => []

/-! A run is a list of steps. -/

/-- The site after a run. -/
def finish (site : Site τ) (steps : List (Step τ)) : Site τ := steps.foldl step site

/-- What is seen of a run. -/
def observations : Site τ → List (Step τ) → List StepRecord
  | _, [] => []
  | site, s :: steps => site.observe s :: (site.step s).observations steps

/-- The packets that a run hands over to the transport of the sender at an index. -/
def arrivals (index : ℕ) : Site τ → List (Step τ) → List HandedOver
  | _, [] => []
  | site, s :: steps => site.arriving index s ++ (site.step s).arrivals index steps

/-- The run without its failed sends. -/
def withoutFailures : Site τ → List (Step τ) → List (Step τ)
  | _, [] => []
  | site, s :: steps =>
    if (site.observe s).isFailure then (site.step s).withoutFailures steps
    else s :: (site.step s).withoutFailures steps

/-! ## One step -/

/-- The site with the cores of its senders. -/
def core (site : Site τ) : Site τ := { site with senders := site.senders.map RouteSender.core }

lemma senders_core (site : Site τ) (index : ℕ) :
    site.core.senders[index]? = site.senders[index]?.map RouteSender.core := List.getElem?_map

lemma counts_core (site : Site τ) : site.core.senders.map (·.counts) =
    site.senders.map fun s => { s.counts with encodeFailures := 0 } := List.map_map

lemma map_core_core (senders : List (RouteSender τ)) :
    (senders.map RouteSender.core).map RouteSender.core = senders.map RouteSender.core :=
  List.map_map

lemma core_set (store : Store) (senders : List (RouteSender τ)) (index : ℕ) (s : RouteSender τ) :
    core { store, senders := senders.set index s } =
      { store, senders := (senders.map RouteSender.core).set index s.core } := by
  rw [core, List.map_set]

/-- A send of a sender that is there. -/
lemma send_some {call : SendCall τ} {sender : RouteSender τ}
    (hsome : site.senders[call.index]? = some sender) :
    let sent := sender.send call.transport site.store call.message call.data call.nextHop
    site.observe (.send call) = ⟨.sent (some sent.answer), sent.state.2⟩ ∧
      site.handed call =
        sender.handed call.transport site.store call.message call.data call.nextHop ∧
      site.step (.send call) =
        { store := sent.state.2, senders := site.senders.set call.index sent.state.1 } := by
  simp only [observe, step, perform, Site.send, handed, hsome, and_self]

/-- A site without the sender that is asked for does nothing. -/
lemma send_missing {call : SendCall τ} (hnone : site.senders[call.index]? = none) :
    site.observe (.send call) = ⟨.sent none, site.store⟩ ∧ site.handed call = [] ∧
      site.step (.send call) = site := by
  simp only [observe, step, perform, Site.send, handed, hnone, and_self]

/-- Two sites take a step alike: nothing that is seen tells them apart, and the cores agree
afterwards. -/
structure TakenAlike (site site' : Site τ) (s : Step τ) : Prop where
  observed : site.observe s = site'.observe s
  arriving : ∀ index, site.arriving index s = site'.arriving index s
  core : (site.step s).core = (site'.step s).core

lemma takenAlike_core (site : Site τ) (s : Step τ) : TakenAlike site.core site s := by
  cases s with
  | store op =>
    refine ⟨rfl, fun _ => rfl, ?_⟩
    show Site.mk _ ((site.senders.map RouteSender.core).map RouteSender.core) = _
    rw [map_core_core]
    rfl
  | send call =>
    cases hsender : site.senders[call.index]? with
    | none =>
      obtain ⟨hobserved, hhanded, hstep⟩ := send_missing hsender
      have hnone : site.core.senders[call.index]? = none := by
        rw [senders_core, hsender]
        rfl
      obtain ⟨hobserved', hhanded', hstep'⟩ := send_missing hnone
      refine ⟨?_, fun index => ?_, ?_⟩
      · rw [hobserved, hobserved']
        rfl
      · simp only [arriving, hhanded, hhanded']
      · rw [hstep, hstep', core, core, map_core_core]
    | some sender =>
      obtain ⟨hobserved, hhanded, hstep⟩ := send_some hsender
      have hsome : site.core.senders[call.index]? = some sender.core := by
        rw [senders_core, hsender]
        rfl
      obtain ⟨hobserved', hhanded', hstep'⟩ := send_some hsome
      obtain ⟨hanswer, hstore, hcore⟩ :=
        sender.send_core call.transport site.store call.message call.data call.nextHop
      have hstore' : site.core.store = site.store := rfl
      refine ⟨?_, fun index => ?_, ?_⟩
      · rw [hobserved, hobserved', hstore', hanswer, hstore]
      · simp only [arriving, hhanded, hhanded', hstore', RouteSender.handed_core]
      · rw [hstep, hstep', core_set, core_set, hstore', hstore, hcore, core, map_core_core]

/-- A step depends on the cores. -/
lemma takenAlike (h : site.core = site'.core) (s : Step τ) : TakenAlike site site' s := by
  have hsite := takenAlike_core site s
  rw [h] at hsite
  have hsite' := takenAlike_core site' s
  exact ⟨hsite.observed.symm.trans hsite'.observed,
    fun index => (hsite.arriving index).symm.trans (hsite'.arriving index),
    hsite.core.symm.trans hsite'.core⟩

lemma AllIdle.step (h : site.AllIdle) (s : Step τ) : (site.step s).AllIdle := by
  cases s with
  | send call => exact h.perform call
  | store op => exact h

/-- A failed send leaves the cores and hands nothing over. -/
lemma AllIdle.of_failure (h : site.AllIdle) {s : Step τ}
    (hfailed : (site.observe s).isFailure = true) :
    (site.step s).core = site.core ∧ ∀ index, site.arriving index s = [] := by
  cases s with
  | store op => exact absurd hfailed (by simp [observe, StepRecord.isFailure])
  | send call =>
    cases hsender : site.senders[call.index]? with
    | none =>
      obtain ⟨hobserved, hhanded, hstep⟩ := send_missing hsender
      rw [hobserved] at hfailed
      exact absurd hfailed (by simp [StepRecord.isFailure])
    | some sender =>
      obtain ⟨hobserved, hhanded, hstep⟩ := send_some hsender
      obtain ⟨config, hidle⟩ := h sender (List.mem_of_getElem? hsender)
      rw [hobserved] at hfailed
      obtain ⟨hcore, hstore, hnothing⟩ := hidle.core_of_failed _ _ _ _ _ hfailed
      refine ⟨?_, fun index => ?_⟩
      · -- the sender is put back where it was
        obtain ⟨hlt, rfl⟩ := List.getElem?_eq_some_iff.1 hsender
        rw [hstep, core_set, hstore, hcore, ← List.map_set, List.set_getElem_self, core]
      · simp only [arriving, hhanded, hnothing, ite_self]

/-! ## Whole runs -/

/-- Where the cores agree, a run and the run without its failed sends go through the same steps. -/
lemma AllIdle.erase (h : site.AllIdle) (hcore : site.core = site'.core) (steps : List (Step τ)) :
    site'.observations (site.withoutFailures steps) =
        (site.observations steps).filter (fun r => !r.isFailure) ∧
      (∀ index, site'.arrivals index (site.withoutFailures steps) = site.arrivals index steps) ∧
      (site'.finish (site.withoutFailures steps)).core = (site.finish steps).core := by
  induction steps generalizing site site' with
  | nil => exact ⟨rfl, fun _ => rfl, hcore.symm⟩
  | cons s steps ih =>
    cases hfailed : (site.observe s).isFailure with
    | true =>
      obtain ⟨hsame, hnothing⟩ := h.of_failure hfailed
      obtain ⟨hobserved, harrivals, hfinish⟩ := ih (h.step s) (hsame.trans hcore)
      have hdeleted : site.withoutFailures (s :: steps) = (site.step s).withoutFailures steps :=
        if_pos hfailed
      rw [hdeleted]
      refine ⟨?_, fun index => ?_, hfinish⟩
      · rw [hobserved, observations, List.filter_cons_of_neg (by simp [hfailed])]
      · rw [harrivals, arrivals, hnothing, List.nil_append]
    | false =>
      have halike := takenAlike hcore s
      obtain ⟨hobserved, harrivals, hfinish⟩ := ih (h.step s) halike.core
      have hkept : site.withoutFailures (s :: steps) = s :: (site.step s).withoutFailures steps :=
        if_neg (by simp [hfailed])
      rw [hkept]
      refine ⟨?_, fun index => ?_, hfinish⟩
      · rw [observations, observations, hobserved, halike.observed,
          List.filter_cons_of_pos (by simp [← halike.observed, hfailed])]
      · rw [arrivals, arrivals, harrivals, halike.arriving]

/-- **Failed sends are erasable.**  Take any run of any senders that share a store, whatever their
capacities and transports: sends of any of them and operations on the store, in any order.  Delete
every send that was refused or whose message could not be built.  Then every step that is left
answers what it answered and leaves the store as it left it; every transport is handed the same
packets for the same nodes in the same order; and in the end the store and all counters are the
same, except those of encoding failures. -/
theorem failed_sends_erasable (store : Store) (senders : List (WriterConfig × τ))
    (steps : List (Step τ)) :
    let site := (openAll store senders).state
    let kept := site.withoutFailures steps
    site.observations kept = (site.observations steps).filter (fun r => !r.isFailure) ∧
      (∀ index, site.arrivals index kept = site.arrivals index steps) ∧
      (site.finish kept).store = (site.finish steps).store ∧
      (site.finish kept).senders.map (fun s => { s.counts with encodeFailures := 0 }) =
        (site.finish steps).senders.map (fun s => { s.counts with encodeFailures := 0 }) := by
  intro site kept
  obtain ⟨hobserved, harrivals, hfinish⟩ := (allIdle_openAll store senders).2.erase rfl steps
  refine ⟨hobserved, harrivals, ?_, ?_⟩
  · show (site.finish kept).core.store = (site.finish steps).core.store
    rw [hfinish]
  · rw [← counts_core, ← counts_core, hfinish]

/-- A reply that does not fit is deleted, an operation on the store is not. -/
example :
    (openAll ⟨1⟩ [({ msgSize := 4 }, ())]).state.withoutFailures
        [.send ⟨0, RouteSender.acceptAll, .reply, RouteSender.sampleData, .localhost⟩,
          .store .reserve] =
      [.store .reserve] := rfl

end Site

end RouteDiscovery
