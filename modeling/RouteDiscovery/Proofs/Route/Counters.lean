/-
# Counters and the log

Senders count their sends and log what comes of them.  Here this is followed through a run: every
send is written down with its answer, its events and the packets that the transport took
(`SendEntry`).  One entry hangs together (`Site.consistent_entry`) and shows in the counters of its
sender only (`Site.counts_perform`).  So after any run the counters are the tally of the entries, and
the log says of each what is due (`Site.counters_account`).
-/
import RouteDiscovery.Proofs.Route.Verdicts

namespace RouteDiscovery

open Log Wire

/-! ## What is written down of a run -/

/-- What is written down of a send. -/
structure SendEntry (τ : Type) where
  call : SendCall τ
  /-- The answer, if there is such a sender. -/
  answer : Option (Except SendError ℕ)
  /-- The packets that the transport took. -/
  taken : List HandedOver
  events : List Event

namespace SendEntry

variable {τ : Type}

/-- A message was sent, and it was such a one. -/
def isSent (m : RouteMessage) (e : SendEntry τ) : Bool :=
  match e.answer with
  | some (.ok _) => e.call.message = m
  | _ => false

def isEncodeError (e : SendEntry τ) : Bool :=
  match e.answer with
  | some (.error (.encode _)) => true
  | _ => false

def isTransportError (e : SendEntry τ) : Bool :=
  match e.answer with
  | some (.error (.transport _)) => true
  | _ => false

/-- The sender is there, and the addresses are in order. -/
def isValid (e : SendEntry τ) : Bool :=
  e.answer.isSome && (RouteSender.validate e.call.data e.call.nextHop).toBool

/-- The length that was answered. -/
def sentLength (e : SendEntry τ) : ℕ := e.answer.elim 0 RouteSender.sentBytes

/-- The warnings that are due: one for each error after the check of the addresses. -/
def warnings (e : SendEntry τ) : List Event :=
  match e.answer with
  | some (.error (.encode cause)) => [RouteSender.encodeFailedEvent e.call.message cause]
  | some (.error (.transport cause)) => [Delivery.failedEvent { nextHop := e.call.nextHop } cause]
  | _ => []

/-- The events that are due of packets that were sent. -/
def receipts (e : SendEntry τ) : List Event :=
  match e.answer with
  | some (.ok length) => [RouteSender.sentEvent e.call.message length e.call.nextHop]
  | _ => []

/-- The counters of a sender with these sends. -/
def tally (entries : List (SendEntry τ)) : SendCounts where
  requests := (entries.countP (isSent .request)).toUInt64
  replies := (entries.countP (isSent .reply)).toUInt64
  bytes := (entries.map sentLength).sum.toUInt64
  encodeFailures := (entries.countP isEncodeError).toUInt64
  transportFailures := (entries.countP isTransportError).toUInt64

/-- The counters after one more send. -/
def enter (c : SendCounts) (e : SendEntry τ) : SendCounts :=
  e.answer.elim c (c.account e.call.message)

lemma tally_concat (entries : List (SendEntry τ)) (e : SendEntry τ) :
    tally (entries ++ [e]) = enter (tally entries) e := by
  obtain ⟨call, answer, taken, events⟩ := e
  rcases answer with _ | (role | cause | cause) | length
  case some.ok =>
    cases hmessage : call.message <;>
      simp [tally, enter, isSent, isEncodeError, isTransportError, SendEntry.sentLength,
        RouteSender.sentBytes, SendCounts.account, SendCounts.sent, hmessage]
  all_goals simp [tally, enter, isSent, isEncodeError, isTransportError, SendEntry.sentLength,
    RouteSender.sentBytes, SendCounts.account, SendCounts.encodeFailed, SendCounts.transportFailed]

/-- The counters of a sender are the tally of its sends. -/
lemma foldl_enter (entries : List (SendEntry τ)) : entries.foldl enter {} = tally entries := by
  induction entries using List.reverseRecOn with
  | nil => rfl
  | append_singleton entries e ih =>
    rw [List.foldl_append, ih, tally_concat]
    rfl

/-- What was written down of a send hangs together. -/
structure Consistent (e : SendEntry τ) : Prop where
  /-- The transport took a packet of the length that was answered, or nothing. -/
  bytes : RouteSender.totalBytes e.taken = e.sentLength
  warnings : e.events.filter Event.isWarning = e.warnings
  receipts : e.events.filter Event.isPacketSent = e.receipts
  /-- A send with addresses in order ends in one of four ways. -/
  settled : (if e.isSent .request then 1 else 0) + (if e.isSent .reply then 1 else 0) +
    (if e.isEncodeError then 1 else 0) + (if e.isTransportError then 1 else 0) =
      if e.isValid then 1 else 0

/-- The answer of a send tells what else is written down of it. -/
lemma Consistent.of_answer {call : SendCall τ} {answer : Except SendError ℕ}
    {taken : List HandedOver} {events : List Event}
    (hbytes : RouteSender.totalBytes taken = RouteSender.sentBytes answer)
    (hverdict : events.filter Event.isVerdict =
      RouteSender.verdict call.message call.nextHop answer)
    (hattempted : RouteSender.attempted answer =
      (RouteSender.validate call.data call.nextHop).toBool) :
    Consistent ⟨call, some answer, taken, events⟩ := by
  obtain ⟨hwarnings, hreceipts⟩ := Event.filter_filter_isVerdict events
  rw [hverdict] at hwarnings hreceipts
  refine ⟨hbytes, hwarnings.symm.trans ?_, hreceipts.symm.trans ?_, ?_⟩
  · rcases answer with (role | cause | cause) | length <;> rfl
  · rcases answer with (role | cause | cause) | length <;> rfl
  · simp only [isValid, ← hattempted]
    rcases answer with (role | cause | cause) | length
    · rfl
    · rfl
    · rfl
    · -- a message is either a request or a reply
      cases hmessage : call.message <;>
        simp [isSent, isEncodeError, isTransportError, RouteSender.attempted, hmessage]

/-! Sums over a run. -/

variable {entries : List (SendEntry τ)}

/-- The ways in which sends end add up. -/
lemma countP_isValid (h : ∀ e ∈ entries, e.Consistent) :
    entries.countP (isSent .request) + entries.countP (isSent .reply) +
      entries.countP isEncodeError + entries.countP isTransportError = entries.countP isValid := by
  induction entries with
  | nil => rfl
  | cons e entries ih =>
    have hsettled := (h e List.mem_cons_self).settled
    have hrest := ih fun e he => h e (List.mem_cons_of_mem _ he)
    simp only [List.countP_cons]
    omega

/-- The lengths that were answered are those of the packets that were taken. -/
lemma sum_length (h : ∀ e ∈ entries, e.Consistent) :
    (entries.map sentLength).sum = RouteSender.totalBytes (entries.flatMap (·.taken)) := by
  induction entries with
  | nil => rfl
  | cons e entries ih =>
    have hbytes := (h e List.mem_cons_self).bytes
    have hrest := ih fun e he => h e (List.mem_cons_of_mem _ he)
    rw [RouteSender.totalBytes] at hbytes hrest ⊢
    rw [List.map_cons, List.sum_cons, List.flatMap_cons, List.map_append, List.sum_append, hbytes,
      hrest]

/-- The log holds the warnings and receipts that are due. -/
lemma filter_events (h : ∀ e ∈ entries, e.Consistent) :
    (entries.flatMap (·.events)).filter Event.isWarning = entries.flatMap warnings ∧
      (entries.flatMap (·.events)).filter Event.isPacketSent = entries.flatMap receipts := by
  rw [List.filter_flatMap, List.filter_flatMap]
  exact ⟨List.flatMap_congr fun e he => (h e he).warnings,
    List.flatMap_congr fun e he => (h e he).receipts⟩

/-- If what is due of an entry is told by two of its properties, what is due of a run is told by
their counts. -/
lemma length_due {due : SendEntry τ → List Event} {p q : SendEntry τ → Bool}
    (h : ∀ e, (due e).length = (if p e then 1 else 0) + if q e then 1 else 0)
    (entries : List (SendEntry τ)) :
    (entries.flatMap due).length = entries.countP p + entries.countP q := by
  induction entries with
  | nil => rfl
  | cons e entries ih =>
    have hone := h e
    rw [List.flatMap_cons, List.length_append, List.countP_cons, List.countP_cons]
    omega

lemma length_warnings (entries : List (SendEntry τ)) : (entries.flatMap warnings).length =
    entries.countP isEncodeError + entries.countP isTransportError := by
  refine length_due (fun e => ?_) entries
  rcases e with ⟨call, _ | (role | cause | cause) | length, taken, events⟩ <;> rfl

lemma length_receipts (entries : List (SendEntry τ)) : (entries.flatMap receipts).length =
    entries.countP (isSent .request) + entries.countP (isSent .reply) := by
  refine length_due (fun e => ?_) entries
  rcases e with ⟨call, _ | (role | cause | cause) | length, taken, events⟩
  case some.ok =>
    cases hmessage : call.message <;> simp [receipts, isSent, hmessage]
  all_goals rfl

end SendEntry

/-- What may happen between and during the sends of some senders. -/
inductive Turn (τ : Type) where
  | send (call : SendCall τ)
  /-- The store gets any other number: others work on it, or the next sender has a store of its
  own. -/
  | store (next : Store)
  /-- The transport of the sender at an index changes by itself. -/
  | transport (index : ℕ) (f : τ → τ)

namespace Site

variable {τ : Type} {site : Site τ}

/-- The packets that the transport takes in a send. -/
def taken (site : Site τ) (call : SendCall τ) : List HandedOver :=
  match site.senders[call.index]? with
  | none => []
  | some s => s.taken call.transport site.store call.message call.data call.nextHop

/-- What is written down of a send. -/
def entry (site : Site τ) (call : SendCall τ) : SendEntry τ where
  call
  answer := (site.send call.transport call.index call.message call.data call.nextHop).answer
  taken := site.taken call
  events := (site.send call.transport call.index call.message call.data call.nextHop).events

/-- The site after a turn. -/
def turn (site : Site τ) : Turn τ → Site τ
  | .send call => site.perform call
  | .store next => { site with store := next }
  | .transport index f => site.onTransport index f

/-- The site after a run. -/
def afterTurns (site : Site τ) (turns : List (Turn τ)) : Site τ := turns.foldl turn site

/-- What is written down of a run. -/
def entries : Site τ → List (Turn τ) → List (SendEntry τ)
  | _, [] => []
  | site, .send call :: turns => site.entry call :: (site.perform call).entries turns
  | site, t :: turns => (site.turn t).entries turns

/-! ## One send -/

/-- What a send of a sender that is there comes to. -/
lemma entry_some {call : SendCall τ} {sender : RouteSender τ}
    (hsome : site.senders[call.index]? = some sender) :
    let sent := sender.send call.transport site.store call.message call.data call.nextHop
    site.entry call = ⟨call, some sent.answer, sender.taken call.transport site.store call.message
        call.data call.nextHop, sent.events⟩ ∧
      site.perform call =
        { store := sent.state.2, senders := site.senders.set call.index sent.state.1 } := by
  simp only [entry, perform, Site.send, taken, hsome, and_self]

/-- Without the sender nothing comes of a send. -/
lemma entry_none {call : SendCall τ} (hnone : site.senders[call.index]? = none) :
    site.entry call = ⟨call, none, [], []⟩ ∧ site.perform call = site := by
  simp only [entry, perform, Site.send, taken, hnone, and_self]

lemma consistent_entry (site : Site τ) (call : SendCall τ) : (site.entry call).Consistent := by
  cases hsender : site.senders[call.index]? with
  | none =>
    rw [(entry_none hsender).1]
    exact ⟨rfl, rfl, rfl, rfl⟩
  | some sender =>
    rw [(entry_some hsender).1]
    have hverdict := (sender.send_accounts call.transport site.store call.message call.data
      call.nextHop).verdict
    have hbytes := (sender.send_taking call.transport site.store call.message call.data
      call.nextHop).bytes
    exact .of_answer hbytes hverdict (sender.attempted_send _ _ _ _ _)

/-- The counters of the sender at an index. -/
def counts? (site : Site τ) (index : ℕ) : Option SendCounts :=
  site.senders[index]?.map (·.counts)

/-- A send shows in the counters of its sender only. -/
lemma counts_perform (site : Site τ) (call : SendCall τ) (index : ℕ) :
    (site.perform call).counts? index = (site.counts? index).map fun c =>
      if call.index = index then SendEntry.enter c (site.entry call) else c := by
  unfold counts?
  rw [Option.map_map]
  cases hsender : site.senders[call.index]? with
  | none =>
    rw [(entry_none hsender).1, (entry_none hsender).2]
    congr 1
    funext s
    exact (ite_self s.counts).symm
  | some sender =>
    have hcounts := (sender.send_accounts call.transport site.store call.message call.data
      call.nextHop).counts
    rw [(entry_some hsender).1, (entry_some hsender).2]
    by_cases hindex : call.index = index
    · subst hindex
      have hlt := (List.getElem?_eq_some_iff.1 hsender).1
      rw [List.getElem?_set_self hlt, hsender, Option.map_some, hcounts]
      simp [SendEntry.enter]
    · rw [List.getElem?_set_ne hindex]
      simp only [hindex, if_false]
      rfl

/-- A send of one sender leaves the others as they are. -/
lemma perform_other (site : Site τ) (call : SendCall τ) {index : ℕ} (hne : index ≠ call.index) :
    (site.perform call).senders[index]? = site.senders[index]? := by
  cases hsender : site.senders[call.index]? with
  | none => rw [(entry_none hsender).2]
  | some sender => rw [(entry_some hsender).2, List.getElem?_set_ne hne.symm]

/-- A send with an unspecified address does nothing. -/
lemma perform_unspecified {call : SendCall τ} {role : AddressRole}
    (h : (site.entry call).answer = some (.error (.unspecified role))) :
    site.perform call = site ∧ (site.entry call).taken = [] ∧ (site.entry call).events = [] := by
  cases hsender : site.senders[call.index]? with
  | none =>
    rw [(entry_none hsender).1] at h
    exact absurd h nofun
  | some sender =>
    obtain ⟨hentry, hperform⟩ := entry_some hsender
    rw [hentry] at h
    have hattempted := sender.attempted_send call.transport site.store call.message call.data
      call.nextHop
    rw [Option.some.inj h] at hattempted
    cases hvalid : RouteSender.validate call.data call.nextHop with
    | ok done =>
      rw [hvalid] at hattempted
      exact absurd hattempted nofun
    | error e =>
      obtain ⟨hlt, rfl⟩ := List.getElem?_eq_some_iff.1 hsender
      rw [hentry, hperform, RouteSender.taken, RouteSender.send_invalid hvalid,
        RouteSender.send_invalid hvalid, List.set_getElem_self]
      exact ⟨rfl, rfl, rfl⟩

/-! ## Whole runs -/

/-- The sends of the sender at an index. -/
def ownEntries (site : Site τ) (turns : List (Turn τ)) (index : ℕ) : List (SendEntry τ) :=
  (site.entries turns).filter fun e => e.call.index = index

lemma ownEntries_send (site : Site τ) (call : SendCall τ) (turns : List (Turn τ)) (index : ℕ) :
    site.ownEntries (.send call :: turns) index =
      if call.index = index then site.entry call :: (site.perform call).ownEntries turns index
      else (site.perform call).ownEntries turns index := by
  have hcall : (site.entry call).call = call := rfl
  simp only [ownEntries, entries, List.filter_cons, hcall, decide_eq_true_eq]

/-- A change of a transport shows in no counter. -/
lemma counts_onTransport (site : Site τ) (i : ℕ) (f : τ → τ) (index : ℕ) :
    (site.onTransport i f).counts? index = site.counts? index := by
  unfold counts? onTransport
  rw [List.getElem?_modify]
  cases site.senders[index]? with
  | none => rfl
  | some s =>
    refine congrArg some ?_
    show (if i = index then { s with transport := f s.transport } else s).counts = s.counts
    split <;> rfl

/-- After a run, each sender has entered its sends into its counters, in their order. -/
lemma counts_afterTurns (site : Site τ) (turns : List (Turn τ)) (index : ℕ) :
    (site.afterTurns turns).counts? index = (site.counts? index).map fun c =>
      (site.ownEntries turns index).foldl SendEntry.enter c := by
  induction turns generalizing site with
  | nil => exact Option.map_id'.symm
  | cons t turns ih =>
    have hrun : site.afterTurns (t :: turns) = (site.turn t).afterTurns turns := rfl
    rw [hrun, ih]
    cases t with
    | store next => rfl
    | transport i f =>
      have hcounts : (site.turn (.transport i f)).counts? index = site.counts? index :=
        site.counts_onTransport i f index
      rw [hcounts]
      rfl
    | send call =>
      have hcounts : (site.turn (.send call)).counts? index = _ := site.counts_perform call index
      rw [hcounts, ownEntries_send, Option.map_map]
      by_cases hindex : call.index = index
      · simp only [hindex, if_true]
        rfl
      · simp only [hindex, if_false]
        rfl

/-- After a run of senders that had counted nothing, the counters are the tally of the sends. -/
lemma counts_eq_tally {turns : List (Turn τ)} {index : ℕ} {s : RouteSender τ}
    (hnew : ∀ s ∈ site.senders, s.counts = {})
    (hs : (site.afterTurns turns).senders[index]? = some s) :
    s.counts = SendEntry.tally (site.ownEntries turns index) := by
  have hrun := site.counts_afterTurns turns index
  unfold counts? at hrun
  rw [hs, Option.map_some] at hrun
  cases hbefore : site.senders[index]? with
  | none =>
    rw [hbefore] at hrun
    exact absurd hrun nofun
  | some before =>
    rw [hbefore, Option.map_some, Option.map_some, hnew before (List.mem_of_getElem? hbefore),
      SendEntry.foldl_enter] at hrun
    exact Option.some.inj hrun

lemma consistent_entries (site : Site τ) (turns : List (Turn τ)) :
    ∀ e ∈ site.entries turns, e.Consistent := by
  induction turns generalizing site with
  | nil => exact fun e he => absurd he List.not_mem_nil
  | cons t turns ih =>
    cases t with
    | store next => exact ih _
    | transport i f => exact ih _
    | send call =>
      intro e he
      rcases List.mem_cons.1 he with rfl | he
      · exact site.consistent_entry call
      · exact ih _ e he

/-- New senders have counted nothing, and opening them says nothing of a send. -/
lemma openAll_quiet (store : Store) (senders : List (WriterConfig × τ)) :
    (∀ s ∈ (openAll store senders).state.senders, s.counts = {}) ∧
      (openAll store senders).events.filter Event.isVerdict = [] := by
  induction senders with
  | nil => exact ⟨fun s hs => absurd hs List.not_mem_nil, rfl⟩
  | cons sender senders ih =>
    refine ⟨fun s hs => ?_, ?_⟩
    · rcases List.mem_cons.1 hs with rfl | hs
      · rfl
      · exact ih.1 s hs
    · show List.filter _ ((RouteSender.new sender.1 sender.2).events ++
        (openAll store senders).events) = []
      rw [List.filter_append, RouteSender.events_new, ih.2, List.append_nil]

/-- **Counters account for every send.**  Take any run of new senders with any capacities: sends of
any of them over any transports, while the store may get any number and the transports may change.
Then

* a sender has counted, in words of 64 bits, its requests and its replies that were answered with a
  length, these lengths, its messages that could not be encoded and its packets that were not taken.
  The lengths are those of the packets that its transport took, and the four numbers of sends add up
  to its sends whose addresses were in order;
* a send with an unspecified address does nothing, and a send leaves all other senders;
* the warnings in the log are one for each message that could not be encoded and one for each packet
  that was not taken, in their order;
* the events of packets that were sent are one for each send that was answered with a length, with
  this length and the node that it was for, in their order. -/
theorem counters_account (store : Store) (senders : List (WriterConfig × τ))
    (turns : List (Turn τ)) :
    let opened := openAll store senders
    let site := opened.state.afterTurns turns
    let entries := opened.state.entries turns
    let log := opened.events ++ entries.flatMap (·.events)
    (∀ index s, site.senders[index]? = some s →
      let own := entries.filter fun e => e.call.index = index
      s.counts = {
          requests := (own.countP (·.isSent .request)).toUInt64
          replies := (own.countP (·.isSent .reply)).toUInt64
          bytes := (own.map SendEntry.sentLength).sum.toUInt64
          encodeFailures := (own.countP (·.isEncodeError)).toUInt64
          transportFailures := (own.countP (·.isTransportError)).toUInt64 } ∧
        (own.map SendEntry.sentLength).sum = RouteSender.totalBytes (own.flatMap (·.taken)) ∧
        s.counts.requests + s.counts.replies + s.counts.encodeFailures +
          s.counts.transportFailures = (own.countP (·.isValid)).toUInt64) ∧
    (∀ call role, (site.entry call).answer = some (.error (.unspecified role)) →
      site.perform call = site ∧ (site.entry call).taken = [] ∧ (site.entry call).events = []) ∧
    (∀ call index, index ≠ call.index →
      (site.perform call).senders[index]? = site.senders[index]?) ∧
    log.filter Event.isWarning = entries.flatMap (·.warnings) ∧
    log.countP Event.isWarning =
      entries.countP (·.isEncodeError) + entries.countP (·.isTransportError) ∧
    log.filter Event.isPacketSent = entries.flatMap (·.receipts) ∧
    log.countP Event.isPacketSent =
      entries.countP (·.isSent .request) + entries.countP (·.isSent .reply) := by
  intro opened site entries log
  have hconsistent : ∀ e ∈ entries, e.Consistent := consistent_entries _ turns
  obtain ⟨hnew, hopening⟩ := openAll_quiet store senders
  -- the events of opening the senders are none of those that are looked for
  obtain ⟨hwarning, hsent⟩ := Event.filter_filter_isVerdict opened.events
  rw [hopening] at hwarning hsent
  obtain ⟨hwarnings, hreceipts⟩ := SendEntry.filter_events hconsistent
  have hallWarnings : log.filter Event.isWarning = entries.flatMap (·.warnings) := by
    rw [List.filter_append, ← hwarning, hwarnings]
    rfl
  have hallReceipts : log.filter Event.isPacketSent = entries.flatMap (·.receipts) := by
    rw [List.filter_append, ← hsent, hreceipts]
    rfl
  refine ⟨fun index s hs => ?_, fun call role => perform_unspecified,
    fun call index => perform_other site call, hallWarnings, ?_, hallReceipts, ?_⟩
  · intro own
    have hown : ∀ e ∈ own, e.Consistent := fun e he => hconsistent e (List.mem_filter.1 he).1
    have hcounts : s.counts = SendEntry.tally own := counts_eq_tally hnew hs
    refine ⟨hcounts, SendEntry.sum_length hown, ?_⟩
    rw [hcounts, ← SendEntry.countP_isValid hown]
    simp [SendEntry.tally]
  · rw [List.countP_eq_length_filter, hallWarnings, SendEntry.length_warnings]
  · rw [List.countP_eq_length_filter, hallReceipts, SendEntry.length_receipts]

end Site

end RouteDiscovery
