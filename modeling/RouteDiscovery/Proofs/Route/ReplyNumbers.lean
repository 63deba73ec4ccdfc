/-
# The numbers of replies

Senders of one site share the node's sequence number.  A run of sends, by any of them and in any
order, is written down send by send (`SendRecord`).  A reply counts as sent when its packet was
handed over, whatever the transport said; its number is the one that a reader of the packet finds
there (`SendRecord.carried?`).

Each send either sends a reply, which carries the number of the store and moves the store one
number further, or leaves the store as it was (`Site.record_cases`).  Hence the replies of a run
carry the numbers that follow one another from the first number of the store
(`Site.replies_carry_iterates`).
-/
import RouteDiscovery.Proofs.Route.Sends
import RouteDiscovery.Proofs.Wire.Decode
import RouteDiscovery.Route.Site

namespace RouteDiscovery

open Wire

/-! ## The number in a packet -/

/-- The number of the target that a message carries. -/
def Wire.Message.targetSeqNum? (m : Message) : Option SeqNum :=
  match (m.tlvs.find? fun t => t.type = .targetSeqNum).map (·.value) with
  | some [hi, lo] => some (wordOfBytes hi lo)
  | _ => none

namespace RouteMessage

lemma readPacket_packet (m : RouteMessage) (data : RouteData) (number : SeqNum) :
    readPacket (m.packet data number) =
      some [(m.draft (m.loaded data) number 0).message m.type] := by
  obtain ⟨hsound, hcomplete⟩ := m.complete_draft (m.loaded data) number 0
  obtain ⟨hwidth, -, hheader, -⟩ := Draft.withTlvs_frame
    (m.namedDraft (m.loaded data) 0 (nodes (m.loaded data))) (m.tlvs (m.loaded data) number)
  have hread : Reads Reader.message ((m.draft (m.loaded data) number 0).frame m.type)
      ((m.draft (m.loaded data) number 0).message m.type) := by
    refine Draft.reads_frame hsound hcomplete ?_ ?_ ?_ ?_
    · rw [draft, hheader]
      show MsgFlags.hopLimit.bits &&& 0x0F = 0
      decide
    · rw [draft, hwidth]
      exact Nat.zero_lt_succ _
    · rw [draft, hwidth]
      exact Nat.le_refl _
    · rw [frameSize_draft]
      exact Nat.le_trans (m.messageSize_le _) (by decide)
  rw [← m.frame_draft data number 0]
  exact hread.untilEnd_single (by simp [Draft.frame])

lemma targetSeqNum?_reply (data : RouteData) (number : SeqNum) (arenaSize : ℕ) :
    ((reply.draft data number arenaSize).message reply.type).targetSeqNum? = some number := by
  have hfind : (reply.tlvs data number).find? (fun t => t.type = .targetSeqNum) =
      some ⟨.targetSeqNum, data.targetIndex, wordBytes number⟩ := rfl
  have htlvs : ((reply.draft data number arenaSize).message reply.type).tlvs =
      reply.tlvs data number := reply.sortedTlvs_draft data number arenaSize
  rw [Message.targetSeqNum?, htlvs, hfind]
  exact congrArg some (wordOfBytes_octets number)

end RouteMessage

/-! ## One send of one sender -/

namespace RouteSender

variable {τ : Type} {config : WriterConfig} {s : RouteSender τ}

lemma exists_of_validate {data : RouteData} {nextHop : Ipv6} {e : SendError}
    (h : validate data nextHop = .error e) : ∃ role, e = .unspecified role := by
  unfold validate at h
  split at h
  · exact ⟨_, (Except.error.inj h).symm⟩
  · split at h
    · exact ⟨_, (Except.error.inj h).symm⟩
    · split at h
      · exact ⟨_, (Except.error.inj h).symm⟩
      · exact absurd h (by simp)

/-- A send of an idle sender hands a reply over and moves the store on, or leaves the store; the
latter if the message is no reply or could not be handed over. -/
lemma Idle.send_cases (hs : s.Idle config) (t : Transport τ) (store : Store) (m : RouteMessage)
    (data : RouteData) (nextHop : Ipv6) :
    (m = .reply ∧ ∃ length r, (s.send t store m data nextHop).answer = answerOf length r ∧
        s.handed t store m data nextHop =
          [(RouteMessage.reply.packet data store.value, nextHop)] ∧
        (s.send t store m data nextHop).state.2 = store.advance) ∨
      ((s.send t store m data nextHop).state.2 = store ∧ (m = .reply →
        ∃ e, (s.send t store m data nextHop).answer = .error e ∧ ∀ cause, e ≠ .transport cause)) := by
  cases hvalid : validate data nextHop with
  | error e =>
    obtain ⟨role, rfl⟩ := exists_of_validate hvalid
    rw [send_invalid hvalid]
    exact .inr ⟨rfl, fun _ => ⟨_, rfl, by simp⟩⟩
  | ok done =>
    obtain ⟨hnone, honce⟩ := hs.handed_eq t store m hvalid
    by_cases h : RouteMessage.TooLarge config m data
    · obtain ⟨⟨_, _, _, -, hanswer⟩, -, hstore, -⟩ := hs.send_exceeded t store m hvalid h
      exact .inr ⟨hstore, fun _ => ⟨_, hanswer, by simp⟩⟩
    · obtain ⟨hanswer, -, hstore, -⟩ := hs.send_of_fits t store m hvalid h
      cases m with
      | request => exact .inr ⟨hstore, fun hm => absurd hm (by simp)⟩
      | reply => exact .inl ⟨rfl, _, _, hanswer, honce h, hstore⟩

end RouteSender

/-! ## Runs -/

/-- A send that a site is asked for. -/
structure SendCall (τ : Type) where
  /-- Which sender is to send. -/
  index : ℕ
  transport : Transport τ
  message : RouteMessage
  data : RouteData
  nextHop : Ipv6

/-- A send that has happened. -/
structure SendRecord where
  message : RouteMessage
  /-- The answer, if there is such a sender. -/
  answer : Option (Except SendError ℕ)
  /-- The calls of the transport. -/
  handed : List HandedOver
  before : Store
  after : Store

namespace SendRecord

/-- Whether a reply was built and handed over, whatever the transport said. -/
def isSentReply (r : SendRecord) : Bool :=
  match r.message, r.answer with
  | .reply, some (.ok _) => true
  | .reply, some (.error (.transport _)) => true
  | _, _ => false

/-- The number that a reader finds in the packet that was handed over. -/
def carried? (r : SendRecord) : Option SeqNum :=
  match r.handed with
  | [(packet, _)] =>
    match readPacket packet with
    | some [m] => m.targetSeqNum?
    | _ => none
  | _ => none

end SendRecord

namespace Site

variable {τ : Type} {site : Site τ}

/-- The site after a send. -/
def perform (site : Site τ) (call : SendCall τ) : Site τ :=
  (site.send call.transport call.index call.message call.data call.nextHop).state

/-- The calls of the transport in a send. -/
def handed (site : Site τ) (call : SendCall τ) : List HandedOver :=
  match site.senders[call.index]? with
  | none => []
  | some s => s.handed call.transport site.store call.message call.data call.nextHop

/-- What is written down of a send. -/
def record (site : Site τ) (call : SendCall τ) : SendRecord where
  message := call.message
  answer := (site.send call.transport call.index call.message call.data call.nextHop).answer
  handed := site.handed call
  before := site.store
  after := (site.perform call).store

/-- What is written down of a run. -/
def records : Site τ → List (SendCall τ) → List SendRecord
  | _, [] => []
  | site, call :: calls => site.record call :: (site.perform call).records calls

/-- The site after a run. -/
def performAll (site : Site τ) (calls : List (SendCall τ)) : Site τ := calls.foldl perform site

/-! ## One send -/

/-- All senders of a site are idle. -/
def AllIdle (site : Site τ) : Prop := ∀ s ∈ site.senders, ∃ config, s.Idle config

lemma allIdle_openAll (store : Store) (senders : List (WriterConfig × τ)) :
    (openAll store senders).state.store = store ∧ (openAll store senders).state.AllIdle := by
  induction senders with
  | nil => exact ⟨rfl, fun _ hs => absurd hs List.not_mem_nil⟩
  | cons sender senders ih =>
    refine ⟨ih.1, fun s hs => ?_⟩
    rcases List.mem_cons.1 hs with rfl | hs
    · exact ⟨sender.1, (RouteSender.Reachable.new sender.2).idle⟩
    · exact ih.2 s hs

/-- A site without the sender that is asked for stays as it is. -/
lemma send_none {call : SendCall τ} (hnone : site.senders[call.index]? = none) :
    site.send call.transport call.index call.message call.data call.nextHop =
      { answer := none, state := site } := by
  rw [send, hnone]

lemma AllIdle.perform (h : site.AllIdle) (call : SendCall τ) : (site.perform call).AllIdle := by
  unfold Site.perform
  cases hsender : site.senders[call.index]? with
  | none =>
    rw [send_none hsender]
    exact h
  | some sender =>
    obtain ⟨config, hidle⟩ := h sender (List.mem_of_getElem? hsender)
    rw [send, hsender]
    intro s hs
    rcases List.mem_or_eq_of_mem_set hs with hs | rfl
    · exact h s hs
    · exact ⟨config, hidle.send _ _ _ _ _⟩

/-- The outcomes of a send: a reply is sent, which carries the number of the store and moves the
store on, or the store stays as it is. -/
lemma AllIdle.record_cases (h : site.AllIdle) (call : SendCall τ) :
    ((site.record call).isSentReply = true ∧
        (site.record call).carried? = some site.store.value ∧
        (site.perform call).store = site.store.advance) ∨
      ((site.record call).isSentReply = false ∧ (site.perform call).store = site.store) := by
  cases hsender : site.senders[call.index]? with
  | none =>
    -- without a sender there is no answer, so no reply was sent
    have hanswer : (site.record call).answer = none := congrArg Outcome.answer (send_none hsender)
    refine .inr ⟨?_, congrArg (fun o => o.state.store) (send_none hsender)⟩
    rw [SendRecord.isSentReply, hanswer]
    cases (site.record call).message <;> rfl
  | some sender =>
    obtain ⟨config, hidle⟩ := h sender (List.mem_of_getElem? hsender)
    have hanswer : (site.record call).answer = some (sender.send call.transport site.store
        call.message call.data call.nextHop).answer := by
      simp only [record, send, hsender]
    have hhanded : (site.record call).handed = sender.handed call.transport site.store
        call.message call.data call.nextHop := by
      simp only [record, Site.handed, hsender]
    have hstore : (site.perform call).store = (sender.send call.transport site.store
        call.message call.data call.nextHop).state.2 := by
      simp only [Site.perform, send, hsender]
    have hmessage : (site.record call).message = call.message := rfl
    rw [SendRecord.isSentReply, SendRecord.carried?, hanswer, hhanded, hstore, hmessage]
    rcases hidle.send_cases call.transport site.store call.message call.data call.nextHop with
      ⟨hreply, length, r, hsent, hpacket, hnext⟩ | ⟨hsame, hother⟩
    · refine .inl ⟨?_, ?_, hnext⟩
      · rw [hsent, hreply]
        cases r <;> rfl
      · simp only [hpacket, RouteMessage.readPacket_packet]
        exact RouteMessage.targetSeqNum?_reply _ _ _
    · refine .inr ⟨?_, hsame⟩
      cases hm : call.message with
      | request => rfl
      | reply =>
        rw [hm] at hother
        obtain ⟨e, hsent, hne⟩ := hother rfl
        rw [hsent]
        cases e with
        | transport cause => exact absurd rfl (hne cause)
        | _ => rfl

/-! ## Whole runs -/

/-- The replies of a run that were sent. -/
def sentReplies (site : Site τ) (calls : List (SendCall τ)) : List SendRecord :=
  (site.records calls).filter (·.isSentReply)

/-- The replies of a run carry the numbers that follow one another from the number of the store,
and the store is left with the number after the last of them. -/
lemma AllIdle.carried_sentReplies (h : site.AllIdle) (calls : List (SendCall τ)) :
    (site.sentReplies calls).map (·.carried?) =
        (List.range (site.sentReplies calls).length).map
          (fun i => some (SeqNum.next^[i] site.store.value)) ∧
      (site.performAll calls).store.value =
        SeqNum.next^[(site.sentReplies calls).length] site.store.value := by
  -- the other calls start from the store that the first one leaves
  induction calls generalizing site with
  | nil => exact ⟨rfl, rfl⟩
  | cons call calls ih =>
    obtain ⟨hcarried, hstore⟩ := ih (h.perform call)
    have hall : site.performAll (call :: calls) = (site.perform call).performAll calls := rfl
    rcases h.record_cases call with ⟨hsent, hnumber, hnext⟩ | ⟨hother, hsame⟩
    · have hreplies : site.sentReplies (call :: calls) =
          site.record call :: (site.perform call).sentReplies calls :=
        List.filter_cons_of_pos hsent
      rw [hnext, Store.value_advance] at hcarried hstore
      rw [hall, hreplies, List.length_cons, List.range_succ_eq_map, List.map_cons, List.map_cons,
        hcarried, hnumber, List.map_map]
      exact ⟨rfl, hstore⟩
    · have hreplies : site.sentReplies (call :: calls) = (site.perform call).sentReplies calls :=
        List.filter_cons_of_neg (by rw [hother]; exact Bool.false_ne_true)
      rw [hsame] at hcarried hstore
      rw [hall, hreplies]
      exact ⟨hcarried, hstore⟩

/-- A send that sends no reply leaves the store. -/
lemma AllIdle.after_eq_before (h : site.AllIdle) (calls : List (SendCall τ)) :
    ∀ r ∈ site.records calls, r.isSentReply = false → r.after = r.before := by
  induction calls generalizing site with
  | nil => exact fun _ hr => absurd hr List.not_mem_nil
  | cons call calls ih =>
    intro r hr hother
    rcases List.mem_cons.1 hr with rfl | hr
    · rcases h.record_cases call with ⟨hsent, -, -⟩ | ⟨-, hsame⟩
      · exact absurd (hsent.symm.trans hother) (by simp)
      · exact hsame
    · exact ih (h.perform call) r hr hother

/-- **Replies carry consecutive numbers.**  For every run of sends of any senders that share a
store, whatever their buffers and transports: the replies that were handed over carry, in their
order, the numbers that follow one another from the first number of the store, and the store is
left with the number after the last of them; a send of another outcome leaves the store.  So no
reply carries the unknown number, and as many consecutive replies as there are numbers carry
different ones. -/
theorem replies_carry_iterates (start : SeqNum) (senders : List (WriterConfig × τ))
    (calls : List (SendCall τ)) :
    let site := (openAll (Store.startingAt start) senders).state
    let first := (Store.startingAt start).value
    let replies := site.sentReplies calls
    (∀ i r, replies[i]? = some r → r.carried? = some (SeqNum.next^[i] first)) ∧
      (site.performAll calls).store.value = SeqNum.next^[replies.length] first ∧
      (∀ r ∈ site.records calls, r.isSentReply = false → r.after = r.before) ∧
      (∀ r ∈ replies, r.carried? ≠ some SeqNum.unknown) ∧
      (∀ k, (((replies.drop k).take 65535).map (·.carried?)).Nodup) := by
  intro site first replies
  obtain ⟨hstore, hidle⟩ := allIdle_openAll (Store.startingAt start) senders
  obtain ⟨hcarried, hfinal⟩ := hidle.carried_sentReplies calls
  rw [hstore] at hcarried hfinal
  have hfirst : first ≠ SeqNum.unknown := Store.value_startingAt_ne_unknown start
  have hnumber : ∀ i r, replies[i]? = some r → r.carried? = some (SeqNum.next^[i] first) := by
    intro i r hr
    have hi : i < replies.length := (List.getElem?_eq_some_iff.1 hr).1
    have hmap := congrArg (·[i]?) hcarried
    simp only [List.getElem?_map] at hmap
    rw [hr, List.getElem?_range hi] at hmap
    exact Option.some.inj hmap
  refine ⟨hnumber, hfinal, hidle.after_eq_before calls, fun r hr hzero => ?_, fun k => ?_⟩
  · obtain ⟨i, hi⟩ := List.mem_iff_getElem?.1 hr
    rw [hnumber i r hi] at hzero
    exact SeqNum.iterate_next_ne_unknown hfirst i (Option.some.inj hzero)
  · have hwindow : ((replies.drop k).take 65535).map (·.carried?) =
        ((((List.range replies.length).drop k).take 65535).map (SeqNum.next^[·] first)).map some := by
      rw [List.map_take, List.map_drop, hcarried, ← List.map_drop, ← List.map_take, List.map_map]
      rfl
    rw [hwindow]
    exact (SeqNum.nodup_iterate_next hfirst _ k).map fun _ _ => Option.some.inj

end Site

end RouteDiscovery
