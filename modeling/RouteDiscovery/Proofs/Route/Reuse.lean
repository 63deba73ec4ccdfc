/-
# Sending in reused memory

A sender whose writer makes all messages in one workspace (`ReusingSender`) sends what a sender sends
whose writer takes fresh memory for each of them (`RouteSender`).  One send in unused memory gives the
same and leaves the memory unused, whatever becomes of the message (`ReusingSender.send_eq`).  So the
memory is unused whenever a message is made, and after any sends the two are alike
(`ReusingSender.send_reused`).
-/
import RouteDiscovery.Proofs.Route.Sends
import RouteDiscovery.Proofs.Wire.Reuse
import RouteDiscovery.Route.Reuse

namespace RouteDiscovery

open Wire

namespace ReusingSender

variable {τ : Type} {config : WriterConfig} {s : ReusingSender τ}

lemma emit_eq (hunused : s.workspace = .new s.writer.config) (t : Transport τ) (store : Store)
    (m : RouteMessage) :
    s.emit t store m = withWorkspace (s.toRouteSender.emit t store m) s.workspace := by
  have hmade := ReusingWriter.create_eq (w := s.reusingWriter) hunused (m.content s.delivery.data)
    { store, reserved := s.reserved }
  unfold emit
  rw [hmade]
  rfl

/-- **One send in unused memory** gives what a send gives in fresh memory, and leaves the memory
unused. -/
theorem send_eq (hunused : s.workspace = .new s.writer.config) (t : Transport τ) (store : Store)
    (m : RouteMessage) (data : RouteData) (nextHop : Ipv6) :
    s.send t store m data nextHop =
      withWorkspace (s.toRouteSender.send t store m data nextHop) s.workspace := by
  unfold send RouteSender.send
  cases RouteSender.validate data nextHop with
  | error e => rfl
  | ok done =>
    have hemit := emit_eq (s := { s with delivery := RouteSender.deliveryOf m data nextHop })
      hunused t store m
    simp only [hemit]
    rfl

/-- The senders in reused memory that a new one can become: by sends, of whatever outcome, over
whatever transport, with whatever number in the shared store, and by changes of the transport from
outside. -/
inductive Reachable (config : WriterConfig) : ReusingSender τ → Prop
  | new (transport : τ) : Reachable config (ReusingSender.new config transport).state
  | send {s : ReusingSender τ} (h : Reachable config s) (t : Transport τ) (store : Store)
      (m : RouteMessage) (data : RouteData) (nextHop : Ipv6) :
      Reachable config (s.send t store m data nextHop).state.1
  | change {s : ReusingSender τ} (h : Reachable config s) (transport : τ) :
      Reachable config { s with transport }

/-- Without its memory it is a sender that can be reached, and the memory is unused. -/
structure Mirrors (config : WriterConfig) (s : ReusingSender τ) : Prop where
  reachable : s.toRouteSender.Reachable config
  unused : s.workspace = .new config

lemma Mirrors.send_eq (h : s.Mirrors config) (t : Transport τ) (store : Store) (m : RouteMessage)
    (data : RouteData) (nextHop : Ipv6) :
    s.send t store m data nextHop =
      withWorkspace (s.toRouteSender.send t store m data nextHop) (.new config) := by
  have hconfig : s.writer.config = config := congrArg MessageWriter.config h.reachable.idle.writer
  rw [ReusingSender.send_eq (by rw [hconfig, h.unused]), h.unused]

lemma Reachable.mirrors (hs : s.Reachable config) : s.Mirrors config := by
  induction hs with
  | new transport => exact ⟨.new transport, rfl⟩
  | send _ t store m data nextHop ih =>
    rw [ih.send_eq]
    exact ⟨ih.reachable.send t store m data nextHop, rfl⟩
  | change _ transport ih => exact ⟨ih.reachable.change transport, ih.unused⟩

/-- **Reused memory does not show in what a sender does.**  After any sends a sender in reused memory
is one that takes fresh memory for each message, and its next send gives the same: the answer, what
becomes of the sender, its counters and its transport, the store and the events.  The memory is
unused again afterwards. -/
theorem send_reused (hs : s.Reachable config) (t : Transport τ) (store : Store) (m : RouteMessage)
    (data : RouteData) (nextHop : Ipv6) :
    let sent := s.send t store m data nextHop
    let sent' := s.toRouteSender.send t store m data nextHop
    s.toRouteSender.Reachable config ∧ sent.answer = sent'.answer ∧
      sent.state.1.toRouteSender = sent'.state.1 ∧ sent.state.2 = sent'.state.2 ∧
      sent.events = sent'.events ∧ sent.state.1.workspace = .new config := by
  intro sent sent'
  have hsent : sent = withWorkspace sent' (.new config) :=
    hs.mirrors.send_eq t store m data nextHop
  rw [hsent]
  exact ⟨hs.mirrors.reachable, rfl, rfl, rfl, rfl, rfl⟩

end ReusingSender

end RouteDiscovery
