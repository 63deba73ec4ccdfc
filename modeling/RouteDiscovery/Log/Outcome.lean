/-
# Outcomes

A step of a component answers its caller, moves the component on and leaves log events.
-/
import RouteDiscovery.Log.Event

namespace RouteDiscovery

/-- What a step gives. -/
structure Outcome (σ α : Type) where
  /-- The answer to the caller. -/
  answer : α
  /-- The state afterwards. -/
  state : σ
  /-- The events, in the order in which they happened. -/
  events : List Log.Event := []

end RouteDiscovery
