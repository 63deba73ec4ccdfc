/-
# Scripts of content providers

A content provider is arbitrary code that makes calls on the draft of its message, goes on
depending on the answers, and works on a context of its own.  A script is such code as a tree:
each node is one call, one access to the context or one log event, and says how to go on.

`Script.run` carries a script out on a draft and a context.  It records the calls with their
answers, so that what a provider did is a list.
-/
import RouteDiscovery.Wire.Draft
import RouteDiscovery.Log.Outcome

namespace RouteDiscovery.Wire

open Log

/-- Code of a content provider with a context of type `σ` and a result of type `α`. -/
inductive Script (σ α : Type) : Type where
  | done (result : α)
  /-- Makes a call and goes on with its answer. -/
  | call (c : Call) (next : c.Answer → Script σ α)
  | read (next : σ → Script σ α)
  | write (context : σ) (next : Script σ α)
  | emit (e : Event) (next : Script σ α)

/-- A call with its answer. -/
structure CallRecord where
  call : Call
  answer : call.Answer

/-- The state of a running script. -/
structure Session (σ : Type) where
  draft : Draft
  context : σ
  calls : List CallRecord := []
  /-- The events, the latest first. -/
  events : List Event := []

namespace Script

variable {σ α β : Type}

/-- Carries out a script and goes on with its result. -/
def bind : Script σ α → (α → Script σ β) → Script σ β
  | done a, f => f a
  | call c next, f => call c fun x => (next x).bind f
  | read next, f => read fun s => (next s).bind f
  | write s next, f => write s (next.bind f)
  | emit e next, f => emit e (next.bind f)

instance : Monad (Script σ) where
  pure := done
  bind := bind

/-- Carries out a script. -/
def run : Script σ α → Session σ → α × Session σ
  | done a, s => (a, s)
  | call c next, s =>
    let (answer, draft) := s.draft.answer c
    (next answer).run { s with draft, calls := s.calls ++ [⟨c, answer⟩] }
  | read next, s => (next s.context).run s
  | write context next, s => next.run { s with context }
  | emit e next, s => next.run { s with events := e :: s.events }

def ask (c : Call) : Script σ c.Answer := call c done

/-- The context. -/
def context : Script σ σ := read done

def setContext (s : σ) : Script σ Unit := write s (done ())

/-- Emits events. -/
def emitAll : List Event → Script σ Unit
  | [] => done ()
  | e :: es => emit e (emitAll es)

/-- Carries out a step on the context. -/
def step (f : σ → Outcome σ α) : Script σ α :=
  read fun s => write (f s).state ((emitAll (f s).events).bind fun _ => done (f s).answer)

end Script

/-- A callback of a content provider: a script that may fail. -/
abbrev CallbackScript (σ α : Type) := ExceptT WireError (Script σ) α

namespace CallbackScript

variable {σ : Type}

/-- A call that cannot be rejected. -/
def tell (c : Call) : CallbackScript σ c.Answer := ExceptT.lift (Script.ask c)

/-- Adds an address; fails if it is rejected. -/
def addAddress (addr : NetAddr) (mandatory : Bool) : CallbackScript σ Nat :=
  ExceptT.mk (Script.ask (.addAddress addr mandatory))

/-- Adds a TLV; fails if it is rejected. -/
def addTlv (index : Nat) (type : TlvType) (value : List UInt8) (allowDuplicate : Bool) :
    CallbackScript σ Unit :=
  ExceptT.mk (Script.ask (.addTlv index type value allowDuplicate))

end CallbackScript

/-- What fills in the messages of one type.  When a message is encoded, `finish` is called; when
it could not be built, `abort`. -/
structure ContentProvider (σ : Type) where
  /-- The type of its messages. -/
  type : MsgType
  addHeader : CallbackScript σ Unit
  addAddresses : CallbackScript σ Unit
  /-- Learns that the message is in the packet. -/
  finish : σ → Outcome σ Unit := fun s => { answer := (), state := s }
  /-- Learns that the message could not be built. -/
  abort : σ → Outcome σ Unit := fun s => { answer := (), state := s }

/-- The provider whose address callback is followed by a script that sees its result. -/
def ContentProvider.followedBy {σ : Type} (p : ContentProvider σ)
    (more : Except WireError Unit → CallbackScript σ Unit) : ContentProvider σ :=
  { p with addAddresses := ExceptT.mk (p.addAddresses.run.bind fun r => (more r).run) }

end RouteDiscovery.Wire
