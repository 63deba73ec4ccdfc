/-
# Writers that reuse their memory

A node has little memory, and a message writer gets its share once and for all.  `Workspace` is the
part of it in which messages are made: the parts of a draft and the message buffer.  One message
after another is made there, and each may stop anywhere, so whatever it wrote has to be cleared
before the next one.

`ReusingWriter.create` does what `MessageWriter.create` does, in this memory.

* The workspace is cleared, and the provider's callbacks work on the draft in it.
* The message is written into the message buffer, and the packet is filled, in place (`InPlace`):
  what was put before a failure stays there.
* The workspace is cleared again, whatever came of the message.
-/
import RouteDiscovery.Wire.Writer

namespace RouteDiscovery.Wire

/-! ## Writing in place -/

/-- Work on a buffer that may fail; what was done before the failure stays. -/
abbrev InPlace (α : Type) := ExceptT WireError (StateM Buffer) α

/-- Puts pieces. -/
def InPlace.write (pieces : List Buffer.Piece) : InPlace Unit := ExceptT.mk fun b => b.write pieces

namespace Draft

/-- Writes the address block and its TLV block. -/
def fillAddresses (d : Draft) : InPlace Unit := do
  InPlace.write d.addressPieces
  let blockStart := (← get).length
  InPlace.write (.ok (wordBytes 0) :: d.sortedTlvs.map (·.piece))
  let blockLength ← lengthField ((← get).length - blockStart - 2)
  modify (fill · blockStart blockLength)

/-- Clears the buffer and writes the message into it. -/
def fillMessage (d : Draft) (type : MsgType) : InPlace Unit := do
  modify Buffer.clear
  InPlace.write (d.headPieces type)
  if !d.addresses.isEmpty then d.fillAddresses
  let size ← lengthField (← get).length
  modify (fill · 2 size)

end Draft

/-- Appends a message to the packet, after the packet header if it is the first.  The room for both
is checked before anything is put. -/
def InPlace.append (message : List UInt8) : InPlace Unit := do
  let packet ← get
  packet.ensure (message.length + if packet.isEmpty then 1 else 0)
  if packet.isEmpty then InPlace.write [.ok [packetHeader]]
  InPlace.write [.ok message]

/-! ## The workspace -/

/-- The memory in which messages are made. -/
structure Workspace where
  header : MsgHeader := {}
  addresses : List DraftAddress := []
  entries : List TlvEntry := []
  arena : Buffer
  message : Buffer
deriving DecidableEq, Repr

namespace Workspace

/-- Unused memory of the given capacities. -/
def new (config : WriterConfig) : Workspace where
  arena := { kind := .addressTlv, capacity := config.addrTlvSize }
  message := { kind := .message, capacity := config.msgSize }

/-- Clears the parts of the draft. -/
def reset (ws : Workspace) : Workspace :=
  { ws with header := {}, addresses := [], entries := [], arena := ws.arena.clear }

/-- The draft in the workspace, for messages of the given width and table. -/
def draft (ws : Workspace) (width : Nat) (declared : List TlvType) : Draft where
  width := width
  declared := declared
  header := ws.header
  addresses := ws.addresses
  entries := ws.entries
  arena := ws.arena

/-- The workspace in which the draft has become another one. -/
def keep (ws : Workspace) (d : Draft) : Workspace :=
  { ws with header := d.header, addresses := d.addresses, entries := d.entries, arena := d.arena }

/-- Clears all. -/
def cleared (ws : Workspace) : Workspace := { ws.reset with message := ws.message.clear }

end Workspace

/-! ## The writer -/

/-- A message writer with the memory in which it makes its messages. -/
structure ReusingWriter extends MessageWriter where
  workspace : Workspace
deriving DecidableEq, Repr

namespace ReusingWriter

open MessageWriter

variable {σ : Type}

/-- A writer that knows no message type, in unused memory. -/
def new (config : WriterConfig) : ReusingWriter :=
  { MessageWriter.new config with workspace := .new config }

/-- What making a message leaves behind. -/
structure Attempt (σ : Type) where
  result : Except WireError Unit
  callbacks : List Callback
  session : Session σ
  workspace : Workspace
  packet : Buffer

/-- Lets a provider make a message in a workspace and appends it to the packet. -/
def attempt (w : ReusingWriter) (p : ContentProvider σ) (width : Nat) (context : σ) : Attempt σ :=
  let ws := w.workspace.reset
  match compose p { draft := ws.draft width ((w.table? p.type).getD []), context } with
  | (.error e, callbacks, session) =>
    { result := .error e, callbacks, session, workspace := ws.keep session.draft,
      packet := w.packet }
  | (.ok (), callbacks, session) =>
    let ws := ws.keep session.draft
    match (session.draft.fillMessage p.type).run.run ws.message with
    | (.error e, message) =>
      { result := .error e, callbacks, session, workspace := { ws with message },
        packet := w.packet }
    | (.ok (), message) =>
      let (result, packet) := (InPlace.append message.bytes).run.run w.packet
      { result, callbacks, session, workspace := { ws with message }, packet }

/-- Lets a provider build one message and appends it to the packet; also gives the workspace
afterwards. -/
def create (w : ReusingWriter) (p : ContentProvider σ) (context : σ) : Created σ × Workspace :=
  match w.width? p.type with
  | none =>
    ({ result := .error (.unregistered p.type.code), writer := w.toMessageWriter, context },
      w.workspace)
  | some width =>
    let a := w.attempt p width context
    let filled := { w.toMessageWriter with packet := a.packet }
    (match a.result with
      | .ok () => filled.finished p a.callbacks a.session a.packet a.workspace.message
      | .error e => filled.aborted p a.callbacks a.session e,
    a.workspace.cleared)

end ReusingWriter

end RouteDiscovery.Wire
