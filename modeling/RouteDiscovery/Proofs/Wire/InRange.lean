/-
# No writer steps out of range

`Checked` tells of one message, made in fresh memory, that no step of its making is out of range.
This file tells it of a writer as it is: it makes its messages in reused memory, of which nobody
looks whether it was cleared, and goes through a whole history.

* `Checked.Work` is work on a buffer in place with each of its steps checked where it is made, and
  `Checked.attempt` is the making of a message in a workspace in this way.  `Checked.Agrees` ties such
  work to the work that does not check, and is built up along its steps.
* `Checked.register` finds or makes the entry of a type in the registry, with its positions checked.
* `Checked.step` is one operation of a writer.  `ReusingWriter.never_out_of_range`: after whatever
  history, no operation had a step out of range, and none that could follow has one.
-/
import RouteDiscovery.Proofs.Wire.Checked
import RouteDiscovery.Proofs.Wire.Handover
import RouteDiscovery.Proofs.Wire.Registry

namespace RouteDiscovery.Wire

/-- Work that was done has come to its result. -/
lemma InPlace.Performs.result_eq {x : InPlace Unit} {b b' : Buffer} {r : Except WireError Buffer}
    (hx : Performs x b r) (h : x.run.run b = (.ok (), b')) : r = .ok b' := by
  cases hx with
  | ok run clear => exact congrArg Except.ok (congrArg Prod.snd (run.symm.trans h))
  | error run clear => exact absurd (congrArg Prod.fst (run.symm.trans h)) (by simp)

namespace Checked

variable {α β : Type}

/-! ## Work in place -/

/-- Work on a buffer that may fail with an error, and has no result at all if a step is out of
range.  What was done before a failure stays. -/
abbrev Work (α : Type) := ExceptT WireError (StateT Buffer Option) α

namespace Work

/-- A step that leaves the buffer. -/
def of (c : Checked α) : Work α := ExceptT.mk fun b => c.run.map fun r => (r, b)

/-- Appends bytes. -/
def put (data : List UInt8) : Work Unit := do
  of (ensure (← get) data.length)
  modify (·.extend data)

/-- Appends a piece. -/
def putPiece (piece : Checked (List UInt8)) : Work Unit := do
  let data ← of piece
  put data

/-- Replaces the word at an offset. -/
def patch (offset : ℕ) (w : UInt16) : Work Unit := do
  let b ← of (Checked.patch (← get) offset w)
  set b

/-- Does one piece of work after another. -/
def inTurn : List (Work Unit) → Work Unit
  | [] => pure ()
  | x :: xs => do
    x
    inTurn xs

/-- Appends a TLV, part after part once there is room for all of them. -/
def putTlv (t : AddrTlv) : Work Unit := do
  let index ← of (octet t.index)
  if maxTlvValueLength < t.value.length then throw (.tlvValueTooLong t.value.length)
  else
    of (ensure (← get) (addrTlvSize t.type t.value.length))
    let length ← of (lengthOctets t)
    inTurn ([[t.type.kind], [t.flags.bits], t.type.ext.toList, [index], length, t.value].map put)

/-- Writes the address block and its TLV block. -/
def fillAddresses (d : Draft) : Work Unit := do
  inTurn ((addressPieces d).map putPiece)
  let tlvs ← of (d.entries.mapM (resolve d))
  let blockStart := (← get).length
  inTurn (put (wordBytes 0) :: (tlvs.mergeSort Draft.tlvLe).map fun t => putTlv t.2)
  let written ← of (subtract (← get).length blockStart)
  let rest ← of (subtract written 2)
  let blockLength ← of (ofExcept (lengthField rest))
  patch blockStart blockLength

/-- Clears the buffer and writes the message into it. -/
def fillMessage (d : Draft) (type : MsgType) : Work Unit := do
  modify Buffer.clear
  -- the width less one stands in the second octet
  let _ ← of (subtract d.width 1)
  inTurn ((d.headPieces type).map fun piece => putPiece (ofExcept piece))
  if !d.addresses.isEmpty then fillAddresses d
  let size ← of (ofExcept (lengthField (← get).length))
  patch 2 size

/-- Appends a message to the packet. -/
def append (message : List UInt8) : Work Unit := do
  let packet ← get
  of (ensure packet (message.length + if packet.isEmpty then 1 else 0))
  if packet.isEmpty then put [packetHeader]
  put message

end Work

/-! ## Operations -/

variable {σ : Type}

/-- Lets a provider make a message in a workspace and appends it to the packet. -/
def attempt (w : ReusingWriter) (p : ContentProvider σ) (width : ℕ) (context : σ) :
    Option (ReusingWriter.Attempt σ) := do
  let ws := w.workspace.reset
  match ← compose p { draft := ws.draft width ((w.table? p.type).getD []), context } with
  | (.error e, callbacks, session) =>
    return { result := .error e, callbacks, session, workspace := ws.keep session.draft,
             packet := w.packet }
  | (.ok (), callbacks, session) =>
    let ws := ws.keep session.draft
    match ← (Work.fillMessage session.draft p.type).run.run ws.message with
    | (.error e, message) =>
      return { result := .error e, callbacks, session, workspace := { ws with message },
               packet := w.packet }
    | (.ok (), message) =>
      let (result, packet) ← (Work.append message.bytes).run.run w.packet
      return { result, callbacks, session, workspace := { ws with message }, packet }

/-- Lets a provider build one message in reused memory and appends it to the packet; also gives the
workspace afterwards. -/
def recreate (w : ReusingWriter) (p : ContentProvider σ) (context : σ) :
    Option (MessageWriter.Created σ × Workspace) :=
  match w.width? p.type with
  | none =>
    some ({ result := .error (.unregistered p.type.code), writer := w.toMessageWriter, context },
      w.workspace)
  | some width => do
    let a ← attempt w p width context
    let filled := { w.toMessageWriter with packet := a.packet }
    return (match a.result with
      | .ok () => filled.finished p a.callbacks a.session a.packet a.workspace.message
      | .error e => filled.aborted p a.callbacks a.session e,
    a.workspace.cleared)

/-- The position of the entry of a type, which is put at the end if there is none. -/
def entry (w : MessageWriter) (type : MsgType) : Checked (MessageWriter × ℕ) :=
  match w.registry.findIdx? (·.type = type) with
  | some i => return (w, i)
  | none => do
    let registry := w.registry ++ [{ type }]
    let last ← subtract registry.length 1
    return ({ w with registry }, last)

/-- Changes the entry of a type, unless what is to be changed is known already. -/
def register (w : MessageWriter) (type : MsgType) (known : Registration → Bool)
    (f : Registration → Registration) : Checked MessageWriter := do
  let (w, i) ← entry w type
  let r ← element w.registry i
  if known r then throw (.alreadyRegistered type.code)
  else return { w with registry := w.registry.set i (f r) }

/-- Registers a message type with the width of its addresses. -/
def registerMessage (w : MessageWriter) (type : MsgType) (width : ℕ) : Checked MessageWriter :=
  if width = 0 ∨ maxAddressLength < width then throw (.addressLength maxAddressLength width)
  else register w type (·.width.isSome) fun r => { r with width := some width }

/-- Declares the TLVs that a message type may carry. -/
def registerProvider (w : MessageWriter) (type : MsgType) (table : List TlvType) :
    Checked MessageWriter :=
  register w type (·.table.isSome) fun r => { r with table := some table }

/-- The writer after a registration, which stays as it was if the registration is refused. -/
def enrol (w : ReusingWriter) (c : Checked MessageWriter) : Option ReusingWriter := do
  match ← c.run with
  | .ok registered => return { w with toMessageWriter := registered }
  | .error _ => return w

/-- Carries out one operation.  Handing the packet over and discarding it compute nothing. -/
def step (w : ReusingWriter) : MessageWriter.Op → Option ReusingWriter
  | .registerMessage type width => enrol w (registerMessage w.toMessageWriter type width)
  | .registerProvider type table => enrol w (registerProvider w.toMessageWriter type table)
  | .create p context => do
    let (created, workspace) ← recreate w p context
    return { toMessageWriter := created.writer, workspace }
  | .flush target t => some { w with toMessageWriter := (w.flush target t).state.1 }
  | .discard => some { w with toMessageWriter := w.discard }

/-! ## Work that agrees -/

/-- On this buffer the checked work has a result, and it is that of the work that does not check. -/
def Agrees (x : Work α) (y : InPlace α) (b : Buffer) : Prop := x.run.run b = some (y.run.run b)

variable {b b' : Buffer}

lemma Agrees.bind {x : Work α} {y : InPlace α} {f : α → Work β} {g : α → InPlace β}
    (h : Agrees x y b) (hf : ∀ a b', y.run.run b = (.ok a, b') → Agrees (f a) (g a) b') :
    Agrees (x >>= f) (y >>= g) b := by
  rw [Agrees, ExceptT.run_bind, StateT.run_bind, h]
  rcases hy : y.run.run b with ⟨e | a, b'⟩
  · rw [InPlace.run_bind_error hy]
    rfl
  · rw [InPlace.run_bind_ok hy]
    exact hf a b' hy

/-- Work that looks at the buffer first. -/
lemma Agrees.get {f : Buffer → Work α} {g : Buffer → InPlace α} (h : Agrees (f b) (g b) b) :
    Agrees (MonadState.get >>= f) (MonadState.get >>= g) b := h

/-- Work that goes on with a value, if there is one. -/
lemma Agrees.lift {c : Checked α} {r : Except WireError α} {f : α → Work β} {g : α → InPlace β}
    (hc : Yields c r) (h : ∀ a, r = .ok a → Agrees (f a) (g a) b) :
    Agrees (Work.of c >>= f) (liftM r >>= g) b := by
  rw [Agrees, ExceptT.run_bind, StateT.run_bind]
  have hrun : (Work.of c).run.run b = some (r, b) := by
    show c.run.map _ = _
    rw [hc]
    rfl
  rw [hrun]
  cases r with
  | error e => rfl
  | ok a => exact h a rfl

/-- A step in range goes on with its result. -/
lemma Agrees.step {c : Checked α} {a : α} {f : α → Work β} {y : InPlace β} (hc : Yields c (.ok a))
    (h : Agrees (f a) y b) : Agrees (Work.of c >>= f) y b :=
  Agrees.lift (g := fun _ => y) hc fun _ ha => Except.ok.inj ha ▸ h

/-! ## Pieces -/

/-- Bytes are put once there is room for them. -/
lemma write_single (data : List UInt8) :
    InPlace.write [.ok data] =
      (MonadState.get >>= fun b : Buffer => liftM (b.ensure data.length) >>= fun _ =>
        modify (·.extend data) : InPlace Unit) := by
  funext b
  show b.write [.ok data] =
    (liftM (b.ensure data.length) >>= fun _ => modify (·.extend data) : InPlace Unit).run.run b
  rw [Buffer.write, Buffer.put]
  cases b.ensure data.length <;> rfl

lemma Fits.room_of_ensure (hb : Fits b) {needed : ℕ} (h : b.ensure needed = .ok ()) :
    b.length + needed ≤ b.capacity := by
  rw [Fits] at hb
  rw [Buffer.ensure, Buffer.remaining] at h
  split at h
  · omega
  · exact absurd h (by simp)

lemma agrees_put (hb : Fits b) (data : List UInt8) :
    Agrees (Work.put data) (InPlace.write [.ok data]) b := by
  rw [write_single]
  exact Agrees.get (Agrees.lift (yields_ensure hb data.length) fun _ _ => rfl)

lemma agrees_putPiece (hb : Fits b) {piece : Checked (List UInt8)} {result : Buffer.Piece}
    (h : Yields piece result) : Agrees (Work.putPiece piece) (InPlace.write [result]) b := by
  cases result with
  | error e => exact Agrees.lift (g := fun _ => InPlace.write []) h fun _ h => absurd h (by simp)
  | ok data => exact Agrees.step h (agrees_put hb data)

/-- Bytes that fit together are put one part after another. -/
lemma run_inTurn_put {parts : List (List UInt8)}
    (hfit : b.length + parts.flatten.length ≤ b.capacity) :
    (Work.inTurn (parts.map Work.put)).run.run b = some (.ok (), b.extend parts.flatten) := by
  induction parts generalizing b with
  | nil =>
    rw [List.flatten_nil, Buffer.extend_nil]
    rfl
  | cons data parts ih =>
    rw [List.flatten_cons, List.length_append] at hfit
    have hput : (Work.put data).run.run b = some (.ok (), b.extend data) := by
      refine (agrees_put (Nat.le_of_add_right_le hfit) data).trans (congrArg some ?_)
      show b.write [.ok data] = _
      rw [Buffer.write, Buffer.put_of_fits (by omega)]
      rfl
    have hrest : (b.extend data).length + parts.flatten.length ≤ (b.extend data).capacity := by
      rw [Buffer.length_extend, Buffer.capacity_extend]
      omega
    rw [List.map_cons, Work.inTurn, ExceptT.run_bind, StateT.run_bind, hput, List.flatten_cons,
      ← Buffer.extend_extend]
    exact ih hrest

/-- A TLV that is put part after part is put as a whole. -/
lemma agrees_putTlv (hb : Fits b) {t : AddrTlv} (hindex : t.index ≤ maxShortLength) :
    Agrees (Work.putTlv t) (InPlace.write [t.piece]) b := by
  refine Agrees.step (yields_octet hindex) ?_
  by_cases hlong : maxTlvValueLength < t.value.length
  · rw [if_pos hlong, AddrTlv.piece, if_neg (Nat.not_le.2 hlong)]
    rfl
  have hshort := Nat.not_lt.1 hlong
  have hparts : [[t.type.kind], [t.flags.bits], t.type.ext.toList, [t.index.toUInt8],
      t.lengthBytes, t.value].flatten = t.bytes := by
    simp [AddrTlv.bytes]
  rw [if_neg hlong, AddrTlv.piece, if_pos hshort, write_single, t.length_bytes]
  -- once there is room for the whole TLV, there is room for each of its parts
  refine Agrees.get (Agrees.lift (yields_ensure hb _) fun _ hensure => ?_)
  have hroom := hb.room_of_ensure hensure
  rw [← t.length_bytes, ← hparts] at hroom
  refine Agrees.step (yields_lengthOctets hshort) ?_
  rw [Agrees, run_inTurn_put hroom, hparts]
  rfl

/-! ## Messages in place -/

lemma run_write_cons (piece : Buffer.Piece) (pieces : List Buffer.Piece) (b : Buffer) :
    (InPlace.write (piece :: pieces)).run.run b =
      (InPlace.write [piece] >>= fun _ => InPlace.write pieces).run.run b := by
  cases piece with
  | error e => rfl
  | ok data =>
    show b.write (.ok data :: pieces) = _
    cases hput : b.put data with
    | error e =>
      have hone : (InPlace.write [.ok data]).run.run b = (.error e, b) := by
        show b.write [.ok data] = _
        rw [Buffer.write, hput]
      rw [InPlace.run_bind_error hone, Buffer.write, hput]
    | ok b' =>
      have hone : (InPlace.write [.ok data]).run.run b = (.ok (), b') := by
        show b.write [.ok data] = _
        rw [Buffer.write, hput]
        rfl
      rw [InPlace.run_bind_ok hone, Buffer.write, hput]
      rfl

lemma writeAll_of_write {pieces : List Buffer.Piece}
    (h : (InPlace.write pieces).run.run b = (.ok (), b')) : b.writeAll pieces = .ok b' := by
  have hwrite : b.write pieces = (.ok (), b') := h
  rw [Buffer.writeAll, hwrite]

/-- Work in turn agrees with pieces if each part of it agrees with its piece. -/
lemma agrees_inTurn {works : List (Work Unit)} {pieces : List Buffer.Piece} (hb : Fits b)
    (h : List.Forall₂ (fun x piece => ∀ b, Fits b → Agrees x (InPlace.write [piece]) b) works
      pieces) :
    Agrees (Work.inTurn works) (InPlace.write pieces) b := by
  induction h generalizing b with
  | nil => rfl
  | @cons x piece works pieces hx _ ih =>
    rw [Agrees, run_write_cons]
    refine (hx b hb).bind fun _ b' hwrite => ?_
    exact ih (hb.of_writeAll (writeAll_of_write hwrite)).1

/-- Pieces that have results are put in turn. -/
lemma agrees_pieces {pieces : List (Checked (List UInt8))} {results : List Buffer.Piece}
    (hb : Fits b) (h : List.Forall₂ Yields pieces results) :
    Agrees (Work.inTurn (pieces.map Work.putPiece)) (InPlace.write results) b :=
  agrees_inTurn hb
    (List.forall₂_map_left_iff.2 (h.imp fun _ _ hpiece _ hb => agrees_putPiece hb hpiece))

lemma agrees_patch {offset : ℕ} (h : offset + 2 ≤ b.length) (w : UInt16) :
    Agrees (Work.patch offset w) (modify (Draft.fill · offset w)) b :=
  Agrees.get (g := fun _ => modify (Draft.fill · offset w)) (Agrees.step (yields_patch h w) rfl)

variable {d : Draft}

lemma agrees_fillAddresses (hs : d.Sound) (hb : Fits b) :
    Agrees (Work.fillAddresses d) d.fillAddresses b := by
  have htlvs : List.Forall₂ (fun x piece => ∀ b, Fits b → Agrees x (InPlace.write [piece]) b)
      (Work.put (wordBytes 0) :: (d.tlvs.mergeSort Draft.tlvLe).map fun t => Work.putTlv t.2)
      (.ok (wordBytes 0) :: d.sortedTlvs.map (·.piece)) := by
    refine .cons (fun _ hb => agrees_put hb _) ?_
    rw [Draft.sortedTlvs, List.map_map, List.forall₂_map_left_iff, List.forall₂_map_right_iff,
      List.forall₂_same]
    intro t ht b hb
    have hindex := (hs.mem_sortedTlvs (List.mem_map_of_mem ht)).1
    exact agrees_putTlv hb (Nat.le_trans (Nat.le_of_lt hindex) hs.count)
  refine (agrees_pieces hb (yields_addressPieces hs)).bind fun _ b₁ hb₁ => ?_
  have hfits₁ := (hb.of_writeAll (writeAll_of_write hb₁)).1
  refine Agrees.step (yields_resolve hs) (Agrees.get ?_)
  refine (agrees_inTurn hfits₁ htlvs).bind fun _ b₂ hb₂ => Agrees.get ?_
  -- the length of the block was put first, so two octets are there to be replaced
  have hlength : b₁.length + 2 ≤ b₂.length :=
    hfits₁.le_length (Buffer.Amounts.single (wordBytes 0)) (writeAll_of_write hb₂)
  refine Agrees.step (yields_subtract (by omega)) (Agrees.step (yields_subtract (by omega)) ?_)
  exact Agrees.lift (yields_ofExcept _) fun length _ => agrees_patch hlength length

/-- The address block is put behind what is there. -/
lemma length_le_of_fillAddresses (hs : d.Sound) (hkind : b.kind = .message) (hb : Fits b)
    (h : d.fillAddresses.run.run b = (.ok (), b')) : b.length ≤ b'.length :=
  length_le_of_encodeAddresses hs hkind hb ((d.performs_fillAddresses b).result_eq h)

/-- A draft that can be written down is written without a step out of range. -/
lemma agrees_fillMessage (hs : d.Sound) (hwidth : 0 < d.width) (type : MsgType)
    (hkind : b.kind = .message) : Agrees (Work.fillMessage d type) (d.fillMessage type) b := by
  have hempty : Fits b.clear := Nat.zero_le _
  have hhead : List.Forall₂ Yields ((d.headPieces type).map ofExcept) (d.headPieces type) := by
    rw [List.forall₂_map_left_iff, List.forall₂_same]
    exact fun _ _ => rfl
  have hpieces := agrees_pieces hempty hhead
  rw [List.map_map] at hpieces
  -- clearing the buffer agrees with itself
  refine Agrees.bind (x := modify Buffer.clear) (y := modify Buffer.clear) rfl fun _ b₀ hb₀ => ?_
  obtain rfl : b.clear = b₀ := congrArg Prod.snd hb₀
  refine Agrees.step (yields_subtract hwidth) (hpieces.bind fun _ b₁ hb₁ => ?_)
  obtain ⟨hfits₁, bytes, hextend⟩ := hempty.of_writeAll (writeAll_of_write hb₁)
  have hfour := four_le_of_headPieces hempty (writeAll_of_write hb₁)
  have hsize : ∀ b₂ : Buffer, b₁.length ≤ b₂.length →
      Agrees (do
        let size ← Work.of (ofExcept (lengthField (← get).length))
        Work.patch 2 size) (do
        let size ← lengthField (← get).length
        modify (Draft.fill · 2 size)) b₂ := by
    intro b₂ hle
    exact Agrees.get (Agrees.lift (yields_ofExcept _) fun size _ => agrees_patch (by omega) size)
  cases d.addresses.isEmpty with
  | true => exact hsize b₁ (Nat.le_refl _)
  | false =>
    refine (agrees_fillAddresses hs hfits₁).bind fun _ b₂ hb₂ => hsize b₂ ?_
    exact length_le_of_fillAddresses hs (hextend ▸ hkind) hfits₁ hb₂

lemma agrees_append (hb : Fits b) (message : List UInt8) :
    Agrees (Work.append message) (InPlace.append message) b := by
  refine Agrees.get (Agrees.lift (yields_ensure hb _) fun _ _ => ?_)
  cases b.isEmpty with
  | false => exact agrees_put hb message
  | true =>
    refine (agrees_put hb [packetHeader]).bind fun _ b' hwrite => ?_
    exact agrees_put (hb.of_writeAll (writeAll_of_write hwrite)).1 message

/-! ## Operations in range -/

variable {w : ReusingWriter} {width : ℕ}

/-- In unused memory a message is made without a step out of range. -/
lemma attempt_eq (hunused : w.workspace = .new w.config) (hwidth : 0 < width)
    (hpacket : Fits w.packet) (p : ContentProvider σ) (context : σ) :
    attempt w p width context = some (w.attempt p width context) := by
  have hkind : w.workspace.message.kind = .message := by
    rw [hunused]
    rfl
  have hopening := ReusingWriter.opening_eq hunused p context width
  have hcomposed := compose_eq p (w.opening p context width) (Nat.zero_le _)
  unfold attempt
  simp only [hopening, hcomposed]
  rcases hcompose : MessageWriter.compose p (w.opening p context width) with
    ⟨e | done, callbacks, s⟩
  · rw [ReusingWriter.attempt_rejected hunused hcompose]
    rfl
  · obtain ⟨hs, hr⟩ := MessageWriter.reflects_of_compose hcompose
    have hfill := agrees_fillMessage hs (hr.width_eq ▸ hwidth) p.type hkind
    show ((Work.fillMessage s.draft p.type).run.run w.workspace.message >>= _) = _
    rw [hfill]
    rcases hrun : (s.draft.fillMessage p.type).run.run w.workspace.message with ⟨e | _, message⟩
    · rw [ReusingWriter.attempt_unfilled hunused hcompose hrun]
      rfl
    · have happend := agrees_append hpacket message.bytes
      rw [ReusingWriter.attempt_filled hunused hcompose hrun rfl]
      show ((Work.append message.bytes).run.run w.packet >>= _) = _
      rw [happend]
      rfl

/-- So a message is made in range whenever its type is known with a width. -/
lemma recreate_eq (hunused : w.workspace = .new w.config)
    (hwidths : w.toMessageWriter.WidthsFit) (hpacket : Fits w.packet) (p : ContentProvider σ)
    (context : σ) : recreate w p context = some (w.create p context) := by
  rw [recreate, ReusingWriter.create]
  cases hwidth : w.width? p.type with
  | none => rfl
  | some width =>
    have hattempt := attempt_eq hunused (hwidths.of_width? hwidth).1 hpacket p context
    show (attempt w p width context >>= _) = _
    rw [hattempt]
    rfl

/-- The entry of a type is changed where it stands, or made at the end. -/
lemma yields_register {w : MessageWriter} (hw : w.TypesDistinct) {type : MsgType}
    {known : Registration → Bool} {f : Registration → Registration}
    (hnew : known { type } = false) :
    Yields (register w type known f)
      (if (w.find? type).any known then .error (.alreadyRegistered type.code)
        else .ok (w.update type f)) := by
  cases hposition : w.registry.findIdx? (·.type = type) with
  | none =>
    have hnone : w.find? type = none := by
      rw [List.findIdx?_eq_none_iff] at hposition
      exact List.find?_eq_none.2 fun r hr => by simpa using hposition r hr
    have hentry : Yields (entry w type)
        (.ok ({ w with registry := w.registry ++ [{ type }] }, w.registry.length)) := by
      rw [entry, hposition]
      exact (yields_subtract (by simp)).bind_ok (by simp [yields_pure])
    have hlast : (w.registry ++ [({ type } : Registration)])[w.registry.length]? = some { type } :=
      List.getElem?_concat_length
    rw [hnone, MessageWriter.update_of_new hnone]
    refine hentry.bind_ok ((yields_must hlast).bind_ok ?_)
    simp [hnew, yields_pure]
  | some i =>
    obtain ⟨hlt, htype, hbefore⟩ := List.findIdx?_eq_some_iff_getElem.1 hposition
    have hr : w.registry[i]? = some w.registry[i] := List.getElem?_eq_getElem hlt
    have hfind : w.find? type = some w.registry[i] :=
      List.find?_eq_some_iff_getElem.2 ⟨htype, i, hlt, rfl, fun j hj => by simpa using hbefore j hj⟩
    have hentry : Yields (entry w type) (.ok (w, i)) := by
      rw [entry, hposition]
      exact yields_pure _
    rw [hfind, MessageWriter.update_of_known hw hr (of_decide_eq_true htype)]
    refine hentry.bind_ok ((yields_must hr).bind_ok ?_)
    rw [Option.any_some]
    split <;> rfl

/-- A registration has the answer and the state that it would have unchecked. -/
lemma yields_registerMessage {w : MessageWriter} (hw : w.TypesDistinct) (type : MsgType)
    (width : ℕ) :
    Yields (registerMessage w type width)
      ((w.registerMessage type width).answer.map fun _ =>
        (w.registerMessage type width).state) := by
  rw [registerMessage, MessageWriter.registerMessage, MessageWriter.width?, Option.isSome_bind]
  split
  · rfl
  · refine (yields_register hw rfl).trans ?_
    split <;> rfl

lemma yields_registerProvider {w : MessageWriter} (hw : w.TypesDistinct) (type : MsgType)
    (table : List TlvType) :
    Yields (registerProvider w type table)
      ((w.registerProvider type table).answer.map fun _ =>
        (w.registerProvider type table).state) := by
  rw [registerProvider, MessageWriter.registerProvider, MessageWriter.table?, Option.isSome_bind]
  refine (yields_register hw rfl).trans ?_
  split <;> rfl

/-- A registration that is refused leaves the writer. -/
lemma enrol_eq {c : Checked MessageWriter} {o : Outcome MessageWriter (Except WireError Unit)}
    (hc : Yields c (o.answer.map fun _ => o.state))
    (hrefused : ∀ e, o.answer = .error e → o.state = w.toMessageWriter) :
    enrol w c = some { w with toMessageWriter := o.state } := by
  rw [enrol, hc]
  cases hanswer : o.answer with
  | ok _ => rfl
  | error e =>
    rw [hrefused e hanswer]
    rfl

/-- What keeps the steps of a writer in range: nothing is left in its memory, the widths in its
registry are widths of addresses, no type is there twice, and the packet has not outgrown its
buffer. -/
structure Ready (config : WriterConfig) (w : ReusingWriter) (l : MessageWriter.Loaded) : Prop where
  mirrors : ReusingWriter.Mirrors config w l
  holds : MessageWriter.Holds l
  distinct : l.writer.TypesDistinct
  carries : MessageWriter.Carries l

variable {config : WriterConfig} {l : MessageWriter.Loaded}

lemma Ready.new (config : WriterConfig) : Ready config (.new config) { writer := .new config } where
  mirrors := ⟨rfl, rfl, rfl, rfl⟩
  holds := .empty (fun _ hr => absurd hr List.not_mem_nil) rfl
  distinct := List.nodup_nil
  carries := .empty rfl

lemma Ready.step (h : Ready config w l) (op : MessageWriter.Op) :
    Ready config (w.step op) (l.step op) where
  mirrors := h.mirrors.step op
  holds := h.holds.step op
  distinct := h.distinct.step op
  carries := h.carries.step op

lemma Ready.recreate_eq (h : Ready config w l) (p : ContentProvider σ) (context : σ) :
    recreate w p context = some (w.create p context) := by
  have hwriter := h.mirrors.writer
  refine Checked.recreate_eq ?_ (hwriter ▸ h.holds.widths) (hwriter ▸ h.carries.room) p context
  rw [h.mirrors.unused, hwriter, h.mirrors.capacities]

/-- No operation has a step out of range. -/
lemma Ready.step_eq (h : Ready config w l) (op : MessageWriter.Op) :
    Checked.step w op = some (w.step op) := by
  have hdistinct : w.toMessageWriter.TypesDistinct := h.mirrors.writer ▸ h.distinct
  cases op with
  | registerMessage type width =>
    refine enrol_eq (yields_registerMessage hdistinct type width) fun e he => ?_
    simp only [MessageWriter.registerMessage] at he ⊢
    split at he
    · next hwidth => rw [if_pos hwidth]
    · next hwidth =>
      split at he
      · next hknown => rw [if_neg hwidth, if_pos hknown]
      · exact absurd he (by simp)
  | registerProvider type table =>
    refine enrol_eq (yields_registerProvider hdistinct type table) fun e he => ?_
    simp only [MessageWriter.registerProvider] at he ⊢
    split at he
    · next hknown => rw [if_pos hknown]
    · exact absurd he (by simp)
  | create p context =>
    show (recreate w p context >>= _) = _
    rw [h.recreate_eq]
    rfl
  | flush target t => rfl
  | discard => rfl

end Checked

namespace ReusingWriter

open MessageWriter

/-- **No step is out of range, whatever the history.**  For all capacities and every history of
registrations, messages, flushes and discards, with providers that may do anything, ignore errors,
use indices of addresses that are not there and set any flags:

* every difference that is computed is one of a number and a smaller one: the room in a buffer, the
  width less one, the length of a block, the position of the last entry;
* every position is there: those of entries in the registry, of addresses that are marked, of types
  in the table and of values in the arena, and the offsets at which lengths are filled in;
* every number that is cut to one octet or two fits: the number of addresses, the index of an
  address, the length of a value.

The checked writer has a result then, and it is that of the writer, for the whole history and for
whatever message is made next. -/
theorem never_out_of_range (config : WriterConfig) (history : List Op) :
    history.foldlM Checked.step (new config) = some (after config history) ∧
      ∀ {σ : Type} (p : ContentProvider σ) (context : σ),
        Checked.recreate (after config history) p context =
          some ((after config history).create p context) := by
  have hrun : ∀ w l, Checked.Ready config w l →
      history.foldlM Checked.step w = some (history.foldl step w) ∧
        Checked.Ready config (history.foldl step w) (history.foldl Loaded.step l) := by
    induction history with
    | nil => exact fun _ _ h => ⟨rfl, h⟩
    | cons op history ih =>
      intro w l h
      rw [List.foldlM_cons, h.step_eq op]
      exact ih _ _ (h.step op)
  obtain ⟨hhistory, hready⟩ := hrun _ _ (.new config)
  exact ⟨hhistory, hready.recreate_eq⟩

end ReusingWriter

end RouteDiscovery.Wire
