/-
# The errors of a writer

A provider may report any error.  A writer that makes a message of a type it knows comes to few of
them by itself (`WireError.IsOwn`): neither does it miss the width of the type, nor any field but
those of the header.

* `OwnErrors.appendDraft`: this holds for writing the message.
* `OwnErrors.of_due`: it holds for the answers of calls, and so for what providers come to that only
  pass errors on (`OwnErrors.of_passesOn`).
* `MessageWriter.error_create`: for such providers it holds of making a message.
-/
import RouteDiscovery.Proofs.Wire.PassingOn

namespace RouteDiscovery.Wire

open CallRecord

variable {σ α β : Type}

/-- How errors name the fields of a header. -/
def MsgHeader.fieldNames : List String := ["originator", "hop-limit", "hop-count", "seq-num"]

/-- An error that a writer comes to by itself while it makes a message of a type that it knows. -/
def WireError.IsOwn : WireError → Prop
  | unregistered _ | alreadyRegistered _ => False
  | missingField name => name ∈ MsgHeader.fieldNames
  | _ => True

/-- The result is no error but one of the writer's own. -/
def OwnErrors (r : Except WireError α) : Prop := ∀ e, r = .error e → e.IsOwn

namespace OwnErrors

lemma ok (a : α) : OwnErrors (.ok a : Except WireError α) := fun _ => by simp

lemma error {e : WireError} (h : e.IsOwn) : OwnErrors (.error e : Except WireError α) :=
  fun _ heq => Except.error.inj heq ▸ h

lemma bind {r : Except WireError α} {f : α → Except WireError β} (h : OwnErrors r)
    (hf : ∀ a, OwnErrors (f a)) : OwnErrors (r >>= f) := by
  cases r with
  | error e => exact error (h e rfl)
  | ok a => exact hf a

lemma ite {p : Prop} [Decidable p] {r r' : Except WireError α} (h : OwnErrors r)
    (h' : OwnErrors r') : OwnErrors (if p then r else r') := by
  split
  · exact h
  · exact h'

lemma ensure (b : Buffer) (needed : ℕ) : OwnErrors (b.ensure needed) := ite (ok ()) (error trivial)

lemma put (b : Buffer) (data : List UInt8) : OwnErrors (b.put data) :=
  (ensure b data.length).bind fun _ => ok _

lemma writeAll {pieces : List Buffer.Piece} (h : ∀ piece ∈ pieces, OwnErrors piece) (b : Buffer) :
    OwnErrors (b.writeAll pieces) := by
  induction pieces generalizing b with
  | nil => exact ok b
  | cons piece pieces ih =>
    rw [List.forall_mem_cons] at h
    cases piece with
    | error e => exact error (h.1 e rfl)
    | ok data =>
      rw [Buffer.writeAll_cons_ok]
      exact (put b data).bind fun b' => ih h.2 b'

lemma lengthField (n : ℕ) : OwnErrors (Wire.lengthField n) := ite (ok _) (error trivial)

lemma headPieces (d : Draft) (type : MsgType) : ∀ piece ∈ d.headPieces type, OwnErrors piece := by
  -- a field that its flags announce is there, or it is missing
  have hfield : ∀ {α : Type} (flag : MsgFlags) {name : String} (value : Option α)
      {piece : α → Buffer.Piece}, name ∈ MsgHeader.fieldNames → (∀ v, OwnErrors (piece v)) →
      ∀ x ∈ d.header.field flag name value piece, OwnErrors x := by
    intro α flag name value piece hname hpiece x hx
    unfold MsgHeader.field at hx
    split at hx
    · rw [List.mem_singleton.1 hx]
      cases value with
      | none => exact error hname
      | some v => exact hpiece v
    · exact absurd hx List.not_mem_nil
  have horiginator : ∀ a, OwnErrors (MsgHeader.originatorPiece d.width a) :=
    fun a => ite (ok _) (error trivial)
  intro piece hpiece
  simp only [Draft.headPieces, MsgHeader.pieces, List.mem_append] at hpiece
  rcases hpiece with ((((hfixed | horigin) | hlimit) | hcount) | hseqNum) | hblock
  · simp only [List.mem_cons, List.not_mem_nil, or_false] at hfixed
    rcases hfixed with rfl | rfl | rfl <;> exact ok _
  · exact hfield _ _ (by decide) horiginator piece horigin
  · exact hfield _ _ (by decide) (fun _ => ok _) piece hlimit
  · exact hfield _ _ (by decide) (fun _ => ok _) piece hcount
  · exact hfield _ _ (by decide) (fun _ => ok _) piece hseqNum
  · rw [List.mem_singleton.1 hblock]
    exact ok _

lemma encodeAddresses (d : Draft) (b : Buffer) : OwnErrors (d.encodeAddresses b) := by
  have haddress : ∀ piece ∈ d.addressPieces, OwnErrors piece := by
    intro piece hpiece
    rcases List.mem_append.1 hpiece with hcount | haddr
    · simp only [List.mem_cons, List.not_mem_nil, or_false] at hcount
      rcases hcount with rfl | rfl <;> exact ok _
    · obtain ⟨a, -, rfl⟩ := List.mem_map.1 haddr
      exact ok _
  have htlv : ∀ piece ∈ .ok (wordBytes 0) :: d.sortedTlvs.map (·.piece), OwnErrors piece := by
    rw [List.forall_mem_cons]
    refine ⟨ok _, fun piece hpiece => ?_⟩
    obtain ⟨t, -, rfl⟩ := List.mem_map.1 hpiece
    exact ite (ok _) (error trivial)
  exact (writeAll haddress b).bind fun b₁ => (writeAll htlv b₁).bind fun b₂ =>
    (lengthField _).bind fun _ => ok _

lemma encode (d : Draft) (type : MsgType) (b : Buffer) : OwnErrors (d.encode type b) := by
  refine (writeAll (headPieces d type) b).bind fun b₁ => ?_
  cases d.addresses.isEmpty with
  | true => exact (lengthField _).bind fun _ => ok _
  | false => exact (encodeAddresses d b₁).bind fun b₂ => (lengthField _).bind fun _ => ok _

lemma appendMessage (packet : Buffer) (octets : List UInt8) :
    OwnErrors (MessageWriter.appendMessage packet octets) := by
  refine (ensure packet _).bind fun _ => ?_
  cases packet.isEmpty with
  | true => exact (put packet _).bind fun packet' => put packet' octets
  | false => exact put packet octets

lemma appendDraft (w : MessageWriter) (type : MsgType) (d : Draft) :
    OwnErrors (w.appendDraft type d) :=
  (encode d type _).bind fun _ => (appendMessage _ _).bind fun _ => ok _

/-- The answer of a call is no error but one of the writer's own. -/
lemma of_due {width : ℕ} {table : List TlvType} {room : ℕ} {before : List CallRecord} {c : Call}
    {e : WireError} (h : rejection? ⟨c, c.due width table room before⟩ = some e) : e.IsOwn := by
  cases c with
  | addAddress addr mandatory =>
    simp only [Call.due] at h
    split_ifs at h <;> cases h <;> trivial
  | addTlv index type value allowDuplicate =>
    simp only [Call.due] at h
    split_ifs at h <;> cases h <;> trivial
  | _ => exact absurd h (by simp [rejection?])

/-- A script that passes errors on has no errors of another kind. -/
lemma of_passesOn {script : Script σ (Except WireError α)} (h : script.PassesOn) (width : ℕ)
    (table : List TlvType) (room : ℕ) (context : σ) (before : List CallRecord) :
    OwnErrors (script.foretell (Call.due width table room) context before).1 := by
  induction h generalizing context before with
  | done a => exact ok a
  | read _ ih => exact ih context context before
  | write written _ ih => exact ih written before
  | emit e _ ih => exact ih context before
  | @call c next accepted rejected ih =>
    cases hrejection : rejection? ⟨c, c.due width table room before⟩ with
    | none => exact ih _ hrejection context _
    | some e =>
      rw [Script.foretell_of_rejected hrejection rejected]
      exact error (of_due hrejection)

end OwnErrors

namespace MessageWriter

variable {w : MessageWriter} {p : ContentProvider σ} {context : σ} {width : ℕ}

/-- The callbacks of a provider that passes errors on come to no other ones. -/
lemma ownErrors_compose (hp : p.PassesOn) (w : MessageWriter) (context : σ) (width : ℕ) :
    OwnErrors (compose p (w.opening p context width)).1 := by
  rcases hcompose : compose p (w.opening p context width) with ⟨r, callbacks, s⟩
  have hscript : p.script.run.PassesOn := CallbackScript.passesOn_bind hp.1 fun _ => hp.2
  have hown : OwnErrors (w.foretold p context width).1 := .of_passesOn hscript width _ _ context []
  rwa [(compose_foretold hcompose).1] at hown

/-- A message that could not be made is one of an unknown type, or the error is the writer's own. -/
lemma error_create (hp : p.PassesOn) {e : WireError} (h : (w.create p context).result = .error e) :
    e = .unregistered p.type.code ∨ e.IsOwn := by
  rcases error_cases h with ⟨-, hunregistered⟩ | ⟨width, -, hcompose | happend⟩
  · exact .inl hunregistered
  · exact .inr (ownErrors_compose hp w context width e hcompose)
  · exact .inr (OwnErrors.appendDraft w p.type _ e happend)

end MessageWriter

end RouteDiscovery.Wire
