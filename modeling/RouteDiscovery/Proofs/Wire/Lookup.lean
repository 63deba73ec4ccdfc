/-
# What a width and a table are for

A writer looks a message type up before it lets a provider make a message.  Without a width there is
no message, and without a table there are no TLVs.

* `MessageWriter.callbacks_eq_nil_iff`: the provider gets no callback if and only if its type has no
  width.
* `MessageWriter.create_unregistered_iff`: that a type has no width is said by the writer if it has
  none, and otherwise by nobody but the provider itself, for the errors of the writer's own
  (`OwnErrors`) are other ones.
* `MessageWriter.undeclared_of_table?_eq_none`: where there is no table, no TLV is accepted.
-/
import RouteDiscovery.Proofs.Wire.OwnErrors

namespace RouteDiscovery.Wire

variable {σ α : Type}

/-! ## Errors -/

/-- The result does not say that a type has no width. -/
def KnowsType (r : Except WireError α) : Prop := ∀ code, r ≠ .error (.unregistered code)

/-- An error of a writer's own says something else. -/
lemma OwnErrors.knowsType {r : Except WireError α} (h : OwnErrors r) : KnowsType r :=
  fun _ heq => h _ heq

/-! ## Making a message -/

namespace MessageWriter

/-- **Who says that a type has no width.**  The writer does if it has none, and otherwise only the
provider itself does. -/
theorem create_unregistered_iff (w : MessageWriter) (p : ContentProvider σ) (context : σ) :
    (w.create p context).result = .error (.unregistered p.type.code) ↔
      w.width? p.type = none ∨ ∃ width, w.width? p.type = some width ∧
        (compose p (w.opening p context width)).1 = .error (.unregistered p.type.code) := by
  constructor
  · intro h
    rcases error_cases h with ⟨hnone, -⟩ | ⟨width, hwidth, hcompose | happend⟩
    · exact .inl hnone
    · exact .inr ⟨width, hwidth, hcompose⟩
    -- what comes after the callbacks is done by a writer that knows the type
    · exact absurd happend ((OwnErrors.appendDraft w p.type _).knowsType _)
  · rintro (hnone | ⟨width, hwidth, h⟩)
    · rw [create_unregistered hnone]
    · rcases hcompose : compose p (w.opening p context width) with ⟨r, callbacks, s⟩
      obtain rfl : r = .error (.unregistered p.type.code) := by rwa [hcompose] at h
      rw [create_rejected hwidth hcompose]
      rfl

/-- A message is begun if its type has a width, and only then. -/
lemma callbacks_eq_nil_iff (w : MessageWriter) (p : ContentProvider σ) (context : σ) :
    (w.create p context).callbacks = [] ↔ w.width? p.type = none := by
  cases hwidth : w.width? p.type with
  | none =>
    rw [create_unregistered hwidth]
    exact ⟨fun _ => rfl, fun _ => rfl⟩
  | some width =>
    rcases hcompose : compose p (w.opening p context width) with ⟨r, callbacks, s⟩
    rcases create_ends hwidth hcompose with ⟨e, hcreate⟩ | ⟨packet, message, hcreate⟩
    · simp [hcreate, aborted]
    · simp [hcreate, finished]

/-- A message whose type has no table gets no TLVs. -/
lemma undeclared_of_table?_eq_none {w : MessageWriter} {p : ContentProvider σ} {context : σ}
    (htable : w.table? p.type = none) {index : ℕ} {type : TlvType} {value : List UInt8}
    {allowDuplicate : Bool} {answer : Except WireError Unit}
    (hr : ⟨.addTlv index type value allowDuplicate, answer⟩ ∈ (w.create p context).calls) :
    answer = .error (.undeclaredTlv type.kind) := by
  obtain ⟨before, later, hcalls⟩ := List.append_of_mem hr
  have htruthful := truthful_create w p context
  rw [hcalls] at htruthful
  have hanswer : answer = Call.due ((w.width? p.type).getD 0) ((w.table? p.type).getD []) _ before
      (.addTlv index type value allowDuplicate) := htruthful.split.2
  rw [hanswer, htable, Option.getD_none]
  simp only [Call.due, List.not_mem_nil, not_false_eq_true, if_true]

end MessageWriter

end RouteDiscovery.Wire
