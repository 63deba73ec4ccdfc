/-
# Callbacks among the changes of others

Others may work on the context of a provider while it fills in its message.  `Script.amid` is the
script during which this happens: others change the context before each of its calls and at its
end.  A step on the context (`Script.step`) stays in one piece.

A script that only makes calls (`Script.Quiet`) notices nothing of this, and it leaves the context to
the others (`Script.Quiet.run_amid`).
-/
import RouteDiscovery.Proofs.Wire.CallbackOrder

namespace RouteDiscovery.Wire

variable {σ α β : Type}

/-- The context after a row of changes. -/
def changed (changes : List (σ → σ)) (context : σ) : σ := changes.foldl (fun s f => f s) context

lemma changed_tail (changes : List (σ → σ)) (context : σ) :
    changed changes.tail (changes.headD id context) = changed changes context := by
  cases changes <;> rfl

namespace Script

/-- The script during which others make changes: one before each call, as long as there are any, and
the rest at the end. -/
def amid : Script σ α → List (σ → σ) → Script σ α
  | done a, others => read fun s => write (changed others s) (done a)
  | call c next, others =>
    read fun s => write (others.headD id s) (call c fun x => (next x).amid others.tail)
  | read next, others => read fun s => (next s).amid others
  | write context next, others => write context (next.amid others)
  | emit e next, others => emit e (next.amid others)

/-- The script makes calls and nothing else. -/
inductive Quiet : Script σ α → Prop
  | done (a : α) : Quiet (done a)
  | call (c : Call) {next : c.Answer → Script σ α} (h : ∀ x, Quiet (next x)) : Quiet (call c next)

variable {script : Script σ α}

lemma Quiet.bind {f : α → Script σ β} (h : script.Quiet) (hf : ∀ a, (f a).Quiet) :
    (script.bind f).Quiet := by
  induction h with
  | done a => exact hf a
  | call c _ ih => exact .call c ih

lemma Quiet.events_run (h : script.Quiet) (s : Session σ) : (script.run s).2.events = s.events := by
  induction h generalizing s with
  | done a => rfl
  | call c _ ih => exact ih _ _

/-- Others show in the context only. -/
lemma Quiet.run_amid (h : script.Quiet) (others : List (σ → σ)) (s : Session σ) (context : σ) :
    (script.amid others).run { s with context } =
      ((script.run s).1, { (script.run s).2 with context := changed others context }) := by
  induction h generalizing others s context with
  | done a => rfl
  | @call c next _ ih =>
    have hnext := ih (s.draft.answer c).1 others.tail
      { s with draft := (s.draft.answer c).2, calls := s.calls ++ [⟨c, (s.draft.answer c).1⟩] }
      (others.headD id context)
    rw [changed_tail] at hnext
    exact hnext

end Script

namespace CallbackScript

/-- A callback goes on quietly. -/
lemma quiet_bind {x : CallbackScript σ α} {f : α → CallbackScript σ β} (hx : x.run.Quiet)
    (hf : ∀ a, (f a).run.Quiet) : (x >>= f).run.Quiet := by
  refine hx.bind fun r => ?_
  cases r with
  | error e => exact .done _
  | ok a => exact hf a

lemma quiet_addAddress (addr : NetAddr) (mandatory : Bool) :
    (addAddress addr mandatory : CallbackScript σ ℕ).run.Quiet :=
  .call _ fun r => .done r

lemma quiet_addTlv (index : ℕ) (type : TlvType) (value : List UInt8) (allowDuplicate : Bool) :
    (addTlv index type value allowDuplicate : CallbackScript σ Unit).run.Quiet :=
  .call _ fun r => .done r

end CallbackScript

/-- The provider amid whose address callback others change its context. -/
def ContentProvider.amid (p : ContentProvider σ) (others : List (σ → σ)) : ContentProvider σ :=
  { p with addAddresses := ExceptT.mk (p.addAddresses.run.amid others) }

end RouteDiscovery.Wire
