/-
# The registry

What a writer knows of a message type stands at one position of its registry: no operation puts a
type there a second time (`MessageWriter.typesDistinct_after`).  So what is known of a type is
changed by changing one entry (`MessageWriter.update_of_known`) or by putting a new one at the end
(`MessageWriter.update_of_new`), and what is known of the other types stays
(`MessageWriter.entry_update`).
-/
import RouteDiscovery.Proofs.Wire.RoundTrip

namespace RouteDiscovery.Wire.MessageWriter

variable {w : MessageWriter} {type : MsgType} {f : Registration → Registration}

/-- No type is in the registry twice. -/
def TypesDistinct (w : MessageWriter) : Prop := (w.registry.map (·.type)).Nodup

lemma find?_eq_none_iff : w.find? type = none ↔ type ∉ w.registry.map (·.type) := by
  simp only [find?, List.find?_eq_none, decide_eq_true_eq, List.mem_map, not_exists, not_and]

/-! ## Changing an entry -/

/-- A type that is not known yet is put at the end. -/
lemma update_of_new (hnew : w.find? type = none) :
    w.update type f = { w with registry := w.registry ++ [f { type }] } := by
  simp only [update, hnew]
  rfl

/-- Entries that the change leaves are left. -/
lemma map_eq_self {registry : List Registration} (h : ∀ r ∈ registry, r.type = type → f r = r) :
    (registry.map fun r => if r.type = type then f r else r) = registry := by
  conv_rhs => rw [← List.map_id registry]
  refine List.map_congr_left fun r hr => ?_
  split
  · next htype => exact h r hr htype
  · rfl

/-- Where types are distinct, changing the entries of a type changes the one at its position. -/
lemma map_eq_set {registry : List Registration} (hdistinct : (registry.map (·.type)).Nodup) {i : ℕ}
    {r : Registration} (hr : registry[i]? = some r) (htype : r.type = type) :
    (registry.map fun s => if s.type = type then f s else s) = registry.set i (f r) := by
  induction registry generalizing i with
  | nil => exact absurd hr (by simp)
  | cons s registry ih =>
    rw [List.map_cons, List.nodup_cons] at hdistinct
    cases i with
    | zero =>
      -- no other entry is of the type
      obtain rfl : s = r := Option.some.inj hr
      have hother : ∀ t ∈ registry, t.type = type → f t = t := fun t ht hsame =>
        absurd (hsame.trans htype.symm ▸ List.mem_map_of_mem ht) hdistinct.1
      rw [List.map_cons, if_pos htype, map_eq_self hother]
      rfl
    | succ i =>
      have hne : s.type ≠ type := by
        rintro hs
        refine hdistinct.1 ?_
        rw [hs, ← htype]
        exact List.mem_map_of_mem (List.mem_of_getElem? hr)
      rw [List.map_cons, if_neg hne, ih hdistinct.2 hr]
      rfl

/-- What is known of a type is changed at its position. -/
lemma update_of_known (hw : w.TypesDistinct) {i : ℕ} {r : Registration}
    (hr : w.registry[i]? = some r) (htype : r.type = type) :
    w.update type f = { w with registry := w.registry.set i (f r) } := by
  have hsome : (w.find? type).isSome = true := by
    rw [Option.isSome_iff_ne_none, Ne, find?_eq_none_iff, not_not, ← htype]
    exact List.mem_map_of_mem (List.mem_of_getElem? hr)
  rw [update, if_pos hsome, map_eq_set hw hr htype]

lemma type_of_find? {r : Registration} (h : w.find? type = some r) : r.type = type := by
  have hfound : decide (r.type = type) = true :=
    List.find?_some (p := fun r : Registration => decide (r.type = type)) h
  exact of_decide_eq_true hfound

/-- What is known of a type after a change, and of the others. -/
lemma find?_update (w : MessageWriter) (type : MsgType) (hf : ∀ r, (f r).type = r.type)
    (t : MsgType) :
    (w.update type f).find? t =
      if t = type then some (f ((w.find? type).getD { type })) else w.find? t := by
  cases hfind : w.find? type with
  | none =>
    have hlast : (w.update type f).find? t =
        (w.find? t).or (if type = t then some (f { type }) else none) := by
      rw [update_of_new hfind]
      show (w.registry ++ [f { type }]).find? (fun r => decide (r.type = t)) = _
      rw [List.find?_append, List.find?_singleton, hf]
      simp only [decide_eq_true_eq]
      rfl
    rw [hlast]
    by_cases ht : t = type
    · rw [if_pos ht, if_pos ht.symm, ht, hfind]
      rfl
    · rw [if_neg ht, if_neg (Ne.symm ht), Option.or_none]
  | some known =>
    -- the entries keep their types, so the same entry is found
    have hsame : (fun r : Registration => decide (r.type = t)) ∘
        (fun r => if r.type = type then f r else r) = fun r => decide (r.type = t) := by
      funext r
      show decide ((if r.type = type then f r else r).type = t) = _
      split
      · rw [hf]
      · rfl
    have hchanged : (w.update type f).find? t =
        (w.find? t).map fun r => if r.type = type then f r else r := by
      rw [update, hfind]
      show (w.registry.map fun r => if r.type = type then f r else r).find? _ = _
      rw [List.find?_map, hsame]
      rfl
    rw [hchanged]
    by_cases ht : t = type
    · rw [if_pos ht, ht, hfind, Option.map_some, if_pos (type_of_find? hfind)]
      rfl
    · rw [if_neg ht]
      cases hother : w.find? t with
      | none => rfl
      | some r => rw [Option.map_some, if_neg (type_of_find? hother ▸ ht)]

/-- What is known of a type, which is nothing if it has no entry. -/
def entry (w : MessageWriter) (type : MsgType) : Registration := (w.find? type).getD { type }

lemma width?_eq (w : MessageWriter) (type : MsgType) : w.width? type = (w.entry type).width := by
  unfold width? entry
  cases w.find? type <;> rfl

lemma table?_eq (w : MessageWriter) (type : MsgType) : w.table? type = (w.entry type).table := by
  unfold table? entry
  cases w.find? type <;> rfl

/-- A change of what is known of a type. -/
lemma entry_update (w : MessageWriter) (type : MsgType) (hf : ∀ r, (f r).type = r.type)
    (t : MsgType) :
    (w.update type f).entry t = if t = type then f (w.entry type) else w.entry t := by
  rw [entry, find?_update w type hf t]
  split <;> rfl

/-! ## Distinct types -/

lemma TypesDistinct.update (hw : w.TypesDistinct) (type : MsgType)
    (hf : ∀ r, (f r).type = r.type) : (w.update type f).TypesDistinct := by
  cases hfind : w.find? type with
  | none =>
    have hlast : (f { type }).type ∉ w.registry.map (·.type) := by
      rw [hf]
      exact find?_eq_none_iff.1 hfind
    rw [update_of_new hfind, TypesDistinct, List.map_append, List.nodup_append_comm]
    exact List.nodup_cons.2 ⟨hlast, hw⟩
  | some r =>
    have hsame : (w.update type f).registry.map (·.type) = w.registry.map (·.type) := by
      rw [MessageWriter.update, hfind]
      show (w.registry.map _).map _ = _
      rw [List.map_map]
      refine List.map_congr_left fun s _ => ?_
      show (if s.type = type then f s else s).type = s.type
      split
      · exact hf s
      · rfl
    rwa [TypesDistinct, hsame]

/-- Making messages and handing packets over leaves the registry. -/
lemma registry_create {σ : Type} (w : MessageWriter) (p : ContentProvider σ) (context : σ) :
    (w.create p context).writer.registry = w.registry := by
  rcases create_cases w p context with ⟨e, -, hwriter⟩ | ⟨width, d, hbuilt⟩
  · rw [hwriter]
  · rw [hbuilt.writer]

lemma registry_flush {ε τ : Type} (w : MessageWriter) (target : PacketTarget ε τ) (t : τ) :
    (w.flush target t).state.1.registry = w.registry := by
  unfold flush
  split <;> rfl

lemma TypesDistinct.step {l : Loaded} (h : l.writer.TypesDistinct) (op : Op) :
    (l.step op).writer.TypesDistinct := by
  cases op with
  | registerMessage type width =>
    simp only [Loaded.step, registerMessage]
    split
    · exact h
    · split
      · exact h
      · exact h.update type fun _ => rfl
  | registerProvider type table =>
    simp only [Loaded.step, registerProvider]
    split
    · exact h
    · exact h.update type fun _ => rfl
  | create p context => rwa [TypesDistinct, Loaded.step, registry_create]
  | flush target t => rwa [TypesDistinct, Loaded.step, registry_flush]
  | discard => exact h

/-- After every history no type is in the registry twice. -/
lemma typesDistinct_after (config : WriterConfig) (history : List Op) :
    (Loaded.after config history).writer.TypesDistinct :=
  Loaded.after_invariant (P := fun l => l.writer.TypesDistinct) List.nodup_nil
    (fun _ op h => h.step op) history

end RouteDiscovery.Wire.MessageWriter
