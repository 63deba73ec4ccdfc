/-
# Registration

A message type is registered in two parts: the width of its addresses, and the TLVs that its
provider may add.  Both parts stand in one entry, and either may come first.

* `Registering.performInPlace` makes the entry before it looks whether the part is there already;
  this is no different from looking first (`Registering.performInPlace_eq`).
* `MessageWriter.known_foldl`: in force is what was registered first, whatever was done in between.
* `MessageWriter.filter_answers`: the answers to the registrations of one part of one type depend on
  these registrations only, so others may come between them in any order.
* `MessageWriter.Twin`: writers that know the same go on alike, in whatever order their entries
  stand.

`ReusingWriter.registration_law` puts this together with what the width and the table are for: a
message of a type without a width is not even begun, and one of a type without a table has no TLVs.
-/
import RouteDiscovery.Proofs.Wire.Independence
import RouteDiscovery.Proofs.Wire.Lookup
import RouteDiscovery.Proofs.Wire.Registry

namespace RouteDiscovery.Wire

open CallRecord MessageWriter

/-! ## Registrations -/

/-- A part of what is known of a message type. -/
inductive RegisteredPart where
  | width
  | table
deriving DecidableEq, Repr

/-- The part is filled in. -/
def Registration.has : RegisteredPart → Registration → Bool
  | .width, r => r.width.isSome
  | .table, r => r.table.isSome

/-- The part of what is known of the type is filled in. -/
def MessageWriter.has (w : MessageWriter) (key : RegisteredPart × MsgType) : Bool :=
  (w.entry key.2).has key.1

/-- A registration of one part of one type. -/
inductive Registering where
  | message (type : MsgType) (width : ℕ)
  | provider (type : MsgType) (table : List TlvType)
deriving DecidableEq, Repr

namespace Registering

/-- What is registered. -/
def key : Registering → RegisteredPart × MsgType
  | message type _ => (.width, type)
  | provider type _ => (.table, type)

def op : Registering → Op
  | message type width => .registerMessage type width
  | provider type table => .registerProvider type table

/-- What is wrong with a registration, whatever is registered already. -/
def defect? : Registering → Option WireError
  | message _ width =>
    if width = 0 ∨ maxAddressLength < width then some (.addressLength maxAddressLength width)
    else none
  | provider .. => none

def fill : Registering → Registration → Registration
  | message _ width, r => { r with width := some width }
  | provider _ table, r => { r with table := some table }

def perform : Registering → MessageWriter → Outcome MessageWriter (Except WireError Unit)
  | message type width, w => w.registerMessage type width
  | provider type table, w => w.registerProvider type table

/-- Registers in place: the entry of the type is there before its part is looked at. -/
def performInPlace (r : Registering) (w : MessageWriter) : Except WireError Unit × MessageWriter :=
  match r.defect? with
  | some e => (.error e, w)
  | none =>
    let w := w.update r.key.2 id
    if w.has r.key then (.error (.alreadyRegistered r.key.2.code), w)
    else (.ok (), w.update r.key.2 r.fill)

end Registering

namespace MessageWriter

variable {w w' : MessageWriter} {key : RegisteredPart × MsgType}

lemma isSome_width? (w : MessageWriter) (type : MsgType) :
    (w.width? type).isSome = w.has (.width, type) := by
  rw [width?_eq]
  rfl

lemma isSome_table? (w : MessageWriter) (type : MsgType) :
    (w.table? type).isSome = w.has (.table, type) := by
  rw [table?_eq]
  rfl

end MessageWriter

namespace Registering

variable (r : Registering) (w : MessageWriter)

lemma type_fill (known : Registration) : (r.fill known).type = known.type := by
  cases r <;> rfl

/-- A registration is refused for what is wrong with it, or because its part is filled in, and then
nothing is changed; otherwise its part is filled in. -/
lemma perform_cases :
    (∃ e, r.defect? = some e ∧ (r.perform w).answer = .error e ∧ (r.perform w).state = w) ∨
      (r.defect? = none ∧ w.has r.key = true ∧
        (r.perform w).answer = .error (.alreadyRegistered r.key.2.code) ∧
        (r.perform w).state = w) ∨
      (r.defect? = none ∧ w.has r.key = false ∧ (r.perform w).answer = .ok () ∧
        (r.perform w).state = w.update r.key.2 r.fill) := by
  cases r with
  | message type width =>
    by_cases hwidth : width = 0 ∨ maxAddressLength < width
    · refine .inl ⟨_, if_pos hwidth, ?_⟩
      simp only [perform, registerMessage, if_pos hwidth, and_self]
    · refine .inr ?_
      simp only [perform, registerMessage, if_neg hwidth, isSome_width?]
      cases hhas : w.has (.width, type) with
      | true => exact .inl ⟨if_neg hwidth, hhas, rfl, rfl⟩
      | false => exact .inr ⟨if_neg hwidth, hhas, rfl, rfl⟩
  | provider type table =>
    refine .inr ?_
    simp only [perform, registerProvider, isSome_table?]
    cases hhas : w.has (.table, type) with
    | true => exact .inl ⟨rfl, hhas, rfl, rfl⟩
    | false => exact .inr ⟨rfl, hhas, rfl, rfl⟩

/-- A registration that is refused changes nothing. -/
lemma state_of_error {e : WireError} (h : (r.perform w).answer = .error e) :
    (r.perform w).state = w := by
  rcases r.perform_cases w with ⟨-, -, -, hstate⟩ | ⟨-, -, -, hstate⟩ | ⟨-, -, hanswer, -⟩
  · exact hstate
  · exact hstate
  · exact absurd (hanswer.symm.trans h) (by simp)

/-- What a registration is answered, told from whether its part is filled in. -/
def verdict (filled : Bool) : Except WireError Unit :=
  match r.defect? with
  | some e => .error e
  | none => if filled then .error (.alreadyRegistered r.key.2.code) else .ok ()

lemma answer_perform : (r.perform w).answer = r.verdict (w.has r.key) := by
  unfold verdict
  rcases r.perform_cases w with ⟨e, hdefect, hanswer, -⟩ | ⟨hdefect, hhas, hanswer, -⟩ |
    ⟨hdefect, hhas, hanswer, -⟩
  · rw [hdefect, hanswer]
  · rw [hdefect, hhas, hanswer]
    rfl
  · rw [hdefect, hhas, hanswer]
    rfl

end Registering

/-! ## In place -/

namespace MessageWriter

variable {w : MessageWriter} {type : MsgType}

/-- An entry that is made before anything is known has no parts. -/
lemma has_update_id (w : MessageWriter) (type : MsgType) (key : RegisteredPart × MsgType) :
    (w.update type id).has key = w.has key := by
  have hentry : (w.update type id).entry key.2 = w.entry key.2 := by
    rw [entry_update w type (f := id) fun _ => rfl]
    split
    · next h => rw [h, id]
    · rfl
  rw [has, has, hentry]

/-- An entry that is there is not made a second time. -/
lemma update_id_of_known {r : Registration} (h : w.find? type = some r) :
    w.update type id = w := by
  rw [update, h, map_eq_self (f := id) fun r _ _ => rfl]
  rfl

/-- An entry may be made before it is changed. -/
lemma update_update_id (w : MessageWriter) (type : MsgType) {f : Registration → Registration} :
    (w.update type id).update type f = w.update type f := by
  cases hfind : w.find? type with
  | some r => rw [update_id_of_known hfind]
  | none =>
    have hmade : (w.update type id).find? type = some { type } := by
      rw [find?_update w type (f := id) (fun _ => rfl), if_pos rfl, hfind]
      rfl
    have hothers : ∀ r ∈ w.registry, r.type = type → f r = r := fun r hr hrtype =>
      absurd (hrtype ▸ List.mem_map_of_mem hr) (find?_eq_none_iff.1 hfind)
    rw [update, hmade, update_of_new hfind, update_of_new hfind]
    let fresh : Registration := { type }
    have hchanged : ((w.registry ++ [fresh]).map fun r => if r.type = type then f r else r) =
        w.registry ++ [f fresh] := by
      rw [List.map_append, map_eq_self hothers, List.map_singleton, if_pos rfl]
    exact congrArg (fun registry => { w with registry }) hchanged

end MessageWriter

/-- **Registering in place.**  It makes no difference that the entry is made first. -/
theorem Registering.performInPlace_eq (r : Registering) (w : MessageWriter) :
    r.performInPlace w = ((r.perform w).answer, (r.perform w).state) := by
  unfold performInPlace
  rcases r.perform_cases w with ⟨e, hdefect, hanswer, hstate⟩ |
    ⟨hdefect, hhas, hanswer, hstate⟩ | ⟨hdefect, hhas, hanswer, hstate⟩
  · rw [hdefect, hanswer, hstate]
  · have hknown : w.find? r.key.2 ≠ none := by
      intro hnone
      rw [has, entry, hnone] at hhas
      exact absurd hhas (by cases r <;> simp [key, Registration.has])
    obtain ⟨known, hfind⟩ := Option.ne_none_iff_exists'.1 hknown
    simp only [hdefect, update_id_of_known hfind, hhas, if_true, hanswer, hstate]
  · simp only [hdefect, has_update_id, hhas, Bool.false_eq_true, if_false, hanswer, hstate,
      update_update_id]

/-! ## What is in force -/

namespace MessageWriter

/-- The width that an operation registers for a type, if it is a width of addresses. -/
def Op.width? (type : MsgType) : Op → Option ℕ
  | .registerMessage t width =>
    if t = type ∧ 0 < width ∧ width ≤ maxAddressLength then some width else none
  | _ => none

/-- The table that an operation declares for a type. -/
def Op.table? (type : MsgType) : Op → Option (List TlvType)
  | .registerProvider t table => if t = type then some table else none
  | _ => none

variable {w w' : MessageWriter}

lemma fits_iff {width : ℕ} : 0 < width ∧ width ≤ maxAddressLength ↔
    ¬ (width = 0 ∨ maxAddressLength < width) := by omega

/-- The registry is all that is known of the types. -/
lemma entry_congr (h : w.registry = w'.registry) (type : MsgType) :
    w.entry type = w'.entry type := by
  unfold entry find?
  rw [h]

/-- What is known of a type after a registration. -/
lemma entry_perform (r : Registering) (w : MessageWriter) (type : MsgType) :
    (r.perform w).state.entry type =
      if r.defect? = none ∧ w.has r.key = false ∧ type = r.key.2 then r.fill (w.entry type)
      else w.entry type := by
  rcases r.perform_cases w with ⟨e, hdefect, -, hstate⟩ | ⟨hdefect, hhas, -, hstate⟩ |
    ⟨hdefect, hhas, -, hstate⟩
  · rw [hstate, if_neg (by simp [hdefect])]
  · rw [hstate, if_neg (by simp [hhas])]
  · rw [hstate, entry_update w r.key.2 r.type_fill]
    by_cases htype : type = r.key.2
    · rw [if_pos htype, if_pos ⟨hdefect, hhas, htype⟩, htype]
    · rw [if_neg htype, if_neg fun h => htype h.2.2]

/-- Of each part the first registration counts that has nothing wrong with it. -/
lemma known_perform (r : Registering) (w : MessageWriter) (type : MsgType) :
    (r.perform w).state.width? type = (w.width? type).or (r.op.width? type) ∧
      (r.perform w).state.table? type = (w.table? type).or (r.op.table? type) := by
  simp only [width?_eq, table?_eq, entry_perform]
  cases r with
  | message t width =>
    simp only [Registering.defect?, Registering.key, Registering.op, Registering.fill, Op.width?,
      Op.table?, has, Registration.has, ite_eq_right_iff, reduceCtorEq, imp_false, ← fits_iff]
    by_cases ht : t = type
    · subst ht
      cases hknown : (w.entry t).width with
      | some known => simp [hknown]
      | none =>
        by_cases hwidth : 0 < width ∧ width ≤ maxAddressLength
        · simp [hwidth]
        · simp only [hwidth]
          simp [hknown]
    · simp [ht, Ne.symm ht]
  | provider t table =>
    simp only [Registering.defect?, Registering.key, Registering.op, Registering.fill, Op.width?,
      Op.table?, has, Registration.has]
    by_cases ht : t = type
    · subst ht
      cases hknown : (w.entry t).table with
      | some known => simp [hknown]
      | none => simp
    · simp [ht, Ne.symm ht]

/-- Of each part the first operation counts that registers it. -/
lemma known_step (l : Loaded) (op : Op) (type : MsgType) :
    (l.step op).writer.width? type = (l.writer.width? type).or (op.width? type) ∧
      (l.step op).writer.table? type = (l.writer.table? type).or (op.table? type) := by
  -- the other operations leave the registry
  have hsame : ∀ w : MessageWriter, w.registry = l.writer.registry →
      w.width? type = (l.writer.width? type).or none ∧
        w.table? type = (l.writer.table? type).or none := by
    intro w h
    simp only [Option.or_none, width?_eq, table?_eq, entry_congr h, and_self]
  cases op with
  | registerMessage t width => exact known_perform (.message t width) l.writer type
  | registerProvider t table => exact known_perform (.provider t table) l.writer type
  | create p context => exact hsame _ (registry_create l.writer p context)
  | flush target t => exact hsame _ (registry_flush l.writer target t)
  | discard => exact hsame _ rfl

lemma known_foldl (l : Loaded) (history : List Op) (type : MsgType) :
    (history.foldl Loaded.step l).writer.width? type =
        (l.writer.width? type).or (history.findSome? (·.width? type)) ∧
      (history.foldl Loaded.step l).writer.table? type =
        (l.writer.table? type).or (history.findSome? (·.table? type)) := by
  induction history generalizing l with
  | nil => simp only [List.foldl_nil, List.findSome?_nil, Option.or_none, and_self]
  | cons op history ih =>
    obtain ⟨hwidth, htable⟩ := ih (l.step op)
    obtain ⟨hwidth', htable'⟩ := known_step l op type
    rw [List.foldl_cons, hwidth, htable, hwidth', htable', List.findSome?_cons, List.findSome?_cons]
    constructor
    · cases op.width? type <;> simp
    · cases op.table? type <;> simp

/-! ## The order of registrations -/

/-- Registers one after another; gives the registrations with their answers. -/
def answers (w : MessageWriter) : List Registering → List (Registering × Except WireError Unit)
  | [] => []
  | r :: rs => (r, (r.perform w).answer) :: answers (r.perform w).state rs

lemma isSome_width?_op (r : Registering) (type : MsgType) :
    (r.op.width? type).isSome = (decide (r.key = (.width, type)) && r.defect?.isNone) := by
  cases r with
  | provider t table => simp [Registering.op, Op.width?, Registering.key]
  | message t width =>
    simp only [Registering.op, Op.width?, Registering.key, Registering.defect?, fits_iff,
      Prod.mk.injEq, true_and]
    by_cases ht : t = type <;> by_cases hwidth : width = 0 ∨ maxAddressLength < width <;>
      simp [ht, hwidth]

lemma isSome_table?_op (r : Registering) (type : MsgType) :
    (r.op.table? type).isSome = (decide (r.key = (.table, type)) && r.defect?.isNone) := by
  cases r with
  | message t width => simp [Registering.op, Op.table?, Registering.key]
  | provider t table =>
    simp only [Registering.op, Op.table?, Registering.key, Registering.defect?, Prod.mk.injEq,
      true_and]
    by_cases ht : t = type <;> simp [ht]

/-- A registration fills in its part and no other. -/
lemma has_perform (r : Registering) (w : MessageWriter) (key : RegisteredPart × MsgType) :
    (r.perform w).state.has key = (w.has key || (decide (r.key = key) && r.defect?.isNone)) := by
  obtain ⟨part, type⟩ := key
  obtain ⟨hwidth, htable⟩ := known_perform r w type
  cases part with
  | width => rw [← isSome_width?, ← isSome_width?, hwidth, Option.isSome_or, isSome_width?_op]
  | table => rw [← isSome_table?, ← isSome_table?, htable, Option.isSome_or, isSome_table?_op]

/-- **Registrations of other parts do not show.**  The answers to the registrations of one part of
one type are the answers that these would get alone. -/
theorem filter_answers {key : RegisteredPart × MsgType} (h : w.has key = w'.has key)
    (rs : List Registering) :
    (answers w rs).filter (·.1.key = key) = answers w' (rs.filter (·.key = key)) := by
  induction rs generalizing w w' with
  | nil => rfl
  | cons r rs ih =>
    by_cases hr : r.key = key
    · have hanswer : (r.perform w).answer = (r.perform w').answer := by
        rw [r.answer_perform, r.answer_perform, hr, h]
      have hnext : (r.perform w).state.has key = (r.perform w').state.has key := by
        rw [has_perform, has_perform, h]
      rw [answers, List.filter_cons_of_pos (by simpa using hr),
        List.filter_cons_of_pos (by simpa using hr), answers, hanswer, ih hnext]
    · have hnext : (r.perform w).state.has key = w'.has key := by
        rw [has_perform, decide_eq_false hr, Bool.false_and, Bool.or_false, h]
      rw [answers, List.filter_cons_of_neg (by simpa using hr),
        List.filter_cons_of_neg (by simpa using hr), ih hnext]

/-- Two rows of registrations in which those of any one part of one type stand in the same order. -/
def SameOrder (rs rs' : List Registering) : Prop :=
  ∀ key, rs.filter (·.key = key) = rs'.filter (·.key = key)

/-- Registrations of different parts or types may change places. -/
lemma SameOrder.swap {r s : Registering} (h : r.key ≠ s.key) (before later : List Registering) :
    SameOrder (before ++ r :: s :: later) (before ++ s :: r :: later) := by
  intro key
  rw [List.filter_append, List.filter_append]
  by_cases hr : r.key = key
  · have hs : s.key ≠ key := fun hs => h (hr.trans hs.symm)
    simp [hr, hs]
  · simp [List.filter_cons, hr]

lemma findSome?_filter_of_none {α β : Type} {f : α → Option β} {p : α → Bool}
    (h : ∀ a, p a = false → f a = none) (l : List α) :
    (l.filter p).findSome? f = l.findSome? f := by
  induction l with
  | nil => rfl
  | cons a l ih =>
    cases ha : p a with
    | true => rw [List.filter_cons_of_pos ha, List.findSome?_cons, List.findSome?_cons, ih]
    | false =>
      rw [List.filter_cons_of_neg (by simp [ha]), List.findSome?_cons, h a ha, ih]

/-- What is in force does not depend on the order of registrations of different parts. -/
lemma SameOrder.findSome?_eq {rs rs' : List Registering} (h : SameOrder rs rs') (type : MsgType) :
    rs.findSome? (·.op.width? type) = rs'.findSome? (·.op.width? type) ∧
      rs.findSome? (·.op.table? type) = rs'.findSome? (·.op.table? type) := by
  have hwidth : ∀ r : Registering, decide (r.key = (.width, type)) = false →
      r.op.width? type = none := by
    intro r hr
    rw [← Option.isNone_iff_eq_none, ← Option.not_isSome, isSome_width?_op, hr]
    rfl
  have htable : ∀ r : Registering, decide (r.key = (.table, type)) = false →
      r.op.table? type = none := by
    intro r hr
    rw [← Option.isNone_iff_eq_none, ← Option.not_isSome, isSome_table?_op, hr]
    rfl
  constructor
  · rw [← findSome?_filter_of_none hwidth rs, h, findSome?_filter_of_none hwidth rs']
  · rw [← findSome?_filter_of_none htable rs, h, findSome?_filter_of_none htable rs']

/-! ## Writers that know the same -/

/-- Nobody can tell the writers apart, though their entries may stand in another order. -/
structure Twin (w w' : MessageWriter) : Prop where
  config : w.config = w'.config
  packet : w.packet = w'.packet
  known : ∀ type, w.width? type = w'.width? type ∧ w.table? type = w'.table? type

/-- Writers that know the same make the same messages. -/
lemma Twin.create (h : Twin w w') (p : ContentProvider σ) (context : σ) :
    (w.create p context).Alike (w'.create p context) ∧
      (w.create p context).writer.packet = (w'.create p context).writer.packet := by
  obtain ⟨hwidth, htable⟩ := h.known p.type
  have hlevel : Level w w' := ⟨h.config, h.packet ▸ rfl, congrArg Buffer.length h.packet⟩
  obtain ⟨halike, added, hadded, hadded'⟩ := hlevel.create context hwidth htable
  exact ⟨halike, by rw [hadded, hadded', h.packet]⟩

/-- Writers that know the same go on alike. -/
lemma Twin.step {l l' : Loaded} (h : Twin l.writer l'.writer) (op : Op) :
    Twin (l.step op).writer (l'.step op).writer := by
  refine ⟨?_, ?_, fun type => ?_⟩
  · rw [(ReusingWriter.step_capacities l op).1, (ReusingWriter.step_capacities l' op).1, h.config]
  · cases op with
    | registerMessage t width =>
      simp only [Loaded.step, packet_registerMessage, h.packet]
    | registerProvider t table =>
      simp only [Loaded.step, packet_registerProvider, h.packet]
    | create p context => exact (h.create p context).2
    | flush target t =>
      simp only [Loaded.step, flush, h.packet]
      split
      · exact h.packet
      · simp only [discard, h.packet]
    | discard => simp only [Loaded.step, discard, h.packet]
  · obtain ⟨hwidth, htable⟩ := h.known type
    obtain ⟨hstep, hstep'⟩ := known_step l op type
    obtain ⟨hother, hother'⟩ := known_step l' op type
    rw [hstep, hstep', hother, hother', hwidth, htable]
    exact ⟨rfl, rfl⟩

lemma Twin.foldl {l l' : Loaded} (h : Twin l.writer l'.writer) (history : List Op) :
    Twin (history.foldl Loaded.step l).writer (history.foldl Loaded.step l').writer := by
  induction history generalizing l l' with
  | nil => exact h
  | cons op history ih => exact ih (h.step op)

/-- Registrations leave all but the registry. -/
lemma frame_registrations (l : Loaded) (rs : List Registering) :
    ((rs.map Registering.op).foldl Loaded.step l).writer.config = l.writer.config ∧
      ((rs.map Registering.op).foldl Loaded.step l).writer.packet = l.writer.packet := by
  induction rs generalizing l with
  | nil => exact ⟨rfl, rfl⟩
  | cons r rs ih =>
    obtain ⟨hconfig, hpacket⟩ := ih (l.step r.op)
    refine ⟨hconfig.trans (ReusingWriter.step_capacities l r.op).1, hpacket.trans ?_⟩
    cases r with
    | message t width => exact packet_registerMessage l.writer t width
    | provider t table => exact packet_registerProvider l.writer t table

/-- After registrations in either order the writers know the same. -/
lemma SameOrder.twin {rs rs' : List Registering} (h : SameOrder rs rs') (l : Loaded) :
    Twin ((rs.map Registering.op).foldl Loaded.step l).writer
      ((rs'.map Registering.op).foldl Loaded.step l).writer := by
  obtain ⟨hconfig, hpacket⟩ := frame_registrations l rs
  obtain ⟨hconfig', hpacket'⟩ := frame_registrations l rs'
  refine ⟨hconfig.trans hconfig'.symm, hpacket.trans hpacket'.symm, fun type => ?_⟩
  obtain ⟨hwidth, htable⟩ := known_foldl l (rs.map Registering.op) type
  obtain ⟨hwidth', htable'⟩ := known_foldl l (rs'.map Registering.op) type
  obtain ⟨hsame, hsame'⟩ := h.findSome?_eq type
  rw [hwidth, htable, hwidth', htable', List.findSome?_map, List.findSome?_map, List.findSome?_map,
    List.findSome?_map]
  exact ⟨congrArg _ hsame, congrArg _ hsame'⟩

end MessageWriter

/-! ## Writers that can be reached -/

namespace ReusingWriter

/-- The registry of a writer after a history. -/
structure KeepsRegistry (history : List Op) (w : ReusingWriter) : Prop where
  /-- There is at most one entry for a type. -/
  distinct : w.TypesDistinct
  /-- In force are the first width of addresses that was registered for a type, -/
  width : ∀ type, w.width? type = history.findSome? (·.width? type)
  /-- and the first table that was declared for it. -/
  table : ∀ type, w.table? type = history.findSome? (·.table? type)
  /-- What a registration is answered. -/
  answer : ∀ r : Registering, (r.perform w.toMessageWriter).answer = r.verdict (w.has r.key)
  /-- A registration that is refused changes nothing. -/
  refused : ∀ (r : Registering) e, (r.perform w.toMessageWriter).answer = .error e →
    (r.perform w.toMessageWriter).state = w.toMessageWriter
  /-- Nor does it in place, where the entry is made first. -/
  inPlace : ∀ r : Registering, r.performInPlace w.toMessageWriter =
    ((r.perform w.toMessageWriter).answer, (r.perform w.toMessageWriter).state)

/-- How a writer uses what is in force for a type. -/
structure LooksUp (w : ReusingWriter) (p : ContentProvider σ) (context : σ) : Prop where
  /-- A message is begun with a callback if its type has a width, and only then. -/
  uncalled_iff : (w.create p context).1.callbacks = [] ↔ w.width? p.type = none
  /-- That there is no width is said if there is none, or by the provider itself. -/
  unregistered_iff : (w.create p context).1.result = .error (.unregistered p.type.code) ↔
    w.width? p.type = none ∨ ∃ width, w.width? p.type = some width ∧
      (compose p (w.opening p context width)).1 = .error (.unregistered p.type.code)
  /-- A provider that has no errors of its own never says it. -/
  passing : p.PassesOn → ((w.create p context).1.result = .error (.unregistered p.type.code) ↔
    w.width? p.type = none)
  /-- A message whose type has no table gets no TLVs. -/
  undeclared : w.table? p.type = none → ∀ index type value allowDuplicate answer,
    ⟨.addTlv index type value allowDuplicate, answer⟩ ∈ (w.create p context).1.calls →
      answer = .error (.undeclaredTlv type.kind)

lemma keepsRegistry (config : WriterConfig) (history : List Op) :
    KeepsRegistry history (after config history) := by
  have h := mirrors_after config history
  have hknown := fun type => known_foldl { writer := .new config } history type
  constructor
  · rw [h.writer]
    exact typesDistinct_after config history
  · intro type
    rw [h.writer]
    exact (hknown type).1
  · intro type
    rw [h.writer]
    exact (hknown type).2
  · exact fun r => r.answer_perform _
  · exact fun r e => r.state_of_error _
  · exact fun r => r.performInPlace_eq _

lemma looksUp (config : WriterConfig) (history : List Op) (p : ContentProvider σ) (context : σ) :
    LooksUp (after config history) p context := by
  have h := mirrors_after config history
  have hiff := (Loaded.after config history).writer.create_unregistered_iff p context
  constructor
  · rw [h.create, h.writer]
    exact callbacks_eq_nil_iff _ p context
  · rw [h.create, h.writer]
    exact hiff
  · intro hpasses
    rw [h.create, h.writer, hiff]
    refine or_iff_left ?_
    rintro ⟨width, -, herror⟩
    exact (ownErrors_compose hpasses _ context width).knowsType _ herror
  · intro htable index type value allowDuplicate answer hr
    rw [h.create] at hr
    rw [h.writer] at htable
    exact undeclared_of_table?_eq_none htable hr

/-- **Registration is by the first call, by the whole, and in any order.**  After any history:

* The registry has at most one entry for a type, with the first width of addresses that was
  registered for the type and the first table that was declared for it; a registration that is
  refused leaves the writer exactly as it was (`KeepsRegistry`).
* What a provider makes of a message goes by these two (`LooksUp`).
* Let registrations be made in either of two orders that differ only in how those of different parts
  or different types stand to each other.  Every registration is answered alike, and whatever is
  done later, every provider makes its message alike, with the same bytes. -/
theorem registration_law (config : WriterConfig) (history : List Op) :
    let w := after config history
    KeepsRegistry history w ∧
    (∀ {σ : Type} (p : ContentProvider σ) (context : σ), LooksUp w p context) ∧
    ∀ rs rs', SameOrder rs rs' →
      (∀ key, (answers w.toMessageWriter rs).filter (·.1.key = key) =
        (answers w.toMessageWriter rs').filter (·.1.key = key)) ∧
      ∀ (later : List Op) {σ : Type} (p : ContentProvider σ) (context : σ),
        let created := ((after config (history ++ rs.map (·.op) ++ later)).create p context).1
        let created' := ((after config (history ++ rs'.map (·.op) ++ later)).create p context).1
        created.Alike created' ∧ created.writer.packet = created'.writer.packet := by
  intro w
  refine ⟨keepsRegistry config history, looksUp config history, fun rs rs' hsame => ⟨?_, ?_⟩⟩
  · intro key
    rw [filter_answers rfl rs, filter_answers rfl rs', hsame key]
  · intro later σ p context created created'
    have htwin : Twin (Loaded.after config (history ++ rs.map (·.op) ++ later)).writer
        (Loaded.after config (history ++ rs'.map (·.op) ++ later)).writer := by
      simp only [Loaded.after, List.foldl_append]
      exact (hsame.twin _).foldl later
    have hcreate := htwin.create p context
    simp only [created, created', (mirrors_after config _).create]
    exact hcreate

end ReusingWriter

end RouteDiscovery.Wire
