/-
# Carrying out callbacks

How the callbacks of a provider run, step by step, and what the calls that add something answer.

* `CallbackScript.run_bind_ok`, `CallbackScript.run_bind_error`: a callback goes on after a step that
  succeeds and ends with one that fails;
* `Draft.answer_addAddress_new`, `Draft.answer_addAddress_again`: the two ways in which an address
  is accepted;
* `CallbackScript.run_addTlvs_of_fits`, `CallbackScript.run_addTlvs_exceeded`: a row of TLVs of
  different types is added if their values fit the arena together, and otherwise one of them reports
  too little room.
-/
import RouteDiscovery.Proofs.Wire.Calls

namespace RouteDiscovery.Wire

variable {σ α β : Type}

/-- The call that adds a TLV unless its address has one of its type. -/
abbrev Call.addOnce (t : AddrTlv) : Call := .addTlv t.index t.type t.value false

namespace Script

lemma run_bind (script : Script σ α) (f : α → Script σ β) (s : Session σ) :
    (script.bind f).run s = (f (script.run s).1).run (script.run s).2 := by
  induction script generalizing s with
  | done a => rfl
  | call c next ih => exact ih _ _
  | read next ih => exact ih s.context s
  | write context next ih => exact ih _
  | emit e next ih => exact ih _

lemma run_emitAll (events : List Log.Event) (s : Session σ) :
    (emitAll events).run s = ((), { s with events := events.reverse ++ s.events }) := by
  induction events generalizing s with
  | nil => rfl
  | cons e events ih =>
    rw [emitAll, run, ih, List.reverse_cons, List.append_assoc]
    rfl

/-- A step on the context leaves the draft. -/
lemma run_step (f : σ → Outcome σ α) (s : Session σ) :
    (step f).run s = ((f s.context).answer,
      { s with
        context := (f s.context).state
        events := (f s.context).events.reverse ++ s.events }) := by
  show ((emitAll (f s.context).events).bind fun _ => done (f s.context).answer).run
    { s with context := (f s.context).state } = _
  rw [run_bind, run_emitAll]
  rfl

end Script

namespace CallbackScript

variable {x : CallbackScript σ α} {f : α → CallbackScript σ β} {s s' : Session σ}

lemma run_bind_ok {a : α} (h : x.run.run s = (.ok a, s')) :
    (x >>= f).run.run s = (f a).run.run s' := by
  show (x.run.bind _).run s = _
  rw [Script.run_bind, h]
  rfl

lemma run_bind_error {e : WireError} (h : x.run.run s = (.error e, s')) :
    (x >>= f).run.run s = (.error e, s') := by
  show (x.run.bind _).run s = _
  rw [Script.run_bind, h]
  rfl

/-- Callbacks that go on alike are carried out alike. -/
lemma run_bind_congr {g : α → CallbackScript σ β} (h : ∀ a s, (f a).run.run s = (g a).run.run s)
    (s : Session σ) : (x >>= f).run.run s = (x >>= g).run.run s := by
  rcases hx : x.run.run s with ⟨_ | a, s'⟩
  · rw [run_bind_error hx, run_bind_error hx]
  · rw [run_bind_ok hx, run_bind_ok hx, h]

lemma run_addAddress {addr : NetAddr} {mandatory : Bool} {r : Except WireError ℕ} {d : Draft}
    (h : s.draft.answer (.addAddress addr mandatory) = (r, d)) :
    (addAddress addr mandatory).run.run s =
      (r, { s with draft := d, calls := s.calls ++ [⟨.addAddress addr mandatory, r⟩] }) := by
  obtain rfl : (s.draft.answer (.addAddress addr mandatory)).1 = r := congrArg Prod.fst h
  obtain rfl : (s.draft.answer (.addAddress addr mandatory)).2 = d := congrArg Prod.snd h
  rfl

lemma run_addTlv {t : AddrTlv} {r : Except WireError Unit} {d : Draft}
    (h : s.draft.answer (.addOnce t) = (r, d)) :
    (addTlv t.index t.type t.value false).run.run s =
      (r, { s with draft := d, calls := s.calls ++ [⟨.addOnce t, r⟩] }) := by
  obtain rfl : (s.draft.answer (.addOnce t)).1 = r := congrArg Prod.fst h
  obtain rfl : (s.draft.answer (.addOnce t)).2 = d := congrArg Prod.snd h
  rfl

lemma run_lift (script : Script σ α) (s : Session σ) :
    (ExceptT.lift script : CallbackScript σ α).run.run s =
      (.ok (script.run s).1, (script.run s).2) := by
  show (script.bind _).run s = _
  rw [Script.run_bind]
  rfl

lemma run_lift_step (f : σ → Outcome σ α) (s : Session σ) :
    (ExceptT.lift (Script.step f) : CallbackScript σ α).run.run s = (.ok (f s.context).answer,
      { s with
        context := (f s.context).state
        events := (f s.context).events.reverse ++ s.events }) := by
  rw [run_lift, Script.run_step]

end CallbackScript

/-! ## Accepted addresses -/

namespace Draft

variable {d d' : Draft} {addr : NetAddr} {mandatory : Bool}

/-- An address that is not there yet goes to the end. -/
lemma answer_addAddress_new (hwidth : addr.length = d.width)
    (hnew : addr ∉ d.addresses.map (·.addr)) (hroom : d.addresses.length < maxAddresses) :
    d.answer (.addAddress addr mandatory) = (.ok d.addresses.length,
      { d with addresses := d.addresses ++ [⟨addr, mandatory⟩] }) := by
  have hindex : d.indexOf? addr = none := indexOf?_eq_none_iff.2 hnew
  simp only [answer, addAddress, hwidth, ne_eq, not_true_eq_false, if_false, hindex,
    if_neg (Nat.not_le.2 hroom)]

/-- An address that is there already keeps its index. -/
lemma answer_addAddress_again {index : ℕ} (hwidth : addr.length = d.width)
    (hindex : d.indexOf? addr = some index) :
    d.answer (.addAddress addr mandatory) = (.ok index, d.mark index mandatory) := by
  simp only [answer, addAddress, hwidth, ne_eq, not_true_eq_false, if_false, hindex]

/-! ## Accepted TLVs -/

lemma positionOf?_of_mem {type : TlvType} (h : type ∈ d.declared) :
    d.positionOf? type = some (d.declared.findIdx (· = type)) := by
  refine List.findIdx?_eq_some_iff_findIdx_eq.2 ⟨List.findIdx_lt_length.2 ?_, rfl⟩
  exact ⟨type, h, decide_eq_true rfl⟩

lemma positionOf?_of_not_mem {type : TlvType} (h : type ∉ d.declared) :
    d.positionOf? type = none :=
  List.findIdx?_eq_none_iff.2 fun _ hdeclared =>
    decide_eq_false fun heq => h (heq ▸ hdeclared)

/-- Nothing but its room in the arena can keep the TLV out of the draft: its type is declared and
new in the draft, its address is there, and its length fits two octets. -/
structure Admits (d : Draft) (t : AddrTlv) : Prop where
  declared : t.type ∈ d.declared
  index : t.index < d.addresses.length
  short : t.value.length ≤ maxTlvValueLength
  fresh : ∀ e ∈ d.entries, d.declared[e.position]? ≠ some t.type

lemma Admits.positionOf? {t : AddrTlv} (h : d.Admits t) :
    d.positionOf? t.type = some (d.declared.findIdx (· = t.type)) :=
  positionOf?_of_mem h.declared

/-- What adding a TLV comes to that is admitted. -/
lemma Admits.addTlv_eq {t : AddrTlv} (h : d.Admits t) :
    d.addTlv t.index t.type t.value false = d.arena.put t.value >>= fun arena =>
      .ok { d.withTlv t with arena } := by
  have hnone : d.hasTlv (d.declared.findIdx (· = t.type)) t.index = false := by
    refine List.any_eq_false.2 fun e he => ?_
    rw [decide_eq_true_eq, not_and]
    intro hposition
    exact absurd (hposition ▸ getElem?_findIdx h.declared) (h.fresh e he)
  have hlength : ¬ maxTlvValueLength < t.value.length := Nat.not_lt.2 h.short
  simp only [addTlv, h.positionOf?, if_neg (Nat.not_le.2 h.index), if_neg hlength, hnone,
    Bool.false_and, Bool.false_eq_true, if_false]
  cases d.arena.put t.value with
  | error e => rfl
  | ok arena => rfl

lemma Admits.answer_of_fits {t : AddrTlv} (h : d.Admits t)
    (hfit : d.arena.length + t.value.length ≤ d.arena.capacity) :
    d.answer (.addOnce t) = (.ok (), d.withTlv t) := by
  simp only [answer, h.addTlv_eq, Buffer.put_of_fits hfit, ok_bind]
  rfl

lemma Admits.answer_exceeded {t : AddrTlv} (h : d.Admits t)
    (harena : d.arena.length ≤ d.arena.capacity)
    (hlt : d.arena.capacity < d.arena.length + t.value.length) :
    Exceeded d.arena.kind (d.answer (.addOnce t)).1 := by
  obtain ⟨needed, available, hroom, hput⟩ := Buffer.put_exceeded harena hlt
  refine ⟨needed, available, hroom, ?_⟩
  simp only [answer, h.addTlv_eq, hput, error_bind]

/-- A TLV of another type does not keep a TLV out. -/
lemma Admits.withTlv {t u : AddrTlv} (ht : d.Admits t) (hu : d.Admits u) (hne : t.type ≠ u.type) :
    (d.withTlv t).Admits u := by
  refine ⟨hu.declared, hu.index, hu.short, fun e he => ?_⟩
  rcases List.mem_append.1 he with he | he
  · exact hu.fresh e he
  · rw [List.mem_singleton.1 he]
    intro hsome
    exact hne (Option.some.inj ((getElem?_findIdx ht.declared).symm.trans hsome))

/-- Where a row of TLVs is admitted and the first is added, the others are still admitted. -/
lemma Admits.tail {t : AddrTlv} {ts : List AddrTlv} (h : ∀ u ∈ t :: ts, d.Admits u)
    (hdistinct : ((t :: ts).map (·.type)).Nodup) : ∀ u ∈ ts, (d.withTlv t).Admits u := by
  intro u hu
  have hne : t.type ≠ u.type := by
    rintro heq
    rw [List.map_cons, List.nodup_cons] at hdistinct
    exact hdistinct.1 (heq ▸ List.mem_map_of_mem hu)
  exact (h t List.mem_cons_self).withTlv (h u (List.mem_cons_of_mem t hu)) hne

/-- The draft with a row of TLVs. -/
def withTlvs (d : Draft) (ts : List AddrTlv) : Draft := ts.foldl withTlv d

lemma tlvs_withTlvs {ts : List AddrTlv} (hs : d.Sound) (h : ∀ t ∈ ts, d.Admits t)
    (hdistinct : (ts.map (·.type)).Nodup) :
    (d.withTlvs ts).Sound ∧ (d.withTlvs ts).tlvs = d.tlvs ++ ts.map (ranked d.declared) := by
  induction ts generalizing d with
  | nil => exact ⟨hs, (List.append_nil _).symm⟩
  | cons t ts ih =>
    have ht := h t List.mem_cons_self
    have hsound : (d.withTlv t).Sound := hs.withTlv ht.declared ht.index ht.short
    obtain ⟨hsound', htlvs⟩ := ih hsound (Admits.tail h hdistinct) (List.nodup_cons.1 hdistinct).2
    refine ⟨hsound', htlvs.trans ?_⟩
    rw [tlvs_withTlv hs ht.declared, List.append_assoc]
    rfl

/-- The other parts of a draft stay when TLVs are added. -/
lemma withTlvs_frame (d : Draft) (ts : List AddrTlv) :
    (d.withTlvs ts).width = d.width ∧ (d.withTlvs ts).declared = d.declared ∧
      (d.withTlvs ts).header = d.header ∧ (d.withTlvs ts).addresses = d.addresses := by
  induction ts generalizing d with
  | nil => exact ⟨rfl, rfl, rfl, rfl⟩
  | cons t ts ih => exact ih (d.withTlv t)

end Draft

/-! ## A row of TLVs -/

namespace CallbackScript

/-- Adds TLVs, one after another, none of them twice. -/
def addTlvs : List AddrTlv → CallbackScript σ Unit
  | [] => pure ()
  | t :: ts => addTlv t.index t.type t.value false >>= fun _ => addTlvs ts

lemma run_addTlvs_singleton (t : AddrTlv) (s : Session σ) :
    (addTlv t.index t.type t.value false).run.run s = (addTlvs [t]).run.run s := by
  rcases ht : (addTlv t.index t.type t.value false).run.run s with ⟨_ | _, s'⟩
  · rw [addTlvs, run_bind_error ht]
  · rw [addTlvs, run_bind_ok ht]
    rfl

/-- The number of bytes of the values of some TLVs. -/
def valueBytes : List AddrTlv → ℕ
  | [] => 0
  | t :: ts => t.value.length + valueBytes ts

lemma length_arena_withTlv (d : Draft) (t : AddrTlv) :
    (d.withTlv t).arena.length = d.arena.length + t.value.length := Buffer.length_extend

lemma run_addTlvs_of_fits {ts : List AddrTlv} {s : Session σ} (h : ∀ t ∈ ts, s.draft.Admits t)
    (hdistinct : (ts.map (·.type)).Nodup)
    (hfit : s.draft.arena.length + valueBytes ts ≤ s.draft.arena.capacity) :
    ∃ calls, (addTlvs ts).run.run s =
      (.ok (), { s with draft := s.draft.withTlvs ts, calls }) := by
  induction ts generalizing s with
  | nil => exact ⟨s.calls, rfl⟩
  | cons t ts ih =>
    rw [valueBytes] at hfit
    have hanswer := (h t List.mem_cons_self).answer_of_fits (by omega)
    obtain ⟨calls, hrest⟩ := ih (s := { s with draft := s.draft.withTlv t, calls := _ })
      (Draft.Admits.tail h hdistinct) (List.nodup_cons.1 hdistinct).2
      (by rw [length_arena_withTlv]; exact Nat.add_assoc _ _ _ ▸ hfit)
    exact ⟨calls, (run_bind_ok (run_addTlv hanswer)).trans hrest⟩

lemma run_addTlvs_exceeded {ts : List AddrTlv} {s : Session σ} (h : ∀ t ∈ ts, s.draft.Admits t)
    (hdistinct : (ts.map (·.type)).Nodup)
    (harena : s.draft.arena.length ≤ s.draft.arena.capacity)
    (hlt : s.draft.arena.capacity < s.draft.arena.length + valueBytes ts) :
    Exceeded s.draft.arena.kind ((addTlvs ts).run.run s).1 ∧
      ((addTlvs ts).run.run s).2.context = s.context := by
  induction ts generalizing s with
  | nil => exact absurd hlt (Nat.not_lt.2 harena)
  | cons t ts ih =>
    rw [valueBytes] at hlt
    have ht := h t List.mem_cons_self
    by_cases hfit : s.draft.arena.length + t.value.length ≤ s.draft.arena.capacity
    · -- the first TLV is added, so the shortage is among the others
      rw [addTlvs, run_bind_ok (run_addTlv (ht.answer_of_fits hfit))]
      exact ih (s := { s with draft := s.draft.withTlv t, calls := _ })
        (Draft.Admits.tail h hdistinct) (List.nodup_cons.1 hdistinct).2
        (by rw [length_arena_withTlv]; exact hfit)
        (by rw [length_arena_withTlv]; exact Nat.add_assoc _ _ _ ▸ hlt)
    · obtain ⟨needed, available, hneeded, herror⟩ :=
        ht.answer_exceeded harena (Nat.lt_of_not_le hfit)
      rw [addTlvs, run_bind_error (run_addTlv (Prod.ext herror rfl))]
      exact ⟨⟨needed, available, hneeded, rfl⟩, rfl⟩

end CallbackScript

end RouteDiscovery.Wire
