/-
# Providers that pass errors on

Most providers end when a call of theirs is rejected, with the error of this call, and have no
errors of their own (`Script.PassesOn`).  What such a provider asks for does not depend on what it
gets: it is the list of calls that it makes as long as all of them are granted
(`ContentProvider.asked`).

* `Call.IsValid`: nothing but missing room can keep a call from being accepted.
* `Script.Comes`: what a script comes to that passes errors on.  If the calls that it asks for are
  valid and their values have room together, they are what it does; if the room is missing, that is
  what it reports; and otherwise it fails (`Script.PassesOn.comes`).
-/
import RouteDiscovery.Proofs.Wire.Acceptance

namespace RouteDiscovery.Wire

open CallRecord CallbackScript

/-! ## Valid calls -/

/-- The error with which a call was rejected. -/
def CallRecord.rejection? : CallRecord → Option WireError
  | ⟨.addAddress .., .error e⟩ => some e
  | ⟨.addTlv .., .error e⟩ => some e
  | _ => none

namespace Call

variable {width : ℕ} {table : List TlvType} {room : ℕ} {before : List CallRecord} {c : Call}

/-- Nothing but missing room can keep the call from being accepted after these calls. -/
def IsValid (width : ℕ) (table : List TlvType) (before : List CallRecord) : Call → Prop
  | .addAddress addr _ =>
    addr.length = width ∧ (addr ∈ known before ∨ (known before).length < maxAddresses)
  | .addTlv index type value allowDuplicate =>
    type ∈ table ∧ index < (known before).length ∧ value.length ≤ maxTlvValueLength ∧
      ((∃ t ∈ taken before, t.type = type ∧ t.index = index) → allowDuplicate = true)
  | _ => True

instance : Decidable (c.IsValid width table before) := by
  cases c <;> unfold IsValid <;> infer_instance

/-- The number of bytes that a call puts into the arena if it is accepted. -/
def valueLength : Call → ℕ
  | .addTlv _ _ value _ => value.length
  | _ => 0

lemma rejection?_granted (before : List CallRecord) (c : Call) :
    rejection? ⟨c, c.granted before⟩ = none := by
  cases c <;> rfl

lemma valueBytes_granted (before : List CallRecord) (c : Call) :
    valueBytes (taken [⟨c, c.granted before⟩]) = c.valueLength := by
  cases c <;> rfl

/-- A valid address is accepted. -/
lemma due_addAddress {addr : NetAddr} {mandatory : Bool}
    (h : (addAddress addr mandatory).IsValid width table before) :
    due width table room before (.addAddress addr mandatory) =
      .ok ((known before).findIdx (· = addr)) := by
  obtain ⟨hwidth, hknown⟩ := h
  have hnot : ¬ (addr ∉ known before ∧ maxAddresses ≤ (known before).length) := by
    rintro ⟨hnew, hfull⟩
    exact hknown.elim hnew fun hlt => Nat.not_lt.2 hfull hlt
  simp only [due, hwidth, ne_eq, not_true_eq_false, if_false, if_neg hnot]
  rfl

/-- A valid TLV is accepted if its value has room. -/
lemma due_addTlv {index : ℕ} {type : TlvType} {value : List UInt8} {allowDuplicate : Bool}
    (h : (addTlv index type value allowDuplicate).IsValid width table before) :
    due width table room before (.addTlv index type value allowDuplicate) =
      if room - valueBytes (taken before) < value.length then
        .error (.capacity .addressTlv value.length (room - valueBytes (taken before)))
      else .ok () := by
  obtain ⟨htype, hindex, hshort, hduplicate⟩ := h
  have hnot : ¬ ((∃ t ∈ taken before, t.type = type ∧ t.index = index) ∧
      allowDuplicate = false) := by
    rintro ⟨hexists, hfalse⟩
    exact absurd ((hduplicate hexists).symm.trans hfalse) (by simp)
  simp only [due, htype, not_true_eq_false, if_false, if_neg (Nat.not_le.2 hindex),
    if_neg (Nat.not_lt.2 hshort), if_neg hnot]
  rfl

/-- A valid call that has room is accepted. -/
lemma IsValid.due_eq (h : c.IsValid width table before)
    (hroom : valueBytes (taken before) + c.valueLength ≤ room) :
    c.due width table room before = c.granted before := by
  cases c with
  | addAddress addr mandatory => exact due_addAddress h
  | addTlv index type value allowDuplicate =>
    have hfit : value.length ≤ room - valueBytes (taken before) := Nat.le_sub_of_add_le' hroom
    exact (due_addTlv h).trans (if_neg (Nat.not_lt.2 hfit))
  | _ => rfl

/-- A valid call that has no room is rejected for it. -/
lemma IsValid.rejected (h : c.IsValid width table before)
    (hfit : valueBytes (taken before) ≤ room)
    (hlt : room < valueBytes (taken before) + c.valueLength) :
    ∃ needed available, available < needed ∧
      rejection? ⟨c, c.due width table room before⟩ =
        some (.capacity .addressTlv needed available) := by
  cases c with
  | addTlv index type value allowDuplicate =>
    have hroom : room - valueBytes (taken before) < value.length :=
      Nat.sub_lt_left_of_lt_add hfit hlt
    refine ⟨value.length, room - valueBytes (taken before), hroom, ?_⟩
    rw [due_addTlv h, if_pos hroom]
    rfl
  | _ => exact absurd hlt (Nat.not_lt.2 hfit)

/-- A call that is not valid is rejected, and not for want of room. -/
lemma rejected_of_not_valid (room : ℕ) (h : ¬ c.IsValid width table before) :
    ∃ e, rejection? ⟨c, c.due width table room before⟩ = some e ∧
      ∀ kind needed available, e ≠ .capacity kind needed available := by
  cases c with
  | addAddress addr mandatory =>
    by_cases hwidth : addr.length ≠ width
    · rw [due, if_pos hwidth]
      exact ⟨_, rfl, by simp⟩
    by_cases hfull : addr ∉ known before ∧ maxAddresses ≤ (known before).length
    · rw [due, if_neg hwidth, if_pos hfull]
      exact ⟨_, rfl, by simp⟩
    · rw [not_and_or, not_not, Nat.not_le] at hfull
      exact absurd ⟨not_not.1 hwidth, hfull⟩ h
  | addTlv index type value allowDuplicate =>
    by_cases htype : type ∉ table
    · rw [due, if_pos htype]
      exact ⟨_, rfl, by simp⟩
    by_cases hindex : (known before).length ≤ index
    · rw [due, if_neg htype, if_pos hindex]
      exact ⟨_, rfl, by simp⟩
    by_cases hlong : maxTlvValueLength < value.length
    · rw [due, if_neg htype, if_neg hindex, if_pos hlong]
      exact ⟨_, rfl, by simp⟩
    by_cases hduplicate : (∃ t ∈ taken before, t.type = type ∧ t.index = index) ∧
        allowDuplicate = false
    · rw [due, if_neg htype, if_neg hindex, if_neg hlong, if_pos hduplicate]
      exact ⟨_, rfl, by simp⟩
    · refine absurd ⟨not_not.1 htype, Nat.lt_of_not_le hindex, Nat.le_of_not_lt hlong, ?_⟩ h
      intro hexists
      exact Bool.eq_true_of_not_eq_false fun hfalse => hduplicate ⟨hexists, hfalse⟩
  | _ => exact absurd trivial h

end Call

/-- All calls are valid, each after those before it. -/
def AllValid (width : ℕ) (table : List TlvType) : List CallRecord → List CallRecord → Prop
  | _, [] => True
  | before, r :: calls =>
    r.call.IsValid width table before ∧ AllValid width table (before ++ [r]) calls

instance AllValid.decidable (width : ℕ) (table : List TlvType) :
    (before calls : List CallRecord) → Decidable (AllValid width table before calls)
  | _, [] => inferInstanceAs (Decidable True)
  | before, r :: calls =>
    have := AllValid.decidable width table (before ++ [r]) calls
    inferInstanceAs (Decidable (_ ∧ _))

/-! ## Scripts that pass errors on -/

namespace Script

variable {σ α β : Type}

/-- The script ends with this result, whatever its calls are answered. -/
inductive EndsWith (r : α) : Script σ α → Prop
  | done : EndsWith r (done r)
  | call {c : Call} {next : c.Answer → Script σ α} (h : ∀ x, EndsWith r (next x)) :
      EndsWith r (call c next)
  | read {next : σ → Script σ α} (h : ∀ s, EndsWith r (next s)) : EndsWith r (read next)
  | write {next : Script σ α} (context : σ) (h : EndsWith r next) : EndsWith r (write context next)
  | emit {next : Script σ α} (e : Log.Event) (h : EndsWith r next) : EndsWith r (emit e next)

/-- The script goes on as long as its calls are accepted, and ends with the error of the first that
is rejected.  It has no errors of its own. -/
inductive PassesOn : Script σ (Except WireError α) → Prop
  | done (a : α) : PassesOn (done (.ok a))
  | call {c : Call} {next : c.Answer → Script σ (Except WireError α)}
      (accepted : ∀ x, rejection? ⟨c, x⟩ = none → PassesOn (next x))
      (rejected : ∀ x e, rejection? ⟨c, x⟩ = some e → EndsWith (.error e) (next x)) :
      PassesOn (call c next)
  | read {next : σ → Script σ (Except WireError α)} (h : ∀ s, PassesOn (next s)) :
      PassesOn (read next)
  | write {next : Script σ (Except WireError α)} (context : σ) (h : PassesOn next) :
      PassesOn (write context next)
  | emit {next : Script σ (Except WireError α)} (e : Log.Event) (h : PassesOn next) :
      PassesOn (emit e next)

variable {script : Script σ (Except WireError α)}

lemma EndsWith.bind {r : α} {r' : β} {script : Script σ α} {f : α → Script σ β}
    (h : script.EndsWith r) (hf : (f r).EndsWith r') : (script.bind f).EndsWith r' := by
  induction h with
  | done => exact hf
  | call _ ih => exact .call ih
  | read _ ih => exact .read ih
  | write context _ ih => exact .write context ih
  | emit e _ ih => exact .emit e ih

lemma PassesOn.bind {f : Except WireError α → Script σ (Except WireError β)}
    (h : script.PassesOn) (hok : ∀ a, (f (.ok a)).PassesOn)
    (herror : ∀ e, (f (.error e)).EndsWith (.error e)) : (script.bind f).PassesOn := by
  induction h with
  | done a => exact hok a
  | call _ rejected ih => exact .call ih fun x e he => (rejected x e he).bind (herror e)
  | read _ ih => exact .read ih
  | write context _ ih => exact .write context ih
  | emit e _ ih => exact .emit e ih

lemma EndsWith.foretell {r : α} {script : Script σ α} (h : script.EndsWith r)
    (answer : List CallRecord → (c : Call) → c.Answer) (context : σ) (before : List CallRecord) :
    (script.foretell answer context before).1 = r := by
  induction h generalizing context before with
  | done => rfl
  | call _ ih => exact ih _ _ _
  | read _ ih => exact ih _ _ _
  | write context _ ih => exact ih _ _
  | emit e _ ih => exact ih _ _

/-! ## What they come to -/

/-- What a script comes to that asks for some calls, whose values need some bytes: what it asks for
if the calls are valid and their values have room, and else an error, which is that of missing room
if the calls are valid. -/
inductive Comes (room : ℕ) (valid : Prop) (bytes : ℕ)
    (asked came : Except WireError α × List CallRecord) : Prop
  | asAsked (h : valid) (fits : bytes ≤ room) (same : came = asked)
  | exceeded (h : valid) (lacks : room < bytes) (error : Exceeded .addressTlv came.1)
  | refused (h : ¬ valid) (e : WireError) (error : came.1 = .error e)

namespace Comes

variable {room bytes : ℕ} {valid : Prop} {asked came : Except WireError α × List CallRecord}

lemma same_of_fits (h : Comes room valid bytes asked came) (hfits : valid ∧ bytes ≤ room) :
    came = asked := by
  cases h with
  | asAsked _ _ same => exact same
  | exceeded _ lacks => exact absurd hfits.2 (Nat.not_le.2 lacks)
  | refused hnot => exact absurd hfits.1 hnot

lemma failed_of_not_fits (h : Comes room valid bytes asked came) (hnot : ¬ (valid ∧ bytes ≤ room)) :
    ∃ e, came.1 = .error e := by
  cases h with
  | asAsked hvalid fits => exact absurd ⟨hvalid, fits⟩ hnot
  | exceeded _ _ error =>
    obtain ⟨_, _, -, herror⟩ := error
    exact ⟨_, herror⟩
  | refused _ e error => exact ⟨e, error⟩

lemma same_of_ok {a : α} (h : Comes room valid bytes asked came) (hok : came.1 = .ok a) :
    came = asked := by
  by_cases hfits : valid ∧ bytes ≤ room
  · exact h.same_of_fits hfits
  · obtain ⟨e, herror⟩ := h.failed_of_not_fits hfits
    exact absurd (hok.symm.trans herror) (by simp)

end Comes

/-- A script whose first call is rejected ends there. -/
lemma foretell_of_rejected {c : Call} {next : c.Answer → Script σ (Except WireError α)}
    {e : WireError} {answer : List CallRecord → (c : Call) → c.Answer} {before : List CallRecord}
    (hrejected : rejection? ⟨c, answer before c⟩ = some e)
    (hnext : ∀ x e, rejection? ⟨c, x⟩ = some e → (next x).EndsWith (.error e)) (context : σ) :
    ((call c next).foretell answer context before).1 = .error e :=
  (hnext _ e hrejected).foretell answer context _

/-- A script that passes errors on comes to what it asks for, or to the first error. -/
theorem PassesOn.comes (h : script.PassesOn) (width : ℕ) (table : List TlvType) (room : ℕ)
    (context : σ) (before : List CallRecord) (hfit : valueBytes (taken before) ≤ room) :
    Comes room
      (AllValid width table before (script.foretell Call.granted context before).2)
      (valueBytes (taken before) +
        valueBytes (taken (script.foretell Call.granted context before).2))
      (script.foretell Call.granted context before)
      (script.foretell (Call.due width table room) context before) := by
  induction h generalizing context before with
  | done a => exact .asAsked trivial hfit rfl
  | @read next _ ih => exact ih context context before hfit
  | @write next written _ ih => exact ih written before hfit
  | @emit next e _ ih => exact ih context before hfit
  | @call c next accepted rejected ih =>
    have hgranted := Call.valueBytes_granted before c
    have hasked : ∀ calls, valueBytes (taken (⟨c, c.granted before⟩ :: calls)) =
        c.valueLength + valueBytes (taken calls) := by
      intro calls
      rw [← hgranted, ← Draft.valueBytes_append, ← List.filterMap_append, List.singleton_append]
    have hbytes := hasked
      ((next (c.granted before)).foretell Call.granted context
        (before ++ [⟨c, c.granted before⟩])).2
    by_cases hvalid : c.IsValid width table before
    · by_cases hroom : valueBytes (taken before) + c.valueLength ≤ room
      · -- the call is accepted, and the script goes on as it would
        have hbefore : valueBytes (taken (before ++ [⟨c, c.granted before⟩])) =
            valueBytes (taken before) + c.valueLength := by
          rw [← hgranted, ← Draft.valueBytes_append, ← List.filterMap_append]
        have hrest := ih _ (Call.rejection?_granted before c) context
          (before ++ [⟨c, c.granted before⟩]) (hbefore ▸ hroom)
        rw [hbefore, Nat.add_assoc, ← hbytes] at hrest
        simp only [foretell, hvalid.due_eq hroom]
        cases hrest with
        | asAsked h fits same => exact .asAsked ⟨hvalid, h⟩ fits (by rw [same])
        | exceeded h lacks error => exact .exceeded ⟨hvalid, h⟩ lacks error
        | refused h e error => exact .refused (fun hall => h hall.2) e error
      · obtain ⟨needed, available, hlt, hrejection⟩ :=
          hvalid.rejected hfit (Nat.lt_of_not_le hroom)
        have herror := foretell_of_rejected hrejection rejected context
        by_cases hall : AllValid width table before
            ((Script.call c next).foretell Call.granted context before).2
        · refine .exceeded hall ?_ ⟨needed, available, hlt, herror⟩
          simp only [foretell]
          omega
        · exact .refused hall _ herror
    · obtain ⟨e, hrejection, -⟩ := Call.rejected_of_not_valid room hvalid
      exact .refused (fun h => hvalid h.1) e (foretell_of_rejected hrejection rejected context)

/-- As long as its calls are granted, a script that passes errors on has none. -/
lemma PassesOn.foretell_granted (h : script.PassesOn) (context : σ) (before : List CallRecord) :
    ∃ a, (script.foretell Call.granted context before).1 = .ok a := by
  induction h generalizing context before with
  | done a => exact ⟨a, rfl⟩
  | @read next _ ih => exact ih context context before
  | @write next written _ ih => exact ih written before
  | @emit next e _ ih => exact ih context before
  | @call c next _ _ ih => exact ih _ (Call.rejection?_granted before c) context _

end Script

/-! ## Callbacks that pass errors on -/

namespace CallbackScript

variable {σ α β : Type}

lemma passesOn_pure (a : α) : (pure a : CallbackScript σ α).run.PassesOn := .done a

/-- A callback in two parts passes errors on if both parts do. -/
lemma passesOn_bind {x : CallbackScript σ α} {f : α → CallbackScript σ β} (h : x.run.PassesOn)
    (hf : ∀ a, (f a).run.PassesOn) : (x >>= f).run.PassesOn :=
  Script.PassesOn.bind h hf fun _ => .done

lemma passesOn_tell {c : Call} (hc : ∀ x, rejection? ⟨c, x⟩ = none) :
    (tell c : CallbackScript σ c.Answer).run.PassesOn :=
  .call (fun x _ => .done x) fun x e h => absurd ((hc x).symm.trans h) (by simp)

lemma passesOn_addAddress (addr : NetAddr) (mandatory : Bool) :
    (addAddress addr mandatory : CallbackScript σ ℕ).run.PassesOn := by
  refine .call (fun x hx => ?_) fun x e hx => ?_
  · cases x with
    | ok index => exact .done index
    | error e => exact absurd hx (by simp [rejection?])
  · cases x with
    | ok index => exact absurd hx (by simp [rejection?])
    | error e' =>
      obtain rfl : e' = e := Option.some.inj hx
      exact .done

lemma passesOn_addTlv (index : ℕ) (type : TlvType) (value : List UInt8) (allowDuplicate : Bool) :
    (addTlv index type value allowDuplicate : CallbackScript σ Unit).run.PassesOn := by
  refine .call (fun x hx => ?_) fun x e hx => ?_
  · cases x with
    | ok done => exact .done done
    | error e => exact absurd hx (by simp [rejection?])
  · cases x with
    | ok done => exact absurd hx (by simp [rejection?])
    | error e' =>
      obtain rfl : e' = e := Option.some.inj hx
      exact .done

end CallbackScript

namespace ContentProvider

variable {σ : Type} {p : ContentProvider σ}

/-- Both callbacks that build a message pass errors on. -/
def PassesOn (p : ContentProvider σ) : Prop :=
  p.addHeader.run.PassesOn ∧ p.addAddresses.run.PassesOn

/-- The calls that a provider makes as long as they are granted. -/
def asked (p : ContentProvider σ) (context : σ) : List CallRecord :=
  (p.script.run.foretell Call.granted context []).2

end ContentProvider

namespace MessageWriter

variable {σ : Type} {w : MessageWriter} {p : ContentProvider σ} {context : σ} {width : ℕ}
  {callbacks : List Callback} {s : Session σ}

/-- What the callbacks of a provider come to that passes errors on. -/
theorem compose_comes {r : Except WireError Unit} (hp : p.PassesOn)
    (h : compose p (w.opening p context width) = (r, callbacks, s)) :
    Script.Comes w.config.addrTlvSize
      (AllValid width ((w.table? p.type).getD []) [] (p.asked context))
      (valueBytes (taken (p.asked context))) (.ok (), p.asked context) (r, s.calls) := by
  have hscript : p.script.run.PassesOn := passesOn_bind hp.1 fun _ => hp.2
  obtain ⟨done, hdone⟩ := hscript.foretell_granted context []
  have hcomes := hscript.comes width ((w.table? p.type).getD []) w.config.addrTlvSize context []
    (Nat.zero_le _)
  rw [← (compose_foretold h).1]
  have hasked : p.script.run.foretell Call.granted context [] = (.ok (), p.asked context) :=
    Prod.ext hdone rfl
  have hnothing : valueBytes (taken []) = 0 := rfl
  rw [hasked, hnothing, Nat.zero_add] at hcomes
  exact hcomes

end MessageWriter

end RouteDiscovery.Wire
