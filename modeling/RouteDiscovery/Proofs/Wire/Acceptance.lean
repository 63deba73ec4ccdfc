/-
# What calls are answered

A content provider gets the same answers as everybody who makes the same calls: the answer to a call
depends on the width and the table of the message, on the room for values, and on the calls before
it, of which only those count that were accepted.

* `Call.due` is this answer, read off the calls before.  The checks come in a fixed order, and the
  first that fails is reported.
* `Draft.Follows` ties a draft to the calls that were made on it; a draft that follows its calls
  gives the answers that are due (`Draft.Follows.answer_eq`) and follows the next call too
  (`Draft.Follows.answer`).
* `Script.foretell` carries a script out with answers from elsewhere and without a draft.  What a
  provider does on its draft is foretold from the answers that are due (`Script.run_foretold`).
* `Truthful` says of a list of calls that each was given the answer that was due, as those of every
  message are (`MessageWriter.truthful_create`).  What holds of such calls is shown by induction on
  them, without a draft.
-/
import RouteDiscovery.Proofs.Wire.Callbacks
import RouteDiscovery.Proofs.Wire.Reuse

namespace RouteDiscovery.Wire

open CallRecord CallbackScript

/-! ## Answers that are due -/

namespace CallRecord

/-- The addresses that were accepted, each once, in the order of their first call. -/
abbrev known (calls : List CallRecord) : List NetAddr := (calls.filterMap address?).eraseDups

/-- The TLVs that were accepted, in the order of the calls. -/
abbrev taken (calls : List CallRecord) : List AddrTlv := calls.filterMap tlv?

lemma taken_snoc (calls : List CallRecord) (r : CallRecord) :
    taken (calls ++ [r]) = taken calls ++ r.tlv?.toList := filterMap_snoc tlv? calls r

lemma nodup_eraseDups {α : Type} [BEq α] [LawfulBEq α] (l : List α) : l.eraseDups.Nodup := by
  induction l using List.reverseRecOn with
  | nil => exact List.nodup_nil
  | append_singleton l a ih =>
    rw [eraseDups_snoc]
    by_cases ha : a ∈ l
    · rwa [if_pos ha, List.append_nil]
    · rw [if_neg ha, ← List.concat_eq_append]
      exact ih.concat fun hmem => ha (List.mem_eraseDups.1 hmem)

/-- No address is known twice. -/
lemma nodup_known (calls : List CallRecord) : (known calls).Nodup := nodup_eraseDups _

/-- Addresses that are known keep their places whatever is added. -/
lemma known_isPrefix (calls more : List CallRecord) : known calls <+: known (calls ++ more) := by
  rw [known, known, List.filterMap_append, List.eraseDups_append]
  exact List.prefix_append _ _

end CallRecord

/-- The TLVs differ in their type or their address. -/
def Distinct (ts : List AddrTlv) : Prop := (ts.map fun t => (t.type, t.index)).Nodup

instance (ts : List AddrTlv) : Decidable (Distinct ts) :=
  inferInstanceAs (Decidable (_ : List _).Nodup)

namespace Call

/-- What a call is answered if it is accepted. -/
def granted (before : List CallRecord) : (c : Call) → c.Answer
  | .addAddress addr _ => .ok ((known before).findIdx (· = addr))
  | .addTlv .. => .ok ()
  | .addressCount => (known before).length
  | .setFlags _ | .setHopLimit _ | .setHopCount _ | .setOriginator _ | .setSeqNum _ => ()

/-- What a call is answered after these calls, on a message of the given width and table whose
values have the given room together. -/
def due (width : ℕ) (table : List TlvType) (room : ℕ) (before : List CallRecord) :
    (c : Call) → c.Answer
  | .addAddress addr mandatory =>
    if addr.length ≠ width then .error (.addressLength width addr.length)
    else if addr ∉ known before ∧ maxAddresses ≤ (known before).length then .error .tooManyAddresses
    else granted before (.addAddress addr mandatory)
  | .addTlv index type value allowDuplicate =>
    if type ∉ table then .error (.undeclaredTlv type.kind)
    else if (known before).length ≤ index then .error (.unknownAddress index)
    else if maxTlvValueLength < value.length then .error (.tlvValueTooLong value.length)
    else if (∃ t ∈ taken before, t.type = type ∧ t.index = index) ∧ allowDuplicate = false then
      .error (.duplicateTlv type.kind index)
    else if room - valueBytes (taken before) < value.length then
      .error (.capacity .addressTlv value.length (room - valueBytes (taken before)))
    else granted before (.addTlv index type value allowDuplicate)
  | c => granted before c

end Call

namespace Draft

variable {d : Draft} {width : ℕ} {table : List TlvType} {room : ℕ} {calls : List CallRecord}

/-! ## Drafts that follow their calls -/

/-- The draft is what the calls have made of it, and the arena holds the values that were taken and
nothing else. -/
structure Follows (d : Draft) (width : ℕ) (table : List TlvType) (room : ℕ)
    (calls : List CallRecord) : Prop where
  sound : d.Sound
  reflects : d.Reflects width table calls
  arena : d.arena.clear = { kind := .addressTlv, capacity := room }
  stored : d.arena.length = valueBytes (taken calls)

lemma Follows.start (width : ℕ) (table : List TlvType) (room : ℕ) :
    (start width table room).Follows width table room [] :=
  ⟨.start width table room, .start width table room, rfl, rfl⟩

lemma valueBytes_append (ts us : List AddrTlv) :
    valueBytes (ts ++ us) = valueBytes ts + valueBytes us := by
  induction ts with
  | nil => exact (Nat.zero_add _).symm
  | cons t ts ih =>
    rw [List.cons_append, valueBytes, valueBytes, ih]
    omega

lemma Reflects.map_addr (hr : d.Reflects width table calls) :
    d.addresses.map (·.addr) = known calls := hr.addresses

lemma Reflects.count (hr : d.Reflects width table calls) :
    d.addresses.length = (known calls).length := by
  rw [← hr.map_addr, List.length_map]

lemma Reflects.findIdx (hr : d.Reflects width table calls) (addr : NetAddr) :
    d.addresses.findIdx (·.addr = addr) = (known calls).findIdx (· = addr) := by
  rw [← hr.map_addr, List.findIdx_map]
  rfl

/-- A TLV that was taken stands in the draft. -/
lemma Follows.exists_entry (h : d.Follows width table room calls) {t : AddrTlv}
    (ht : t ∈ taken calls) :
    ∃ e ∈ d.entries, d.declared[e.position]? = some t.type ∧ e.index = t.index := by
  have hranked : ranked table t ∈ d.tlvs := h.reflects.tlvs ▸ List.mem_map_of_mem ht
  obtain ⟨e, he, hresolve⟩ := List.mem_filterMap.1 hranked
  obtain ⟨type, htype, heq⟩ := Option.map_eq_some_iff.1 hresolve
  obtain rfl : type = t.type := congrArg (·.2.type) heq
  exact ⟨e, he, htype, congrArg (·.2.index) heq⟩

/-- The types of TLVs that were taken are declared. -/
lemma Follows.declared (h : d.Follows width table room calls) {t : AddrTlv}
    (ht : t ∈ taken calls) : t.type ∈ table := by
  obtain ⟨e, -, htype, -⟩ := h.exists_entry ht
  exact h.reflects.declared_eq ▸ List.mem_of_getElem? htype

/-- The addresses of TLVs that were taken are known. -/
lemma Follows.index_lt (h : d.Follows width table room calls) {t : AddrTlv}
    (ht : t ∈ taken calls) : t.index < (known calls).length := by
  obtain ⟨e, he, -, hindex⟩ := h.exists_entry ht
  rw [← h.reflects.count, ← hindex]
  exact h.sound.index e he

/-- Two types that are declared stand at the same place only if they are the same. -/
lemma findIdx_inj {s t : TlvType} (hs : s ∈ table) (ht : t ∈ table)
    (h : table.findIdx (· = s) = table.findIdx (· = t)) : s = t := by
  have hsome := getElem?_findIdx hs
  rw [h, getElem?_findIdx ht] at hsome
  exact (Option.some.inj hsome).symm

/-- The entries of a draft tell of the TLVs that were taken. -/
lemma Follows.hasTlv_iff (h : d.Follows width table room calls) {type : TlvType}
    (htype : type ∈ table) (index : ℕ) :
    d.hasTlv (table.findIdx (· = type)) index = true ↔
      ∃ t ∈ taken calls, t.type = type ∧ t.index = index := by
  have htlvs := h.reflects.tlvs
  simp only [hasTlv, List.any_eq_true, decide_eq_true_eq]
  constructor
  · rintro ⟨e, he, hposition, rfl⟩
    obtain ⟨declared, hdeclared⟩ : ∃ type, d.declared[e.position]? = some type :=
      ⟨_, List.getElem?_eq_getElem (h.sound.position e he)⟩
    have hresolve : d.resolve? e = some (e.position, ⟨declared, e.index, d.valueOf e⟩) := by
      rw [resolve?, hdeclared]
      rfl
    have hmem : (e.position, ⟨declared, e.index, d.valueOf e⟩) ∈ d.tlvs :=
      List.mem_filterMap.2 ⟨e, he, hresolve⟩
    rw [htlvs] at hmem
    obtain ⟨t, ht, heq⟩ := List.mem_map.1 hmem
    have hposition' : table.findIdx (· = t.type) = e.position := congrArg Prod.fst heq
    have hsame := hposition'.trans hposition
    exact ⟨t, ht, findIdx_inj (h.declared ht) htype hsame, congrArg (·.2.index) heq⟩
  · rintro ⟨t, ht, rfl, rfl⟩
    have hranked : ranked table t ∈ d.tlvs := htlvs ▸ List.mem_map_of_mem ht
    obtain ⟨e, he, hresolve⟩ := List.mem_filterMap.1 hranked
    obtain ⟨declared, -, heq⟩ := Option.map_eq_some_iff.1 hresolve
    exact ⟨e, he, congrArg Prod.fst heq, congrArg (·.2.index) heq⟩

lemma Follows.remaining (h : d.Follows width table room calls) :
    d.arena.remaining = room - valueBytes (taken calls) := by
  rw [Buffer.remaining, h.stored]
  exact congrArg (· - _) (congrArg Buffer.capacity h.arena)

/-! ## One call -/

lemma fst_answer_addAddress (d : Draft) (addr : NetAddr) (mandatory : Bool) :
    (d.answer (.addAddress addr mandatory)).1 = (d.addAddress addr mandatory).map Prod.fst := by
  simp only [answer]
  cases d.addAddress addr mandatory <;> rfl

lemma fst_answer_addTlv (d : Draft) (index : ℕ) (type : TlvType) (value : List UInt8)
    (allowDuplicate : Bool) :
    (d.answer (.addTlv index type value allowDuplicate)).1 =
      (d.addTlv index type value allowDuplicate).map fun _ => () := by
  simp only [answer]
  cases d.addTlv index type value allowDuplicate <;> rfl

/-- What a call is answered that adds an address. -/
lemma Follows.answer_addAddress (h : d.Follows width table room calls) (addr : NetAddr)
    (mandatory : Bool) :
    (d.answer (.addAddress addr mandatory)).1 =
      Call.due width table room calls (.addAddress addr mandatory) := by
  have hknown : d.indexOf? addr = none ↔ addr ∉ known calls := by
    rw [indexOf?_eq_none_iff, h.reflects.map_addr]
  rw [fst_answer_addAddress, addAddress, h.reflects.width_eq]
  simp only [Call.due, Call.granted, ← h.reflects.findIdx, ← h.reflects.count, ← hknown]
  by_cases hwidth : addr.length ≠ width
  · rw [if_pos hwidth, if_pos hwidth]
    rfl
  rw [if_neg hwidth, if_neg hwidth]
  cases hindex : d.indexOf? addr with
  | some index =>
    obtain rfl := (List.findIdx?_eq_some_iff_findIdx_eq.1 hindex).2
    rfl
  | none =>
    -- the address would be behind all that are there
    have hend : d.addresses.findIdx (·.addr = addr) = d.addresses.length :=
      List.findIdx_eq_length.2 (List.findIdx?_eq_none_iff.1 hindex)
    simp only [true_and, hend]
    split <;> rfl

/-- What a call is answered that adds a TLV. -/
lemma Follows.answer_addTlv (h : d.Follows width table room calls) (index : ℕ) (type : TlvType)
    (value : List UInt8) (allowDuplicate : Bool) :
    (d.answer (.addTlv index type value allowDuplicate)).1 =
      Call.due width table room calls (.addTlv index type value allowDuplicate) := by
  have hkind : d.arena.kind = .addressTlv := congrArg Buffer.kind h.arena
  rw [fst_answer_addTlv, addTlv]
  simp only [Call.due, Call.granted, ← h.reflects.count, ← h.remaining]
  by_cases htype : type ∈ table
  · have hposition : d.positionOf? type = some (table.findIdx (· = type)) := by
      rw [← h.reflects.declared_eq] at htype ⊢
      exact positionOf?_of_mem htype
    have hduplicate : (d.hasTlv (table.findIdx (· = type)) index && !allowDuplicate) = true ↔
        (∃ t ∈ taken calls, t.type = type ∧ t.index = index) ∧ allowDuplicate = false := by
      rw [Bool.and_eq_true, h.hasTlv_iff htype, Bool.not_eq_true']
    have hput : d.arena.put value =
        if d.arena.remaining < value.length then
          .error (.capacity .addressTlv value.length d.arena.remaining)
        else .ok (d.arena.extend value) := by
      split
      · next hlt => rw [Buffer.put_of_lt hlt, hkind]
      · next hle => exact Buffer.put_of_le (Nat.le_of_not_lt hle)
    -- the same checks are made in the same order
    simp only [hposition, ← hduplicate, htype, not_true_eq_false, if_false, hput]
    by_cases hindex : d.addresses.length ≤ index
    · simp only [if_pos hindex, Except.map]
    by_cases hlong : maxTlvValueLength < value.length
    · simp only [if_neg hindex, if_pos hlong, Except.map]
    simp only [if_neg hindex, if_neg hlong]
    split
    · rfl
    by_cases hroom : d.arena.remaining < value.length
    · simp only [if_pos hroom, Except.map]
    · simp only [if_neg hroom, Except.map]
  · have hposition : d.positionOf? type = none :=
      positionOf?_of_not_mem (h.reflects.declared_eq ▸ htype)
    rw [hposition, if_pos htype]
    rfl

/-- **What a call is answered.**  A draft that follows its calls gives the answer that is due. -/
lemma Follows.answer_eq (h : d.Follows width table room calls) (c : Call) :
    (d.answer c).1 = c.due width table room calls := by
  cases c with
  | addAddress addr mandatory => exact h.answer_addAddress addr mandatory
  | addTlv index type value allowDuplicate => exact h.answer_addTlv index type value allowDuplicate
  | addressCount => exact h.reflects.count
  | _ => rfl

/-- A draft that follows its calls follows the next one too. -/
lemma Follows.answer (h : d.Follows width table room calls) (c : Call) :
    (d.answer c).2.Follows width table room (calls ++ [⟨c, (d.answer c).1⟩]) := by
  refine ⟨h.sound.answer c, h.reflects.answer h.sound c, (d.clear_arena_answer c).trans h.arena, ?_⟩
  rw [taken_snoc, valueBytes_append, ← h.stored]
  cases c with
  | addTlv index type value allowDuplicate =>
    simp only [Draft.answer]
    split
    · next hadd =>
      obtain ⟨-, -, -, rfl⟩ := addTlv_cases hadd
      exact Buffer.length_extend
    · rfl
  | addAddress addr mandatory =>
    simp only [Draft.answer]
    split
    · next hadd => obtain ⟨-, ⟨-, rfl⟩ | ⟨-, -, -, rfl⟩⟩ := addAddress_cases hadd <;> rfl
    · rfl
  | _ => rfl

end Draft

/-! ## Scripts -/

namespace Script

variable {σ α : Type}

/-- Carries out a script whose calls are answered from elsewhere, where an answer may depend on the
calls before; gives the result and the calls. -/
def foretell (answer : List CallRecord → (c : Call) → c.Answer) :
    Script σ α → σ → List CallRecord → α × List CallRecord
  | done a, _, _ => (a, [])
  | call c next, context, before =>
    let r : CallRecord := ⟨c, answer before c⟩
    let rest := (next r.answer).foretell answer context (before ++ [r])
    (rest.1, r :: rest.2)
  | read next, context, before => (next context).foretell answer context before
  | write context next, _, before => next.foretell answer context before
  | emit _ next, context, before => next.foretell answer context before

variable {width : ℕ} {table : List TlvType} {room : ℕ}

/-- **What a script does is foretold from the answers that are due.** -/
theorem run_foretold (script : Script σ α) {s : Session σ}
    (hs : s.draft.Follows width table room s.calls) :
    (script.run s).1 = (script.foretell (Call.due width table room) s.context s.calls).1 ∧
      (script.run s).2.calls =
        s.calls ++ (script.foretell (Call.due width table room) s.context s.calls).2 ∧
      (script.run s).2.draft.Follows width table room (script.run s).2.calls := by
  induction script generalizing s with
  | done a => exact ⟨rfl, (List.append_nil _).symm, hs⟩
  | call c next ih =>
    have hanswer := hs.answer_eq c
    have hnext := hs.answer c
    rw [hanswer] at hnext
    have hrun : (call c next).run s = (next (c.due width table room s.calls)).run
        { s with
          draft := (s.draft.answer c).2
          calls := s.calls ++ [⟨c, c.due width table room s.calls⟩] } := by
      rw [← hanswer]
      rfl
    rw [hrun]
    obtain ⟨hresult, hcalls, hfollows⟩ :=
      ih (c.due width table room s.calls) (s := { s with draft := _, calls := _ }) hnext
    exact ⟨hresult, hcalls.trans (List.append_assoc _ _ _), hfollows⟩
  | read next ih => exact ih s.context hs
  | write context next ih => exact ih (s := { s with context }) hs
  | emit e next ih => exact ih (s := { s with events := _ }) hs

end Script

/-! ## Calls with the answers that were due -/

section

variable {width : ℕ} {table : List TlvType} {room : ℕ} {before calls : List CallRecord}

/-- After some calls each of these was given the answer that was due. -/
inductive Truthful (width : ℕ) (table : List TlvType) (room : ℕ) :
    List CallRecord → List CallRecord → Prop
  | nil (before : List CallRecord) : Truthful width table room before []
  | cons {before calls : List CallRecord} (c : Call)
      (h : Truthful width table room (before ++ [⟨c, c.due width table room before⟩]) calls) :
      Truthful width table room before (⟨c, c.due width table room before⟩ :: calls)

/-- Each of the calls of a script is given the answer that is due. -/
lemma Script.truthful_foretell {σ α : Type} (script : Script σ α) (context : σ)
    (before : List CallRecord) :
    Truthful width table room before
      (script.foretell (Call.due width table room) context before).2 := by
  induction script generalizing context before with
  | done a => exact .nil before
  | call c next ih => exact .cons c (ih _ _ _)
  | read next ih => exact ih context context before
  | write written next ih => exact ih written before
  | emit e next ih => exact ih context before

namespace Truthful

/-- Calls that were answered truthfully were so up to any of them, and so was this one. -/
lemma split {r : CallRecord} {rest : List CallRecord}
    (h : Truthful width table room before (calls ++ r :: rest)) :
    Truthful width table room before calls ∧
      r.answer = r.call.due width table room (before ++ calls) := by
  induction calls generalizing before with
  | nil =>
    rw [List.append_nil]
    cases h with
    | cons c h => exact ⟨.nil before, rfl⟩
  | cons first calls ih =>
    cases h with
    | cons c h =>
      obtain ⟨hcalls, hanswer⟩ := ih h
      rw [List.append_assoc] at hanswer
      exact ⟨.cons c hcalls, hanswer⟩

/-- Calls that were answered truthfully were so up to any time. -/
lemma left {later : List CallRecord} (h : Truthful width table room before (calls ++ later)) :
    Truthful width table room before calls := by
  cases later with
  | nil => rwa [List.append_nil] at h
  | cons r later => exact h.split.1

/-- Where a draft follows the calls before, there is one that follows all. -/
lemma exists_follows (h : Truthful width table room before calls)
    (hbefore : ∃ d : Draft, d.Follows width table room before) :
    ∃ d : Draft, d.Follows width table room (before ++ calls) := by
  induction h with
  | nil before => rwa [List.append_nil]
  | @cons before calls c _ ih =>
    obtain ⟨d, hd⟩ := hbefore
    have hnext := hd.answer c
    rw [hd.answer_eq c] at hnext
    rw [List.append_cons]
    exact ih ⟨_, hnext⟩

/-- A draft follows the calls of a message. -/
lemma follows (h : Truthful width table room [] calls) :
    ∃ d : Draft, d.Follows width table room calls :=
  h.exists_follows ⟨_, .start width table room⟩

/-- The values that were taken have room together. -/
lemma valueBytes_le (h : Truthful width table room before calls)
    (hbefore : valueBytes (taken before) ≤ room) : valueBytes (taken (before ++ calls)) ≤ room := by
  induction h with
  | nil before => rwa [List.append_nil]
  | @cons before calls c _ ih =>
    rw [List.append_cons]
    refine ih ?_
    rw [taken_snoc, Draft.valueBytes_append]
    cases c with
    | addTlv index type value allowDuplicate =>
      -- a TLV is taken only where its value has room
      simp only [Call.due]
      split_ifs with _ _ _ _ hroom
      case neg =>
        simp only [tlv?, Call.granted, Option.toList_some, valueBytes]
        omega
      all_goals exact hbefore
    | addAddress addr mandatory =>
      simp only [tlv?]
      exact hbefore
    | _ => exact hbefore

end Truthful

end

/-! ## Providers -/

variable {σ : Type}

/-- The callbacks that build a message, one after the other. -/
def ContentProvider.script (p : ContentProvider σ) : CallbackScript σ Unit :=
  p.addHeader >>= fun _ => p.addAddresses

namespace MessageWriter

variable {w : MessageWriter} {p : ContentProvider σ} {context : σ} {width : ℕ}

lemma compose_eq_script (p : ContentProvider σ) (s : Session σ) :
    ((compose p s).1, (compose p s).2.2) = p.script.run.run s := by
  unfold compose ContentProvider.script
  rcases hheader : p.addHeader.run.run s with ⟨e | _, headed⟩
  · rw [run_bind_error hheader]
  · rw [run_bind_ok hheader]

/-- What the callbacks of a provider come to, and the calls that they make. -/
def foretold (w : MessageWriter) (p : ContentProvider σ) (context : σ) (width : ℕ) :
    Except WireError Unit × List CallRecord :=
  p.script.run.foretell
    (Call.due width ((w.table? p.type).getD []) w.config.addrTlvSize) context []

/-- What a provider comes to is foretold, and the draft that it leaves follows its calls. -/
lemma compose_foretold {r : Except WireError Unit} {callbacks : List Callback} {s : Session σ}
    (h : compose p (w.opening p context width) = (r, callbacks, s)) :
    w.foretold p context width = (r, s.calls) ∧
      s.draft.Follows width ((w.table? p.type).getD []) w.config.addrTlvSize s.calls := by
  have hscript := compose_eq_script p (w.opening p context width)
  rw [h] at hscript
  obtain ⟨hresult, hcalls, hfollows⟩ := p.script.run.run_foretold (s := w.opening p context width)
    (.start width ((w.table? p.type).getD []) w.config.addrTlvSize)
  rw [← hscript] at hresult hcalls hfollows
  exact ⟨Prod.ext hresult.symm hcalls.symm, hfollows⟩

/-- The calls of a provider are answered truthfully. -/
lemma truthful_of_foretold {r : Except WireError Unit} {calls : List CallRecord}
    (h : w.foretold p context width = (r, calls)) :
    Truthful width ((w.table? p.type).getD []) w.config.addrTlvSize [] calls := by
  obtain rfl : (w.foretold p context width).2 = calls := congrArg Prod.snd h
  exact p.script.run.truthful_foretell context []

/-- The calls of a message are answered truthfully, whatever becomes of it. -/
lemma truthful_create (w : MessageWriter) (p : ContentProvider σ) (context : σ) :
    Truthful ((w.width? p.type).getD 0) ((w.table? p.type).getD []) w.config.addrTlvSize []
      (w.create p context).calls := by
  cases hwidth : w.width? p.type with
  | none =>
    rw [create_unregistered hwidth]
    exact .nil []
  | some width =>
    rcases hcompose : compose p (w.opening p context width) with ⟨r, callbacks, s⟩
    rw [calls_create hwidth hcompose]
    exact truthful_of_foretold (compose_foretold hcompose).1

end MessageWriter

end RouteDiscovery.Wire
