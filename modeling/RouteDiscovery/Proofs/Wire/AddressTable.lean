/-
# The address table

A message keeps each address once, where it was first accepted, and answers a call that adds an
address with the place at which it stands.  So a handle, once given out, stands for its address for
good, and what the table holds can be told from the calls:

* `Draft.addresses_answer`: the table holds the accepted addresses, each once, in the order in which
  they were first accepted, with a mark on those for which some accepted call asked for it
  (`CallRecord.tableOf`).
* `Truthful.handle_iff` and `Truthful.refused_iff`: which handle a call gets that adds an address,
  told from the addresses at any later time, and what it is answered if it gets none.
* `ReusingWriter.address_table` says both of the table that any provider leaves in any writer that
  can be reached.

In memory an address has sixteen octets, with zeros behind its own, and a length.  Addresses are
compared as they lie there (`NetAddr.padded`), which comes to comparing their octets.
-/
import RouteDiscovery.Proofs.Wire.CallbackOrder
import RouteDiscovery.Proofs.Wire.Capacity

namespace RouteDiscovery.Wire

open CallRecord MessageWriter

/-! ## Addresses in memory -/

/-- Sixteen octets, of which as many count as the length says. -/
structure PaddedAddr where
  octets : List UInt8
  length_octets : octets.length = maxAddressLength
  length : ℕ
deriving DecidableEq, Repr

/-- The octets that count. -/
def PaddedAddr.bytes (a : PaddedAddr) : List UInt8 := a.octets.take a.length

namespace NetAddr

/-- An address as it lies in memory. -/
def padded (a : NetAddr) : PaddedAddr where
  octets := a.bytes ++ List.replicate (maxAddressLength - a.length) 0
  length_octets := by
    rw [List.length_append, List.length_replicate]
    exact Nat.add_sub_of_le a.length_le
  length := a.length

@[simp] lemma bytes_padded (a : NetAddr) : a.padded.bytes = a.bytes := List.take_left' rfl

lemma bytes_injective : Function.Injective NetAddr.bytes := by
  rintro ⟨_, _, _⟩ ⟨_, _, _⟩ rfl
  rfl

/-- Addresses lie alike in memory only if they are the same. -/
lemma padded_inj {a b : NetAddr} : a.padded = b.padded ↔ a = b := by
  refine ⟨fun h => bytes_injective ?_, congrArg padded⟩
  rw [← a.bytes_padded, ← b.bytes_padded, h]

end NetAddr

/-- Addresses are found by comparing them as they lie in memory. -/
lemma Draft.indexOf?_eq_padded (d : Draft) (addr : NetAddr) :
    d.indexOf? addr = d.addresses.findIdx? fun a => a.addr.padded = addr.padded := by
  simp only [Draft.indexOf?, NetAddr.padded_inj]

/-! ## The table of some calls -/

namespace CallRecord

/-- The address that a call marks as mandatory. -/
def demanded? : CallRecord → Option NetAddr
  | ⟨.addAddress addr true, .ok _⟩ => some addr
  | _ => none

/-- The addresses that were marked as mandatory. -/
abbrev demanded (calls : List CallRecord) : List NetAddr := calls.filterMap demanded?

/-- The table that some calls make. -/
def tableOf (calls : List CallRecord) : List DraftAddress :=
  (known calls).map fun addr => ⟨addr, addr ∈ demanded calls⟩

variable {calls : List CallRecord} {addr : NetAddr}

lemma demanded?_eq_some {r : CallRecord} (h : r.demanded? = some addr) :
    ∃ index, r = ⟨.addAddress addr true, .ok index⟩ := by
  unfold demanded? at h
  split at h
  · next index =>
    obtain rfl := Option.some.inj h
    exact ⟨index, rfl⟩
  · exact absurd h (by simp)

lemma mem_demanded :
    addr ∈ demanded calls ↔ ∃ index, ⟨.addAddress addr true, .ok index⟩ ∈ calls := by
  rw [List.mem_filterMap]
  constructor
  · rintro ⟨r, hr, hdemanded⟩
    obtain ⟨index, rfl⟩ := demanded?_eq_some hdemanded
    exact ⟨index, hr⟩
  · rintro ⟨index, hr⟩
    exact ⟨_, hr, rfl⟩

/-- An address that is demanded is known. -/
lemma known_of_demanded (h : addr ∈ demanded calls) : addr ∈ known calls := by
  obtain ⟨index, hr⟩ := mem_demanded.1 h
  exact List.mem_eraseDups.2 (List.mem_filterMap.2 ⟨_, hr, rfl⟩)

variable {mandatory : Bool} {index : ℕ}

/-- An address that is accepted comes after those that are known, unless it is one of them. -/
lemma known_snoc : known (calls ++ [⟨.addAddress addr mandatory, .ok index⟩]) =
    known calls ++ if addr ∈ known calls then [] else [addr] := by
  rw [known, filterMap_snoc]
  simp only [List.mem_eraseDups]
  exact eraseDups_snoc _ addr

lemma demanded_snoc : demanded (calls ++ [⟨.addAddress addr mandatory, .ok index⟩]) =
    demanded calls ++ if mandatory then [addr] else [] := by
  rw [demanded, filterMap_snoc]
  cases mandatory <;> rfl

/-- A call that adds no address leaves the table. -/
lemma tableOf_snoc_of_none {r : CallRecord} (h : r.address? = none) :
    tableOf (calls ++ [r]) = tableOf calls := by
  have hdemanded : r.demanded? = none := by
    refine Option.eq_none_iff_forall_ne_some.2 fun addr hsome => ?_
    obtain ⟨index, rfl⟩ := demanded?_eq_some hsome
    exact absurd h (by simp [address?])
  simp only [tableOf, known, demanded, filterMap_snoc, h, hdemanded, Option.toList_none,
    List.append_nil]

/-- A new address goes to the end of the table. -/
lemma tableOf_snoc_of_new (h : addr ∉ known calls) :
    tableOf (calls ++ [⟨.addAddress addr mandatory, .ok index⟩]) =
      tableOf calls ++ [⟨addr, mandatory⟩] := by
  have hold : ∀ a ∈ known calls, (a ∈ demanded calls ++ (if mandatory then [addr] else []) ↔
      a ∈ demanded calls) := by
    intro a ha
    have hne : a ≠ addr := fun heq => h (heq ▸ ha)
    cases mandatory <;> simp [hne]
  have hnew : addr ∉ demanded calls := fun hdemanded => h (known_of_demanded hdemanded)
  rw [tableOf, known_snoc, if_neg h, List.map_append, demanded_snoc]
  congr 1
  · refine List.map_congr_left fun a ha => congrArg (DraftAddress.mk a) ?_
    exact decide_eq_decide.2 (hold a ha)
  · rw [List.map_singleton]
    cases mandatory <;> simp [-List.mem_filterMap, hnew]

/-- An address that is there already only gets its mark. -/
lemma tableOf_snoc_of_known (h : addr ∈ known calls) :
    tableOf (calls ++ [⟨.addAddress addr mandatory, .ok index⟩]) =
      (tableOf calls).map fun a =>
        if a.addr = addr then { a with mandatory := a.mandatory || mandatory } else a := by
  rw [tableOf, known_snoc, if_pos h, List.append_nil, demanded_snoc, tableOf, List.map_map]
  refine List.map_congr_left fun a _ => ?_
  by_cases ha : a = addr <;> cases mandatory <;> simp [ha]

end CallRecord

/-! ## One call -/

namespace Draft

variable {d : Draft} {width : ℕ} {table : List TlvType} {room : ℕ} {calls : List CallRecord}

/-- Where no address stands twice, a mark is set at the one address that is meant. -/
lemma addresses_mark {addr : NetAddr} {index : ℕ} (hnodup : (d.addresses.map (·.addr)).Nodup)
    (hindex : d.indexOf? addr = some index) (mandatory : Bool) :
    (d.mark index mandatory).addresses = d.addresses.map fun a =>
      if a.addr = addr then { a with mandatory := a.mandatory || mandatory } else a := by
  obtain ⟨hlt, hfound, -⟩ := List.findIdx?_eq_some_iff_getElem.1 hindex
  have haddr : d.addresses[index].addr = addr := of_decide_eq_true hfound
  refine List.ext_getElem (by simp [mark]) fun i hi _ => ?_
  have hi : i < d.addresses.length := by simpa [mark] using hi
  have hiff : index = i ↔ d.addresses[i].addr = addr := by
    constructor
    · rintro rfl
      exact haddr
    · intro heq
      have hsame : (d.addresses.map (·.addr))[index]? = (d.addresses.map (·.addr))[i]? := by
        rw [List.getElem?_map, List.getElem?_map, List.getElem?_eq_getElem hlt,
          List.getElem?_eq_getElem hi, Option.map_some, Option.map_some, haddr, heq]
      exact (List.getElem?_inj ((List.length_map _).symm ▸ hlt) hnodup).1 hsame
  simp only [mark, List.getElem_modify, List.getElem_map, hiff]

/-- **The table is told from the calls.**  Where a draft has the table that the calls before have
made, it has after a call the table that the calls up to this one have made. -/
theorem addresses_answer (hd : d.Follows width table room calls)
    (htable : d.addresses = tableOf calls) (c : Call) :
    (d.answer c).2.addresses = tableOf (calls ++ [⟨c, (d.answer c).1⟩]) := by
  cases c with
  | addAddress addr mandatory =>
    have hknown : d.indexOf? addr = none ↔ addr ∉ known calls := by
      rw [indexOf?_eq_none_iff, hd.reflects.map_addr]
    simp only [Draft.answer]
    cases hadd : d.addAddress addr mandatory with
    | error e => exact htable.trans (tableOf_snoc_of_none rfl).symm
    | ok added =>
      obtain ⟨index, d'⟩ := added
      obtain ⟨-, ⟨hindex, rfl⟩ | ⟨hnew, -, -, rfl⟩⟩ := addAddress_cases hadd
      · have hmem : addr ∈ known calls := by
          by_contra hnot
          exact absurd (hindex.symm.trans (hknown.2 hnot)) (by simp)
        have hnodup : (d.addresses.map (·.addr)).Nodup := hd.reflects.map_addr ▸ nodup_known calls
        rw [addresses_mark hnodup hindex, tableOf_snoc_of_known hmem, htable]
      · rw [tableOf_snoc_of_new (hknown.1 hnew), ← htable]
  | addTlv index type value allowDuplicate =>
    rw [tableOf_snoc_of_none rfl, ← htable]
    simp only [Draft.answer]
    split
    · next hadd =>
      obtain ⟨-, -, -, rfl⟩ := addTlv_cases hadd
      rfl
    · rfl
  | _ => exact htable.trans (tableOf_snoc_of_none rfl).symm

end Draft

/-! ## All calls of a message -/

section

variable {width : ℕ} {table : List TlvType} {room : ℕ} {before later : List CallRecord}
  {addr : NetAddr} {mandatory : Bool} {answer : Except WireError ℕ}

/-- Addresses that are known have the width of the message, and their number fits one octet. -/
lemma Truthful.known_bounds {calls : List CallRecord} (h : Truthful width table room [] calls) :
    (∀ a ∈ known calls, a.length = width) ∧ (known calls).length ≤ maxAddresses := by
  obtain ⟨d, hd⟩ := h.follows
  constructor
  · intro a ha
    rw [← hd.reflects.map_addr] at ha
    obtain ⟨stored, hstored, rfl⟩ := List.mem_map.1 ha
    exact (hd.sound.width stored hstored).trans hd.reflects.width_eq
  · rw [← hd.reflects.count]
    exact hd.sound.count

/-- **What refuses an address.**  It is refused if it has another width, or if it is new and there
is no place for it. -/
lemma Truthful.refused_iff
    (h : Truthful width table room [] (before ++ ⟨.addAddress addr mandatory, answer⟩ :: later))
    (e : WireError) :
    answer = .error e ↔
      (addr.length ≠ width ∧ e = .addressLength width addr.length) ∨
        (addr.length = width ∧ (known before).length = maxAddresses ∧ addr ∉ known before ∧
          e = .tooManyAddresses) := by
  obtain ⟨hbefore, hanswer⟩ := h.split
  have hdue : answer = Call.due width table room before (.addAddress addr mandatory) := hanswer
  have hfull : maxAddresses ≤ (known before).length ↔ (known before).length = maxAddresses :=
    ⟨fun hle => Nat.le_antisymm hbefore.known_bounds.2 hle, fun heq => heq.ge⟩
  simp only [Call.due, hfull] at hdue
  rw [hdue]
  split_ifs with hwidth hnoPlace
  · simp [hwidth, eq_comm]
  · simp [not_not.1 hwidth, hnoPlace.1, hnoPlace.2, eq_comm]
  · rw [not_not] at hwidth
    simp only [Call.granted, hwidth, ne_eq, not_true_eq_false, false_and, false_or, true_and,
      reduceCtorEq, false_iff]
    rintro ⟨hlength, hnew, -⟩
    exact hnoPlace ⟨hnew, hlength⟩

/-- The handle that a call gets is the place of its address. -/
lemma Truthful.getElem?_handle {index : ℕ}
    (h : Truthful width table room []
      (before ++ ⟨.addAddress addr mandatory, .ok index⟩ :: later)) :
    (known (before ++ ⟨.addAddress addr mandatory, .ok index⟩ :: later))[index]? = some addr := by
  obtain ⟨-, hanswer⟩ := h.split
  have hdue : Except.ok index = Call.due width table room before (.addAddress addr mandatory) :=
    hanswer
  have hindex : index = (known before).findIdx (· = addr) := by
    simp only [Call.due] at hdue
    split_ifs at hdue
    exact Except.ok.inj hdue
  -- the address has its place as soon as it is accepted
  have hplace : (known (before ++ [⟨.addAddress addr mandatory, .ok index⟩]))[index]? =
      some addr := by
    rw [known_snoc]
    by_cases hmem : addr ∈ known before
    · have hlt : index < (known before).length :=
        hindex ▸ List.findIdx_lt_length.2 ⟨addr, hmem, decide_eq_true rfl⟩
      have hfound : decide ((known before)[index] = addr) = true := by
        subst hindex
        exact List.findIdx_getElem (w := hlt)
      rw [if_pos hmem, List.append_nil, List.getElem?_eq_getElem hlt, of_decide_eq_true hfound]
    · have hend : index = (known before).length := by
        rw [hindex, List.findIdx_eq_length]
        exact fun a ha => decide_eq_false fun heq => hmem (heq ▸ ha)
      rw [if_neg hmem, hend, List.getElem?_concat_length]
  obtain ⟨more, hmore⟩ := known_isPrefix (before ++ [⟨.addAddress addr mandatory, .ok index⟩]) later
  rw [List.append_assoc, List.singleton_append] at hmore
  rw [← hmore, List.getElem?_append_left (List.getElem?_eq_some_iff.1 hplace).1, hplace]

/-- **Handles stand for their addresses for good.**  A call gets a handle if and only if its address
is known, then or at any later time, and the handle is the place at which it is known. -/
lemma Truthful.handle_iff
    (h : Truthful width table room [] (before ++ ⟨.addAddress addr mandatory, answer⟩ :: later))
    (index : ℕ) :
    answer = .ok index ↔
      (known (before ++ ⟨.addAddress addr mandatory, answer⟩ :: later))[index]? = some addr := by
  constructor
  · rintro rfl
    exact h.getElem?_handle
  · intro hplace
    obtain ⟨hwidth, hcount⟩ := h.known_bounds
    have hmem : addr ∈ known (before ++ ⟨.addAddress addr mandatory, answer⟩ :: later) :=
      List.mem_of_getElem? hplace
    cases hanswer : answer with
    | error e =>
      rcases (h.refused_iff e).1 hanswer with ⟨hother, -⟩ | ⟨-, hfull, hnew, -⟩
      · exact absurd (hwidth addr hmem) hother
      · -- a full table is all that there will be
        have hfirst := known_isPrefix before (⟨.addAddress addr mandatory, answer⟩ :: later)
        rw [hfirst.eq_of_length_le (hfull ▸ hcount)] at hnew
        exact absurd hmem hnew
    | ok other =>
      subst hanswer
      have hother := h.getElem?_handle
      have hlt := (List.getElem?_eq_some_iff.1 hother).1
      rw [(List.getElem?_inj hlt (nodup_known _)).1 (hother.trans hplace.symm)]

end

/-! ## Writers that can be reached -/

/-- The address table of a message of some width, and what the calls were answered that made it. -/
structure KeepsAddresses (width : ℕ) (calls : List CallRecord) (stored : List DraftAddress) :
    Prop where
  /-- It holds the addresses that were accepted, each once, in the order of their first call. -/
  order : stored.map (·.addr) = known calls
  /-- No two of them have the same octets. -/
  distinct : (stored.map (·.addr.bytes)).Nodup
  wide : ∀ a ∈ stored, a.addr.bytes.length = width
  count : stored.length ≤ maxAddresses
  /-- An address is mandatory if some accepted call asked for it, and only then. -/
  mandatory : ∀ a ∈ stored,
    a.mandatory = true ↔ ∃ index, ⟨.addAddress a.addr true, .ok index⟩ ∈ calls
  /-- A call gets a handle if and only if the octets of its address are at this place of the table,
  as it is then or at any later time. -/
  handle : ∀ before addr mandatory answer later rest,
    calls = before ++ ⟨.addAddress addr mandatory, answer⟩ :: later ++ rest → ∀ index,
      answer = .ok index ↔
        ((known (before ++ ⟨.addAddress addr mandatory, answer⟩ :: later)).map (·.bytes))[index]? =
          some addr.bytes
  /-- A call is refused if its address has another width, or if it is new and all places are
  taken. -/
  refused : ∀ before addr mandatory answer rest,
    calls = before ++ ⟨.addAddress addr mandatory, answer⟩ :: rest → ∀ e,
      answer = .error e ↔
        (addr.length ≠ width ∧ e = .addressLength width addr.length) ∨
          (addr.length = width ∧ (known before).length = maxAddresses ∧ addr ∉ known before ∧
            e = .tooManyAddresses)

/-- Calls that are answered truthfully make their table. -/
lemma Truthful.keepsAddresses {width : ℕ} {table : List TlvType} {room : ℕ}
    {calls : List CallRecord} (h : Truthful width table room [] calls) :
    KeepsAddresses width calls (tableOf calls) := by
  have horder : (tableOf calls).map (·.addr) = known calls := by
    rw [tableOf, List.map_map]
    exact List.map_id _
  have hbytes : (tableOf calls).map (·.addr.bytes) = (known calls).map (·.bytes) := by
    rw [← horder, List.map_map]
    rfl
  obtain ⟨hwidth, hcount⟩ := h.known_bounds
  have hstored : ∀ a ∈ tableOf calls, a.addr ∈ known calls := fun a ha =>
    horder ▸ List.mem_map_of_mem ha
  constructor
  · exact horder
  · rw [hbytes]
    exact (nodup_known calls).map NetAddr.bytes_injective
  · exact fun a ha => hwidth a.addr (hstored a ha)
  · rwa [tableOf, List.length_map]
  · intro a ha
    obtain ⟨addr, -, rfl⟩ := List.mem_map.1 ha
    exact decide_eq_true_iff.trans mem_demanded
  · rintro before addr mandatory answer later rest rfl index
    rw [h.left.handle_iff index, List.getElem?_map]
    exact (Option.map_injective NetAddr.bytes_injective).eq_iff.symm
  · rintro before addr mandatory answer rest rfl e
    exact h.refused_iff e

/-! ## Writers that can be reached -/

namespace MessageWriter

variable {σ : Type}

/-- The draft that a provider leaves has the table that its calls have made. -/
lemma compose_addresses (w : MessageWriter) (p : ContentProvider σ) (context : σ) (width : ℕ) :
    let s := (compose p (w.opening p context width)).2.2
    s.draft.addresses = tableOf s.calls := by
  have hstart := Draft.Follows.start width ((w.table? p.type).getD []) w.config.addrTlvSize
  refine (compose_invariant (P := fun d calls =>
    d.Follows width ((w.table? p.type).getD []) w.config.addrTlvSize calls ∧
      d.addresses = tableOf calls) (fun d calls c h => ?_) p _ ⟨hstart, rfl⟩).2
  have hnext := h.1.answer c
  exact ⟨hnext, Draft.addresses_answer h.1 h.2 c⟩

end MessageWriter

namespace ReusingWriter

variable {σ : Type} {w : ReusingWriter}

/-- In unused memory, making a message leaves the draft that the provider's callbacks leave. -/
lemma session_attempt (hunused : w.workspace = .new w.config) (p : ContentProvider σ) (context : σ)
    (width : ℕ) :
    (w.attempt p width context).session = (compose p (w.opening p context width)).2.2 := by
  rcases hcompose : compose p (w.opening p context width) with ⟨e | done, callbacks, s⟩
  · rw [attempt_rejected hunused hcompose]
  · obtain ⟨message, -, ⟨packet, -, ha⟩ | ⟨e, -, ha⟩⟩ := attempt_composed hunused hcompose
    · rw [ha]
    · rw [ha]

/-- **The address table is the set of the accepted addresses, in order of their first call.**  After
any history, let a provider make a message whose addresses have any width, whatever the provider
does and wherever it stops.

* The table that it leaves holds each accepted address once, and the answers to its calls are told
  from the table (`KeepsAddresses`); in this table an address is looked up as it lies in memory.
* Where the width is that of the type, these are the calls of the message, and if the message is
  made the addresses in its bytes are those of the table. -/
theorem address_table (config : WriterConfig) (history : List Op) (p : ContentProvider σ)
    (context : σ) (width : ℕ) :
    let w := after config history
    let s := (w.attempt p width context).session
    let created := (w.create p context).1
    let made : Made := ⟨p.type, width, (w.table? p.type).getD [], s.calls⟩
    KeepsAddresses width s.calls s.draft.addresses ∧
    (∀ addr, s.draft.indexOf? addr =
      s.draft.addresses.findIdx? fun a => a.addr.padded = addr.padded) ∧
    (w.width? p.type = some width →
      created.calls = s.calls ∧
      (created.result = .ok () →
        created.writer.packet = w.packet.extend (lead w.packet ++ made.octets) ∧
        made.message.addresses = s.draft.addresses.map (·.addr.bytes))) := by
  intro w s created made
  have h := mirrors_after config history
  have hunused : w.workspace = .new w.config := by rw [h.unused, h.writer, h.capacities]
  have hs : s = (compose p (w.opening p context width)).2.2 :=
    session_attempt hunused p context width
  have htable : s.draft.addresses = tableOf s.calls := by
    rw [hs]
    exact w.compose_addresses p context width
  have htruthful : Truthful width ((w.table? p.type).getD []) w.config.addrTlvSize [] s.calls := by
    rcases hcompose : compose p (w.opening p context width) with ⟨r, callbacks, left⟩
    rw [hs, hcompose]
    exact truthful_of_foretold (compose_foretold hcompose).1
  have hkeeps : KeepsAddresses width s.calls s.draft.addresses := htable ▸ htruthful.keepsAddresses
  refine ⟨hkeeps, s.draft.indexOf?_eq_padded, fun hwidth => ?_⟩
  have hcalls : created.calls = s.calls := by
    rcases hcompose : compose p (w.opening p context width) with ⟨r, callbacks, left⟩
    have hcreated : created = w.toMessageWriter.create p context :=
      congrArg Prod.fst (create_eq hunused p context)
    rw [hcreated, hs, hcompose]
    exact calls_create hwidth hcompose
  refine ⟨hcalls, fun hmade => ⟨?_, ?_⟩⟩
  · have happended := ((callsBack config history p context).appended width hwidth).1 hmade
    rwa [hcalls] at happended
  · show (known s.calls).map (·.bytes) = _
    rw [← hkeeps.order, List.map_map]
    rfl

end ReusingWriter

end RouteDiscovery.Wire
