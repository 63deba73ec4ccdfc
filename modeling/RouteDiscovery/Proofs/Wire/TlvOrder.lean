/-
# The order of TLV calls

The TLVs of a message are written in the order of the table and of the addresses, so it should not
matter in which order a provider adds them.  It does not, unless room is missing for one of them and
the provider goes on nevertheless: what comes first has room then.

* `SameButOrder`: two lists of calls that differ in the order of their TLVs only.
* `allValid_iff` and `taken_of_truthful`: which calls are valid, and which TLVs are taken, can be
  told from the sequence of addresses and the TLVs without their order.  So can whether all have room
  (`room_of_truthful`).
* `Draft.Reflects.encode_eq_of_perm`: drafts that differ in the order of their TLVs only are written
  down alike.
* `ReusingWriter.tlv_order_irrelevant` puts this together, and `ReusingWriter.order_decides` is what
  happens where room is missing.
-/
import RouteDiscovery.Proofs.Wire.Capacity

namespace RouteDiscovery.Wire

open CallRecord CallbackScript MessageWriter

/-! ## What is asked for -/

namespace CallRecord

/-- The address that a call asks for. -/
def askedAddress? : CallRecord → Option NetAddr
  | ⟨.addAddress addr _, _⟩ => some addr
  | _ => none

/-- The TLV that a call asks for. -/
def askedTlv? : CallRecord → Option AddrTlv
  | ⟨.addTlv index type value _, _⟩ => some ⟨type, index, value⟩
  | _ => none

/-- The call was rejected because its value had no room. -/
def lacksRoom (r : CallRecord) : Bool :=
  match r.rejection? with
  | some (.capacity ..) => true
  | _ => false

end CallRecord

/-- Each TLV is asked for when its address is known. -/
def TlvsBehind : List CallRecord → List CallRecord → Prop
  | _, [] => True
  | before, r :: calls =>
    (∀ t ∈ r.askedTlv?, t.index < (known before).length) ∧ TlvsBehind (before ++ [r]) calls

instance TlvsBehind.decidable :
    (before calls : List CallRecord) → Decidable (TlvsBehind before calls)
  | _, [] => inferInstanceAs (Decidable True)
  | before, r :: calls =>
    have := TlvsBehind.decidable (before ++ [r]) calls
    inferInstanceAs (Decidable (_ ∧ _))

/-- Two lists of calls that differ in the order of their TLVs only, of which there is at most one of
each type for an address. -/
structure SameButOrder (calls calls' : List CallRecord) : Prop where
  header : Draft.headerOf calls = Draft.headerOf calls'
  addresses : calls.filterMap askedAddress? = calls'.filterMap askedAddress?
  tlvs : (calls.filterMap askedTlv?).Perm (calls'.filterMap askedTlv?)
  distinct : Distinct (calls.filterMap askedTlv?)
  behind : TlvsBehind [] calls
  behind' : TlvsBehind [] calls'

/-! ## Which calls are valid -/

/-- An address can be added after these. -/
def Admissible (width : ℕ) (before : List NetAddr) (addr : NetAddr) : Prop :=
  addr.length = width ∧ (addr ∈ before.eraseDups ∨ before.eraseDups.length < maxAddresses)

instance (width : ℕ) (before : List NetAddr) (addr : NetAddr) :
    Decidable (Admissible width before addr) := inferInstanceAs (Decidable (_ ∧ _))

/-- Each address can be added after those before it. -/
def AllAdmissible (width : ℕ) : List NetAddr → List NetAddr → Prop
  | _, [] => True
  | before, addr :: addrs =>
    Admissible width before addr ∧ AllAdmissible width (before ++ [addr]) addrs

/-- A TLV has a declared type, and its length fits two octets. -/
def Writable (table : List TlvType) (t : AddrTlv) : Prop :=
  t.type ∈ table ∧ t.value.length ≤ maxTlvValueLength

instance (table : List TlvType) (t : AddrTlv) : Decidable (Writable table t) :=
  inferInstanceAs (Decidable (_ ∧ _))

variable {width : ℕ} {table : List TlvType} {room : ℕ}

lemma filterMap_cons_toList {α β : Type} (f : α → Option β) (a : α) (l : List α) :
    (a :: l).filterMap f = (f a).toList ++ l.filterMap f := by
  cases h : f a <;> simp [h]

lemma askedTlvs_addTlv (index : ℕ) (type : TlvType) (value : List UInt8) (allowDuplicate : Bool)
    (answer : Except WireError Unit) (calls : List CallRecord) :
    (⟨.addTlv index type value allowDuplicate, answer⟩ :: calls).filterMap askedTlv? =
      ⟨type, index, value⟩ :: calls.filterMap askedTlv? := rfl

/-- A call that is not rejected adds what it asks for. -/
lemma added_of_accepted {r : CallRecord} (h : r.rejection? = none) :
    r.address? = r.askedAddress? ∧ r.tlv? = r.askedTlv? := by
  obtain ⟨c, answer⟩ := r
  cases c with
  | addAddress addr mandatory =>
    cases answer with
    | ok index => exact ⟨rfl, rfl⟩
    | error e => exact absurd h (by simp [rejection?])
  | addTlv index type value allowDuplicate =>
    cases answer with
    | ok done => exact ⟨rfl, rfl⟩
    | error e => exact absurd h (by simp [rejection?])
  | _ => exact ⟨rfl, rfl⟩

/-- A call that is rejected adds nothing. -/
lemma added_of_rejected {r : CallRecord} {e : WireError} (h : r.rejection? = some e) :
    r.address? = none ∧ r.tlv? = none := by
  obtain ⟨c, answer⟩ := r
  cases c with
  | addAddress addr mandatory =>
    cases answer with
    | ok index => exact absurd h (by simp [rejection?])
    | error e => exact ⟨rfl, rfl⟩
  | addTlv index type value allowDuplicate =>
    cases answer with
    | ok done => exact absurd h (by simp [rejection?])
    | error e => exact ⟨rfl, rfl⟩
  | _ => exact ⟨rfl, rfl⟩

/-- A call adds no TLV that it does not ask for. -/
lemma tlv?_sublist (r : CallRecord) : r.tlv?.toList.Sublist r.askedTlv?.toList := by
  cases h : r.rejection? with
  | none =>
    rw [(added_of_accepted h).2]
  | some e =>
    rw [(added_of_rejected h).2]
    exact List.nil_sublist _

namespace Distinct

variable {before calls : List CallRecord} {r : CallRecord} {t : AddrTlv}

/-- What is asked for stays distinct from what was taken. -/
lemma step (h : Distinct (taken before ++ (r :: calls).filterMap askedTlv?)) :
    Distinct (taken (before ++ [r]) ++ calls.filterMap askedTlv?) := by
  rw [filterMap_cons_toList] at h
  rw [taken_snoc, List.append_assoc]
  exact List.Nodup.sublist
    ((((tlv?_sublist r).append_right _).append_left _).map fun t => (t.type, t.index)) h

/-- A TLV that is asked for has not been taken. -/
lemma fresh (h : Distinct (taken before ++ (r :: calls).filterMap askedTlv?))
    (ht : r.askedTlv? = some t) : ¬ ∃ u ∈ taken before, u.type = t.type ∧ u.index = t.index := by
  rintro ⟨u, hu, htype, hindex⟩
  rw [Distinct, List.map_append, List.nodup_append] at h
  refine h.2.2 (u.type, u.index) (List.mem_map_of_mem hu) (t.type, t.index) ?_
    (Prod.ext htype hindex)
  rw [List.filterMap_cons_some ht]
  exact List.mem_map_of_mem List.mem_cons_self

end Distinct

/-- A TLV whose address is known and has none of its type is valid if it is writable. -/
lemma isValid_addTlv_iff {before calls : List CallRecord} {index : ℕ} {type : TlvType}
    {value : List UInt8} {allowDuplicate : Bool} {answer : Except WireError Unit}
    (hbehind : TlvsBehind before (⟨.addTlv index type value allowDuplicate, answer⟩ :: calls))
    (hdistinct : Distinct (taken before ++
      (⟨.addTlv index type value allowDuplicate, answer⟩ :: calls).filterMap askedTlv?)) :
    (Call.addTlv index type value allowDuplicate).IsValid width table before ↔
      Writable table ⟨type, index, value⟩ :=
  ⟨fun h => ⟨h.1, h.2.2.1⟩, fun h => ⟨h.1, hbehind.1 _ rfl, h.2, fun hu =>
    absurd hu (hdistinct.fresh rfl)⟩⟩

/-- **Which calls are valid.**  Calls that are granted are valid exactly if each of their addresses
can be added after those before it and their TLVs are writable. -/
lemma allValid_iff {before calls : List CallRecord} (hgranted : ∀ r ∈ calls, r.rejection? = none)
    (hbehind : TlvsBehind before calls)
    (hdistinct : Distinct (taken before ++ calls.filterMap askedTlv?)) :
    AllValid width table before calls ↔
      AllAdmissible width (before.filterMap address?) (calls.filterMap askedAddress?) ∧
        ∀ t ∈ calls.filterMap askedTlv?, Writable table t := by
  induction calls generalizing before with
  | nil => simp [AllValid, AllAdmissible]
  | cons r calls ih =>
    have hr := hgranted r List.mem_cons_self
    have hrest := ih (fun r' hr' => hgranted r' (List.mem_cons_of_mem r hr')) hbehind.2
      hdistinct.step
    rw [AllValid, hrest, filterMap_snoc]
    obtain ⟨c, answer⟩ := r
    cases c with
    | addAddress addr mandatory =>
      cases answer with
      | error e => exact absurd hr (by simp [rejection?])
      | ok index => exact (and_assoc ..).symm
    | addTlv index type value allowDuplicate =>
      have haddresses : before.filterMap address? ++ (CallRecord.address?
          ⟨.addTlv index type value allowDuplicate, answer⟩).toList = before.filterMap address? :=
        List.append_nil _
      rw [isValid_addTlv_iff hbehind hdistinct, haddresses, askedTlvs_addTlv,
        List.forall_mem_cons, and_left_comm]
      rfl
    | _ =>
      rw [List.filterMap_cons_none rfl, List.filterMap_cons_none rfl]
      simp [Call.IsValid, address?]

/-- What calls ask for that are granted, they get. -/
lemma taken_of_granted {calls : List CallRecord} (h : ∀ r ∈ calls, r.rejection? = none) :
    taken calls = calls.filterMap askedTlv? :=
  List.filterMap_congr fun r hr => (added_of_accepted (h r hr)).2

lemma addresses_of_granted {calls : List CallRecord} (h : ∀ r ∈ calls, r.rejection? = none) :
    calls.filterMap address? = calls.filterMap askedAddress? :=
  List.filterMap_congr fun r hr => (added_of_accepted (h r hr)).1

namespace SameButOrder

variable {calls calls' : List CallRecord}

lemma distinct' (h : SameButOrder calls calls') : Distinct (calls'.filterMap askedTlv?) :=
  (h.tlvs.map _).nodup_iff.1 h.distinct

/-- Calls that are granted are valid in any order of their TLVs. -/
lemma allValid_congr (h : SameButOrder calls calls') (hgranted : ∀ r ∈ calls, r.rejection? = none)
    (hgranted' : ∀ r ∈ calls', r.rejection? = none) :
    AllValid width table [] calls ↔ AllValid width table [] calls' := by
  rw [allValid_iff hgranted h.behind h.distinct, allValid_iff hgranted' h.behind' h.distinct',
    h.addresses]
  simp only [h.tlvs.mem_iff]

end SameButOrder

/-! ## Which calls are accepted -/

/-- As long as its calls are granted, a script makes no call that is rejected. -/
lemma Script.granted_foretell {σ α : Type} (script : Script σ α) (context : σ)
    (before : List CallRecord) :
    ∀ r ∈ (script.foretell Call.granted context before).2, r.rejection? = none := by
  induction script generalizing context before with
  | done a => exact fun r hr => absurd hr List.not_mem_nil
  | call c next ih =>
    intro r hr
    rcases List.mem_cons.1 hr with rfl | hr
    · exact Call.rejection?_granted before c
    · exact ih _ context _ r hr
  | read next ih => exact ih context context before
  | write written next ih => exact ih written before
  | emit e next ih => exact ih context before

/-- A TLV that does not lack room is taken if it is writable. -/
lemma tlv?_due {before calls : List CallRecord} {c : Call}
    (hlacks : lacksRoom ⟨c, c.due width table room before⟩ = false)
    (hbehind : TlvsBehind before (⟨c, c.due width table room before⟩ :: calls))
    (hdistinct : Distinct (taken before ++
      (⟨c, c.due width table room before⟩ :: calls).filterMap askedTlv?)) :
    tlv? ⟨c, c.due width table room before⟩ =
      (askedTlv? ⟨c, c.due width table room before⟩).filter (Writable table) := by
  cases c with
  | addTlv index type value allowDuplicate =>
    have hvalid : (Call.addTlv index type value allowDuplicate).IsValid width table before ↔
        Writable table ⟨type, index, value⟩ := isValid_addTlv_iff hbehind hdistinct
    rw [askedTlv?, Option.filter_some]
    by_cases hwritable : Writable table ⟨type, index, value⟩
    · rw [if_pos (decide_eq_true hwritable)]
      rw [Call.due_addTlv (hvalid.2 hwritable)] at hlacks ⊢
      split at hlacks
      · exact absurd hlacks (by simp [lacksRoom, rejection?])
      · next hroom => rw [if_neg hroom, tlv?]
    · obtain ⟨e, hrejected, -⟩ := Call.rejected_of_not_valid room (mt hvalid.1 hwritable)
      rw [if_neg (by simpa using hwritable)]
      exact (added_of_rejected hrejected).2
  | _ => rfl

/-- **Which TLVs are taken.**  Where no call lacks room, the TLVs that are taken are those that are
writable, in the order in which they are asked for. -/
lemma taken_of_truthful {before calls : List CallRecord}
    (htruthful : Truthful width table room before calls) (hroom : ∀ r ∈ calls, r.lacksRoom = false)
    (hbehind : TlvsBehind before calls)
    (hdistinct : Distinct (taken before ++ calls.filterMap askedTlv?)) :
    taken calls = (calls.filterMap askedTlv?).filter (Writable table) := by
  induction htruthful with
  | nil => rfl
  | @cons before calls c _ ih =>
    have hrest : calls.filterMap tlv? = _ :=
      ih (fun r hr => hroom r (List.mem_cons_of_mem _ hr)) hbehind.2 hdistinct.step
    rw [taken, filterMap_cons_toList, filterMap_cons_toList, hrest, List.filter_append,
      tlv?_due (hroom _ List.mem_cons_self) hbehind hdistinct, Option.toList_filter]

/-- A call that lacks room is valid, and its value is too long for what is left. -/
lemma of_lacksRoom_due {before : List CallRecord} {c : Call}
    (h : lacksRoom ⟨c, c.due width table room before⟩ = true) :
    c.IsValid width table before ∧ room < valueBytes (taken before) + c.valueLength := by
  by_cases hvalid : c.IsValid width table before
  · refine ⟨hvalid, Nat.lt_of_not_le fun hroom => ?_⟩
    rw [lacksRoom, hvalid.due_eq hroom, Call.rejection?_granted] at h
    exact absurd h (by simp)
  · obtain ⟨e, hrejected, hother⟩ := Call.rejected_of_not_valid room hvalid
    rw [lacksRoom, hrejected] at h
    split at h
    · next kind needed available heq => exact absurd (Option.some.inj heq) (hother _ _ _)
    · exact absurd h (by simp)

/-- Where the writable TLVs have room together, no call lacks it. -/
lemma room_of_truthful {before calls : List CallRecord}
    (htruthful : Truthful width table room before calls) (hbehind : TlvsBehind before calls)
    (hdistinct : Distinct (taken before ++ calls.filterMap askedTlv?))
    (hfits : valueBytes (taken before) +
      valueBytes ((calls.filterMap askedTlv?).filter (Writable table)) ≤ room) :
    ∀ r ∈ calls, r.lacksRoom = false := by
  induction htruthful with
  | nil => exact fun r hr => absurd hr List.not_mem_nil
  | @cons before calls c _ ih =>
    have hlacks : lacksRoom ⟨c, c.due width table room before⟩ = false := by
      refine Bool.eq_false_of_not_eq_true fun hlacks => ?_
      obtain ⟨hvalid, hlt⟩ := of_lacksRoom_due hlacks
      cases c with
      | addTlv index type value allowDuplicate =>
        have hwritable : decide (Writable table ⟨type, index, value⟩) = true :=
          decide_eq_true ((isValid_addTlv_iff hbehind hdistinct).1 hvalid)
        rw [askedTlvs_addTlv, List.filter_cons, if_pos hwritable, valueBytes, ← Nat.add_assoc]
          at hfits
        exact Nat.not_le.2 hlt (Nat.le_of_add_right_le hfits)
      | _ => exact Nat.not_le.2 hlt (Nat.le_of_add_right_le hfits)
    have htaken := tlv?_due hlacks hbehind hdistinct
    rw [filterMap_cons_toList, List.filter_append, ← Option.toList_filter, ← htaken,
      Draft.valueBytes_append, ← Nat.add_assoc, ← Draft.valueBytes_append, ← taken_snoc] at hfits
    intro r hr
    rcases List.mem_cons.1 hr with rfl | hr
    · exact hlacks
    · exact ih hbehind.2 hdistinct.step hfits r hr

/-- An address is accepted if it can be added. -/
lemma address?_due (before : List CallRecord) (c : Call) :
    address? ⟨c, c.due width table room before⟩ =
      (askedAddress? ⟨c, c.due width table room before⟩).filter
        (Admissible width (before.filterMap address?)) := by
  cases c with
  | addAddress addr mandatory =>
    rw [askedAddress?, Option.filter_some]
    by_cases hvalid : Admissible width (before.filterMap address?) addr
    · rw [if_pos (decide_eq_true hvalid), Call.due_addAddress hvalid, address?]
    · have hnot : ¬ (Call.addAddress addr mandatory).IsValid width table before := hvalid
      obtain ⟨e, hrejected, -⟩ := Call.rejected_of_not_valid room hnot
      rw [if_neg (by simpa using hvalid)]
      exact (added_of_rejected hrejected).1
  | _ => rfl

/-- The addresses that are accepted of some that are asked for after others. -/
def admitted (width : ℕ) : List NetAddr → List NetAddr → List NetAddr
  | _, [] => []
  | before, addr :: addrs =>
    if Admissible width before addr then addr :: admitted width (before ++ [addr]) addrs
    else admitted width before addrs

/-- **Which addresses are accepted** can be told from the sequence of addresses. -/
lemma addresses_of_truthful {before calls : List CallRecord}
    (htruthful : Truthful width table room before calls) :
    calls.filterMap address? =
      admitted width (before.filterMap address?) (calls.filterMap askedAddress?) := by
  induction htruthful with
  | nil => rfl
  | @cons before calls c _ hrest =>
    rw [filterMap_snoc, address?_due] at hrest
    rw [filterMap_cons_toList address?, filterMap_cons_toList askedAddress?, address?_due]
    cases hasked : askedAddress? ⟨c, c.due width table room before⟩ with
    | none =>
      rw [hasked, Option.filter_none, Option.toList_none, List.append_nil] at hrest
      exact hrest
    | some addr =>
      rw [hasked, Option.filter_some] at hrest
      rw [Option.filter_some, Option.toList_some, List.singleton_append, admitted]
      by_cases hadmissible : Admissible width (before.filterMap address?) addr
      · rw [if_pos (decide_eq_true hadmissible)] at hrest ⊢
        rw [if_pos hadmissible, hrest]
        rfl
      · have hnot : ¬ decide (Admissible width (before.filterMap address?) addr) = true := by
          simpa using hadmissible
        rw [if_neg hnot, Option.toList_none, List.append_nil] at hrest
        rw [if_neg hnot, if_neg hadmissible, hrest]
        rfl

/-! ## Drafts that differ in the order of their TLVs -/

lemma valueBytes_perm {ts us : List AddrTlv} (h : ts.Perm us) : valueBytes ts = valueBytes us := by
  induction h with
  | nil => rfl
  | cons t _ ih => rw [valueBytes, valueBytes, ih]
  | swap t u ts =>
    simp only [valueBytes]
    omega
  | trans _ _ ih ih' => exact ih.trans ih'

/-- Distinct TLVs of declared types have one order only. -/
lemma Distinct.mergeSort_eq {ts us : List AddrTlv} (h : Distinct ts) (hperm : ts.Perm us)
    (hdeclared : ∀ t ∈ ts, t.type ∈ table) :
    ts.mergeSort (Made.tlvLe table) = us.mergeSort (Made.tlvLe table) := by
  have hsorted := fun vs =>
    List.pairwise_mergeSort (Made.tlvLe_trans table) (Made.tlvLe_total table) vs
  have hts := List.mergeSort_perm ts (Made.tlvLe table)
  have hus := List.mergeSort_perm us (Made.tlvLe table)
  refine ((hts.trans hperm).trans hus.symm).eq_of_pairwise ?_ (hsorted ts) (hsorted us)
  intro t u ht hu hle hge
  have ht' : t ∈ ts := hts.mem_iff.1 ht
  have hu' : u ∈ ts := hperm.mem_iff.2 (hus.mem_iff.1 hu)
  rw [Made.tlvLe_iff] at hle hge
  -- neither rank is before the other, so they are the same
  have hposition : (Made.rank table t).1 = (Made.rank table u).1 := by omega
  have hindex : (Made.rank table t).2 = (Made.rank table u).2 := by omega
  have htype : t.type = u.type := Draft.findIdx_inj (hdeclared t ht') (hdeclared u hu') hposition
  exact List.inj_on_of_nodup_map h ht' hu' (Prod.ext htype hindex)

namespace Draft

variable {d d' : Draft} {calls calls' : List CallRecord}

/-- What is written down of a draft is its header, the addresses and the TLVs in order. -/
lemma encode_congr (hwidth : d.width = d'.width) (hheader : d.header = d'.header)
    (haddresses : d.addresses.map (·.addr) = d'.addresses.map (·.addr))
    (htlvs : d.sortedTlvs = d'.sortedTlvs) (type : MsgType) (b : Buffer) :
    d.encode type b = d'.encode type b := by
  have hlength : d.addresses.length = d'.addresses.length := by
    simpa only [List.length_map] using congrArg List.length haddresses
  have hempty : d.addresses.isEmpty = d'.addresses.isEmpty := by
    simpa only [List.isEmpty_map] using congrArg List.isEmpty haddresses
  have hbytes : d.addresses.map (fun a => Except.ok a.addr.bytes) =
      d'.addresses.map fun a => (Except.ok a.addr.bytes : Buffer.Piece) := by
    have hmap :=
      congrArg (List.map fun a : NetAddr => (Except.ok a.bytes : Buffer.Piece)) haddresses
    rwa [List.map_map, List.map_map] at hmap
  have hpieces : d.addressPieces = d'.addressPieces := by
    rw [addressPieces, addressPieces, hlength, hbytes]
  have hblock : ∀ b, d.encodeAddresses b = d'.encodeAddresses b := by
    intro b
    rw [encodeAddresses, encodeAddresses, hpieces, htlvs]
  simp only [encode, headPieces, hheader, hwidth, hempty, hblock]

/-- Drafts that differ in the order of their TLVs only are written down alike. -/
lemma Reflects.encode_eq_of_perm (h : d.Reflects width table calls)
    (h' : d'.Reflects width table calls') (hheader : headerOf calls = headerOf calls')
    (hknown : known calls = known calls') (hperm : (taken calls).Perm (taken calls'))
    (hdistinct : Distinct (taken calls)) (hdeclared : ∀ t ∈ taken calls, t.type ∈ table)
    (type : MsgType) (b : Buffer) : d.encode type b = d'.encode type b := by
  refine encode_congr ?_ ?_ ?_ ?_ type b
  · rw [h.width_eq, h'.width_eq]
  · rw [h.header, h'.header, hheader]
  · rw [h.map_addr, h'.map_addr, hknown]
  · rw [MessageWriter.sortedTlvs_eq h.tlvs, MessageWriter.sortedTlvs_eq h'.tlvs,
      hdistinct.mergeSort_eq hperm hdeclared]

end Draft

/-! ## Two providers -/

lemma ContentProvider.granted_asked {σ : Type} (p : ContentProvider σ) (context : σ) :
    ∀ r ∈ p.asked context, r.rejection? = none := p.script.run.granted_foretell context []

namespace MessageWriter

variable {σ τ : Type} {w : MessageWriter} {p : ContentProvider σ} {p' : ContentProvider τ}
  {context : σ} {context' : τ} {callbacks callbacks' : List Callback} {s : Session σ}
  {s' : Session τ}

/-- Both messages are made, and then their bytes are the same, or none of them is made. -/
structure SameMade (w : MessageWriter) (c : Created σ) (c' : Created τ) : Prop where
  result : c.result = .ok () ↔ c'.result = .ok ()
  appended : ∃ added, c.writer.packet = w.packet.extend added ∧
    c'.writer.packet = w.packet.extend added

/-- The callbacks of a provider build a message without an error. -/
def Composes (w : MessageWriter) (p : ContentProvider σ) (context : σ) : Prop :=
  ∃ width, w.width? p.type = some width ∧ (compose p (w.opening p context width)).1 = .ok ()

lemma sameMade_of_errors (h : ∃ e, (w.create p context).result = .error e)
    (h' : ∃ e, (w.create p' context').result = .error e) :
    SameMade w (w.create p context) (w.create p' context') := by
  obtain ⟨e, he⟩ := h
  obtain ⟨e', he'⟩ := h'
  refine ⟨by rw [he, he']; simp, [], ?_, ?_⟩
  · rw [writer_of_error he, Buffer.extend_nil]
  · rw [writer_of_error he', Buffer.extend_nil]

lemma sameMade_of_drafts (hwidth : w.width? p.type = some width) (htype : p'.type = p.type)
    (hcompose : compose p (w.opening p context width) = (.ok (), callbacks, s))
    (hcompose' : compose p' (w.opening p' context' width) = (.ok (), callbacks', s'))
    (hencode : ∀ b, s.draft.encode p.type b = s'.draft.encode p.type b) :
    SameMade w (w.create p context) (w.create p' context') := by
  have hwidth' : w.width? p'.type = some width := htype ▸ hwidth
  have hsame : w.appendDraft p'.type s'.draft = w.appendDraft p.type s.draft := by
    rw [appendDraft_eq, appendDraft_eq, hencode, htype]
  cases happend : w.appendDraft p.type s.draft with
  | error e =>
    refine sameMade_of_errors ⟨e, ?_⟩ ⟨e, ?_⟩
    · rw [create_refused hwidth hcompose happend]
      rfl
    · rw [create_refused hwidth' hcompose' (hsame.trans happend)]
      rfl
  | ok packed =>
    obtain ⟨packet, message⟩ := packed
    have hshort := (reflects_of_compose hcompose).1.values_short
    obtain ⟨-, -, rfl⟩ := frame_of_appendDraft hshort happend
    rw [create_finished hwidth hcompose happend, create_finished hwidth' hcompose'
      (hsame.trans happend)]
    exact ⟨Iff.rfl, _, rfl, rfl⟩

lemma composes_iff (hwidth : w.width? p.type = some width) {r : Except WireError Unit}
    (hcompose : compose p (w.opening p context width) = (r, callbacks, s)) :
    Composes w p context ↔ r = .ok () := by
  have hresult : (compose p (w.opening p context width)).1 = r := congrArg Prod.fst hcompose
  constructor
  · rintro ⟨width', hwidth', hok⟩
    obtain rfl : width = width' := Option.some.inj (hwidth.symm.trans hwidth')
    exact hresult.symm.trans hok
  · rintro rfl
    exact ⟨width, hwidth, hresult⟩

/-- Two providers make the same if their callbacks end alike and leave drafts that are written down
alike. -/
lemma sameMade_of_compose (htype : p'.type = p.type)
    (h : ∀ {width r callbacks s r' callbacks' s'}, w.width? p.type = some width →
      compose p (w.opening p context width) = (r, callbacks, s) →
      compose p' (w.opening p' context' width) = (r', callbacks', s') →
      (∃ e e', r = .error e ∧ r' = .error e') ∨
        r = .ok () ∧ r' = .ok () ∧ ∀ b, s.draft.encode p.type b = s'.draft.encode p.type b) :
    SameMade w (w.create p context) (w.create p' context') := by
  cases hwidth : w.width? p.type with
  | none =>
    refine sameMade_of_errors ⟨.unregistered p.type.code, ?_⟩ ⟨.unregistered p'.type.code, ?_⟩
    · rw [create_unregistered hwidth]
    · rw [create_unregistered (htype ▸ hwidth)]
  | some width =>
    rcases hcompose : compose p (w.opening p context width) with ⟨r, callbacks, s⟩
    rcases hcompose' : compose p' (w.opening p' context' width) with ⟨r', callbacks', s'⟩
    obtain ⟨e, e', rfl, rfl⟩ | ⟨rfl, rfl, hencode⟩ := h hwidth hcompose hcompose'
    · refine sameMade_of_errors ⟨e, ?_⟩ ⟨e', ?_⟩
      · rw [create_rejected hwidth hcompose, aborted]
      · rw [create_rejected (htype ▸ hwidth) hcompose', aborted]
    · exact sameMade_of_drafts hwidth htype hcompose hcompose' hencode

/-- Providers that pass errors on make the same of TLVs in another order. -/
theorem sameMade_of_passesOn (w : MessageWriter) (htype : p'.type = p.type) (hp : p.PassesOn)
    (hp' : p'.PassesOn) (h : SameButOrder (p.asked context) (p'.asked context')) :
    SameMade w (w.create p context) (w.create p' context') := by
  refine sameMade_of_compose htype
    fun {width r callbacks s r' callbacks' s'} hwidth hcompose hcompose' => ?_
  have hcomes := compose_comes hp hcompose
  have hcomes' := compose_comes hp' hcompose'
  have hgranted := p.granted_asked context
  have hgranted' := p'.granted_asked context'
  have htaken := taken_of_granted hgranted
  have hperm : (taken (p.asked context)).Perm (taken (p'.asked context')) :=
    htaken ▸ taken_of_granted hgranted' ▸ h.tlvs
  -- the same is valid and needs as much room
  rw [htype, ← h.allValid_congr hgranted hgranted', ← valueBytes_perm hperm] at hcomes'
  by_cases hfits : AllValid width ((w.table? p.type).getD []) [] (p.asked context) ∧
      valueBytes (taken (p.asked context)) ≤ w.config.addrTlvSize
  · obtain ⟨rfl, hcalls⟩ := Prod.mk.inj (hcomes.same_of_fits hfits)
    obtain ⟨rfl, hcalls'⟩ := Prod.mk.inj (hcomes'.same_of_fits hfits)
    obtain ⟨-, hfollows⟩ := compose_foretold hcompose
    obtain ⟨-, hfollows'⟩ := compose_foretold hcompose'
    rw [hcalls] at hfollows
    rw [hcalls', htype] at hfollows'
    refine .inr ⟨rfl, rfl, hfollows.reflects.encode_eq_of_perm hfollows'.reflects h.header ?_ hperm
      (htaken ▸ h.distinct) (fun t => hfollows.declared) p.type⟩
    rw [known, known, addresses_of_granted hgranted, addresses_of_granted hgranted', h.addresses]
  · obtain ⟨e, rfl⟩ := hcomes.failed_of_not_fits hfits
    obtain ⟨e', rfl⟩ := hcomes'.failed_of_not_fits hfits
    exact .inl ⟨e, e', rfl, rfl⟩

/-- Where no call of one of them lacks room, providers make the same of TLVs in another order. -/
theorem sameMade_of_room (htype : p'.type = p.type)
    (hcomposes : Composes w p context ↔ Composes w p' context')
    (h : SameButOrder (w.create p context).calls (w.create p' context').calls)
    (hroom : ∀ r ∈ (w.create p context).calls, r.lacksRoom = false) :
    SameMade w (w.create p context) (w.create p' context') := by
  refine sameMade_of_compose htype
    fun {width r callbacks s r' callbacks' s'} hwidth hcompose hcompose' => ?_
  have hwidth' : w.width? p'.type = some width := htype ▸ hwidth
  rw [calls_create hwidth hcompose] at h hroom
  rw [calls_create hwidth' hcompose'] at h
  rw [composes_iff hwidth hcompose, composes_iff hwidth' hcompose'] at hcomposes
  cases r with
  | error e =>
    cases r' with
    | error e' => exact .inl ⟨e, e', rfl, rfl⟩
    | ok done => exact absurd (hcomposes.2 rfl) (by simp)
  | ok done =>
    obtain rfl : r' = .ok () := hcomposes.1 rfl
    obtain ⟨hforetold, hfollows⟩ := compose_foretold hcompose
    obtain ⟨hforetold', hfollows'⟩ := compose_foretold hcompose'
    have htruthful := truthful_of_foretold hforetold
    have htruthful' := truthful_of_foretold hforetold'
    rw [htype] at hfollows' htruthful'
    have htaken := taken_of_truthful htruthful hroom h.behind h.distinct
    -- what has room in one order has room in the other
    have hfits := htruthful.valueBytes_le (Nat.zero_le _)
    rw [List.nil_append, htaken, valueBytes_perm (h.tlvs.filter _),
      ← Nat.zero_add (valueBytes _)] at hfits
    have hroom' := room_of_truthful htruthful' h.behind' h.distinct' hfits
    have htaken' := taken_of_truthful htruthful' hroom' h.behind' h.distinct'
    refine .inr ⟨rfl, rfl, hfollows.reflects.encode_eq_of_perm hfollows'.reflects h.header
      ?_ ?_ ?_ (fun t => hfollows.declared) p.type⟩
    · rw [known, known, addresses_of_truthful htruthful, addresses_of_truthful htruthful',
        h.addresses]
    · rw [htaken, htaken']
      exact h.tlvs.filter _
    · rw [htaken]
      exact List.Nodup.sublist (List.filter_sublist.map _) h.distinct

end MessageWriter

/-! ## Writers that can be reached -/

namespace ReusingWriter

variable {σ τ : Type}

/-- **The order in which TLVs are added does not matter.**  After any history, let two providers of
one type set the same header and add the same sequence of addresses, and let them add the same TLVs
in any order, each after its address and not more than one of a type for an address.

* If both pass errors on, then they make the same: both messages are made, and have the same bytes,
  or none of them is made.
* They make the same as well whatever they do about errors, if no call of the first is rejected
  because its value has no room, and if both end their callbacks with an error or none does. -/
theorem tlv_order_irrelevant (config : WriterConfig) (history : List Op) (p : ContentProvider σ)
    (p' : ContentProvider τ) (context : σ) (context' : τ) (htype : p'.type = p.type) :
    let w := after config history
    let c := (w.create p context).1
    let c' := (w.create p' context').1
    (p.PassesOn → p'.PassesOn → SameButOrder (p.asked context) (p'.asked context') →
      SameMade w.toMessageWriter c c') ∧
    ((Composes w.toMessageWriter p context ↔ Composes w.toMessageWriter p' context') →
      SameButOrder c.calls c'.calls → (∀ r ∈ c.calls, r.lacksRoom = false) →
      SameMade w.toMessageWriter c c') := by
  intro w c c'
  obtain ⟨-, -, hcreated⟩ := create_after config history p context
  obtain ⟨-, -, hcreated'⟩ := create_after config history p' context'
  have hc : c = w.toMessageWriter.create p context := hcreated
  have hc' : c' = w.toMessageWriter.create p' context' := hcreated'
  rw [hc, hc']
  exact ⟨sameMade_of_passesOn w.toMessageWriter htype, sameMade_of_room htype⟩

/-- A provider of one address and some TLVs. -/
def tlvProvider (add : AddrTlv → CallbackScript Unit Unit) (tlvs : List AddrTlv) :
    ContentProvider Unit where
  type := ⟨10⟩
  addHeader := pure ()
  addAddresses := do
    let _ ← addAddress (.ofIpv4 ⟨10, 0, 0, 1⟩) true
    tlvs.forM add

/-- Adds a TLV, and ends with an error if it is rejected. -/
def careful (t : AddrTlv) : CallbackScript Unit Unit := addTlv t.index t.type t.value false

/-- Adds a TLV, and goes on if it is rejected. -/
def heedless (t : AddrTlv) : CallbackScript Unit Unit := do
  let _ ← tell (.addTlv t.index t.type t.value false)

/-- The writer knows the types of two TLVs. -/
def twoTypes : List Op :=
  [.registerProvider ⟨10⟩ [⟨0, none⟩, ⟨1, none⟩], .registerMessage ⟨10⟩ 4]

/-- Two TLVs of two octets each. -/
def firstTlv : AddrTlv := ⟨⟨0, none⟩, 0, [5, 6]⟩

def secondTlv : AddrTlv := ⟨⟨1, none⟩, 0, [7, 8]⟩

lemma create_tlvs (config : WriterConfig) (add : AddrTlv → CallbackScript Unit Unit)
    (tlvs : List AddrTlv) : ((after config twoTypes).create (tlvProvider add tlvs) ()).1 =
      (after config twoTypes).toMessageWriter.create (tlvProvider add tlvs) () :=
  (create_after config twoTypes (tlvProvider add tlvs) ()).2.2

/-- Two TLVs in both orders, with room for them: the careful provider and the heedless one each make
the same message of them. -/
theorem tlv_order_irrelevant_two :
    let made (add : AddrTlv → CallbackScript Unit Unit) (tlvs : List AddrTlv) :=
      ((after {} twoTypes).create (tlvProvider add tlvs) ()).1
    (made careful [firstTlv, secondTlv]).result = .ok () ∧
      SameMade (after {} twoTypes).toMessageWriter
        (made careful [firstTlv, secondTlv]) (made careful [secondTlv, firstTlv]) ∧
      SameMade (after {} twoTypes).toMessageWriter
        (made heedless [firstTlv, secondTlv]) (made heedless [secondTlv, firstTlv]) := by
  intro made
  have hmade : ∀ add tlvs, made add tlvs =
      (after {} twoTypes).toMessageWriter.create (tlvProvider add tlvs) () := create_tlvs {}
  have hpasses : ∀ t u, (tlvProvider careful [t, u]).PassesOn := by
    intro t u
    refine ⟨passesOn_pure (), passesOn_bind (passesOn_addAddress _ _) fun _ => ?_⟩
    refine passesOn_bind (passesOn_addTlv _ _ _ _) fun _ => ?_
    exact passesOn_bind (passesOn_addTlv _ _ _ _) fun _ => passesOn_pure ()
  have hcomposes : ∀ tlvs, tlvs = [firstTlv, secondTlv] ∨ tlvs = [secondTlv, firstTlv] →
      Composes (after {} twoTypes).toMessageWriter (tlvProvider heedless tlvs) () := by
    rintro tlvs (rfl | rfl) <;> exact ⟨4, rfl, by decide_cbv⟩
  have hroom : (made heedless [firstTlv, secondTlv]).calls.any lacksRoom = false := by
    rw [hmade]
    decide_cbv
  have hasked : SameButOrder ((tlvProvider careful [firstTlv, secondTlv]).asked ())
      ((tlvProvider careful [secondTlv, firstTlv]).asked ()) := by
    constructor <;> decide_cbv
  have hcalls : SameButOrder (made heedless [firstTlv, secondTlv]).calls
      (made heedless [secondTlv, firstTlv]).calls := by
    rw [hmade, hmade]
    constructor <;> decide_cbv
  refine ⟨?_, ?_, ?_⟩
  · rw [hmade]
    decide_cbv
  · exact (tlv_order_irrelevant {} twoTypes (tlvProvider careful [firstTlv, secondTlv])
      (tlvProvider careful [secondTlv, firstTlv]) () () rfl).1 (hpasses _ _) (hpasses _ _) hasked
  · refine (tlv_order_irrelevant {} twoTypes (tlvProvider heedless [firstTlv, secondTlv])
      (tlvProvider heedless [secondTlv, firstTlv]) () () rfl).2
      (iff_of_true (hcomposes _ (.inl rfl)) (hcomposes _ (.inr rfl))) hcalls fun r hr => ?_
    exact Bool.eq_false_of_not_eq_true (List.any_eq_false.1 hroom r hr)

/-- Where one of two TLVs has room, a provider that goes on makes a message with the first. -/
theorem order_decides :
    ¬ ∀ (config : WriterConfig) (history : List Op) (p p' : ContentProvider Unit),
      p'.type = p.type →
      let w := after config history
      let c := (w.create p ()).1
      let c' := (w.create p' ()).1
      SameButOrder c.calls c'.calls → SameMade w.toMessageWriter c c' := by
  intro h
  have hone := h { addrTlvSize := 3 } twoTypes (tlvProvider heedless [firstTlv, secondTlv])
    (tlvProvider heedless [secondTlv, firstTlv]) rfl
  simp only [create_tlvs] at hone
  obtain ⟨added, hadded, hadded'⟩ := (hone (by constructor <;> decide_cbv)).appended
  exact absurd (hadded.trans hadded'.symm) (by decide_cbv)

end ReusingWriter

end RouteDiscovery.Wire
