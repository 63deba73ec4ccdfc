/-
# What a draft keeps of the calls

A content provider sees its message only through its calls, so a message has to be read off the
list of calls and answers.  Of these

* a header field keeps the last value that was set;
* the addresses are those that were accepted, each once, in the order of their first call;
* the TLVs are those that were accepted, in the order of the calls.

`Draft.Reflects` says this of a draft, `Draft.Sound` that the draft can be written down: its
addresses have the width of the message, its TLVs belong to its addresses and have declared types,
and their values lie in the arena.  `Draft.Reflects.answer` is the step of one call, and
`Script.run_invariant` carries it through the script of a provider.
-/
import Mathlib.Data.List.Basic
import RouteDiscovery.Proofs.Wire.Frame
import RouteDiscovery.Wire.Writer

namespace RouteDiscovery.Wire

/-! ## Accepted calls -/

namespace CallRecord

/-- The flags that a call sets. -/
def flags? : CallRecord → Option MsgFlags
  | ⟨.setFlags flags, _⟩ => some flags
  | _ => none

/-- The originator that a call sets. -/
def originator? : CallRecord → Option NetAddr
  | ⟨.setOriginator addr, _⟩ => some addr
  | _ => none

/-- The hop limit that a call sets. -/
def hopLimit? : CallRecord → Option UInt8
  | ⟨.setHopLimit n, _⟩ => some n
  | _ => none

/-- The hop count that a call sets. -/
def hopCount? : CallRecord → Option UInt8
  | ⟨.setHopCount n, _⟩ => some n
  | _ => none

/-- The sequence number that a call sets. -/
def seqNum? : CallRecord → Option UInt16
  | ⟨.setSeqNum n, _⟩ => some n
  | _ => none

/-- The address that a call adds, or adds again. -/
def address? : CallRecord → Option NetAddr
  | ⟨.addAddress addr _, .ok _⟩ => some addr
  | _ => none

/-- The TLV that a call adds. -/
def tlv? : CallRecord → Option AddrTlv
  | ⟨.addTlv index type value _, .ok _⟩ => some ⟨type, index, value⟩
  | _ => none

variable {α : Type}

/-- The value that was set last. -/
def last? (field : CallRecord → Option α) (calls : List CallRecord) : Option α :=
  (calls.filterMap field).getLast?

lemma filterMap_snoc (field : CallRecord → Option α) (calls : List CallRecord) (r : CallRecord) :
    (calls ++ [r]).filterMap field = calls.filterMap field ++ (field r).toList := by
  rw [List.filterMap_append]
  cases h : field r <;> simp [h]

/-- An element at the end stays unless it is there already. -/
lemma eraseDups_snoc [BEq α] [LawfulBEq α] (l : List α) (a : α) :
    (l ++ [a]).eraseDups = l.eraseDups ++ if a ∈ l then [] else [a] := by
  rw [List.eraseDups_append]
  by_cases ha : a ∈ l <;> simp [List.removeAll, ha, List.eraseDups_cons]

lemma last?_snoc (field : CallRecord → Option α) (calls : List CallRecord) (r : CallRecord) :
    last? field (calls ++ [r]) = (field r).or (last? field calls) := by
  rw [last?, filterMap_snoc, List.getLast?_append]
  cases field r <;> rfl

end CallRecord

namespace Draft

open CallRecord

variable {d d' : Draft} {width : ℕ} {declared : List TlvType} {calls : List CallRecord}

/-! ## The two invariants -/

/-- The draft can be written down. -/
structure Sound (d : Draft) : Prop where
  /-- All addresses have the width of the message. -/
  width : ∀ a ∈ d.addresses, a.addr.length = d.width
  /-- Their number fits one octet. -/
  count : d.addresses.length ≤ maxAddresses
  /-- Each TLV has a declared type. -/
  position : ∀ e ∈ d.entries, e.position < d.declared.length
  /-- Each TLV belongs to an address. -/
  index : ∀ e ∈ d.entries, e.index < d.addresses.length
  /-- Each value lies in the arena. -/
  stored : ∀ e ∈ d.entries, e.start + e.length ≤ d.arena.length
  /-- The length of each value fits two octets. -/
  short : ∀ e ∈ d.entries, e.length ≤ maxTlvValueLength

/-- The position of the type of a TLV, with the TLV. -/
def ranked (declared : List TlvType) (t : AddrTlv) : ℕ × AddrTlv :=
  (declared.findIdx (· = t.type), t)

/-- The header that the calls make: of each field the last value that was set. -/
def headerOf (calls : List CallRecord) : MsgHeader where
  flags := (last? flags? calls).getD .empty
  originator := last? originator? calls
  hopLimit := last? hopLimit? calls
  hopCount := last? hopCount? calls
  seqNum := last? seqNum? calls

/-- The draft of a message of the given width and table keeps what the calls said. -/
structure Reflects (d : Draft) (width : ℕ) (declared : List TlvType)
    (calls : List CallRecord) : Prop where
  width_eq : d.width = width
  declared_eq : d.declared = declared
  header : d.header = headerOf calls
  addresses : d.addresses.map (·.addr) = (calls.filterMap address?).eraseDups
  tlvs : d.tlvs = (calls.filterMap tlv?).map (ranked declared)

lemma Sound.start (width : ℕ) (declared : List TlvType) (arenaSize : ℕ) :
    (start width declared arenaSize).Sound := by
  constructor <;> simp [Draft.start]

/-- A TLV of a draft belongs to an address, and its length fits two octets. -/
lemma Sound.mem_sortedTlvs (hs : d.Sound) {t : AddrTlv} (ht : t ∈ d.sortedTlvs) :
    t.index < d.addresses.length ∧ t.value.length ≤ maxTlvValueLength := by
  obtain ⟨ranked, hranked, rfl⟩ := List.mem_map.1 ht
  obtain ⟨e, he, hresolve⟩ := List.mem_filterMap.1 (List.mem_mergeSort.1 hranked)
  obtain ⟨type, -, rfl⟩ := Option.map_eq_some_iff.1 hresolve
  refine ⟨hs.index e he, Nat.le_trans ?_ (hs.short e he)⟩
  exact (List.length_take_le _ _)

lemma Sound.values_short (hs : d.Sound) : d.Short := fun _ ht => (hs.mem_sortedTlvs ht).2

lemma Reflects.start (width : ℕ) (declared : List TlvType) (arenaSize : ℕ) :
    (start width declared arenaSize).Reflects width declared [] := by
  constructor <;> rfl

/-! ## What an accepted call does -/

@[simp] lemma map_addr_mark (d : Draft) (index : ℕ) (mandatory : Bool) :
    (d.mark index mandatory).addresses.map (·.addr) = d.addresses.map (·.addr) := by
  refine List.ext_getElem (by simp [mark]) fun i h₁ h₂ => ?_
  simp only [mark, List.getElem_map, List.getElem_modify]
  split <;> rfl

/-- An accepted address is there already, or goes to the end. -/
lemma addAddress_cases {addr : NetAddr} {mandatory : Bool} {index : ℕ}
    (h : d.addAddress addr mandatory = .ok (index, d')) :
    addr.length = d.width ∧
      ((d.indexOf? addr = some index ∧ d' = d.mark index mandatory) ∨
        (d.indexOf? addr = none ∧ d.addresses.length < maxAddresses ∧
          index = d.addresses.length ∧
          d' = { d with addresses := d.addresses ++ [⟨addr, mandatory⟩] })) := by
  unfold addAddress at h
  split at h
  · exact absurd h (by simp)
  · next hwidth =>
    refine ⟨not_not.1 hwidth, ?_⟩
    split at h
    · next i hindex =>
      simp only [Except.ok.injEq, Prod.mk.injEq] at h
      obtain ⟨rfl, rfl⟩ := h
      exact .inl ⟨hindex, rfl⟩
    · next hindex =>
      split at h
      · exact absurd h (by simp)
      · next hroom =>
        simp only [Except.ok.injEq, Prod.mk.injEq] at h
        obtain ⟨rfl, rfl⟩ := h
        exact .inr ⟨hindex, Nat.lt_of_not_le hroom, rfl, rfl⟩

/-- The draft with one more TLV, whose value lies at the end of the arena. -/
def withTlv (d : Draft) (t : AddrTlv) : Draft :=
  { d with
    entries := d.entries ++
      [⟨d.declared.findIdx (· = t.type), t.index, d.arena.length, t.value.length⟩]
    arena := d.arena.extend t.value }

/-- An accepted TLV has a declared type, belongs to an address, and goes to the end. -/
lemma addTlv_cases {index : ℕ} {type : TlvType} {value : List UInt8} {allowDuplicate : Bool}
    (h : d.addTlv index type value allowDuplicate = .ok d') :
    type ∈ d.declared ∧ index < d.addresses.length ∧ value.length ≤ maxTlvValueLength ∧
      d' = d.withTlv ⟨type, index, value⟩ := by
  unfold addTlv at h
  split at h
  · exact absurd h (by simp)
  · next position hposition =>
    obtain ⟨hlt, htype, -⟩ := List.findIdx?_eq_some_iff_getElem.1 hposition
    obtain rfl := (List.findIdx?_eq_some_iff_findIdx_eq.1 hposition).2
    split at h
    · exact absurd h (by simp)
    · next hindex =>
      split at h
      · exact absurd h (by simp)
      · next hlength =>
        split at h
        · exact absurd h (by simp)
        · split at h
          · exact absurd h (by simp)
          · next arena hput =>
            -- all checks are passed, and the value stands at the end of the arena
            obtain rfl := Buffer.eq_extend_of_put hput
            exact ⟨of_decide_eq_true htype ▸ List.getElem_mem hlt, Nat.lt_of_not_le hindex,
              Nat.le_of_not_lt hlength, (Except.ok.inj h).symm⟩

lemma getElem?_findIdx {declared : List TlvType} {type : TlvType} (h : type ∈ declared) :
    declared[declared.findIdx (· = type)]? = some type := by
  have hlt : declared.findIdx (· = type) < declared.length :=
    List.findIdx_lt_length.2 ⟨type, h, decide_eq_true rfl⟩
  have htype : decide (declared[declared.findIdx (· = type)] = type) = true :=
    List.findIdx_getElem (w := hlt)
  rw [List.getElem?_eq_getElem hlt, of_decide_eq_true htype]

lemma Sound.addAddress {addr : NetAddr} {mandatory : Bool} {index : ℕ} (hs : d.Sound)
    (h : d.addAddress addr mandatory = .ok (index, d')) : d'.Sound := by
  obtain ⟨hwidth, ⟨-, rfl⟩ | ⟨-, hroom, -, rfl⟩⟩ := addAddress_cases h
  · have hlength : (d.mark index mandatory).addresses.length = d.addresses.length := by
      simp [mark]
    refine ⟨fun a ha => ?_, hlength ▸ hs.count, hs.position, fun e he => hlength ▸ hs.index e he,
      hs.stored, hs.short⟩
    have hmem : a.addr ∈ d.addresses.map (·.addr) := by
      rw [← map_addr_mark]
      exact List.mem_map_of_mem ha
    obtain ⟨a', ha', heq⟩ := List.mem_map.1 hmem
    rw [← heq]
    exact hs.width a' ha'
  · refine ⟨fun a ha => ?_, ?_, hs.position, fun e he => ?_, hs.stored, hs.short⟩
    · rcases List.mem_append.1 ha with ha | ha
      · exact hs.width a ha
      · rw [List.mem_singleton.1 ha]
        exact hwidth
    · rw [List.length_append]
      exact hroom
    · rw [List.length_append]
      exact Nat.lt_add_right _ (hs.index e he)

lemma Sound.withTlv {t : AddrTlv} (hs : d.Sound) (hdeclared : t.type ∈ d.declared)
    (hindex : t.index < d.addresses.length) (hlength : t.value.length ≤ maxTlvValueLength) :
    (d.withTlv t).Sound := by
  have hposition : d.declared.findIdx (· = t.type) < d.declared.length :=
    List.findIdx_lt_length.2 ⟨t.type, hdeclared, decide_eq_true rfl⟩
  -- each fact holds of the entries that were there and of the new one
  have hsnoc : ∀ {P : TlvEntry → Prop}, (∀ e ∈ d.entries, P e) →
      P ⟨d.declared.findIdx (· = t.type), t.index, d.arena.length, t.value.length⟩ →
      ∀ e ∈ (d.withTlv t).entries, P e := by
    intro P hold hnew e he
    rcases List.mem_append.1 he with he | he
    · exact hold e he
    · exact List.mem_singleton.1 he ▸ hnew
  have hlength_extend : (d.arena.extend t.value).length = d.arena.length + t.value.length :=
    Buffer.length_extend
  refine ⟨hs.width, hs.count, hsnoc hs.position hposition, hsnoc hs.index hindex,
    hsnoc (fun e he => ?_) ?_, hsnoc hs.short hlength⟩
  · exact Nat.le_trans (hs.stored e he) (hlength_extend ▸ Nat.le_add_right _ _)
  · exact Nat.le_of_eq hlength_extend.symm

/-! ## Addresses and TLVs of the calls -/

lemma indexOf?_eq_none_iff {addr : NetAddr} :
    d.indexOf? addr = none ↔ addr ∉ d.addresses.map (·.addr) := by
  simp only [indexOf?, List.findIdx?_eq_none_iff, decide_eq_false_iff_not, List.mem_map, not_exists,
    not_and]

/-- An accepted address comes after those that were there, unless it is one of them. -/
lemma map_addr_addAddress {addr : NetAddr} {mandatory : Bool} {index : ℕ} {l : List NetAddr}
    (hl : d.addresses.map (·.addr) = l.eraseDups)
    (h : d.addAddress addr mandatory = .ok (index, d')) :
    d'.addresses.map (·.addr) = (l ++ [addr]).eraseDups := by
  rw [eraseDups_snoc]
  obtain ⟨-, ⟨hindex, rfl⟩ | ⟨hindex, -, -, rfl⟩⟩ := addAddress_cases h
  · -- the address is there already, so it is dropped as a duplicate
    have hmem : addr ∈ l := by
      have hne : d.indexOf? addr ≠ none := by simp [hindex]
      rwa [Ne, indexOf?_eq_none_iff, not_not, hl, List.mem_eraseDups] at hne
    rw [map_addr_mark, hl, if_pos hmem, List.append_nil]
  · have hmem : addr ∉ l := by
      rwa [indexOf?_eq_none_iff, hl, List.mem_eraseDups] at hindex
    rw [if_neg hmem, List.map_append, hl, List.map_singleton]

/-- Values that lie in the arena stay where they are when it grows. -/
lemma valueOf_extend (d : Draft) {e : TlvEntry} (value : List UInt8)
    (h : e.start + e.length ≤ d.arena.length) :
    valueOf { d with arena := d.arena.extend value } e = d.valueOf e := by
  have hdrop : e.length ≤ (d.arena.bytes.drop e.start).length := by
    rw [List.length_drop]
    exact Nat.le_sub_of_add_le (Nat.add_comm _ _ ▸ h)
  simp only [valueOf, Buffer.extend]
  rw [List.drop_append_of_le_length (Nat.le_trans (Nat.le_add_right _ _) h),
    List.take_append_of_le_length hdrop]

lemma tlvs_withTlv {t : AddrTlv} (hs : d.Sound) (hdeclared : t.type ∈ d.declared) :
    (d.withTlv t).tlvs = d.tlvs ++ [ranked d.declared t] := by
  -- the arena has grown, and the values that lie in it have not moved
  have hold : ∀ e ∈ d.entries, (d.withTlv t).resolve? e = d.resolve? e := by
    intro e he
    have hvalue : (d.withTlv t).valueOf e = d.valueOf e := d.valueOf_extend t.value (hs.stored e he)
    simp only [resolve?, hvalue]
    rfl
  have hnew : (d.withTlv t).resolve?
      ⟨d.declared.findIdx (· = t.type), t.index, d.arena.length, t.value.length⟩ =
      some (ranked d.declared t) := by
    have hvalue : ((d.arena.bytes ++ t.value).drop d.arena.length).take t.value.length = t.value := by
      rw [Buffer.length, List.drop_left, List.take_length]
    simp only [resolve?, withTlv, valueOf, Buffer.extend, getElem?_findIdx hdeclared, hvalue,
      Option.map_some]
    rfl
  show (d.entries ++ [_]).filterMap (d.withTlv t).resolve? = _
  rw [List.filterMap_append, List.filterMap_cons_some hnew, List.filterMap_nil]
  exact congrArg (· ++ _) (List.filterMap_congr hold)

/-! ## One call -/

lemma Sound.answer (hs : d.Sound) (c : Call) : (d.answer c).2.Sound := by
  cases c with
  | addAddress addr mandatory =>
    simp only [Draft.answer]
    split
    · next h => exact hs.addAddress h
    · exact hs
  | addTlv index type value allowDuplicate =>
    simp only [Draft.answer]
    split
    · next h =>
      obtain ⟨hdeclared, hindex, hlength, rfl⟩ := addTlv_cases h
      exact hs.withTlv hdeclared hindex hlength
    · exact hs
  | _ => exact ⟨hs.width, hs.count, hs.position, hs.index, hs.stored, hs.short⟩

/-- A call that adds no address and no TLV changes the header at most. -/
lemma Reflects.setHeader (hr : d.Reflects width declared calls) {r : CallRecord}
    {f : MsgHeader → MsgHeader} (haddress : r.address? = none) (htlv : r.tlv? = none)
    (hheader : headerOf (calls ++ [r]) = f (headerOf calls)) :
    (d.setHeader f).Reflects width declared (calls ++ [r]) := by
  refine ⟨hr.width_eq, hr.declared_eq, ?_, ?_, ?_⟩
  · rw [hheader, ← hr.header]
    rfl
  · rw [filterMap_snoc, haddress, Option.toList_none, List.append_nil]
    exact hr.addresses
  · rw [filterMap_snoc, htlv, Option.toList_none, List.append_nil]
    exact hr.tlvs

lemma headerOf_snoc {r : CallRecord} (hflags : r.flags? = none) (horiginator : r.originator? = none)
    (hhopLimit : r.hopLimit? = none) (hhopCount : r.hopCount? = none) (hseqNum : r.seqNum? = none) :
    headerOf (calls ++ [r]) = headerOf calls := by
  simp only [headerOf, last?_snoc, hflags, horiginator, hhopLimit, hhopCount, hseqNum,
    Option.none_or]

/-- **What a call says is kept.**  The draft after a call keeps what the calls up to this one
said. -/
theorem Reflects.answer (hs : d.Sound) (hr : d.Reflects width declared calls) (c : Call) :
    (d.answer c).2.Reflects width declared (calls ++ [⟨c, (d.answer c).1⟩]) := by
  cases c with
  | addAddress addr mandatory =>
    simp only [Draft.answer]
    cases h : d.addAddress addr mandatory with
    | error e => exact hr.setHeader (f := id) rfl rfl (headerOf_snoc rfl rfl rfl rfl rfl)
    | ok added =>
      obtain ⟨index, d'⟩ := added
      have haddresses := map_addr_addAddress hr.addresses h
      -- in either case the header and the TLVs are as they were
      obtain ⟨-, ⟨-, rfl⟩ | ⟨-, -, -, rfl⟩⟩ := addAddress_cases h
      all_goals
        refine ⟨hr.width_eq, hr.declared_eq, ?_, ?_, ?_⟩
        · rw [headerOf_snoc rfl rfl rfl rfl rfl]
          exact hr.header
        · rw [filterMap_snoc]
          exact haddresses
        · rw [filterMap_snoc]
          exact hr.tlvs.trans (congrArg _ (List.append_nil _).symm)
  | addTlv index type value allowDuplicate =>
    simp only [Draft.answer]
    cases h : d.addTlv index type value allowDuplicate with
    | error e => exact hr.setHeader (f := id) rfl rfl (headerOf_snoc rfl rfl rfl rfl rfl)
    | ok d' =>
      obtain ⟨hdeclared, -, -, rfl⟩ := addTlv_cases h
      have htlvs := tlvs_withTlv (t := ⟨type, index, value⟩) hs hdeclared
      refine ⟨hr.width_eq, hr.declared_eq, ?_, ?_, ?_⟩
      · rw [headerOf_snoc rfl rfl rfl rfl rfl]
        exact hr.header
      · rw [filterMap_snoc]
        exact hr.addresses.trans (congrArg _ (List.append_nil _).symm)
      · rw [filterMap_snoc, List.map_append, ← hr.tlvs, ← hr.declared_eq]
        exact htlvs
  | addressCount => exact hr.setHeader (f := id) rfl rfl (headerOf_snoc rfl rfl rfl rfl rfl)
  | setFlags flags =>
    refine hr.setHeader (f := fun h => { h with flags }) rfl rfl ?_
    simp only [headerOf, last?_snoc]
    rfl
  | setOriginator addr =>
    refine hr.setHeader (f := fun h => { h with originator := some addr }) rfl rfl ?_
    simp only [headerOf, last?_snoc]
    rfl
  | setHopLimit n =>
    refine hr.setHeader (f := fun h => { h with hopLimit := some n }) rfl rfl ?_
    simp only [headerOf, last?_snoc]
    rfl
  | setHopCount n =>
    refine hr.setHeader (f := fun h => { h with hopCount := some n }) rfl rfl ?_
    simp only [headerOf, last?_snoc]
    rfl
  | setSeqNum n =>
    refine hr.setHeader (f := fun h => { h with seqNum := some n }) rfl rfl ?_
    simp only [headerOf, last?_snoc]
    rfl

end Draft

/-! ## A whole script -/

namespace Script

variable {σ α : Type}

/-- What each call preserves, a script preserves. -/
theorem run_invariant {P : Draft → List CallRecord → Prop}
    (hstep : ∀ d calls c, P d calls → P (d.answer c).2 (calls ++ [⟨c, (d.answer c).1⟩]))
    (script : Script σ α) (s : Session σ) (hs : P s.draft s.calls) :
    P (script.run s).2.draft (script.run s).2.calls := by
  induction script generalizing s with
  | done a => exact hs
  | call c next ih => exact ih _ _ (hstep s.draft s.calls c hs)
  | read next ih => exact ih s.context s hs
  | write context next ih => exact ih _ hs
  | emit e next ih => exact ih _ hs

end Script

namespace MessageWriter

variable {σ : Type}

/-- What each call preserves, the callbacks of a provider preserve. -/
lemma compose_invariant {P : Draft → List CallRecord → Prop}
    (hstep : ∀ d calls c, P d calls → P (d.answer c).2 (calls ++ [⟨c, (d.answer c).1⟩]))
    (p : ContentProvider σ) (s : Session σ) (hs : P s.draft s.calls) :
    P (compose p s).2.2.draft (compose p s).2.2.calls := by
  have hheader := p.addHeader.run.run_invariant hstep s hs
  unfold compose
  split
  · next e s' h =>
    rw [h] at hheader
    exact hheader
  · next s' h =>
    rw [h] at hheader
    exact p.addAddresses.run.run_invariant hstep s' hheader

/-- The draft that a provider leaves can be written down and keeps what the calls said. -/
theorem compose_reflects (p : ContentProvider σ) (context : σ) (width : ℕ)
    (declared : List TlvType) (arenaSize : ℕ) :
    let s := (compose p { draft := .start width declared arenaSize, context }).2.2
    s.draft.Sound ∧ s.draft.Reflects width declared s.calls :=
  compose_invariant (P := fun d calls => d.Sound ∧ d.Reflects width declared calls)
    (fun _ _ c h => ⟨h.1.answer c, h.2.answer h.1 c⟩) p _
    ⟨.start width declared arenaSize, .start width declared arenaSize⟩

end MessageWriter

end RouteDiscovery.Wire
