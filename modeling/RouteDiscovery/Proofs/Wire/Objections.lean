/-
# Which TLVs are accepted

A provider adds TLVs between its other calls, and calls that were rejected may lie among them.
There are five things that can be said against a TLV (`objections`), and they are looked at in a
fixed order.  Each is told from the calls before: from the table of the message, the addresses that
were accepted, and the TLVs that were accepted with the room that their values take.

* `Draft.Follows.due_eq_verdict`: a draft that follows its calls answers with the first objection.
* `Truthful.distinct`: where no call allows duplicates, no TLV is accepted twice for an address.
* `ReusingWriter.tlv_accepted_iff` says both of every message of every writer that can be reached,
  the second of the bytes that are in the packet.
-/
import RouteDiscovery.Proofs.Wire.AddressTable

namespace RouteDiscovery.Wire

open CallRecord CallbackScript MessageWriter

/-! ## Objections -/

/-- Something that can be said against a TLV, and the error that reports it. -/
structure Objection where
  holds : Bool
  error : WireError

/-- What can be said against a TLV after some calls, in the order in which it is looked at: its type
is not declared, there is no address at its index, its value is too long, its address has a TLV of
its type already and may not have two, its value has no room beside those that were accepted. -/
def objections (table : List TlvType) (room : ℕ) (before : List CallRecord) (t : AddrTlv)
    (allowDuplicate : Bool) : List Objection :=
  [⟨t.type ∉ table, .undeclaredTlv t.type.kind⟩,
    ⟨(known before).length ≤ t.index, .unknownAddress t.index⟩,
    ⟨maxTlvValueLength < t.value.length, .tlvValueTooLong t.value.length⟩,
    ⟨allowDuplicate = false ∧ ∃ u ∈ taken before,
      u.type = t.type ∧ (known before)[u.index]? = (known before)[t.index]?,
      .duplicateTlv t.type.kind t.index⟩,
    ⟨room < valueBytes (taken before) + t.value.length,
      .capacity .addressTlv t.value.length (room - valueBytes (taken before))⟩]

/-- The answer to a TLV against which this can be said. -/
def verdict (objections : List Objection) : Except WireError Unit :=
  match objections.find? (·.holds) with
  | none => .ok ()
  | some objection => .error objection.error

@[simp] lemma verdict_nil : verdict [] = .ok () := rfl

/-- The first objection is looked at first. -/
@[simp] lemma verdict_cons (o : Objection) (os : List Objection) :
    verdict (o :: os) = if o.holds then .error o.error else verdict os := by
  unfold verdict
  rw [List.find?_cons]
  cases o.holds <;> rfl

/-- A TLV is accepted exactly if nothing can be said against it. -/
lemma verdict_eq_ok_iff (os : List Objection) :
    verdict os = .ok () ↔ ∀ o ∈ os, o.holds = false := by
  induction os with
  | nil => simp
  | cons o os ih =>
    rw [verdict_cons, List.forall_mem_cons, ← ih]
    cases o.holds <;> simp

variable {width : ℕ} {table : List TlvType} {room : ℕ} {before calls : List CallRecord}

/-! ## One call -/

/-- A TLV that was taken is on the address at an index only if it has this index. -/
lemma Draft.Follows.index_eq_iff {d : Draft} (h : d.Follows width table room before) {u : AddrTlv}
    (hu : u ∈ taken before) (index : ℕ) :
    (known before)[u.index]? = (known before)[index]? ↔ u.index = index :=
  List.getElem?_inj (h.index_lt hu) (nodup_known before)

/-- **What a TLV is answered**: the first objection that holds. -/
lemma Draft.Follows.due_eq_verdict {d : Draft} (h : d.Follows width table room before)
    (hroom : valueBytes (taken before) ≤ room) (t : AddrTlv) (allowDuplicate : Bool) :
    (Call.addTlv t.index t.type t.value allowDuplicate).due width table room before =
      verdict (objections table room before t allowDuplicate) := by
  have hduplicate : (∃ u ∈ taken before,
        u.type = t.type ∧ (known before)[u.index]? = (known before)[t.index]?) ↔
      ∃ u ∈ taken before, u.type = t.type ∧ u.index = t.index :=
    exists_congr fun u => and_congr_right fun hu => and_congr_right fun _ =>
      h.index_eq_iff hu t.index
  have hlacks : room < valueBytes (taken before) + t.value.length ↔
      room - valueBytes (taken before) < t.value.length := by omega
  simp only [objections, verdict_cons, verdict_nil, decide_eq_true_eq, hduplicate, hlacks,
    and_comm (a := allowDuplicate = false)]
  rfl

/-! ## All calls of a message -/

/-- The call may add a second TLV of its type to an address. -/
def CallRecord.allowsDuplicate : CallRecord → Bool
  | ⟨.addTlv _ _ _ allowDuplicate, _⟩ => allowDuplicate
  | _ => false

/-- Where no call allows duplicates, no address gets two TLVs of a type. -/
lemma Truthful.distinct (h : Truthful width table room before calls)
    (hbefore : Distinct (taken before)) (hnone : ∀ r ∈ calls, r.allowsDuplicate = false) :
    Distinct (taken (before ++ calls)) := by
  induction h with
  | nil before => rwa [List.append_nil]
  | @cons before calls c _ ih =>
    rw [List.forall_mem_cons] at hnone
    rw [List.append_cons]
    refine ih ?_ hnone.2
    rw [taken_snoc]
    cases c with
    | addTlv index type value allowDuplicate =>
      obtain rfl : allowDuplicate = false := hnone.1
      simp only [Call.due]
      split_ifs with _ _ _ hduplicate
      case neg =>
        -- the TLV was taken, so none of its type was on its address
        have hfresh : ∀ u ∈ taken before, (u.type, u.index) ≠ (type, index) := fun u hu heq =>
          hduplicate ⟨⟨u, hu, congrArg Prod.fst heq, congrArg Prod.snd heq⟩, trivial⟩
        rw [Distinct, List.map_append, List.nodup_append]
        refine ⟨hbefore, List.nodup_singleton _, fun key hkey other hother => ?_⟩
        obtain ⟨u, hu, rfl⟩ := List.mem_map.1 hkey
        obtain rfl : other = (type, index) := List.mem_singleton.1 hother
        exact hfresh u hu
      all_goals simpa [tlv?] using hbefore
    | _ => simpa [tlv?] using hbefore

/-- The TLVs of a message are those that were taken. -/
lemma MessageWriter.Made.tlvs_perm (m : Made) : m.message.tlvs.Perm (taken m.calls) :=
  List.mergeSort_perm _ _

/-- Where no call allows duplicates, no address of the message has two TLVs of a type. -/
lemma MessageWriter.Made.tlvs_pairwise {m : Made}
    (h : Truthful m.width m.table room [] m.calls) (hdistinct : Distinct (taken m.calls)) :
    m.message.tlvs.Pairwise fun t u =>
      ¬ (t.type = u.type ∧ m.message.addresses[t.index]? = m.message.addresses[u.index]?) := by
  obtain ⟨d, hd⟩ := h.follows
  have hkeys : (m.message.tlvs.map fun t => (t.type, t.index)).Nodup :=
    (m.tlvs_perm.map _).nodup_iff.2 hdistinct
  rw [List.Nodup, List.pairwise_map] at hkeys
  refine hkeys.imp_of_mem fun {t u} ht _ hne hsame => hne ?_
  have haddress : (known m.calls)[t.index]? = (known m.calls)[u.index]? := by
    refine (Option.map_injective NetAddr.bytes_injective) ?_
    rw [← List.getElem?_map, ← List.getElem?_map]
    exact hsame.2
  exact Prod.ext hsame.1 ((hd.index_eq_iff (m.tlvs_perm.mem_iff.1 ht) u.index).1 haddress)

/-! ## Writers that can be reached -/

namespace ReusingWriter

variable {σ : Type}

/-- **Which TLVs are accepted.**  After any history, let a provider make a message of any type.

* Each of its calls that adds a TLV is answered with the first objection that holds after the calls
  before it, and so it is accepted if and only if none holds.
* If the message is made, its bytes are appended to the packet, and all its TLVs have declared
  types.  If none of the calls allows duplicates, no two TLVs of the message share both type and
  address. -/
theorem tlv_accepted_iff (config : WriterConfig) (history : List Op) (p : ContentProvider σ)
    (context : σ) :
    let w := after config history
    let created := (w.create p context).1
    let table := (w.table? p.type).getD []
    let made : Made := ⟨p.type, (w.width? p.type).getD 0, table, created.calls⟩
    (∀ before t allowDuplicate answer rest,
      created.calls = before ++ ⟨.addTlv t.index t.type t.value allowDuplicate, answer⟩ :: rest →
      let against := objections table config.addrTlvSize before t allowDuplicate
      answer = verdict against ∧ (answer = .ok () ↔ ∀ o ∈ against, o.holds = false)) ∧
    (created.result = .ok () →
      created.writer.packet = w.packet.extend (lead w.packet ++ made.octets) ∧
      (∀ t ∈ made.message.tlvs, t.type ∈ table) ∧
      ((∀ r ∈ created.calls, r.allowsDuplicate = false) →
        made.message.tlvs.Pairwise fun t u => ¬ (t.type = u.type ∧
          made.message.addresses[t.index]? = made.message.addresses[u.index]?))) := by
  intro w created table made
  obtain ⟨-, hconfig, hcreated⟩ := create_after config history p context
  have htruthful : Truthful made.width table config.addrTlvSize [] created.calls := by
    have h := truthful_create w.toMessageWriter p context
    rwa [← hcreated, hconfig] at h
  refine ⟨?_, fun hmade => ⟨?_, ?_, fun hnone => ?_⟩⟩
  · intro before t allowDuplicate answer rest hcalls against
    rw [hcalls] at htruthful
    obtain ⟨hbefore, hanswer⟩ := htruthful.split
    obtain ⟨d, hd⟩ := hbefore.follows
    have hroom := hbefore.valueBytes_le (Nat.zero_le _)
    have hverdict : answer = verdict against :=
      hanswer.trans (hd.due_eq_verdict hroom t allowDuplicate)
    exact ⟨hverdict, hverdict ▸ verdict_eq_ok_iff against⟩
  · have hback := callsBack config history p context
    cases hwidth : w.width? p.type with
    | none => exact absurd ((hback.unregistered hwidth).1.symm.trans hmade) (by simp)
    | some width =>
      simp only [made, hwidth, Option.getD_some]
      exact (hback.appended width hwidth).1 hmade
  · intro t ht
    obtain ⟨d, hd⟩ := htruthful.follows
    exact hd.declared (made.tlvs_perm.mem_iff.1 ht)
  · exact made.tlvs_pairwise htruthful (htruthful.distinct List.nodup_nil hnone)

end ReusingWriter

end RouteDiscovery.Wire
