/-
# The layers of the configuration

Loading goes through a file and then through variables.  This file says what comes of it in terms of
the layers alone.

* A member of a section is the one that is given or, if none is given, the default
  (`Record.Field.Taken`).  What is given can be read or not, and this is told apart from what it is
  read as (`Record.Valid`, `Record.Describes`).
* `WriterConfig.read?_eq_some_iff` and `NodeConfig.read?_eq_some_iff`: a section is read as what it
  describes; `NodeConfig.exists_describes`: it describes something if all that is given in it is valid.
* `NodeConfig.load_layers` puts the layers together.
-/
import Mathlib.Data.List.Nodup
import Mathlib.Tactic.Lemma
import RouteDiscovery.Node.Load

namespace RouteDiscovery

/-! ## Members -/

namespace Record

variable {v γ : Type}

/-- What is given for a name. -/
def Members.given? (names : List String) (name : String) : Members v → Option v
  | .named entries => entries.lookup name
  | .listed values => values[names.idxOf name]?

/-- No name of the record stands more than once, and a list of values is not longer than the record.
It may be shorter if the record has defaults. -/
def Members.WellFormed (names : List String) (hasDefaults : Bool) : Members v → Prop
  | .named entries => ∀ name ∈ names, (entries.filter fun e => e.1 == name).length ≤ 1
  | .listed values => values.length ≤ names.length ∧ (values.length < names.length → hasDefaults)

lemma lookup_eq_head? (entries : List (String × v)) (name : String) :
    entries.lookup name = (entries.filter fun e => e.1 == name).head?.map (·.2) := by
  induction entries with
  | nil => rfl
  | cons e entries ih =>
    rw [List.lookup_cons, List.filter_cons, BEq.comm]
    cases e.1 == name with
    | true => rfl
    | false => exact ih

lemma Members.find?_eq_some_iff {entries : List (String × v)} {name : String} {given : Option v} :
    Members.find? entries name = some given ↔
      (entries.filter fun e => e.1 == name).length ≤ 1 ∧ given = entries.lookup name := by
  rw [Members.find?, lookup_eq_head?]
  generalize entries.filter (fun e => e.1 == name) = found
  rcases found with _ | ⟨e, _ | ⟨e', rest⟩⟩
  · exact ⟨fun h => ⟨Nat.zero_le 1, (Option.some.inj h).symm⟩, fun h => congrArg some h.2.symm⟩
  · exact ⟨fun h => ⟨Nat.le_refl 1, (Option.some.inj h).symm⟩, fun h => congrArg some h.2.symm⟩
  · exact ⟨fun h => absurd h (by simp), fun h => absurd h.1 (by simp)⟩

lemma mapM_find?_eq_some_iff {entries : List (String × v)} {names : List String}
    {given : List (Option v)} :
    names.mapM (Members.find? entries) = some given ↔
      (∀ name ∈ names, (entries.filter fun e => e.1 == name).length ≤ 1) ∧
        given = names.map (entries.lookup ·) := by
  induction names generalizing given with
  | nil => simp [eq_comm]
  | cons name names ih =>
    rw [List.mapM_cons, List.forall_mem_cons, List.map_cons]
    constructor
    · intro h
      obtain ⟨first, hfirst, h⟩ := Option.bind_eq_some_iff.1 h
      obtain ⟨rest, hrest, h⟩ := Option.bind_eq_some_iff.1 h
      obtain ⟨hone, rfl⟩ := Members.find?_eq_some_iff.1 hfirst
      obtain ⟨hall, rfl⟩ := ih.1 hrest
      exact ⟨⟨hone, hall⟩, (Option.some.inj h).symm⟩
    · rintro ⟨⟨hone, hall⟩, rfl⟩
      rw [Members.find?_eq_some_iff.2 ⟨hone, rfl⟩, ih.2 ⟨hall, rfl⟩]
      rfl

/-- In a list a value is found at the place of its name. -/
lemma map_getElem?_idxOf {names : List String} (hnodup : names.Nodup) {values : List v}
    (hle : values.length ≤ names.length) :
    names.map (fun name => values[names.idxOf name]?) =
      values.map some ++ List.replicate (names.length - values.length) none := by
  apply List.ext_getElem
  · simp only [List.length_map, List.length_append, List.length_replicate]
    omega
  · intro i hi _
    rw [List.length_map] at hi
    rw [List.getElem_map, hnodup.idxOf_getElem]
    by_cases hgiven : i < values.length
    · rw [List.getElem_append_left (by rwa [List.length_map]), List.getElem_map,
        List.getElem?_eq_getElem hgiven]
    · rw [List.getElem_append_right (by rw [List.length_map]; omega), List.getElem_replicate,
        List.getElem?_eq_none (Nat.not_lt.1 hgiven)]

/-- The members of a record are what is given for its names. -/
lemma Members.select?_eq_some_iff {names : List String} (hnodup : names.Nodup) {m : Members v}
    {hasDefaults : Bool} {given : List (Option v)} :
    m.select? names hasDefaults = some given ↔
      m.WellFormed names hasDefaults ∧ given = names.map (m.given? names ·) := by
  cases m with
  | named entries => exact mapM_find?_eq_some_iff
  | listed values =>
    have hiff : (values.length = names.length ∨ hasDefaults ∧ values.length < names.length) ↔
        (Members.listed values).WellFormed names hasDefaults := by
      cases hasDefaults <;> simp [WellFormed] <;> omega
    rw [select?]
    by_cases hwell : (Members.listed values).WellFormed names hasDefaults
    · have hgiven := map_getElem?_idxOf hnodup hwell.1
      rw [if_pos (hiff.2 hwell), ← hgiven]
      exact ⟨fun h => ⟨hwell, (Option.some.inj h).symm⟩, fun h => congrArg some h.2.symm⟩
    · rw [if_neg (mt hiff.1 hwell)]
      exact ⟨fun h => absurd h (by simp), fun h => absurd h.1 hwell⟩

/-! ## Records with defaults -/

/-- A member of a record that has defaults. -/
structure Field (v γ : Type) where
  name : String
  {α : Type}
  default : α
  /-- What a value is read as. -/
  Means : v → α → Prop
  /-- The member in a record. -/
  get : γ → α

/-- The member is what is given or, if nothing is given, the default. -/
def Field.Takes (f : Field v γ) (given : Option v) (a : f.α) : Prop :=
  match given with
  | none => a = f.default
  | some value => f.Means value a

/-- What is given can be read. -/
def Field.Valid (f : Field v γ) (given : Option v) : Prop :=
  ∀ value, given = some value → ∃ a, f.Means value a

lemma Field.valid_iff {f : Field v γ} {given : Option v} :
    f.Valid given ↔ ∃ a, f.Takes given a := by
  cases given with
  | none => exact ⟨fun _ => ⟨f.default, rfl⟩, fun _ _ h => absurd h (by simp)⟩
  | some value => exact ⟨fun h => h value rfl, fun h _ heq => Option.some.inj heq ▸ h⟩

variable [Source v]

/-- The value has members, and each one that is given can be read. -/
def Valid (fields : List (Field v γ)) (value : v) : Prop :=
  let names := fields.map (·.name)
  ∃ m, Source.members? value = some m ∧ m.WellFormed names true ∧
    ∀ f ∈ fields, f.Valid (m.given? names f.name)

/-- The value has members, and each member of the record is taken from them. -/
def Describes (fields : List (Field v γ)) (value : v) (c : γ) : Prop :=
  let names := fields.map (·.name)
  ∃ m, Source.members? value = some m ∧ m.WellFormed names true ∧
    ∀ f ∈ fields, f.Takes (m.given? names f.name) (f.get c)

/-- The fields of a record, with defaults or without, are what the members of its value give. -/
lemma selected_eq_some_iff {names : List String} (hnodup : names.Nodup) {value : v}
    {hasDefaults : Bool} {given : List (Option v)} :
    ((Source.members? value).bind fun m => m.select? names hasDefaults) = some given ↔
      ∃ m, Source.members? value = some m ∧ m.WellFormed names hasDefaults ∧
        given = names.map (m.given? names ·) := by
  rw [Option.bind_eq_some_iff]
  exact exists_congr fun m => and_congr_right fun _ => Members.select?_eq_some_iff hnodup

omit [Source v] in
lemma defaulted_eq_some_iff {α : Type} {default : α} {read : v → Option α} {given : Option v}
    {a : α} :
    defaulted default read given = some a ↔
      match given with
      | none => a = default
      | some value => read value = some a := by
  cases given with
  | none => exact Option.some_inj.trans eq_comm
  | some value => exact Iff.rfl

lemma optional_eq_some_iff {α : Type} {read : v → Option α} {given : Option v} {a : Option α} :
    optional read given = some a ↔
      match given with
      | none => a = none
      | some value =>
        if Source.isNothing value then a = none else ∃ x, read value = some x ∧ a = some x := by
  cases given with
  | none => exact Option.some_inj.trans eq_comm
  | some value =>
    show (if Source.isNothing value then some none else (read value).map some) = some a ↔
      if Source.isNothing value then a = none else ∃ x, read value = some x ∧ a = some x
    by_cases hnothing : Source.isNothing value = true
    · rw [if_pos hnothing, if_pos hnothing]
      exact Option.some_inj.trans eq_comm
    · rw [if_neg hnothing, if_neg hnothing, Option.map_eq_some_iff]
      exact exists_congr fun x => and_congr_right fun _ => eq_comm

lemma Describes.valid {fields : List (Field v γ)} {value : v} {c : γ}
    (h : Describes fields value c) : Valid fields value := by
  obtain ⟨m, hm, hwell, htaken⟩ := h
  exact ⟨m, hm, hwell, fun f hf => f.valid_iff.2 ⟨f.get c, htaken f hf⟩⟩

end Record

open Record

variable {v : Type} [Source v]

/-! ## The records of the configuration -/

namespace Wire.WriterConfig

/-- The members of a writer's configuration. -/
def fields : List (Field v WriterConfig) :=
  let base : WriterConfig := {}
  [{ name := "msg_size", default := base.msgSize, Means := fun x n => size? x = some n
     get := msgSize },
   { name := "addr_tlv_size", default := base.addrTlvSize, Means := fun x n => size? x = some n
     get := addrTlvSize },
   { name := "packet_size", default := base.packetSize, Means := fun x n => size? x = some n
     get := packetSize }]

lemma nodup_names : ((fields (v := v)).map (·.name)).Nodup := by
  show ["msg_size", "addr_tlv_size", "packet_size"].Nodup
  decide

/-- A writer's configuration is read as what the value describes. -/
lemma read?_eq_some_iff {value : v} {c : WriterConfig} :
    read? value = some c ↔ Describes fields value c := by
  rw [read?, Option.bind_eq_bind, Option.bind_eq_some_iff]
  constructor
  · rintro ⟨given, hgiven, h⟩
    obtain ⟨m, hm, hwell, rfl⟩ := (selected_eq_some_iff (nodup_names (v := v))).1 hgiven
    obtain ⟨msgSize, hmsg, h⟩ := Option.bind_eq_some_iff.1 h
    obtain ⟨addrTlvSize, htlv, h⟩ := Option.bind_eq_some_iff.1 h
    obtain ⟨packetSize, hpacket, h⟩ := Option.bind_eq_some_iff.1 h
    obtain rfl := Option.some.inj h
    refine ⟨m, hm, hwell, ?_⟩
    simp only [fields, List.forall_mem_cons, List.not_mem_nil]
    exact ⟨defaulted_eq_some_iff.1 hmsg, defaulted_eq_some_iff.1 htlv,
      defaulted_eq_some_iff.1 hpacket, fun _ h => h.elim⟩
  · rintro ⟨m, hm, hwell, htaken⟩
    simp only [fields, List.forall_mem_cons, List.not_mem_nil] at htaken
    obtain ⟨hmsg, htlv, hpacket, -⟩ := htaken
    refine ⟨_, (selected_eq_some_iff (nodup_names (v := v))).2 ⟨m, hm, hwell, rfl⟩, ?_⟩
    refine Option.bind_eq_some_iff.2 ⟨_, defaulted_eq_some_iff.2 hmsg, ?_⟩
    refine Option.bind_eq_some_iff.2 ⟨_, defaulted_eq_some_iff.2 htlv, ?_⟩
    exact Option.bind_eq_some_iff.2 ⟨_, defaulted_eq_some_iff.2 hpacket, rfl⟩

end Wire.WriterConfig

namespace NodeConfig

/-- The members of a node's configuration. -/
def fields : List (Field v NodeConfig) :=
  let base : NodeConfig := {}
  [{ name := "node_addr", default := base.nodeAddr, Means := fun x a => Ipv6.read? x = some a
     get := nodeAddr },
   { name := "port", default := base.port, Means := fun x n => word16? x = some n, get := port },
   { name := "interface_index", default := base.interfaceIndex
     Means := fun x n => word32? x = some n
     get := interfaceIndex },
   { name := "request_target", default := base.requestTarget
     Means := fun x target =>
       if Source.isNothing x then target = none
       else ∃ a, Ipv6.read? x = some a ∧ target = some a
     get := requestTarget },
   { name := "hop_limit", default := base.hopLimit, Means := fun x n => byte? x = some n
     get := hopLimit },
   { name := "request_interval_secs", default := base.requestIntervalSecs
     Means := fun x n => word64? x = some n
     get := requestIntervalSecs },
   { name := "queue_depth", default := base.queueDepth, Means := fun x n => size? x = some n
     get := queueDepth },
   { name := "writer", default := base.writer, Means := Describes Wire.WriterConfig.fields
     get := writer }]

lemma nodup_names : ((fields (v := v)).map (·.name)).Nodup := by
  show names.Nodup
  decide

/-- The member for a writer is read as what its value describes. -/
lemma defaulted_writer_eq_some_iff {given : Option v} {default w : Wire.WriterConfig} :
    defaulted default Wire.WriterConfig.read? given = some w ↔
      match given with
      | none => w = default
      | some value => Describes Wire.WriterConfig.fields value w := by
  rw [defaulted_eq_some_iff]
  cases given with
  | none => exact Iff.rfl
  | some value => exact Wire.WriterConfig.read?_eq_some_iff

/-- A node's configuration is read as what the value describes. -/
lemma read?_eq_some_iff {value : v} {c : NodeConfig} :
    read? value = some c ↔ Describes fields value c := by
  rw [read?, Option.bind_eq_bind, Option.bind_eq_some_iff]
  constructor
  · rintro ⟨given, hgiven, h⟩
    obtain ⟨m, hm, hwell, rfl⟩ := (selected_eq_some_iff (nodup_names (v := v))).1 hgiven
    obtain ⟨nodeAddr, hnode, h⟩ := Option.bind_eq_some_iff.1 h
    obtain ⟨port, hport, h⟩ := Option.bind_eq_some_iff.1 h
    obtain ⟨interfaceIndex, hinterface, h⟩ := Option.bind_eq_some_iff.1 h
    obtain ⟨requestTarget, htarget, h⟩ := Option.bind_eq_some_iff.1 h
    obtain ⟨hopLimit, hhop, h⟩ := Option.bind_eq_some_iff.1 h
    obtain ⟨requestIntervalSecs, hinterval, h⟩ := Option.bind_eq_some_iff.1 h
    obtain ⟨queueDepth, hqueue, h⟩ := Option.bind_eq_some_iff.1 h
    obtain ⟨writer, hwriter, h⟩ := Option.bind_eq_some_iff.1 h
    obtain rfl := Option.some.inj h
    refine ⟨m, hm, hwell, ?_⟩
    simp only [fields, List.forall_mem_cons, List.not_mem_nil]
    exact ⟨defaulted_eq_some_iff.1 hnode, defaulted_eq_some_iff.1 hport,
      defaulted_eq_some_iff.1 hinterface, optional_eq_some_iff.1 htarget,
      defaulted_eq_some_iff.1 hhop, defaulted_eq_some_iff.1 hinterval,
      defaulted_eq_some_iff.1 hqueue, defaulted_writer_eq_some_iff.1 hwriter, fun _ h => h.elim⟩
  · rintro ⟨m, hm, hwell, htaken⟩
    simp only [fields, List.forall_mem_cons, List.not_mem_nil] at htaken
    obtain ⟨hnode, hport, hinterface, htarget, hhop, hinterval, hqueue, hwriter, -⟩ := htaken
    refine ⟨_, (selected_eq_some_iff (nodup_names (v := v))).2 ⟨m, hm, hwell, rfl⟩, ?_⟩
    refine Option.bind_eq_some_iff.2 ⟨_, defaulted_eq_some_iff.2 hnode, ?_⟩
    refine Option.bind_eq_some_iff.2 ⟨_, defaulted_eq_some_iff.2 hport, ?_⟩
    refine Option.bind_eq_some_iff.2 ⟨_, defaulted_eq_some_iff.2 hinterface, ?_⟩
    refine Option.bind_eq_some_iff.2 ⟨_, optional_eq_some_iff.2 htarget, ?_⟩
    refine Option.bind_eq_some_iff.2 ⟨_, defaulted_eq_some_iff.2 hhop, ?_⟩
    refine Option.bind_eq_some_iff.2 ⟨_, defaulted_eq_some_iff.2 hinterval, ?_⟩
    refine Option.bind_eq_some_iff.2 ⟨_, defaulted_eq_some_iff.2 hqueue, ?_⟩
    exact Option.bind_eq_some_iff.2 ⟨_, defaulted_writer_eq_some_iff.2 hwriter, rfl⟩

/-- If all that is given is valid, the members make up a configuration. -/
lemma exists_describes {value : v} (h : Valid fields value) : ∃ c, Describes fields value c := by
  obtain ⟨m, hm, hwell, hvalid⟩ := h
  simp only [Field.valid_iff, fields, List.forall_mem_cons, List.not_mem_nil] at hvalid
  obtain ⟨⟨nodeAddr, hnode⟩, ⟨port, hport⟩, ⟨interfaceIndex, hinterface⟩, ⟨requestTarget, htarget⟩,
    ⟨hopLimit, hhop⟩, ⟨requestIntervalSecs, hinterval⟩, ⟨queueDepth, hqueue⟩, ⟨writer, hwriter⟩,
    -⟩ := hvalid
  refine ⟨{ nodeAddr, port, interfaceIndex, requestTarget, hopLimit, requestIntervalSecs,
            queueDepth, writer }, m, hm, hwell, ?_⟩
  simp only [fields, List.forall_mem_cons, List.not_mem_nil]
  exact ⟨hnode, hport, hinterface, htarget, hhop, hinterval, hqueue, hwriter, fun _ h => h.elim⟩

/-! ## The layers -/

/-- The file is a text that the reader can read, and the document has the section, with something in
it. -/
def HasSection (reader : DocumentReader v) (file : FileState) (node : v) : Prop :=
  ∃ content document m, file = .text content ∧ reader.parse content = .ok document ∧
    Source.members? document = some m ∧ m.WellFormed [sectionName] false ∧
    m.given? [sectionName] sectionName = some node ∧ Source.isNothing node = false

/-- A configuration in which variables of the environment replace members of another one. -/
structure Overrides (env : Environment) (base c : NodeConfig) : Prop where
  nodeAddr : c.nodeAddr =
    ((env.lookup "AODV_NODE_ADDR").bind Ipv6.ofString?).getD base.nodeAddr
  port : c.port.toNat =
    ((env.lookup "AODV_PORT").bind (Override.number? UInt16.size)).getD base.port.toNat
  requestTarget : c.requestTarget =
    ((env.lookup "AODV_TARGET").bind Ipv6.ofString?).or base.requestTarget
  hopLimit : c.hopLimit.toNat =
    ((env.lookup "AODV_HOP_LIMIT").bind (Override.number? UInt8.size)).getD base.hopLimit.toNat
  interfaceIndex : c.interfaceIndex = base.interfaceIndex
  requestIntervalSecs : c.requestIntervalSecs = base.requestIntervalSecs
  queueDepth : c.queueDepth = base.queueDepth
  writer : c.writer = base.writer

lemma readDocument?_eq_some_iff {document : v} {c : NodeConfig} :
    readDocument? document = some (some c) ↔
      ∃ m, Source.members? document = some m ∧ m.WellFormed [sectionName] false ∧
        ∃ node, m.given? [sectionName] sectionName = some node ∧
          Source.isNothing node = false ∧ read? node = some c := by
  have hnodup : [sectionName].Nodup := List.nodup_singleton _
  have hsection : ∀ given : Option v, optional read? given = some (some c) ↔
      ∃ node, given = some node ∧ Source.isNothing node = false ∧ read? node = some c := by
    intro given
    rw [optional_eq_some_iff]
    cases given with
    | none => simp
    | some node => cases hnothing : Source.isNothing node <;> simp [hnothing]
  rw [readDocument?, Option.bind_eq_bind, Option.bind_eq_some_iff]
  constructor
  · rintro ⟨given, hgiven, h⟩
    obtain ⟨m, hm, hwell, rfl⟩ := (selected_eq_some_iff hnodup).1 hgiven
    exact ⟨m, hm, hwell, (hsection _).1 h⟩
  · rintro ⟨m, hm, hwell, h⟩
    exact ⟨_, (selected_eq_some_iff hnodup).2 ⟨m, hm, hwell, rfl⟩, (hsection _).2 h⟩

/-- A file contributes what its section describes. -/
lemma ofFile_eq_found_iff {reader : DocumentReader v} {file : FileState} {c : NodeConfig} :
    FileLayer.ofFile reader file = .found c ↔
      ∃ node, HasSection reader file node ∧ Describes fields node c := by
  constructor
  · intro h
    cases file with
    | missing => exact absurd h (by simp [FileLayer.ofFile])
    | notText => exact absurd h (by simp [FileLayer.ofFile])
    | text content =>
      rw [FileLayer.ofFile] at h
      cases hparse : reader.parse content with
      | error reason => exact absurd h (by simp [hparse])
      | ok document =>
        rw [hparse] at h
        rcases hread : readDocument? document with _ | _ | c'
        · exact absurd h (by simp [hread])
        · exact absurd h (by simp [hread])
        · obtain rfl : c' = c := by simpa [hread] using h
          obtain ⟨m, hm, hwell, node, hgiven, hsome, hnode⟩ := readDocument?_eq_some_iff.1 hread
          exact ⟨node, ⟨content, document, m, rfl, hparse, hm, hwell, hgiven, hsome⟩,
            read?_eq_some_iff.1 hnode⟩
  · rintro ⟨node, ⟨content, document, m, rfl, hparse, hm, hwell, hgiven, hsome⟩, hnode⟩
    have hread := readDocument?_eq_some_iff.2
      ⟨m, hm, hwell, node, hgiven, hsome, read?_eq_some_iff.2 hnode⟩
    simp only [FileLayer.ofFile, hparse, hread]

/-- A file without a section that is valid as a whole contributes nothing. -/
lemma config_of_not_valid {reader : DocumentReader v} {file : FileState}
    (h : ∀ node, HasSection reader file node → ¬ Valid fields node) :
    (FileLayer.ofFile reader file).config = {} := by
  cases hlayer : FileLayer.ofFile reader file with
  | found c =>
    obtain ⟨node, hsection, hdescribes⟩ := ofFile_eq_found_iff.1 hlayer
    exact absurd hdescribes.valid (h node hsection)
  | notFound => rfl
  | unreadable reason => rfl
  | noSection => rfl

lemma config_cases (reader : DocumentReader v) (file : FileState) :
    (∃ node, HasSection reader file node ∧ Valid fields node ∧
        Describes fields node (FileLayer.ofFile reader file).config) ∨
      ((∀ node, HasSection reader file node → ¬ Valid fields node) ∧
        (FileLayer.ofFile reader file).config = {}) := by
  by_cases hvalid : ∃ node, HasSection reader file node ∧ Valid fields node
  · obtain ⟨node, hsection, hvalid⟩ := hvalid
    obtain ⟨c, hdescribes⟩ := exists_describes hvalid
    refine .inl ⟨node, hsection, hvalid, ?_⟩
    rwa [ofFile_eq_found_iff.2 ⟨node, hsection, hdescribes⟩]
  · have hnone : ∀ node, HasSection reader file node → ¬ Valid fields node :=
      fun node hsection hnode => hvalid ⟨node, hsection, hnode⟩
    exact .inr ⟨hnone, config_of_not_valid hnone⟩

end NodeConfig

/-! ## Variables -/

namespace Override

variable {env : Environment} {c : NodeConfig}

/-- What a variable says of the member that it can replace. -/
def found (o : Override) (env : Environment) : Option o.α := (env.lookup o.name).bind o.parse

lemma state_apply (o : Override) (env : Environment) (c : NodeConfig) :
    (o.apply env c).state = (o.found env).elim c (o.set c) := by
  rw [apply, found]
  cases (env.lookup o.name).bind o.parse <;> rfl

lemma state_nodeAddr :
    (nodeAddr.apply env c).state =
      { c with nodeAddr := (nodeAddr.found env).getD c.nodeAddr } := by
  rw [state_apply]
  cases nodeAddr.found env <;> rfl

lemma state_port :
    (port.apply env c).state =
      { c with port := ((port.found env).map Nat.toUInt16).getD c.port } := by
  rw [state_apply]
  cases port.found env <;> rfl

lemma state_requestTarget :
    (requestTarget.apply env c).state =
      { c with requestTarget := (requestTarget.found env).or c.requestTarget } := by
  rw [state_apply]
  cases requestTarget.found env <;> rfl

lemma state_hopLimit :
    (hopLimit.apply env c).state =
      { c with hopLimit := ((hopLimit.found env).map Nat.toUInt8).getD c.hopLimit } := by
  rw [state_apply]
  cases hopLimit.found env <;> rfl

lemma lt_of_number? {bound n : ℕ} {text : String} (h : number? bound text = some n) :
    n < bound := by
  obtain ⟨-, hlt⟩ := Option.filter_eq_some_iff.1 h
  exact of_decide_eq_true hlt

lemma toNat_port :
    (((port.found env).map Nat.toUInt16).getD c.port).toNat =
      (port.found env).getD c.port.toNat := by
  cases hfound : port.found env with
  | none => rfl
  | some n =>
    obtain ⟨text, -, hn⟩ := Option.bind_eq_some_iff.1 hfound
    exact Nat.mod_eq_of_lt (lt_of_number? hn)

lemma toNat_hopLimit :
    (((hopLimit.found env).map Nat.toUInt8).getD c.hopLimit).toNat =
      (hopLimit.found env).getD c.hopLimit.toNat := by
  cases hfound : hopLimit.found env with
  | none => rfl
  | some n =>
    obtain ⟨text, -, hn⟩ := Option.bind_eq_some_iff.1 hfound
    exact Nat.mod_eq_of_lt (lt_of_number? hn)

/-- All that counts of an environment is what its variables say of their members. -/
lemma state_applyAll_congr {overrides : List Override} {env' : Environment}
    (h : ∀ o ∈ overrides, o.found env = o.found env') :
    (applyAll overrides env c).state = (applyAll overrides env' c).state := by
  induction overrides generalizing c with
  | nil => rfl
  | cons o rest ih =>
    obtain ⟨hfirst, hrest⟩ := List.forall_mem_cons.1 h
    show (applyAll rest env (o.apply env c).state).state =
      (applyAll rest env' (o.apply env' c).state).state
    rw [state_apply, state_apply, hfirst]
    exact ih hrest

/-- A variable that is left out is not set, and the others stay. -/
lemma lookup_filter_ne (env : Environment) (name name' : String) :
    (env.filter fun e => e.1 ≠ name).lookup name' =
      if name' = name then none else env.lookup name' := by
  induction env with
  | nil => simp
  | cons e env ih =>
    by_cases hname : e.1 = name
    · rw [List.filter_cons_of_neg (by simpa using hname), ih, List.lookup_cons, hname]
      by_cases heq : name' = name
      · rw [if_pos heq, if_pos heq]
      · rw [if_neg heq, if_neg heq, beq_false_of_ne heq]
    · rw [List.filter_cons_of_pos (by simpa using hname), List.lookup_cons, List.lookup_cons, ih]
      by_cases heq : name' = name
      · have hne : (name' == e.1) = false := beq_false_of_ne (heq ▸ Ne.symm hname)
        simp only [if_pos heq, hne]
      · simp only [if_neg heq]

/-- A variable whose text cannot be read might as well not be set. -/
lemma found_filter_ne {o : Override} (h : o.found env = none) (o' : Override)
    (hname : o'.name = o.name → o' = o) :
    o'.found (env.filter fun e => e.1 ≠ o.name) = o'.found env := by
  rw [found, lookup_filter_ne]
  by_cases heq : o'.name = o.name
  · rw [if_pos heq, hname heq, h]
    rfl
  · rw [if_neg heq, found]

/-- Each member has a variable of its own. -/
lemma eq_of_name_eq {o o' : Override} (ho : o ∈ all) (ho' : o' ∈ all) (h : o'.name = o.name) :
    o' = o := by
  simp only [all, List.mem_cons, List.not_mem_nil, or_false] at ho ho'
  rcases ho with rfl | rfl | rfl | rfl <;> rcases ho' with rfl | rfl | rfl | rfl <;>
    first | rfl | exact absurd h (by decide)

end Override

/-! ## Loading -/

namespace NodeConfig

/-- Going through the variables replaces the members that they say, and no other ones. -/
lemma overrides_applyAll (env : Environment) (base : NodeConfig) :
    Overrides env base (Override.applyAll Override.all env base).state := by
  have hstate : (Override.applyAll Override.all env base).state =
      { base with
        nodeAddr := (Override.nodeAddr.found env).getD base.nodeAddr
        port := ((Override.port.found env).map Nat.toUInt16).getD base.port
        requestTarget := (Override.requestTarget.found env).or base.requestTarget
        hopLimit := ((Override.hopLimit.found env).map Nat.toUInt8).getD base.hopLimit } := by
    show (Override.hopLimit.apply env (Override.requestTarget.apply env (Override.port.apply env
      (Override.nodeAddr.apply env base).state).state).state).state = _
    rw [Override.state_nodeAddr, Override.state_port, Override.state_requestTarget,
      Override.state_hopLimit]
  rw [hstate]
  exact ⟨rfl, Override.toNat_port, rfl, Override.toNat_hopLimit, rfl, rfl, rfl, rfl⟩

/-- **The layers of the configuration do not mix.**  For every reader of documents, every state of
the file and every environment, loading gives a configuration:

* it is a base in which each of four members is replaced exactly if its variable is set to a text of
  the form of the member; the other members are those of the base;
* the base is what the section of the file describes, member by member and for the writer once more
  member by member, with the defaults for what is not given, provided the file has a section and all
  that is given in it is valid; otherwise the base is the default configuration;
* so a file with one invalid member is as good as no file, and a variable whose text cannot be read
  is as good as none. -/
theorem load_layers (reader : DocumentReader v) (path : String) (file : FileState)
    (env : Environment) :
    let loaded := (load reader path file env).answer
    (∃ base, Overrides env base loaded ∧
      ((∃ node, HasSection reader file node ∧ Valid fields node ∧ Describes fields node base) ∨
        ((∀ node, HasSection reader file node → ¬ Valid fields node) ∧ base = {}))) ∧
    ((∀ node, HasSection reader file node → ¬ Valid fields node) →
      loaded = (load reader path .missing env).answer) ∧
    ∀ o ∈ Override.all, (env.lookup o.name).bind o.parse = none →
      loaded = (load reader path file (env.filter fun e => e.1 ≠ o.name)).answer := by
  intro loaded
  refine ⟨⟨_, overrides_applyAll env _, config_cases reader file⟩, fun hnone => ?_,
    fun o ho hnone => ?_⟩
  · show (Override.applyAll Override.all env (FileLayer.ofFile reader file).config).state = _
    rw [config_of_not_valid hnone]
    rfl
  · exact Override.state_applyAll_congr fun o' ho' =>
      (Override.found_filter_ne hnone o' (Override.eq_of_name_eq ho ho')).symm

/-- The hop limit is out of range, so the port of the file does not count either. -/
example :
    let document : Value :=
      .object [("aodvv2", .object [("port", .nat 5), ("hop_limit", .nat 300)])]
    (load ⟨fun _ => .ok document, ""⟩ "" (.text "") [("AODV_HOP_LIMIT", "9")]).answer =
      { hopLimit := 9 } := by
  decide

end NodeConfig

end RouteDiscovery
