/-
# Columns of the log

The column of a component has eighteen characters, whatever the name in it, and so all messages
start at the same place of their lines (`LineStyle.length_head`).

A name for which there is room is in its column as a whole, but the spaces at its end cannot be told
from those of the column: `trimmed` leaves them out.  What is left can be read from the column
(`trimmed_columnChars`), and it is all that the column tells of the name (`columnChars_trimmed`).
Hence two such names have the same column exactly if they differ in spaces at the end only
(`columnChars_eq_columnChars_iff`).
-/
import Mathlib.Data.List.DropRight
import Mathlib.Tactic.Lemma
import RouteDiscovery.Log.Line

namespace RouteDiscovery

namespace Log

/-! ## Columns of any width -/

variable {width : ℕ} {name name' : List Char}

/-- A name for which there is room is filled up with spaces. -/
lemma columnChars_of_le (h : name.length ≤ width) :
    columnChars width name = name ++ List.replicate (width - name.length) ' ' := if_pos h

/-- A longer name is cut. -/
lemma columnChars_of_lt (h : width < name.length) :
    columnChars width name = name.take (width - 1) ++ ['…'] := if_neg (Nat.not_le.2 h)

/-- But for its last character, a column starts like the name. -/
lemma take_prefix_columnChars (width : ℕ) (name : List Char) :
    name.take (width - 1) <+: columnChars width name := by
  rcases Nat.lt_or_ge width name.length with hlt | hle
  · rw [columnChars_of_lt hlt]
    exact List.prefix_append _ _
  · rw [columnChars_of_le hle]
    exact (List.take_prefix _ _).trans (List.prefix_append _ _)

/-! ## Reading a column -/

/-- A text without the spaces at its end. -/
def trimmed (text : List Char) : List Char := text.rdropWhile (· = ' ')

lemma trimmed_append_spaces (text : List Char) (n : ℕ) :
    trimmed (text ++ List.replicate n ' ') = trimmed text := by
  induction n with
  | zero => rw [List.replicate_zero, List.append_nil]
  | succ n ih =>
    rw [List.replicate_succ', ← List.append_assoc, trimmed, List.rdropWhile_concat_pos _ _ _ rfl]
    exact ih

/-- Nothing but spaces is left out. -/
lemma exists_trimmed_append_spaces (text : List Char) :
    ∃ n, trimmed text ++ List.replicate n ' ' = text := by
  have hspaces : ∀ c ∈ text.rtakeWhile (· = ' '), c = ' ' := by
    intro c hc
    simpa using List.mem_rtakeWhile_imp hc
  refine ⟨(text.rtakeWhile (· = ' ')).length, ?_⟩
  rw [← List.eq_replicate_of_mem hspaces, trimmed, List.rdropWhile_append_rtakeWhile]

/-- A text that does not end in a space has nothing to leave out. -/
lemma trimmed_eq_self {text : List Char} (h : text.getLast? ≠ some ' ') : trimmed text = text := by
  refine List.rdropWhile_eq_self_iff.2 fun hne hspace => h ?_
  rw [List.getLast?_eq_some_getLast hne, of_decide_eq_true hspace]

/-- The name in a column can be read from it, but for the spaces at its end. -/
lemma trimmed_columnChars (h : name.length ≤ width) :
    trimmed (columnChars width name) = trimmed name := by
  rw [columnChars_of_le h, trimmed_append_spaces]

/-- The spaces at the end of a name make no difference to its column. -/
lemma columnChars_trimmed (h : name.length ≤ width) :
    columnChars width (trimmed name) = columnChars width name := by
  obtain ⟨n, hn⟩ := exists_trimmed_append_spaces name
  have hlength : (trimmed name).length + n = name.length := by
    have := congrArg List.length hn
    rwa [List.length_append, List.length_replicate] at this
  -- the spaces of the name and those of the column make one row of spaces
  have hspaces : width - (trimmed name).length = n + (width - name.length) := by omega
  calc columnChars width (trimmed name)
      = trimmed name ++ List.replicate (n + (width - name.length)) ' ' := by
        rw [columnChars_of_le (by omega), hspaces]
    _ = (trimmed name ++ List.replicate n ' ') ++ List.replicate (width - name.length) ' ' := by
        rw [List.replicate_add, List.append_assoc]
    _ = columnChars width name := by rw [hn, columnChars_of_le h]

/-- **Names for which there is room have the same column** exactly if they differ in spaces at the
end only. -/
theorem columnChars_eq_columnChars_iff (h : name.length ≤ width) (h' : name'.length ≤ width) :
    columnChars width name = columnChars width name' ↔ trimmed name = trimmed name' := by
  constructor
  · intro heq
    rw [← trimmed_columnChars h, heq, trimmed_columnChars h']
  · intro heq
    rw [← columnChars_trimmed h, heq, columnChars_trimmed h']

/-! ## The column of a component -/

lemma toList_componentColumn (service : String) (component : Option String) :
    (componentColumn service component).toList =
      columnChars componentWidth (componentName service component).toList := String.toList_ofList

lemma length_componentColumn (service : String) (component : Option String) :
    (componentColumn service component).length = componentWidth := by
  rw [← String.length_toList, toList_componentColumn, length_columnChars (by decide)]

lemma componentColumn_eq_iff {service service' : String} {component component' : Option String}
    (h : (componentName service component).length ≤ componentWidth)
    (h' : (componentName service' component').length ≤ componentWidth) :
    componentColumn service component = componentColumn service' component' ↔
      trimmed (componentName service component).toList =
        trimmed (componentName service' component').toList := by
  rw [← String.toList_inj, toList_componentColumn, toList_componentColumn,
    columnChars_eq_columnChars_iff h h']

/-! ## The head of a line -/

namespace LineStyle

/-- What stands in a line before the message: the line of an event that says nothing. -/
def head (style : LineStyle) (time : String) (level : Level) (component : Option String) : String :=
  style.lineText time { level, component, message := "" }

lemma lineText_eq_head_append (style : LineStyle) (time : String) (e : Event) :
    style.lineText time e = style.head time e.level e.component ++
      (Text.unquoted e.message ++ fieldsText e.fields) := by
  have hmessage : Text.unquoted "" = "" := rfl
  have hfields : fieldsText [] = "" := rfl
  rw [head, lineText, lineText, hmessage, hfields, String.append_empty, String.append_empty,
    String.append_assoc]

lemma length_paint (style : LineStyle) (color : String) :
    (style.paint color).length = if style.colored then color.length else 0 := by
  rw [paint, apply_ite String.length]
  rfl

/-- What stands before the message is as long for every level and every component. -/
lemma length_head (style : LineStyle) (time : String) (level : Level)
    (component : Option String) :
    (style.head time level component).length =
      time.length + if style.colored then 50 else 32 := by
  have hlevel : (levelColumn level).length = 5 := by cases level <;> rfl
  have hcolor : (Color.ofLevel level).length = 5 := by cases level <;> rfl
  have hcyan : Color.cyan.length = 5 := rfl
  have hreset : Color.reset.length = 4 := rfl
  have hcomponent : (componentColumn style.service component).length = 18 :=
    length_componentColumn _ _
  have hbrackets : "[".length = 1 ∧ "]".length = 1 ∧ " [".length = 2 ∧ "] [".length = 3 ∧
      "] ".length = 2 := ⟨rfl, rfl, rfl, rfl, rfl⟩
  have hempty : (Text.unquoted "").length = 0 ∧ (fieldsText []).length = 0 := ⟨rfl, rfl⟩
  simp only [head, lineText, String.length_append, length_paint, hlevel, hcolor, hcyan, hreset,
    hcomponent, hbrackets, hempty]
  split <;> omega

end LineStyle

/-! ## Alignment -/

/-- **The columns of the log align.**

* Whatever the service and the component, their column has 18 characters: it is their name, filled
  up with spaces, if that has at most 18 characters, and else its first 17 characters and an
  ellipsis.  In either case it starts with the first 17 characters of the name.
* Two names of at most 18 characters have the same column exactly if they differ in spaces at the
  end only; so if neither ends in a space, exactly if they are the same.
* Hence in all lines of a style the messages start at the same place, provided the times are of the
  same length. -/
theorem columns_align :
    (∀ (service : String) (component : Option String),
      let name := componentName service component
      let column := componentColumn service component
      column.length = 18 ∧
      column.toList = (if name.length ≤ 18 then name.toList ++ List.replicate (18 - name.length) ' '
        else name.toList.take 17 ++ ['…']) ∧
      name.toList.take 17 <+: column.toList) ∧
    (∀ (service service' : String) (component component' : Option String),
      let name := componentName service component
      let name' := componentName service' component'
      let sameColumn := componentColumn service component = componentColumn service' component'
      name.length ≤ 18 → name'.length ≤ 18 →
      (sameColumn ↔ trimmed name.toList = trimmed name'.toList) ∧
      (name.toList.getLast? ≠ some ' ' → name'.toList.getLast? ≠ some ' ' →
        (sameColumn ↔ name = name'))) ∧
    ∀ (style : LineStyle) (time : String) (e : Event), ∃ head : String,
      style.lineText time e = head ++ (Text.unquoted e.message ++ LineStyle.fieldsText e.fields) ∧
      head.length = time.length + if style.colored then 50 else 32 := by
  refine ⟨fun service component => ⟨length_componentColumn service component, ?_, ?_⟩, ?_,
    fun style time e => ⟨_, style.lineText_eq_head_append time e, style.length_head time _ _⟩⟩
  · rw [toList_componentColumn]
    rfl
  · rw [toList_componentColumn]
    exact take_prefix_columnChars componentWidth _
  · intro service service' component component' name name' sameColumn hle hle'
    have htrimmed : sameColumn ↔ trimmed name.toList = trimmed name'.toList :=
      componentColumn_eq_iff hle hle'
    refine ⟨htrimmed, fun hlast hlast' => ?_⟩
    rw [htrimmed, trimmed_eq_self hlast, trimmed_eq_self hlast', String.toList_inj]

/-- Two names of 18 characters that differ in the last one; a longer name is cut there. -/
theorem columns_align_accented :
    (componentName "aodvv2" (some "découvertes")).length ≤ 18 ∧
    (componentName "aodvv2" (some "découverte…")).length ≤ 18 ∧
    componentColumn "aodvv2" (some "découvertes") ≠ componentColumn "aodvv2" (some "découverte…") ∧
    componentColumn "aodvv2" (some "découverte des routes") =
      componentColumn "aodvv2" (some "découverte…") := by
  have hle : (componentName "aodvv2" (some "découvertes")).length ≤ 18 := by decide
  have hle' : (componentName "aodvv2" (some "découverte…")).length ≤ 18 := by decide
  obtain ⟨-, hcolumns, -⟩ := columns_align
  obtain ⟨-, hnames⟩ := hcolumns _ _ _ _ hle hle'
  refine ⟨hle, hle', fun heq => ?_, by decide⟩
  exact absurd ((hnames (by decide) (by decide)).1 heq) (by decide)

end Log

end RouteDiscovery
