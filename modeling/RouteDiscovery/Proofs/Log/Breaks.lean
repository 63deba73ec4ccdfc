/-
# Line breaks in log lines

`breaks` counts the line breaks of a text.  Numbers, addresses and quoted texts have none, whatever
they are; a text that is shown as it is keeps all of its own, and so a log line has those of the
texts that are shown as they are in it, and no other ones (`LineStyle.breaks_lineText`).
-/
import Mathlib.Algebra.GroupWithZero.Nat
import Mathlib.Data.List.Basic
import Mathlib.Tactic.Lemma
import RouteDiscovery.Address.Ipv6
import RouteDiscovery.Log.Line

namespace RouteDiscovery

/-- The number of line breaks in a text. -/
def breaks (s : String) : ℕ := s.toList.count '\n'

@[simp] lemma breaks_append (s t : String) : breaks (s ++ t) = breaks s + breaks t := by
  rw [breaks, String.toList_append, List.count_append]
  rfl

lemma breaks_eq_zero_iff {s : String} : breaks s = 0 ↔ '\n' ∉ s.toList := List.count_eq_zero

@[simp] lemma breaks_ofList (l : List Char) : breaks (String.ofList l) = l.count '\n' := by
  rw [breaks, String.toList_ofList]

lemma breaks_join (l : List String) : breaks (String.join l) = (l.map breaks).sum := by
  rw [breaks, String.toList_join, List.count_flatMap]
  rfl

lemma breaks_intercalate {sep : String} {l : List String} (hsep : breaks sep = 0)
    (hl : ∀ s ∈ l, breaks s = 0) : breaks (sep.intercalate l) = 0 := by
  induction l with
  | nil => rfl
  | cons s l ih =>
    obtain ⟨hs, hl⟩ := List.forall_mem_cons.1 hl
    cases l with
    | nil => rwa [String.intercalate_singleton]
    | cons t l => rw [String.intercalate_cons_cons, breaks_append, breaks_append, hs, hsep, ih hl]

/-! ## Texts without a line break -/

namespace Text

/-- No digit is a line break. -/
lemma count_toDigits {base : ℕ} (hpos : 0 < base) (hbase : base ≤ 16) (n : ℕ) :
    (Nat.toDigits base n).count '\n' = 0 := by
  have hdigit : ∀ d < 16, Nat.digitChar d ≠ '\n' := by decide
  have hcore : ∀ fuel n l, List.count '\n' l = 0 →
      (Nat.toDigitsCore base fuel n l).count '\n' = 0 := by
    intro fuel
    induction fuel with
    | zero => exact fun n l hl => hl
    | succ fuel ih =>
      intro n l hl
      have hlt : n % base < 16 := Nat.lt_of_lt_of_le (Nat.mod_lt n hpos) hbase
      have hcons : List.count '\n' (Nat.digitChar (n % base) :: l) = 0 := by
        rw [List.count_cons_of_ne (hdigit _ hlt), hl]
      rw [Nat.toDigitsCore]
      split
      · exact hcons
      · exact ih _ _ hcons
  exact hcore _ _ _ rfl

/-- A character that is a line break is written as another one. -/
lemma count_escapeChar (c : Char) : (escapeChar c).count '\n' = 0 := by
  unfold escapeChar
  split_ifs with h₁ h₂ h₃ hbreak hmark hinvisible
  · rfl
  · rfl
  · rfl
  · rfl
  · rcases hmark with rfl | rfl <;> rfl
  · have hdigits : (Nat.toDigits 16 c.toNat).count '\n' = 0 :=
      count_toDigits (by decide) (by decide) _
    simp [codeEscape, List.count_append, hdigits]
  · rw [List.count_singleton, beq_false_of_ne hbreak]
    rfl

/-- A quoted text stands on one line. -/
@[simp] lemma breaks_quoted (s : String) : breaks (quoted s) = 0 := by
  have hescaped : (s.toList.flatMap escapeChar).count '\n' = 0 := by
    rw [List.count_eq_zero, List.mem_flatMap]
    rintro ⟨c, -, hc⟩
    exact List.count_eq_zero.1 (count_escapeChar c) hc
  rw [quoted, breaks_ofList]
  simp [hescaped]

/-- Quotes are no line breaks. -/
@[simp] lemma breaks_unquoted (s : String) : breaks (unquoted s) = breaks s := by
  unfold unquoted
  split
  · next rest hrest =>
    split
    · next hlast =>
      have hsplit := List.dropLast_append_getLast? _ hlast
      rw [breaks_ofList, breaks, hrest, ← hsplit]
      simp
    · rfl
  · rfl

end Text

@[simp] lemma breaks_nat (n : ℕ) : breaks (toString n) = 0 := by
  show breaks (String.ofList (Nat.toDigits 10 n)) = 0
  rw [breaks_ofList, Text.count_toDigits (by decide) (by decide)]

@[simp] lemma breaks_int (n : Int) : breaks (toString n) = 0 := by
  cases n with
  | ofNat n => exact breaks_nat n
  | negSucc n =>
    show breaks ("-" ++ toString (n + 1)) = 0
    rw [breaks_append, breaks_nat]
    rfl

@[simp] lemma breaks_byte (n : UInt8) : breaks (toString n) = 0 := breaks_nat n.toNat

@[simp] lemma breaks_word (n : UInt16) : breaks (toString n) = 0 := breaks_nat n.toNat

lemma Ipv4.breaks_text (x : Ipv4) : breaks x.text = 0 := by
  refine breaks_intercalate rfl fun s hs => ?_
  obtain ⟨o, -, rfl⟩ := List.mem_map.1 hs
  exact breaks_nat o.toNat

namespace Ipv6

lemma breaks_groupsText (ws : List UInt16) : breaks (groupsText ws) = 0 := by
  refine breaks_intercalate rfl fun s hs => ?_
  obtain ⟨w, -, rfl⟩ := List.mem_map.1 hs
  rw [groupText, breaks_ofList, Text.count_toDigits (by decide) (by decide)]

@[simp] lemma breaks_text (x : Ipv6) : breaks x.text = 0 := by
  unfold text
  split
  · next v4 _ =>
    rw [breaks_append, v4.breaks_text]
    rfl
  · split
    rw [apply_ite breaks]
    simp only [breaks_append, breaks_groupsText]
    split <;> rfl

end Ipv6

/-! ## Lines -/

namespace Log

/-- The text of a value that is shown as it is. -/
def FieldValue.asIs : FieldValue → String
  | verbatim s | shown s => s
  | _ => ""

/-- The texts of an event that are shown as they are. -/
def Event.asIs (e : Event) : List String :=
  e.message :: e.fields.flatMap fun f => [f.1, f.2.asIs]

lemma FieldValue.breaks_text (value : FieldValue) : breaks value.text = breaks value.asIs := by
  cases value with
  | verbatim s => rfl
  | shown s => exact Text.breaks_unquoted s
  | quoted s =>
    rw [text, Text.breaks_unquoted, Text.breaks_quoted]
    rfl
  | nat n => exact breaks_nat n
  | int n => exact breaks_int n
  | bool b => cases b <;> rfl

/-- A column breaks the line only if the name in it does. -/
lemma breaks_componentColumn {service : String} {component : Option String}
    (h : breaks (componentName service component) = 0) :
    breaks (componentColumn service component) = 0 := by
  rw [breaks_eq_zero_iff] at h
  rw [componentColumn, breaks_ofList, List.count_eq_zero, columnChars]
  split
  · simp [List.rightpad, h]
  · intro hmem
    rcases List.mem_append.1 hmem with hmem | hmem
    · exact h (List.mem_of_mem_take hmem)
    · exact absurd hmem (by decide)

namespace LineStyle

lemma breaks_paint (style : LineStyle) {color : String} (h : breaks color = 0) :
    breaks (style.paint color) = 0 := by
  unfold paint
  split
  · exact h
  · rfl

lemma breaks_fieldsText (fields : List (String × FieldValue)) :
    breaks (fieldsText fields) =
      ((fields.flatMap fun f => [f.1, f.2.asIs]).map breaks).sum := by
  rw [fieldsText, breaks_join, List.map_map]
  induction fields with
  | nil => rfl
  | cons f fields ih =>
    have hspace : breaks " " = 0 := rfl
    have hequals : breaks "=" = 0 := rfl
    simp only [List.map_cons, List.sum_cons, List.flatMap_cons, List.map_append, List.sum_append,
      List.map_nil, List.sum_nil, Function.comp_apply, breaks_append, FieldValue.breaks_text,
      hspace, hequals, ih]
    omega

/-- **A line breaks where a text that is shown as it is does**, and nowhere else, provided that time
and names have no line break. -/
theorem breaks_lineText (style : LineStyle) {time : String} {e : Event} (htime : breaks time = 0)
    (hname : breaks (componentName style.service e.component) = 0) :
    breaks (style.lineText time e) = (e.asIs.map breaks).sum := by
  have hcolumn := breaks_componentColumn hname
  have hlevel : breaks (levelColumn e.level) = 0 := by cases e.level <;> rfl
  have hcolor : breaks (style.paint (Color.ofLevel e.level)) = 0 :=
    style.breaks_paint (by cases e.level <;> rfl)
  have hcyan : breaks (style.paint Color.cyan) = 0 := style.breaks_paint rfl
  have hreset : breaks (style.paint Color.reset) = 0 := style.breaks_paint rfl
  have hopen : breaks "[" = 0 := rfl
  have hclose : breaks "]" = 0 := rfl
  have hcomponent : breaks " [" = 0 := rfl
  have hbetween : breaks "] [" = 0 := rfl
  have hend : breaks "] " = 0 := rfl
  simp only [lineText, Event.asIs, breaks_append, breaks_fieldsText, Text.breaks_unquoted,
    List.map_cons, List.sum_cons, hcolumn, hlevel, hcolor, hcyan, hreset, hopen, hclose,
    hcomponent, hbetween, hend, htime, Nat.zero_add]

end LineStyle

end Log

end RouteDiscovery
