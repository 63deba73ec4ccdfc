/-
# YAML scalars

Plain texts and texts in quotes.  White space inside is folded: spaces around a line end vanish,
one line end becomes a space, and of several all but the first are kept (`Gap.folded`).
-/
import RouteDiscovery.Text.Numeral
import RouteDiscovery.Yaml.Cursor
import RouteDiscovery.Yaml.Error

namespace RouteDiscovery.Yaml

/-- White space inside a text. -/
structure Gap where
  /-- Whether a line has ended. -/
  broken : Bool := false
  /-- The spaces, as long as no line has ended. -/
  spaces : List Char := []
  /-- The first line end, unless it is escaped. -/
  first : Option Char := none
  /-- The line ends after it. -/
  more : List Char := []
deriving Repr, Inhabited

namespace Gap

/-- The gap with a further space or tab. -/
def addSpace (g : Gap) (c : Char) : Gap :=
  if g.broken then g else { g with spaces := g.spaces ++ [c] }

/-- The gap with a further line end. -/
def addBreak (g : Gap) (c : Char) : Gap :=
  if g.broken then { g with more := g.more ++ [breakValue c] }
  else { broken := true, first := some (breakValue c) }

/-- The gap after an escaped line end. -/
def escapedBreak : Gap := { broken := true }

/-- What the gap becomes in the value. -/
def folded (g : Gap) : List Char :=
  if !g.broken then g.spaces
  else if g.first = some '\n' then (if g.more.isEmpty then [' '] else g.more)
  else g.first.toList ++ g.more

end Gap

/-- A text that was read. -/
structure Scalar where
  value : List Char
  /-- Whether a line ended after it. -/
  broken : Bool := false
  cursor : Cursor

/-- The characters that brackets reserve. -/
def isBracketMark (c : Char) : Bool := c = ',' || c = '[' || c = ']' || c = '{' || c = '}'

/-! ## Plain texts -/

/-- Whether a plain text ends before a character. -/
def endsPlain (inBrackets : Bool) (indent : Nat) (g : Gap) (c : Cursor) : Bool :=
  match c.rest with
  | [] => true
  | x :: s =>
    (g.broken && ((!inBrackets && c.place.column < indent) || c.atAnyMark)) ||
      ((g.broken || !g.spaces.isEmpty) && x = '#') ||
      (x = ':' && gapFollows s) || (inBrackets && isBracketMark x)

/-- Reads a plain text whose further lines must be indented. -/
def plainText (inBrackets : Bool) (indent : Nat) :
    List Char → Gap → List Char → Place → Except Error Scalar
  | value, g, [], p => .ok ⟨value, g.broken, ⟨[], p⟩⟩
  | value, g, '\r' :: '\n' :: s, p =>
    plainText inBrackets indent value (g.addBreak '\n') s (p.nextLine 2)
  | value, g, x :: s, p =>
    if isBreak x then plainText inBrackets indent value (g.addBreak x) s (p.nextLine x.utf8Size)
    else if isSpace x then
      if g.broken && p.column < indent && x = '\t' then .error .tabIndentation
      else plainText inBrackets indent value (g.addSpace x) s (p.after x)
    else if inBrackets && x = ':' && s.head?.any (fun y => isBracketMark y || y = '?') then
      if g.broken && (Cursor.atAnyMark ⟨x :: s, p⟩) then .ok ⟨value, g.broken, ⟨x :: s, p⟩⟩
      else .error .unexpectedColon
    else if endsPlain inBrackets indent g ⟨x :: s, p⟩ then .ok ⟨value, g.broken, ⟨x :: s, p⟩⟩
    else plainText inBrackets indent (value ++ g.folded ++ [x]) {} s (p.after x)

/-! ## Texts in quotes -/

/-- The character that an escape of one letter stands for. -/
def simpleEscape? (c : Char) : Option Char :=
  match c with
  | '0' => some '\x00'
  | 'a' => some '\x07'
  | 'b' => some '\x08'
  | 't' | '\t' => some '\t'
  | 'n' => some '\n'
  | 'v' => some '\x0B'
  | 'f' => some '\x0C'
  | 'r' => some '\r'
  | 'e' => some '\x1B'
  | ' ' => some ' '
  | '\x22' => some '\x22'
  | '/' => some '/'
  | '\\' => some '\\'
  | 'N' => some '\u0085'
  | '_' => some '\u00A0'
  | 'L' => some '\u2028'
  | 'P' => some '\u2029'
  | _ => none

/-- The number of digits of an escape by code point. -/
def escapeDigits? (c : Char) : Option Nat :=
  match c with
  | 'x' => some 2
  | 'u' => some 4
  | 'U' => some 8
  | _ => none

/-- The character with a code point. -/
def charOfCode? (n : Nat) : Option Char :=
  if n.isValidChar then some (Char.ofNat n) else none

/-- Reads the digits of an escape by code point: the value so far and the number of digits that
are still to come. -/
structure OpenEscape where
  code : Nat := 0
  left : Nat
deriving Repr

namespace OpenEscape

/-- The escape with one digit more. -/
def addDigit? (e : OpenEscape) (c : Char) : Option OpenEscape :=
  (Text.digitValue? 16 c).map fun d => ⟨e.code * 16 + d, e.left - 1⟩

end OpenEscape

/-- What is open inside quotes. -/
inductive Open where
  | nothing
  /-- An escape after its backslash. -/
  | escape
  /-- An escape by code point. -/
  | code (e : OpenEscape)
deriving Repr

/-- Reads a text in quotes after its opening quote. -/
def quotedText (double : Bool) :
    Open → List Char → Gap → List Char → Place → Except Error Scalar
  | _, _, _, [], _ => .error .unclosedQuotes
  | .code e, value, _, x :: s, p =>
    match e.addDigit? x with
    | none => .error .invalidEscape
    | some e =>
      if e.left = 0 then
        match charOfCode? e.code with
        | none => .error .invalidEscape
        | some c => quotedText double .nothing (value ++ [c]) {} s (p.after x)
      else quotedText double (.code e) value {} s (p.after x)
  | .escape, value, _, '\r' :: '\n' :: s, p =>
    quotedText double .nothing value .escapedBreak s (p.nextLine 2)
  | .escape, value, _, x :: s, p =>
    if isBreak x then quotedText double .nothing value .escapedBreak s (p.nextLine x.utf8Size)
    else match simpleEscape? x, escapeDigits? x with
      | some c, _ => quotedText double .nothing (value ++ [c]) {} s (p.after x)
      | none, some n => quotedText double (.code { left := n }) value {} s (p.after x)
      | none, none => .error .unknownEscape
  | .nothing, value, g, '\r' :: '\n' :: s, p =>
    quotedText double .nothing value (g.addBreak '\n') s (p.nextLine 2)
  | .nothing, value, g, '\x27' :: '\x27' :: s, p =>
    let quotes := if double then ['\x27', '\x27'] else ['\x27']
    quotedText double .nothing (value ++ g.folded ++ quotes) {} s (p.right 2)
  | .nothing, value, g, x :: s, p =>
    if isBreak x then quotedText double .nothing value (g.addBreak x) s (p.nextLine x.utf8Size)
    else if isSpace x then quotedText double .nothing value (g.addSpace x) s (p.after x)
    else if Cursor.atAnyMark ⟨x :: s, p⟩ then .error .documentMarkInQuotes
    else if x = (if double then '\x22' else '\x27') then
      .ok ⟨value ++ g.folded, false, ⟨s, p.right 1⟩⟩
    else if double && x = '\\' then
      quotedText double .escape (value ++ g.folded) {} s (p.after x)
    else quotedText double .nothing (value ++ g.folded ++ [x]) {} s (p.after x)

end RouteDiscovery.Yaml
