/-
# Places in a YAML text

A cursor is the rest of a text and the place where it starts.  Columns count from the last line
end.  Also here: the character classes, and the white space between tokens.
-/

namespace RouteDiscovery.Yaml

/-- A line end. -/
def isBreak (c : Char) : Bool :=
  c = '\n' || c = '\r' || c = '\u0085' || c = '\u2028' || c = '\u2029'

/-- A space or a tab. -/
def isSpace (c : Char) : Bool := c = ' ' || c = '\t'

/-- A space, a tab or a line end. -/
def isGap (c : Char) : Bool := isSpace c || isBreak c

/-- Whether a text is at its end or goes on with a gap. -/
def gapFollows (s : List Char) : Bool := s.head?.all isGap

/-- How a line end stands in a value: all but the two separators become a newline. -/
def breakValue (c : Char) : Char := if c = '\u2028' ∨ c = '\u2029' then c else '\n'

/-- A character that a document may hold. -/
def isAllowed (c : Char) : Bool :=
  let n := c.toNat
  n = 0x09 || n = 0x0A || n = 0x0D || (0x20 ≤ n && n ≤ 0x7E) || n = 0x85 ||
    (0xA0 ≤ n && n ≤ 0xD7FF) || (0xE000 ≤ n && n ≤ 0xFFFD) || 0x10000 ≤ n

/-- A place in a text. -/
structure Place where
  /-- The number of bytes before it. -/
  index : Nat := 0
  /-- The number of lines before its line. -/
  line : Nat := 0
  /-- The number of characters before it on its line. -/
  column : Nat := 0
deriving DecidableEq, Repr, Inhabited

namespace Place

/-- The place some ASCII characters further on the line. -/
def right (p : Place) (n : Nat) : Place :=
  { p with index := p.index + n, column := p.column + n }

/-- The place behind a character on the line. -/
def after (p : Place) (c : Char) : Place :=
  { p with index := p.index + c.utf8Size, column := p.column + 1 }

/-- The start of the next line after a line end of some bytes. -/
def nextLine (p : Place) (n : Nat) : Place := ⟨p.index + n, p.line + 1, 0⟩

end Place

/-- The rest of a text and where it starts. -/
structure Cursor where
  rest : List Char
  place : Place := {}
deriving Repr, Inhabited

namespace Cursor

/-- The cursor some ASCII characters further on the line. -/
def right (c : Cursor) (n : Nat) : Cursor := ⟨c.rest.drop n, c.place.right n⟩

/-- Whether the cursor is at a document mark: three of a character at the start of a line. -/
def atMark (c : Cursor) (mark : Char) : Bool :=
  c.place.column = 0 && c.rest.take 3 == List.replicate 3 mark && gapFollows (c.rest.drop 3)

/-- Whether the cursor is at the start or the end mark of a document. -/
def atAnyMark (c : Cursor) : Bool := c.atMark '-' || c.atMark '.'

end Cursor

/-- Where the white space ends, and whether a key may start there. -/
structure Skipped where
  cursor : Cursor
  keyAllowed : Bool

/-- Goes over spaces, line ends and comments, and over a byte order mark at the start of a line,
which takes one column.  Outside brackets a key may start after a line end; tabs are gone over only
where no key may start. -/
def skipWhite (inBrackets : Bool) : Bool → Bool → List Char → Place → Skipped
  | _, keyAllowed, [], p => ⟨⟨[], p⟩, keyAllowed⟩
  | _, keyAllowed, '\r' :: '\n' :: s, p =>
    skipWhite inBrackets false (keyAllowed || !inBrackets) s (p.nextLine 2)
  | inComment, keyAllowed, c :: s, p =>
    if isBreak c then
      skipWhite inBrackets false (keyAllowed || !inBrackets) s (p.nextLine c.utf8Size)
    else if inComment then skipWhite inBrackets true keyAllowed s (p.after c)
    else if c = '#' then skipWhite inBrackets true keyAllowed s (p.after c)
    else if c = ' ' || (c = '\t' && (inBrackets || !keyAllowed)) ||
        (c = '\uFEFF' && p.column = 0) then
      skipWhite inBrackets false keyAllowed s (p.after c)
    else ⟨⟨c :: s, p⟩, keyAllowed⟩

end RouteDiscovery.Yaml
