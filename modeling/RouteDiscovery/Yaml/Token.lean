/-
# YAML tokens

The tokens of a text show its structure: where collections start and end, entries, keys, values
and scalars.  Outside brackets the structure comes from the indentation: a deeper column opens a
collection, a column further left closes the deeper ones.

That a scalar or a collection was a key is known only when the colon behind it is met.  Until
then it is a candidate (`KeyCandidate`); the colon puts the key token in front of it.  A
candidate must be on the line of its colon and not more than 1024 bytes before it.

Configuration files need block and flow collections, plain and quoted scalars, comments and
document marks.  Anchors, aliases, tags, directives and blocks of text are refused.
-/
import RouteDiscovery.Yaml.Scalar

namespace RouteDiscovery.Yaml

/-- A token. -/
inductive Token where
  /-- `---` -/
  | documentStart
  /-- `...` -/
  | documentEnd
  | listStart
  | mappingStart
  /-- A collection by indentation ends. -/
  | blockEnd
  /-- `[` -/
  | bracketOpen
  /-- `]` -/
  | bracketClose
  /-- `{` -/
  | braceOpen
  /-- `}` -/
  | braceClose
  /-- `,` -/
  | comma
  /-- `-` -/
  | entry
  /-- A key follows. -/
  | key
  /-- `:` -/
  | value
  /-- A scalar; `plain` if it has no quotes. -/
  | scalar (plain : Bool) (text : String)
deriving DecidableEq, Repr, Inhabited

/-- What may turn out to be a key. -/
structure KeyCandidate where
  position : Nat
  place : Place
  /-- Whether nothing but a key can stand there. -/
  required : Bool
deriving Repr

/-- The state of reading tokens. -/
structure Reading where
  cursor : Cursor
  tokens : List Token := []
  /-- The columns of the open collections by indentation, the innermost first. -/
  indents : List Nat := []
  keyAllowed : Bool := true
  /-- The key candidate inside the innermost brackets. -/
  candidate : Option KeyCandidate := none
  /-- The key candidates around the open brackets, the innermost first. -/
  outer : List (Option KeyCandidate) := []
deriving Repr

namespace Reading

/-- The longest distance from the start of a key to its colon, in bytes. -/
def maxKeyDistance : Nat := 1024

/-- Whether brackets are open. -/
def inBrackets (r : Reading) : Bool := !r.outer.isEmpty

/-- The column of the cursor. -/
def column (r : Reading) : Nat := r.cursor.place.column

/-- Appends a token. -/
def emit (r : Reading) (t : Token) : Reading := { r with tokens := r.tokens ++ [t] }

/-- Appends a token that the next characters write. -/
def take (r : Reading) (n : Nat) (t : Token) : Reading :=
  { r.emit t with cursor := r.cursor.right n }

/-- Puts tokens in front of those from a position on. -/
def insert (r : Reading) (position : Nat) (ts : List Token) : Reading :=
  { r with tokens := r.tokens.take position ++ ts ++ r.tokens.drop position }

/-! ## Indentation -/

/-- Whether a column is deeper than all open collections. -/
def opens (r : Reading) (column : Nat) : Bool :=
  !r.inBrackets && r.indents.head?.all (· < column)

/-- Opens a collection at a column, at a position of the tokens, if the column is deeper. -/
def openAt (r : Reading) (column position : Nat) (t : Token) : Reading :=
  if r.opens column then { r.insert position [t] with indents := column :: r.indents } else r

/-- Opens a collection here if the column is deeper. -/
def openHere (r : Reading) (t : Token) : Reading := r.openAt r.column r.tokens.length t

/-- Closes the collections that are deeper than a column. -/
def closeTo (r : Reading) (column : Nat) : Reading :=
  if r.inBrackets then r
  else
    let closed := r.indents.takeWhile (column < ·)
    { r with indents := r.indents.drop closed.length,
             tokens := r.tokens ++ closed.map fun _ => .blockEnd }

/-- Closes all collections by indentation. -/
def closeAll (r : Reading) : Reading :=
  if r.inBrackets then r
  else { r with indents := [], tokens := r.tokens ++ r.indents.map fun _ => .blockEnd }

/-! ## Key candidates -/

/-- Drops a candidate that is too far away; fails if it had to be a key. -/
def refresh (p : Place) : Option KeyCandidate → Except Error (Option KeyCandidate)
  | none => .ok none
  | some k =>
    if k.place.line < p.line ∨ k.place.index + maxKeyDistance < p.index then
      if k.required then .error .missingColon else .ok none
    else .ok (some k)

/-- Drops all candidates that are too far away. -/
def refreshAll (r : Reading) : Except Error Reading := do
  let candidate ← refresh r.cursor.place r.candidate
  let outer ← r.outer.mapM (refresh r.cursor.place)
  return { r with candidate, outer }

/-- Gives up the candidate; fails if it had to be a key. -/
def dropCandidate (r : Reading) : Except Error Reading :=
  if r.candidate.any (·.required) then .error .missingColon else .ok { r with candidate := none }

/-- Makes what starts here the candidate, if a key may start here. -/
def markCandidate (r : Reading) : Except Error Reading := do
  if !r.keyAllowed then return r
  let r ← r.dropCandidate
  let required := !r.inBrackets && r.indents.head? = some r.column
  return { r with candidate := some ⟨r.tokens.length, r.cursor.place, required⟩ }

/-! ## Tokens one by one -/

def mark (r : Reading) (t : Token) : Except Error Reading := do
  let r ← r.closeAll.dropCandidate
  return { r with keyAllowed := false }.take 3 t

def openBracket (r : Reading) (t : Token) : Except Error Reading := do
  let r ← r.markCandidate
  return { r with outer := r.candidate :: r.outer, candidate := none, keyAllowed := true }.take 1 t

def closeBracket (r : Reading) (t : Token) : Except Error Reading := do
  let r ← r.dropCandidate
  let r := match r.outer with
    | [] => r
    | candidate :: outer => { r with candidate, outer }
  return { r with keyAllowed := false }.take 1 t

def takeComma (r : Reading) : Except Error Reading := do
  return { ← r.dropCandidate with keyAllowed := true }.take 1 .comma

/-- The dash before a list entry. -/
def takeEntry (r : Reading) : Except Error Reading := do
  if !r.inBrackets && !r.keyAllowed then throw .notAllowedHere
  let opened ← (r.openHere .listStart).dropCandidate
  return { opened with keyAllowed := true }.take 1 .entry

/-- The question mark before a key. -/
def takeKey (r : Reading) : Except Error Reading := do
  if !r.inBrackets && !r.keyAllowed then throw .notAllowedHere
  let opened ← (r.openHere .mappingStart).dropCandidate
  return { opened with keyAllowed := !r.inBrackets }.take 1 .key

/-- The colon after a key. -/
def takeValue (r : Reading) : Except Error Reading :=
  match r.candidate with
  | some k =>
    let r := (r.insert k.position [.key]).openAt k.place.column k.position .mappingStart
    return { r with candidate := none, keyAllowed := false }.take 1 .value
  | none =>
    if !r.inBrackets && !r.keyAllowed then .error .notAllowedHere
    else return { r.openHere .mappingStart with keyAllowed := !r.inBrackets }.take 1 .value

def takeQuoted (r : Reading) (double : Bool) : Except Error Reading := do
  let r ← r.markCandidate
  let start := r.cursor.right 1
  let s ← quotedText double .nothing [] {} start.rest start.place
  return { r.emit (.scalar false (String.ofList s.value)) with
             cursor := s.cursor, keyAllowed := false }

def takePlain (r : Reading) : Except Error Reading := do
  let r ← r.markCandidate
  let indent := match r.indents with
    | [] => 0
    | column :: _ => column + 1
  let s ← plainText r.inBrackets indent [] {} r.cursor.rest r.cursor.place
  return { r.emit (.scalar true (String.ofList s.value)) with
             cursor := s.cursor, keyAllowed := s.broken }

/-- Characters that start no plain text. -/
def startsNoPlain (c : Char) : Bool :=
  isBracketMark c || "#&*!|>'\"%@\x60".contains c

/-- Reads the token that starts with a character. -/
def takeToken (r : Reading) (c : Char) (s : List Char) : Except Error Reading :=
  if r.column = 0 && c = '%' then .error .unsupported
  else if r.cursor.atMark '-' then r.mark .documentStart
  else if r.cursor.atMark '.' then r.mark .documentEnd
  else if c = '[' then r.openBracket .bracketOpen
  else if c = '\x7b' then r.openBracket .braceOpen
  else if c = ']' then r.closeBracket .bracketClose
  else if c = '\x7d' then r.closeBracket .braceClose
  else if c = ',' then r.takeComma
  else if c = '-' && gapFollows s then r.takeEntry
  else if c = '?' && (r.inBrackets || gapFollows s) then r.takeKey
  else if c = ':' && (r.inBrackets || gapFollows s) then r.takeValue
  else if c = '*' || c = '&' || c = '!' then .error .unsupported
  else if (c = '|' || c = '>') && !r.inBrackets then .error .unsupported
  else if c = '\x27' then r.takeQuoted false
  else if c = '\x22' then r.takeQuoted true
  else if startsNoPlain c || isSpace c then .error .unexpectedCharacter
  else r.takePlain

/-- Goes to the next token: white space, distant candidates, closed collections. -/
def advance (r : Reading) : Except Error Reading := do
  let skipped := skipWhite r.inBrackets false r.keyAllowed r.cursor.rest r.cursor.place
  let r ← { r with cursor := skipped.cursor, keyAllowed := skipped.keyAllowed }.refreshAll
  return if r.cursor.rest.isEmpty then r else r.closeTo r.column

/-- Ends the reading. -/
def finish (r : Reading) : Except Error (List Token) := do
  return (← r.closeAll.dropCandidate).tokens

/-- Reads all tokens, of a text that has fewer characters than the first argument. -/
def run : Nat → Reading → Except Error (List Token)
  | 0, r => r.finish
  | n + 1, r => do
    let r ← r.advance
    match r.cursor.rest with
    | [] => r.finish
    | c :: s => run n (← r.takeToken c s)

end Reading

/-- The tokens of a text. -/
def tokens (text : String) : Except Error (List Token) :=
  let s := text.toList
  if s.all isAllowed then Reading.run (s.length + 1) { cursor := ⟨s, {}⟩ }
  else .error .controlCharacter

end RouteDiscovery.Yaml
