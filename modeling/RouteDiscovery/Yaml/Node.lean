/-
# YAML nodes

A document is one node: a scalar, a list or a mapping.  `Node.ofTokens` finds the node that a
sequence of tokens describes; a key without a value, a value without a key and an entry without
content stand for the empty plain scalar.
-/
import RouteDiscovery.Record.Source
import RouteDiscovery.Yaml.Token

namespace RouteDiscovery.Yaml

/-- A node. -/
inductive Node where
  /-- A scalar; `plain` if it has no quotes. -/
  | scalar (plain : Bool) (text : String)
  | list (items : List Node)
  /-- A mapping from keys to values, in order. -/
  | mapping (members : List (Node × Node))
deriving Inhabited

namespace Node

/-- The empty plain scalar. -/
def empty : Node := scalar true ""

/-- The tokens before which a value in a list without a start of its own may be missing. -/
def endsBareEntry : List Token → Bool
  | .entry :: _ | .key :: _ | .value :: _ | .blockEnd :: _ => true
  | _ => false

/-- The tokens before which an entry of a list by indentation may be missing. -/
def endsEntry : List Token → Bool
  | .entry :: _ | .blockEnd :: _ => true
  | _ => false

/-- The tokens before which a key or a value of a mapping by indentation may be missing. -/
def endsMember : List Token → Bool
  | .key :: _ | .value :: _ | .blockEnd :: _ => true
  | _ => false

/-- The tokens before which a key between braces may be missing. -/
def endsBraceKey : List Token → Bool
  | .value :: _ | .comma :: _ | .braceClose :: _ => true
  | _ => false

/-- The tokens before which a value between braces may be missing. -/
def endsBraceValue : List Token → Bool
  | .comma :: _ | .braceClose :: _ => true
  | _ => false

/-- The tokens before which a key between brackets may be missing. -/
def endsBracketKey : List Token → Bool
  | .value :: _ | .comma :: _ | .bracketClose :: _ => true
  | _ => false

/-- The tokens before which a value between brackets may be missing. -/
def endsBracketValue : List Token → Bool
  | .comma :: _ | .bracketClose :: _ => true
  | _ => false

/-- A node that was found and the tokens after it, or the reason why there is none. -/
abbrev Found : Type := Except Error (Node × List Token)

/-- Where a node stands. -/
structure Position where
  /-- Whether collections by indentation may start. -/
  byIndentation : Bool
  /-- Whether a list may stand at the column of its key. -/
  bareList : Bool
deriving Repr

namespace Position

/-- In a list by indentation or at the top of a document. -/
def entry : Position := ⟨true, false⟩

/-- In a mapping by indentation. -/
def member : Position := ⟨true, true⟩

/-- Between brackets or braces. -/
def bracket : Position := ⟨false, false⟩

end Position

mutual

/-- Finds a node. -/
def find : Nat → Position → List Token → Found
  | 0, _, _ => .error .missingContent
  | n + 1, pos, ts =>
    match ts with
    | .scalar plain text :: rest => .ok (scalar plain text, rest)
    | .bracketOpen :: rest => findBracketItems n true [] rest
    | .braceOpen :: rest => findBraceMembers n true [] rest
    | .listStart :: rest =>
      if pos.byIndentation then findItems n [] rest else .error .missingContent
    | .mappingStart :: rest =>
      if pos.byIndentation then findMembers n [] rest else .error .missingContent
    | .entry :: _ => if pos.bareList then findBareItems n [] ts else .error .missingContent
    | _ => .error .missingContent

/-- Finds a node unless it may be missing and is. -/
def findUnless : Nat → Bool → Position → List Token → Found
  | 0, _, _, _ => .error .missingContent
  | n + 1, missing, pos, ts => if missing then .ok (empty, ts) else find n pos ts

/-- Finds the further items of a list by indentation. -/
def findItems : Nat → List Node → List Token → Found
  | 0, _, _ => .error .unclosedCollection
  | n + 1, items, ts =>
    match ts with
    | .entry :: rest => do
      let (item, rest) ← findUnless n (endsEntry rest) .entry rest
      findItems n (items ++ [item]) rest
    | .blockEnd :: rest => .ok (list items, rest)
    | _ => .error .unclosedCollection

/-- Finds the further items of a list at the column of its key. -/
def findBareItems : Nat → List Node → List Token → Found
  | 0, _, _ => .error .unclosedCollection
  | n + 1, items, ts =>
    match ts with
    | .entry :: rest => do
      let (item, rest) ← findUnless n (endsBareEntry rest) .entry rest
      findBareItems n (items ++ [item]) rest
    | _ => .ok (list items, ts)

/-- Finds the further members of a mapping by indentation. -/
def findMembers : Nat → List (Node × Node) → List Token → Found
  | 0, _, _ => .error .unclosedCollection
  | n + 1, members, ts =>
    match ts with
    | .key :: rest => do
      let (k, rest) ← findUnless n (endsMember rest) .member rest
      match rest with
      | .value :: rest =>
        let (v, rest) ← findUnless n (endsMember rest) .member rest
        findMembers n (members ++ [(k, v)]) rest
      | _ => findMembers n (members ++ [(k, empty)]) rest
    | .blockEnd :: rest => .ok (mapping members, rest)
    | _ => .error .unclosedCollection

/-- Finds the further items between brackets. -/
def findBracketItems : Nat → Bool → List Node → List Token → Found
  | 0, _, _, _ => .error .unclosedCollection
  | n + 1, first, items, ts =>
    match ts with
    | .bracketClose :: rest => .ok (list items, rest)
    | _ =>
      match first, ts with
      | true, _ => findBracketItem n items ts
      | false, .comma :: .bracketClose :: rest => .ok (list items, rest)
      | false, .comma :: rest => findBracketItem n items rest
      | false, _ => .error .unclosedCollection

/-- Finds one item between brackets and those after it; a key makes it a mapping of one member. -/
def findBracketItem : Nat → List Node → List Token → Found
  | 0, _, _ => .error .unclosedCollection
  | n + 1, items, ts =>
    match ts with
    | .key :: rest => do
      let (k, rest) ← findPairKey n rest
      match rest with
      | .value :: rest =>
        let (v, rest) ← findUnless n (endsBracketValue rest) .bracket rest
        findBracketItems n false (items ++ [mapping [(k, v)]]) rest
      | _ => findBracketItems n false (items ++ [mapping [(k, empty)]]) rest
    | _ => do
      let (item, rest) ← find n .bracket ts
      findBracketItems n false (items ++ [item]) rest

/-- Finds the key of a mapping of one member; a missing key takes the next token with it. -/
def findPairKey : Nat → List Token → Found
  | 0, _ => .error .missingContent
  | n + 1, ts => if endsBracketKey ts then .ok (empty, ts.drop 1) else find n .bracket ts

/-- Finds the further members between braces. -/
def findBraceMembers : Nat → Bool → List (Node × Node) → List Token → Found
  | 0, _, _, _ => .error .unclosedCollection
  | n + 1, first, members, ts =>
    match ts with
    | .braceClose :: rest => .ok (mapping members, rest)
    | _ =>
      match first, ts with
      | true, _ => findBraceMember n members ts
      | false, .comma :: .braceClose :: rest => .ok (mapping members, rest)
      | false, .comma :: rest => findBraceMember n members rest
      | false, _ => .error .unclosedCollection

/-- Finds one member between braces and those after it. -/
def findBraceMember : Nat → List (Node × Node) → List Token → Found
  | 0, _, _ => .error .unclosedCollection
  | n + 1, members, ts =>
    match ts with
    | .key :: rest => do
      let (k, rest) ← findUnless n (endsBraceKey rest) .bracket rest
      match rest with
      | .value :: rest =>
        let (v, rest) ← findUnless n (endsBraceValue rest) .bracket rest
        findBraceMembers n false (members ++ [(k, v)]) rest
      | _ => findBraceMembers n false (members ++ [(k, empty)]) rest
    | _ => do
      let (k, rest) ← find n .bracket ts
      findBraceMembers n false (members ++ [(k, empty)]) rest

end

/-! ## Documents -/

/-- Ends a document: nothing but end marks may follow. -/
def finish (node : Node) (ts : List Token) : Except Error Node :=
  if ts.all (· = .documentEnd) then .ok node else .error .moreThanOneDocument

/-- Whether a document has no content of its own. -/
def isBare : List Token → Bool
  | [] | .documentStart :: _ | .documentEnd :: _ => true
  | _ => false

/-- The node of a document: without content it is the empty scalar. -/
def ofTokens (ts : List Token) : Except Error Node := do
  let body := match ts with
    | .documentStart :: rest => rest
    | _ => ts
  let marked := ts.head? = some .documentStart
  if ts.isEmpty || (marked && isBare body) then finish empty body
  else
    let (node, rest) ← find (4 * ts.length + 4) .entry body
    finish node rest

/-- The node of a text. -/
def parse (text : String) : Except Error Node := do ofTokens (← tokens text)

/-! ## As a source of records -/

/-- The number that digits write; leading zeros are not allowed. -/
def decimal? (digits : List Char) : Option Nat :=
  match digits with
  | '0' :: _ :: _ => none
  | _ => Text.natOfDigits? 10 digits

/-- The unsigned number that a plain text writes: decimal, or hexadecimal, octal or binary after
its mark. -/
def natOfText? (s : List Char) : Option Nat :=
  let digits := match s with
    | '+' :: rest => rest
    | _ => s
  match digits with
  | '0' :: 'x' :: rest => Text.natOfDigits? 16 rest
  | '0' :: 'o' :: rest => Text.natOfDigits? 8 rest
  | '0' :: 'b' :: rest => Text.natOfDigits? 2 rest
  | _ => decimal? digits

/-- The plain texts that stand for nothing. -/
def nullTexts : List String := ["", "~", "null", "Null", "NULL"]

/-- The text of a scalar. -/
def text? : Node → Option String
  | scalar _ text => some text
  | _ => none

/-- The members of a node, each with its name; an empty plain scalar has none, and a list does not
write a record. -/
def members? : Node → Option (Record.Members Node)
  | scalar true "" => some (.named [])
  | scalar .. | list _ => none
  | mapping members => do
    return .named (← members.mapM fun m => do return (← m.1.text?, m.2))

instance : Record.Source Node where
  nat?
    | scalar true text => natOfText? text.toList
    | _ => none
  text? := text?
  isNothing
    | scalar true text => nullTexts.contains text
    | _ => false
  members? := members?

end Node

end RouteDiscovery.Yaml
