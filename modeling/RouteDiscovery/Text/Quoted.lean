/-
# Quoted text

A text between double quotes in which quotes, backslashes, line ends, tabs and everything that
does not show are written as escapes.
-/
import RouteDiscovery.Text.Invisible

namespace RouteDiscovery.Text

/-- The escape of a character by its code point. -/
def codeEscape (c : Char) : List Char :=
  '\\' :: 'u' :: '\x7b' :: Nat.toDigits 16 c.toNat ++ ['\x7d']

/-- How one character is written. -/
def escapeChar (c : Char) : List Char :=
  if c = '\x00' then ['\\', '0']
  else if c = '\t' then ['\\', 't']
  else if c = '\r' then ['\\', 'r']
  else if c = '\n' then ['\\', 'n']
  else if c = '\\' ∨ c = '\x22' then ['\\', c]
  else if isInvisible c then codeEscape c
  else [c]

/-- A text between quotes. -/
def quoted (text : String) : String :=
  String.ofList ('\x22' :: text.toList.flatMap escapeChar ++ ['\x22'])

/-- The text inside a pair of surrounding quotes; other texts are left alone. -/
def unquoted (text : String) : String :=
  match text.toList with
  | '\x22' :: rest => if rest.getLast? = some '\x22' then String.ofList rest.dropLast else text
  | _ => text

end RouteDiscovery.Text
