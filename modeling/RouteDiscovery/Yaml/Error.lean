/-
# Why a YAML text cannot be read
-/

namespace RouteDiscovery.Yaml

/-- Why a text is no YAML document, or not one that is understood here. -/
inductive Error where
  | controlCharacter
  | unexpectedCharacter
  | missingColon
  /-- A list entry, a key or a value where none may start. -/
  | notAllowedHere
  | tabIndentation
  /-- A colon before a bracket in a plain text. -/
  | unexpectedColon
  | documentMarkInQuotes
  | unclosedQuotes
  | unknownEscape
  /-- An escape of something that is no character. -/
  | invalidEscape
  /-- An anchor, an alias, a tag, a directive or a block of text. -/
  | unsupported
  | missingContent
  /-- A collection that does not go on and does not end. -/
  | unclosedCollection
  /-- Something after the end of the document. -/
  | moreThanOneDocument
  | wrongForm
deriving DecidableEq, Repr, Inhabited

def Error.message : Error → String
  | controlCharacter => "control characters are not allowed"
  | unexpectedCharacter => "found character that cannot start any token"
  | missingColon => "could not find expected ':'"
  | notAllowedHere => "entries are not allowed in this context"
  | tabIndentation => "found a tab character that violates indentation"
  | unexpectedColon => "found unexpected ':'"
  | documentMarkInQuotes => "found unexpected document indicator"
  | unclosedQuotes => "found unexpected end of stream"
  | unknownEscape => "found unknown escape character"
  | invalidEscape => "found invalid Unicode character escape code"
  | unsupported => "found a form that is not supported"
  | missingContent => "did not find expected node content"
  | unclosedCollection => "did not find expected end of collection"
  | moreThanOneDocument => "found more than one document"
  | wrongForm => "found a value of an unexpected form"

end RouteDiscovery.Yaml
