/-
This file lists why a text is not a document.
-/

namespace Graft.Yaml

/-- Each cause stands for one rule of the document format that a text breaks. -/
inductive Fault where
  | controlCharacter
  | unfinishedKey
  | misplacedEntry
  | misplacedKey
  | misplacedValue
  | badDirective
  | badAnchor
  | badTag
  | badEscape
  | badBlockHeader
  | tabIndentation
  | unfinishedQuote
  | badPlainScalar
  | badStart
  | unexpectedToken
  | undefinedHandle
  | undefinedAnchor
  | badTaggedScalar
  | numberOutOfRange
  | duplicateKey
  | tooDeep
  | tooManyAliases
  | severalDocuments
  | unexpectedShape
  | duplicateField
  deriving DecidableEq, Repr

def Fault.message : Fault → String
  | .controlCharacter => "control characters are not allowed"
  | .unfinishedKey => "a key has no ':'"
  | .misplacedEntry => "a sequence entry is not allowed here"
  | .misplacedKey => "a mapping key is not allowed here"
  | .misplacedValue => "a mapping value is not allowed here"
  | .badDirective => "malformed directive"
  | .badAnchor => "malformed anchor or alias"
  | .badTag => "malformed tag"
  | .badEscape => "unknown escape in a quoted scalar"
  | .badBlockHeader => "malformed block scalar header"
  | .tabIndentation => "a tab stands where indentation is expected"
  | .unfinishedQuote => "a quoted scalar does not end"
  | .badPlainScalar => "unexpected ':' in a plain scalar"
  | .badStart => "a character that cannot start a token"
  | .unexpectedToken => "the document has a token out of place"
  | .undefinedHandle => "undefined tag handle"
  | .undefinedAnchor => "undefined anchor"
  | .badTaggedScalar => "the scalar does not suit its tag"
  | .numberOutOfRange => "the integer does not fit 64 bits"
  | .duplicateKey => "duplicate key in a mapping"
  | .tooDeep => "the document is nested too deeply"
  | .tooManyAliases => "the document repeats its aliases too often"
  | .severalDocuments => "more than one document"
  | .unexpectedShape => "a value of another shape is expected"
  | .duplicateField => "duplicate field"

end Graft.Yaml
