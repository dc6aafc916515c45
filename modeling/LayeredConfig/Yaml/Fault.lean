/-!
# Faults of a document

Why a text is no document. The causes are told apart only as far as a reader of a message is
helped by it.
-/

namespace LayeredConfig.Yaml

/-- Why a text is no document. -/
inductive Fault where
  | controlCharacter
  | directive
  | tabIndentation
  | keyWithoutColon
  | misplaced (what : String)
  | anchorName
  | tagText
  | blockHeader
  | quotedText
  | unexpectedCharacter
  | unexpectedToken (expected : String)
  | duplicateDirective
  | incompatibleVersion
  | undefinedTagHandle
  | unknownAnchor
  | moreThanOneDocument
  | wrongTag (expected : String)
  | numberTooWide
  | duplicateKey
  | tooDeep
  | tooManyAliases
  | endless
deriving DecidableEq, Repr, Inhabited

/-- The wording of a fault. -/
def Fault.message : Fault → String
  | controlCharacter => "control characters are not allowed"
  | directive => "malformed directive"
  | tabIndentation => "found a tab character that violates indentation"
  | keyWithoutColon => "could not find expected ':'"
  | misplaced what => what ++ " are not allowed in this context"
  | anchorName => "did not find expected alphabetic or numeric character"
  | tagText => "malformed tag"
  | blockHeader => "malformed header of a block scalar"
  | quotedText => "malformed quoted scalar"
  | unexpectedCharacter => "found character that cannot start any token"
  | unexpectedToken expected => "did not find expected " ++ expected
  | duplicateDirective => "found duplicate directive"
  | incompatibleVersion => "found incompatible YAML document"
  | undefinedTagHandle => "found undefined tag handle"
  | unknownAnchor => "unknown anchor"
  | moreThanOneDocument =>
    "deserializing from YAML containing more than one document is not supported"
  | wrongTag expected => "invalid value: expected " ++ expected
  | numberTooWide => "number does not fit 64 bits"
  | duplicateKey => "duplicate entry in mapping"
  | tooDeep => "recursion limit exceeded"
  | tooManyAliases => "repetition limit exceeded"
  | endless => "no progress"

/-- How many collections a document may nest. -/
def nestingLimit : Nat := 128

end LayeredConfig.Yaml
