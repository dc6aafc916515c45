import LayeredConfig.Text.Quoted

/-!
# Failures

What can go wrong with a single value, with a property of a configuration, and while a source is
built. Each failure is a cause with its data; the wording stands in one function beside it, and
`causes` lists the wordings of the failures behind it, nearest first.
-/

namespace LayeredConfig

open Text

/-- A raw value that a parser does not accept. -/
structure ParseFailure where
  value : String
  typeName : String
  reason : String
deriving DecidableEq, Repr, Inhabited

namespace ParseFailure

def message (e : ParseFailure) : String :=
  "Unable to parse '" ++ e.value ++ "' as " ++ e.typeName ++ ": " ++ e.reason

def causes (_ : ParseFailure) : List String := []

def inspect (e : ParseFailure) : String :=
  writeRecord "ValueParseError"
    [("value", quoted e.value), ("type_name", quoted e.typeName), ("reason", quoted e.reason)] false

end ParseFailure

/-- A property whose value, as a source provides it, is not accepted. -/
structure InvalidProperty where
  key : String
  sourceName : String
  failure : ParseFailure
deriving DecidableEq, Repr, Inhabited

namespace InvalidProperty

/-- The value that was not accepted. -/
def rawValue (e : InvalidProperty) : String := e.failure.value

def message (e : InvalidProperty) : String :=
  "Invalid value for property '" ++ e.key ++ "' provided by '" ++ e.sourceName ++ "': " ++
    e.failure.message

def causes (e : InvalidProperty) : List String := e.failure.message :: e.failure.causes

def inspect (e : InvalidProperty) : String :=
  writeRecord "InvalidPropertyError"
    [("key", quoted e.key), ("source_name", quoted e.sourceName), ("error", e.failure.inspect)]
    false

end InvalidProperty

/-- Why a configuration cannot be built or is not accepted. `cause` is the wording of what lies
behind the failure, if anything does. -/
inductive ConfigError where
  | source (name message : String) (cause : Option String)
  | parse (message : String) (cause : Option String)
  | invalid (property : InvalidProperty)
  | io (message : String)
deriving DecidableEq, Repr, Inhabited

namespace ConfigError

def message : ConfigError → String
  | source name message _ => "Property source '" ++ name ++ "' error: " ++ message
  | parse message _ => "Failed to parse configuration: " ++ message
  | invalid property => property.message
  | io message => "I/O error: " ++ message

/-- An invalid property is passed through as it is, so its causes are those of the property. -/
def causes : ConfigError → List String
  | source _ _ cause => cause.toList
  | parse _ cause => cause.toList
  | invalid property => property.causes
  | io message => [message]

end ConfigError

end LayeredConfig
