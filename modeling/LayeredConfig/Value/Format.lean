import LayeredConfig.Address.Reading
import LayeredConfig.Number.Integer
import LayeredConfig.Number.Layout
import LayeredConfig.Text.Quoted

/-!
# Text formats of scalar values

A format says how the values of one type are read from a text and how they are written. Reading
takes the text as it is; trimming is left to the parsers that use the format. A type is told by its
full name, from which its short one is taken (`shortTypeName`).
-/

namespace LayeredConfig

open Number Text

/-! ## Names of types -/

/-- The characters before the first two colons. -/
def beforeColons : List Char → List Char
  | ':' :: ':' :: _ => []
  | c :: s => c :: beforeColons s
  | [] => []

/-- The short name of a type: the last part of its path, without the arguments in angle brackets. -/
def shortTypeName (fullName : String) : String :=
  let path := fullName.toList.takeWhile (· ≠ '<')
  String.ofList (beforeColons path.reverse).reverse

/-! ## Formats -/

/-- The text format of a type: its full name, a reader that gives a reason when it refuses, and the
written form for users (`write`) and for diagnostics (`inspect`). -/
structure Format (α : Type) where
  fullName : String
  read : List Char → Except String α
  write : α → String
  inspect : α → String

namespace Format

/-- The name of the type in failures and descriptions. -/
def name {α : Type} (format : Format α) : String := shortTypeName format.fullName

/-- Texts, each its own value. -/
def text : Format String where
  fullName := "alloc::string::String"
  read s := .ok (String.ofList s)
  write s := s
  inspect := quoted

/-- The words `true` and `false`. -/
def truth : Format Bool where
  fullName := "bool"
  read s :=
    if s = "true".toList then .ok true
    else if s = "false".toList then .ok false
    else .error "provided string was not `true` or `false`"
  write b := if b then "true" else "false"
  inspect b := if b then "true" else "false"

/-- Single characters. -/
def character : Format Char where
  fullName := "char"
  read
    | [] => .error "cannot parse char from empty string"
    | [c] => .ok c
    | _ => .error "too many characters in string"
  write c := String.singleton c
  inspect := quotedChar

/-- Decimal integers of a width. -/
def integer (name : String) (type : IntegerType) : Format Int where
  fullName := name
  read s := (type.read s).mapError IntegerFault.message
  write := decimalText
  inspect := decimalText

/-- Decimal integers of a width, zero left out. -/
def nonZero (name : String) (type : IntegerType) : Format Int where
  fullName := "core::num::nonzero::NonZero<" ++ name ++ ">"
  read s := (type.readNonZero s).mapError IntegerFault.message
  write := decimalText
  inspect := decimalText

/-- Floating-point numbers of a binary format. -/
def floating (name : String) (binary : BinaryFormat) : Format Floating where
  fullName := name
  read s := (binary.read s).mapError FloatingFault.message
  write := Layout.plain.write binary
  inspect := Layout.diagnostic.write binary

/-- A format of addresses, which are written alike for every reader. -/
def address {α : Type} (fullName reason : String) (read? : List Char → Option α)
    (write : α → String) : Format α where
  fullName := fullName
  read s := match read? s with
    | some a => .ok a
    | none => .error reason
  write := write
  inspect := write

def shortAddress : Format Address.Short :=
  address "core::net::ip_addr::Ipv4Addr" "invalid IPv4 address syntax"
    Address.Short.read? Address.Short.write

def longAddress : Format Address.Long :=
  address "core::net::ip_addr::Ipv6Addr" "invalid IPv6 address syntax"
    Address.Long.read? Address.Long.write

def host : Format Address.Host :=
  address "core::net::ip_addr::IpAddr" "invalid IP address syntax"
    Address.Host.read? Address.Host.write

def socket : Format Address.Socket :=
  address "core::net::socket_addr::SocketAddr" "invalid socket address syntax"
    Address.Socket.read? Address.Socket.write

end Format

/-! ## Closed vocabularies -/

/-- A type with finitely many words as values. Each word has the name under which diagnostics
show it. -/
structure Vocabulary where
  fullName : String
  noun : String
  words : List (String × String)
  /-- Whether ASCII letters are upper-cased before the words are compared. -/
  upperCases : Bool

/-- The values of a vocabulary are its words. -/
def Vocabulary.format (v : Vocabulary) : Format String where
  fullName := v.fullName
  read s :=
    let word := String.ofList (if v.upperCases then s.map asciiUpperChar else s)
    if v.words.any (·.1 == word) then .ok word
    else .error ("no " ++ v.noun ++ " named " ++ word)
  write word := word
  inspect word := ((v.words.find? (·.1 == word)).map (·.2)).getD word

/-- Scanning tools, written in any case. -/
def Vocabulary.tools : Vocabulary :=
  ⟨"Tool", "tool", [("SIGNATURE", "Signature"), ("BINARY", "Binary"), ("DOCKER", "Docker")], true⟩

end LayeredConfig
