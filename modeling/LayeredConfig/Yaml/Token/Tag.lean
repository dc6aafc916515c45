import LayeredConfig.Number.Digits
import LayeredConfig.Yaml.Cursor
import LayeredConfig.Yaml.Token

/-!
# Tags, anchors and directives

A tag is verbatim between angle brackets, or a handle and a suffix. In a suffix, escapes of two
hexadecimal digits give the octets of characters. A suffix counts up to its first null character
only; what follows that must be well-formed all the same.
-/

namespace LayeredConfig.Yaml

open Number

/-! ## Suffixes -/

/-- The characters of a tag suffix besides letters, digits, underscores and dashes. -/
def suffixMarks : List Char :=
  [';', '/', '?', ':', '@', '&', '=', '+', '$', '.', '%', '!', '~', '*', '\x27', '(', ')']

/-- Whether the character may stand in a tag suffix; flow marks only in a verbatim one. -/
def isSuffixChar (verbatim : Bool) (c : Char) : Bool :=
  isWord c || suffixMarks.contains c || (verbatim && [',', '[', ']'].contains c)

/-- Reads one escaped octet. -/
def escapedOctet? : List Char → Option (Nat × List Char)
  | '%' :: a :: b :: s => (natural? 16 [a, b]).map fun n => (n, s)
  | _ => none

/-- How many octets a character has, by its first one. -/
def octetCount? (octet : Nat) : Option Nat :=
  if octet < 0x80 then some 1
  else if 0xC0 ≤ octet ∧ octet < 0xE0 then some 2
  else if 0xE0 ≤ octet ∧ octet < 0xF0 then some 3
  else if 0xF0 ≤ octet ∧ octet < 0xF8 then some 4
  else none

/-- Reads further octets of a character. -/
def furtherOctets : Nat → List Char → Except Fault (List Nat × List Char)
  | 0, s => .ok ([], s)
  | count + 1, s =>
    match escapedOctet? s with
    | some (octet, s) =>
      if 0x80 ≤ octet ∧ octet < 0xC0 then
        (furtherOctets count s).map fun p => (octet :: p.1, p.2)
      else .error .tagText
    | none => .error .tagText

/-- The character of the escaped octets, and none where they make up no character. -/
def escapedChar (s : List Char) : Except Fault (Option Char × List Char) :=
  match escapedOctet? s with
  | none => .error .tagText
  | some (first, s) =>
    match octetCount? first with
    | none => .error .tagText
    | some count => (furtherOctets (count - 1) s).map fun (octets, s) =>
      let bytes := ByteArray.mk ((first :: octets).map UInt8.ofNat).toArray
      ((String.fromUTF8? bytes).bind fun text => text.toList.head?, s)

/-- The characters of the suffix at the start of a text, with none for escapes that make up no
character, and what follows the suffix. -/
def suffixChars (verbatim : Bool) :
    Nat → List Char → Except Fault (List (Option Char) × List Char)
  | 0, _ => .error .endless
  | fuel + 1, s =>
    match s with
    | [] => .ok ([], [])
    | c :: rest =>
      if !isSuffixChar verbatim c then .ok ([], s)
      else do
        let (first, rest) ← if c == '%' then escapedChar s else .ok (some c, rest)
        let (others, rest) ← suffixChars verbatim fuel rest
        .ok (first :: others, rest)

/-- A suffix: its text, whether its escapes make up characters, and whether anything at all was
written. -/
structure Suffix where
  text : List Char
  sound : Bool
  written : Bool

/-- The suffix of the characters before the first null character. -/
def Suffix.ofChars (chars : List (Option Char)) : Suffix :=
  let kept := chars.takeWhile (· != some '\x00')
  ⟨kept.map (·.getD '\ufffd'), kept.all Option.isSome, !chars.isEmpty⟩

/-- Reads a suffix. -/
def readSuffix (verbatim : Bool) (c : Cursor) : Except Fault (Suffix × Cursor) := do
  let (chars, rest) ← suffixChars verbatim (c.left + 1) c.rest
  return (.ofChars chars, c.advance (c.left - rest.length))

/-! ## Handles and tags -/

/-- Reads a handle: a mark, word characters, and a mark if one follows. -/
def readHandle (c : Cursor) : Except Fault (List Char × Cursor) :=
  match c.rest with
  | '!' :: s =>
    let word := s.takeWhile isWord
    let c := c.advance (word.length + 1)
    if nextIs '!' c.rest then .ok ('!' :: word ++ ['!'], c.advance 1) else .ok ('!' :: word, c)
  | _ => .error .tagText

/-- Whether a handle is closed by a second mark. -/
def isClosedHandle (handle : List Char) : Bool :=
  1 < handle.length && handle.getLast? == some '!'

/-- Reads a tag. Where no closed handle starts it, everything after the mark is the suffix; a mark
alone has itself for the suffix and no handle. -/
def readTag (inFlow : Bool) (c : Cursor) : Except Fault (TagToken × Cursor) := do
  let (tag, c) ←
    if nextIs '<' (c.rest.drop 1) then do
      let (suffix, c) ← readSuffix true (c.advance 2)
      if !suffix.written || !nextIs '>' c.rest then throw .tagText
      pure (TagToken.mk [] suffix.text suffix.sound, c.advance 1)
    else do
      let (handle, c) ← readHandle c
      let (suffix, c) ← readSuffix false c
      if isClosedHandle handle then
        if !suffix.written then throw .tagText
        pure (TagToken.mk handle suffix.text suffix.sound, c)
      else
        let text := handle.drop 1 ++ suffix.text
        pure (if text = [] then ⟨[], ['!'], true⟩ else ⟨['!'], text, suffix.sound⟩, c)
  if !blankNext c.rest && !(inFlow && nextIs ',' c.rest) then throw .tagText
  return (tag, c)

/-! ## Anchors -/

/-- Reads the name of an anchor or an alias after its mark. -/
def readAnchorName (c : Cursor) : Except Fault (List Char × Cursor) :=
  let name := c.rest.takeWhile isWord
  let c := c.advance name.length
  let closed :=
    blankNext c.rest || nextAmong ['?', ':', ',', ']', '\x7d', '%', '@', '\x60'] c.rest
  if name ≠ [] && closed then .ok (name, c)
  else .error .anchorName

/-! ## Directives -/

/-- Reads a number of a version, nine digits at most. -/
def readVersionNumber (c : Cursor) : Except Fault (Nat × Cursor) :=
  let digits := c.rest.takeWhile isDigit
  match natural? 10 digits with
  | some n => if digits.length ≤ 9 then .ok (n, c.advance digits.length) else .error .directive
  | none => .error .directive

/-- Reads a directive after its mark, to the end of its line. -/
def readDirective (c : Cursor) : Except Fault (Token × Cursor) := do
  let name := c.rest.takeWhile isWord
  let c := c.advance name.length
  if name = [] || !blankNext c.rest then throw .directive
  let c := c.skipWhile isSpace
  let (token, c) ←
    if name = "YAML".toList then do
      let (major, c) ← readVersionNumber c
      if !nextIs '.' c.rest then throw .directive
      let (minor, c) ← readVersionNumber (c.advance 1)
      pure (Token.version major minor, c)
    else if name = "TAG".toList then do
      let (handle, c) ← readHandle c
      if handle ≠ ['!'] && !isClosedHandle handle then throw .directive
      if !nextAmong [' ', '\t'] c.rest then throw .directive
      let (stem, c) ← readSuffix true (c.skipWhile isSpace)
      if !stem.written || !blankNext c.rest then throw .directive
      pure (Token.tagHandle handle stem.text stem.sound, c)
    else throw .directive
  let c := c.skipComment
  if !c.atLineEnd then throw .directive
  return (token, c.newline.2)

end LayeredConfig.Yaml
