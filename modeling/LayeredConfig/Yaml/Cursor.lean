import LayeredConfig.Yaml.Fault

/-!
# Reading positions

A cursor is the rest of a text with the line and the column where it stands. Lines end with a
line feed, a carriage return, both in this order, a next-line character, or one of the two
Unicode separators. The number of characters left bounds every loop over the rest.
-/

namespace LayeredConfig.Yaml

/-! ## Character classes -/

/-- Whether the character ends a line. -/
def isBreak (c : Char) : Bool :=
  c == '\n' || c == '\r' || c == '\u0085' || c == '\u2028' || c == '\u2029'

/-- Spaces and tabs. -/
def isSpace (c : Char) : Bool := c == ' ' || c == '\t'

/-- Letters, digits, underscores and dashes. -/
def isWord (c : Char) : Bool := c.isAlphanum || c == '_' || c == '-'

/-- Whether a document may hold the character. -/
def isAllowed (c : Char) : Bool :=
  let n := c.toNat
  n == 0x09 || n == 0x0A || n == 0x0D || (0x20 ≤ n && n ≤ 0x7E) || n == 0x85 ||
    (0xA0 ≤ n && n ≤ 0xD7FF) || (0xE000 ≤ n && n ≤ 0xFFFD) || 0x10000 ≤ n

/-- Whether the text is at its end, or a space or a line break stands next. -/
def blankNext : List Char → Bool
  | [] => true
  | c :: _ => isSpace c || isBreak c

/-- Whether the character stands next. -/
def nextIs (c : Char) : List Char → Bool
  | [] => false
  | d :: _ => d == c

/-- Whether one of the characters stands next. -/
def nextAmong (cs : List Char) : List Char → Bool
  | [] => false
  | d :: _ => cs.contains d

/-! ## Cursors -/

/-- How many octets the characters take up in UTF-8. -/
def octetsOf (s : List Char) : Nat := s.foldl (fun octets c => octets + c.utf8Size) 0

/-- The rest of a text, its length, the number of octets read, and the place. -/
structure Cursor where
  rest : List Char
  left : Nat
  index : Nat
  line : Nat
  column : Nat

namespace Cursor

/-- The start of a text. -/
def start (s : List Char) : Cursor := ⟨s, s.length, 0, 0, 0⟩

/-- Passes over characters that end no line. -/
def advance (c : Cursor) (count : Nat) : Cursor :=
  ⟨c.rest.drop count, c.left - count, c.index + octetsOf (c.rest.take count), c.line,
    c.column + count⟩

/-- Passes over the characters of a class, none of which ends a line. -/
def skipWhile (c : Cursor) (p : Char → Bool) : Cursor := c.advance (c.rest.takeWhile p).length

/-- Passes over a line break, if one stands next, and tells what it contributes to a text: a line
feed, or the separator itself. -/
def newline (c : Cursor) : List Char × Cursor :=
  let next (count : Nat) : Cursor :=
    ⟨c.rest.drop count, c.left - count, c.index + octetsOf (c.rest.take count), c.line + 1, 0⟩
  match c.rest with
  | '\r' :: '\n' :: _ => (['\n'], next 2)
  | '\u2028' :: _ => (['\u2028'], next 1)
  | '\u2029' :: _ => (['\u2029'], next 1)
  | d :: _ => if isBreak d then (['\n'], next 1) else ([], c)
  | [] => ([], c)

/-- Whether three dashes or three dots stand alone at the start of a line. -/
def atDocumentMark (c : Cursor) : Bool :=
  c.column == 0 && match c.rest with
    | '-' :: '-' :: '-' :: s => blankNext s
    | '.' :: '.' :: '.' :: s => blankNext s
    | _ => false

/-- Passes over spaces and a comment that follows them. -/
def skipComment (c : Cursor) : Cursor :=
  let c := c.skipWhile isSpace
  if nextIs '#' c.rest then c.skipWhile fun d => !isBreak d else c

/-- Whether the line or the text ends here. -/
def atLineEnd (c : Cursor) : Bool :=
  match c.rest with
  | [] => true
  | d :: _ => isBreak d

end Cursor

end LayeredConfig.Yaml
