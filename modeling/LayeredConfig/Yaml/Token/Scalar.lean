import LayeredConfig.Number.Digits
import LayeredConfig.Yaml.Token.Gap

/-!
# Texts of scalars

The four forms of a scalar: plain, in single or double quotes, and as a block with an
indentation of its own.
-/

namespace LayeredConfig.Yaml

open Number

/-- The text of parts that are listed last first. -/
def assemble (parts : List (List Char)) : List Char := parts.reverse.flatten

/-! ## Plain scalars -/

/-- The characters of a plain scalar up to white space or a mark that ends it. -/
def plainPart (inFlow : Bool) : List Char → Except Fault (List Char)
  | [] => .ok []
  | c :: s =>
    if isSpace c || isBreak c then .ok []
    else if inFlow && c == ':' && nextAmong [',', '?', '[', ']', '\x7b', '\x7d'] s then
      .error .unexpectedCharacter
    else if c == ':' && blankNext s then .ok []
    else if inFlow && [',', '[', ']', '\x7b', '\x7d'].contains c then .ok []
    else (plainPart inFlow s).map (c :: ·)

/-- The text of a plain scalar, whether a line break follows it, and the place after it. The scalar
ends at a document mark, a comment, or a line that is not indented enough. -/
def plainText (inFlow : Bool) (indent : Int) :
    Nat → List (List Char) → Gap → Cursor → Except Fault (List Char × Bool × Cursor)
  | 0, _, _, _ => .error .endless
  | fuel + 1, parts, gap, c =>
    if c.atDocumentMark || nextIs '#' c.rest then .ok (assemble parts, gap.isBroken, c)
    else do
      let part ← plainPart inFlow c.rest
      let (parts, gap) :=
        if part = [] then (parts, gap) else (part :: gap.joined :: parts, Gap.empty)
      let c := c.advance part.length
      if blankNext c.rest && !c.rest.isEmpty then
        let (gap, c) ← Gap.read (some indent) (c.left + 1) gap c
        if !inFlow && (c.column : Int) < indent then .ok (assemble parts, gap.isBroken, c)
        else plainText inFlow indent fuel parts gap c
      else .ok (assemble parts, gap.isBroken, c)

/-! ## Quoted scalars -/

/-- A part of a quoted scalar without white space: its text, the characters it takes, and whether
an escaped line break ends it. -/
structure QuotedPart where
  text : List Char
  length : Nat
  escapesBreak : Bool

def QuotedPart.empty : QuotedPart := ⟨[], 0, false⟩

/-- Puts a character, which takes `length` characters, in front of a part. -/
def QuotedPart.prepend (c : Char) (length : Nat) (p : QuotedPart) : QuotedPart :=
  ⟨c :: p.text, p.length + length, p.escapesBreak⟩

/-- Between single quotes only the quote itself is escaped, by writing it twice. -/
def singlePart : List Char → QuotedPart
  | [] => .empty
  | '\x27' :: '\x27' :: s => (singlePart s).prepend '\x27' 2
  | c :: s =>
    if isSpace c || isBreak c || c == '\x27' then .empty else (singlePart s).prepend c 1

/-- The character of a single-letter escape. -/
def escapeLetter? : Char → Option Char
  | '0' => some '\x00'
  | 'a' => some '\x07'
  | 'b' => some '\x08'
  | 't' => some '\t'
  | '\t' => some '\t'
  | 'n' => some '\n'
  | 'v' => some '\x0b'
  | 'f' => some '\x0c'
  | 'r' => some '\r'
  | 'e' => some '\x1b'
  | ' ' => some ' '
  | '"' => some '"'
  | '/' => some '/'
  | '\\' => some '\\'
  | 'N' => some '\u0085'
  | '_' => some '\u00a0'
  | 'L' => some '\u2028'
  | 'P' => some '\u2029'
  | _ => none

/-- How many digits a numbered escape has. -/
def escapeDigits? : Char → Option Nat
  | 'x' => some 2
  | 'u' => some 4
  | 'U' => some 8
  | _ => none

/-- The character with a number. -/
def charOfNumber? (n : Nat) : Option Char :=
  if h : n.isValidChar then some (Char.ofNatAux n h) else none

/-- Between double quotes a backslash starts an escape. -/
def doublePart (s : List Char) : Except Fault QuotedPart :=
  match s with
  | [] => .ok .empty
  | '\\' :: e :: s =>
    if isBreak e then .ok ⟨[], 1, true⟩
    else match escapeLetter? e with
      | some c => (doublePart s).map (·.prepend c 2)
      | none =>
        match escapeDigits? e with
        | none => .error .quotedText
        | some count =>
          let digits := s.take count
          if digits.length = count then
            match (natural? 16 digits).bind charOfNumber? with
            | some c => (doublePart (s.drop count)).map (·.prepend c (count + 2))
            | none => .error .quotedText
          else .error .quotedText
  | ['\\'] => .error .quotedText
  | c :: s =>
    if isSpace c || isBreak c || c == '"' then .ok .empty
    else (doublePart s).map (·.prepend c 1)
termination_by s.length
decreasing_by all_goals (simp only [List.length_cons, List.length_drop]; omega)

/-- The text of a quoted scalar after its opening quote, and the place after the closing one. -/
def quotedText (quote : Char) :
    Nat → List (List Char) → Cursor → Except Fault (List Char × Cursor)
  | 0, _, _ => .error .endless
  | fuel + 1, parts, c =>
    if c.atDocumentMark || c.rest.isEmpty then .error .quotedText
    else do
      let part ← if quote == '\x27' then .ok (singlePart c.rest) else doublePart c.rest
      let parts := part.text :: parts
      let c := c.advance part.length
      let c := if part.escapesBreak then c.newline.2 else c
      if nextIs quote c.rest then .ok (assemble parts, c.advance 1)
      else
        let gap := if part.escapesBreak then Gap.escapedBreak else Gap.empty
        let (gap, c) ← Gap.read none (c.left + 1) gap c
        quotedText quote fuel (gap.joined :: parts) c

/-! ## Block scalars -/

/-- What happens to the line breaks at the end of a block. -/
inductive Chomping where
  | strip
  | clip
  | keep
deriving DecidableEq, Repr

/-- The header of a block scalar: its chomping, its indentation if that is given, and the place
after the header. -/
def blockHeader (c : Cursor) : Except Fault (Chomping × Option Nat × Cursor) := do
  let chompingOf : List Char → Option Chomping
    | '+' :: _ => some .keep
    | '-' :: _ => some .strip
    | _ => none
  let digitOf (s : List Char) : Option Nat := s.head?.bind digit?
  let (chomping, c) := match chompingOf c.rest with
    | some chomping => (some chomping, c.advance 1)
    | none => (none, c)
  let (indent, c) := match digitOf c.rest with
    | some d => (some d, c.advance 1)
    | none => (none, c)
  if indent = some 0 then throw .blockHeader
  let (chomping, c) := match chomping, indent, chompingOf c.rest with
    | none, some _, some chomping => (some chomping, c.advance 1)
    | chomping, _, _ => (chomping, c)
  let c := c.skipComment
  if !c.atLineEnd then throw .blockHeader
  return (chomping.getD .clip, indent, c.newline.2)

/-- Passes over indentation and empty lines: the line breaks, the greatest column reached, and the
place after them. Without `indent` all spaces are indentation. -/
def blockBreaks (indent : Option Nat) :
    Nat → List Char → Nat → Cursor → Except Fault (List Char × Nat × Cursor)
  | 0, _, _, _ => .error .endless
  | fuel + 1, breaks, widest, c =>
    let spaces := (c.rest.takeWhile (· == ' ')).length
    let c := c.advance (match indent with
      | none => spaces
      | some column => min spaces (column - c.column))
    let widest := max widest c.column
    let within := match indent with
      | none => true
      | some column => decide (c.column < column)
    if within && nextIs '\t' c.rest then .error .tabIndentation
    else match c.rest with
      | [] => .ok (breaks, widest, c)
      | d :: _ =>
        if isBreak d then
          let (lineBreak, c) := c.newline
          blockBreaks indent fuel (breaks ++ lineBreak) widest c
        else .ok (breaks, widest, c)

/-- The lines of a block after the header. `lineBreak` is the break after the line before,
`trailing` holds the breaks of empty lines after it, and `startedBlank` tells whether that line
started with a space. -/
def blockLines (literal : Bool) (indent : Nat) :
    Nat → List (List Char) → List Char → List Char → Bool → Cursor →
      Except Fault (List Char × List Char × List Char × Cursor)
  | 0, _, _, _, _, _ => .error .endless
  | fuel + 1, parts, lineBreak, trailing, startedBlank, c =>
    if c.column = indent && !c.rest.isEmpty then do
      let startsBlank := nextAmong [' ', '\t'] c.rest
      let fold := !literal && lineBreak == ['\n'] && !startedBlank && !startsBlank
      let seam :=
        if fold then (if trailing = [] then [' '] else trailing) else lineBreak ++ trailing
      let line := c.rest.takeWhile fun d => !isBreak d
      let (lineBreak, c) := (c.advance line.length).newline
      let (trailing, _, c) ← blockBreaks (some indent) (c.left + 1) [] 0 c
      blockLines literal indent fuel (line :: seam :: parts) lineBreak trailing startsBlank c
    else .ok (assemble parts, lineBreak, trailing, c)

/-- The text of a block scalar after its indicator, in a collection with the given indentation. -/
def blockText (literal : Bool) (outer : Int) (c : Cursor) : Except Fault (List Char × Cursor) := do
  let (chomping, given, c) ← blockHeader c
  let given := given.map fun d => (if 0 ≤ outer then outer.toNat + d else d)
  let (trailing, widest, c) ← blockBreaks given (c.left + 1) [] 0 c
  let indent := match given with
    | some column => column
    | none => max (max widest (outer + 1).toNat) 1
  let (text, lineBreak, trailing, c) ←
    blockLines literal indent (c.left + 1) [] [] trailing false c
  let text := match chomping with
    | .strip => text
    | .clip => text ++ lineBreak
    | .keep => text ++ lineBreak ++ trailing
  return (text, c)

end LayeredConfig.Yaml
