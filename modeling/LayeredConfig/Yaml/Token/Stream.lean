import LayeredConfig.Yaml.Token.Scalar
import LayeredConfig.Yaml.Token.Tag

/-!
# The tokens of a text

The lexer goes through a text once and keeps the tokens that it has read. A key is recognised
only when its colon appears: until then the place where it may have started is remembered as a
candidate, one for each level of flow collections, and the tokens that announce the key are
inserted there afterwards. A candidate is given up at the end of its line and after 1024
octets; one that the indentation requires must not be given up.
-/

namespace LayeredConfig.Yaml

/-- A place where a key may have started: how many tokens came before it, and where it stands. -/
structure Candidate where
  tokensBefore : Nat
  required : Bool
  index : Nat
  line : Nat
  column : Nat

/-- The state of the lexer. Tokens and levels are listed newest first. The indentation of the
innermost block collection is minus one outside of all. -/
structure Lexer where
  cursor : Cursor
  tokens : List Token
  count : Nat
  indent : Int
  outerIndents : List Int
  keyAllowed : Bool
  candidate : Option Candidate
  outerCandidates : List (Option Candidate)

namespace Lexer

/-- The lexer at the start of a text. -/
def start (s : List Char) : Lexer := ⟨.start s, [], 0, -1, [], true, none, []⟩

/-- Whether the lexer is inside a flow collection. -/
def inFlow (l : Lexer) : Bool := !l.outerCandidates.isEmpty

def push (l : Lexer) (token : Token) : Lexer :=
  { l with tokens := token :: l.tokens, count := l.count + 1 }

/-- Inserts a token where `before` tokens come before it. -/
def insertAt (l : Lexer) (before : Nat) (token : Token) : Lexer :=
  let newer := l.count - before
  { l with
    tokens := l.tokens.take newer ++ token :: l.tokens.drop newer
    count := l.count + 1 }

def skip (l : Lexer) (count : Nat) : Lexer := { l with cursor := l.cursor.advance count }

/-! ## Indentation -/

/-- Opens a block collection at a column to the right of the innermost one. Its token goes to the
end, or where `before` tokens come before it. -/
def openBlock (l : Lexer) (column : Nat) (before : Option Nat) (token : Token) : Lexer :=
  if !l.inFlow && l.indent < column then
    let l := { l with indent := column, outerIndents := l.indent :: l.outerIndents }
    match before with
    | none => l.push token
    | some before => l.insertAt before token
  else l

/-- Closes the block collections to the right of a column; in a flow collection there are none to
close. -/
def closeBlocks (l : Lexer) (column : Int) : Lexer :=
  if l.inFlow then l
  else
    let rec close (l : Lexer) : List Int → Lexer
      | [] => l
      | outer :: rest =>
        if column < l.indent then
          close { l.push .blockEnd with indent := outer, outerIndents := rest } rest
        else l
    close l l.outerIndents

/-! ## Candidates -/

/-- Gives the innermost candidate up. -/
def dropCandidate (l : Lexer) : Except Fault Lexer :=
  if l.candidate.any (·.required) then .error .keyWithoutColon
  else .ok { l with candidate := none }

/-- Remembers the current place as one where a key may start. -/
def saveCandidate (l : Lexer) : Except Fault Lexer := do
  if !l.keyAllowed then return l
  let c := l.cursor
  let candidate : Candidate :=
    ⟨l.count, !l.inFlow && l.indent == (c.column : Int), c.index, c.line, c.column⟩
  let l ← l.dropCandidate
  return { l with candidate := some candidate }

/-- Gives a candidate up that the cursor has left behind. -/
def refresh (c : Cursor) : Option Candidate → Except Fault (Option Candidate)
  | none => .ok none
  | some k =>
    if k.line < c.line || k.index + 1024 < c.index then
      if k.required then .error .keyWithoutColon else .ok none
    else .ok (some k)

/-- Gives up every candidate that the cursor has left behind. -/
def refreshCandidates (l : Lexer) : Except Fault Lexer := do
  let candidate ← refresh l.cursor l.candidate
  let outer ← l.outerCandidates.mapM (refresh l.cursor)
  return { l with candidate := candidate, outerCandidates := outer }

/-! ## Single tokens -/

/-- Passes over white space, comments and line breaks. A tab is white space only where no key may
start. A byte order mark may start a line; it takes up a column. -/
def skipToToken : Nat → Lexer → Except Fault Lexer
  | 0, _ => .error .endless
  | fuel + 1, l =>
    let c := l.cursor
    let c := if c.column == 0 && nextIs '\ufeff' c.rest then c.advance 1 else c
    let c := c.skipWhile fun d => d == ' ' || ((l.inFlow || !l.keyAllowed) && d == '\t')
    let c := if nextIs '#' c.rest then c.skipWhile fun d => !isBreak d else c
    if c.atLineEnd && !c.rest.isEmpty then
      skipToToken fuel { l with cursor := c.newline.2, keyAllowed := l.keyAllowed || !l.inFlow }
    else .ok { l with cursor := c }

/-- A token that ends the line of thought of every block: a directive or a document mark. -/
def atMargin (l : Lexer) : Except Fault Lexer := do
  let l ← (l.closeBlocks (-1)).dropCandidate
  return { l with keyAllowed := false }

def lexDirective (l : Lexer) : Except Fault Lexer := do
  let l ← l.atMargin
  let (token, c) ← readDirective (l.cursor.advance 1)
  return { l.push token with cursor := c }

def lexDocumentMark (l : Lexer) (token : Token) : Except Fault Lexer := do
  return ((← l.atMargin).push token).skip 3

/-- Each open bracket is a collection, so the limit on nesting holds here already. -/
def lexFlowStart (l : Lexer) (token : Token) : Except Fault Lexer := do
  if nestingLimit ≤ l.outerCandidates.length then throw .tooDeep
  let l ← l.saveCandidate
  let l := { l with
    outerCandidates := l.candidate :: l.outerCandidates, candidate := none, keyAllowed := true }
  return (l.push token).skip 1

def lexFlowEnd (l : Lexer) (token : Token) : Except Fault Lexer := do
  let l ← l.dropCandidate
  let l := match l.outerCandidates with
    | [] => l
    | outer :: rest => { l with candidate := outer, outerCandidates := rest }
  return ({ l with keyAllowed := false }.push token).skip 1

def lexFlowEntry (l : Lexer) : Except Fault Lexer := do
  let l ← l.dropCandidate
  return ({ l with keyAllowed := true }.push .flowEntry).skip 1

def lexBlockEntry (l : Lexer) : Except Fault Lexer := do
  if !l.inFlow && !l.keyAllowed then throw (.misplaced "block sequence entries")
  let l ← (l.openBlock l.cursor.column none .blockSequenceStart).dropCandidate
  return ({ l with keyAllowed := true }.push .blockEntry).skip 1

def lexKey (l : Lexer) : Except Fault Lexer := do
  if !l.inFlow && !l.keyAllowed then throw (.misplaced "mapping keys")
  let l ← (l.openBlock l.cursor.column none .blockMappingStart).dropCandidate
  return ({ l with keyAllowed := !l.inFlow }.push .key).skip 1

/-- A colon makes a key of the innermost candidate, or stands after a key that is announced or
empty. -/
def lexValue (l : Lexer) : Except Fault Lexer := do
  match l.candidate with
  | some k =>
    let l := l.insertAt k.tokensBefore .key
    let l := l.openBlock k.column (some k.tokensBefore) .blockMappingStart
    return ({ l with candidate := none, keyAllowed := false }.push .value).skip 1
  | none =>
    if !l.inFlow && !l.keyAllowed then throw (.misplaced "mapping values")
    let l := l.openBlock l.cursor.column none .blockMappingStart
    return ({ l with keyAllowed := !l.inFlow }.push .value).skip 1

def lexAnchor (l : Lexer) (token : List Char → Token) : Except Fault Lexer := do
  let l ← l.saveCandidate
  let (name, c) ← readAnchorName (l.cursor.advance 1)
  return { l.push (token name) with cursor := c, keyAllowed := false }

def lexTag (l : Lexer) : Except Fault Lexer := do
  let l ← l.saveCandidate
  let (tag, c) ← readTag l.inFlow l.cursor
  return { l.push (.tag tag) with cursor := c, keyAllowed := false }

def lexBlockScalar (l : Lexer) (literal : Bool) : Except Fault Lexer := do
  let l ← l.dropCandidate
  let (text, c) ← blockText literal l.indent (l.cursor.advance 1)
  return { l.push (.scalar text false) with cursor := c, keyAllowed := true }

def lexQuoted (l : Lexer) (quote : Char) : Except Fault Lexer := do
  let l ← l.saveCandidate
  let (text, c) ← quotedText quote (l.cursor.left + 1) [] (l.cursor.advance 1)
  return { l.push (.scalar text false) with cursor := c, keyAllowed := false }

def lexPlain (l : Lexer) : Except Fault Lexer := do
  let l ← l.saveCandidate
  let (text, breaks, c) ←
    plainText l.inFlow (l.indent + 1) (l.cursor.left + 1) [] .empty l.cursor
  return { l.push (.scalar text true) with cursor := c, keyAllowed := breaks }

/-- Characters that start no plain scalar, unless an exception below admits them. -/
def indicators : List Char :=
  ['-', '?', ':', ',', '[', ']', '\x7b', '\x7d', '#', '&', '*', '!', '|', '>', '\x27', '"', '%',
    '@', '\x60']

/-- Whether a plain scalar may start with the character in front of the rest. -/
def startsPlain (inFlow : Bool) (c : Char) (rest : List Char) : Bool :=
  (!isSpace c && !isBreak c && !indicators.contains c) ||
    (c == '-' && !nextAmong [' ', '\t'] rest) ||
    (!inFlow && (c == '?' || c == ':') && !blankNext rest)

/-- Reads the token that starts at the cursor; nothing at the end of the text. -/
def next (l : Lexer) : Except Fault (Option Lexer) := do
  let l ← skipToToken (l.cursor.left + 1) l
  let l ← l.refreshCandidates
  let l := l.closeBlocks l.cursor.column
  match l.cursor.rest with
  | [] => return none
  | c :: rest =>
    let indicated := l.inFlow || blankNext rest
    let l ←
      if l.cursor.column == 0 && c == '%' then l.lexDirective
      else if l.cursor.atDocumentMark then
        l.lexDocumentMark (if c == '-' then .documentStart else .documentEnd)
      else if c == '[' then l.lexFlowStart .flowSequenceStart
      else if c == '\x7b' then l.lexFlowStart .flowMappingStart
      else if c == ']' then l.lexFlowEnd .flowSequenceEnd
      else if c == '\x7d' then l.lexFlowEnd .flowMappingEnd
      else if c == ',' then l.lexFlowEntry
      else if c == '-' && blankNext rest then l.lexBlockEntry
      else if c == '?' && indicated then l.lexKey
      else if c == ':' && indicated then l.lexValue
      else if c == '*' then l.lexAnchor .alias
      else if c == '&' then l.lexAnchor .anchor
      else if c == '!' then l.lexTag
      else if c == '|' && !l.inFlow then l.lexBlockScalar true
      else if c == '>' && !l.inFlow then l.lexBlockScalar false
      else if c == '\x27' || c == '"' then l.lexQuoted c
      else if startsPlain l.inFlow c rest then l.lexPlain
      else throw .unexpectedCharacter
    return some l

/-- Ends the stream: all blocks are closed, and no key is left open. -/
def finish (l : Lexer) : Except Fault (List Token) := do
  let l ← (l.closeBlocks (-1)).dropCandidate
  return (l.push .streamEnd).tokens.reverse

/-- Reads tokens to the end of the text. -/
def run : Nat → Lexer → Except Fault (List Token)
  | 0, _ => .error .endless
  | fuel + 1, l => do
    match ← l.next with
    | some l => run fuel l
    | none => do
      let l ← skipToToken (l.cursor.left + 1) l
      let l ← l.refreshCandidates
      l.finish

end Lexer

/-- The tokens of a text. A token takes a character at least. -/
def tokensOf (s : List Char) : Except Fault (List Token) := Lexer.run (s.length + 1) (.start s)

end LayeredConfig.Yaml
