import LayeredConfig.Yaml.Cursor

/-!
# Gaps inside scalars

A scalar that goes on after white space keeps spaces within a line, and folds line breaks: a
single line feed becomes a space, of several the first is dropped, and a separator is kept.
-/

namespace LayeredConfig.Yaml

/-- The white space between two parts of a scalar. `broken` holds the first line break and the
ones after it, and spaces no longer count then. -/
structure Gap where
  spaces : List Char
  broken : Option (List Char × List Char)

namespace Gap

def empty : Gap := ⟨[], none⟩

/-- The gap after an escaped line break, which contributes nothing itself. -/
def escapedBreak : Gap := ⟨[], some ([], [])⟩

def isBroken (g : Gap) : Bool := g.broken.isSome

/-- What a gap contributes to the text when the scalar goes on. -/
def joined (g : Gap) : List Char :=
  match g.broken with
  | none => g.spaces
  | some (first, more) =>
    if first = ['\n'] then (if more = [] then [' '] else more) else first ++ more

def addBreak (g : Gap) (lineBreak : List Char) : Gap :=
  match g.broken with
  | none => ⟨[], some (lineBreak, [])⟩
  | some (first, more) => ⟨[], some (first, more ++ lineBreak)⟩

/-- Whether a row of spaces that starts at a column holds a tab before another column. -/
def hasEarlyTab (row : List Char) (start : Nat) (column : Int) : Bool :=
  let spaces := (row.takeWhile (· == ' ')).length
  spaces < row.length && ((start + spaces : Nat) : Int) < column

/-- Reads spaces and line breaks. With `indent`, a tab before that column of a new line is a
fault. -/
def read (indent : Option Int) : Nat → Gap → Cursor → Except Fault (Gap × Cursor)
  | 0, _, _ => .error .endless
  | fuel + 1, g, c =>
    match c.rest with
    | [] => .ok (g, c)
    | d :: _ =>
      if isSpace d then
        let row := c.rest.takeWhile isSpace
        if g.isBroken && indent.any (hasEarlyTab row c.column) then .error .tabIndentation
        else
          read indent fuel (if g.isBroken then g else { g with spaces := g.spaces ++ row })
            (c.advance row.length)
      else if isBreak d then
        let (lineBreak, c) := c.newline
        read indent fuel (g.addBreak lineBreak) c
      else .ok (g, c)

end Gap

end LayeredConfig.Yaml
