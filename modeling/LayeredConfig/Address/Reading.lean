import LayeredConfig.Address.Basic

/-!
# Reading network addresses

Each reader takes an address from the start of a text and returns what follows it. A whole text
is an address when nothing follows.
-/

namespace LayeredConfig.Address

open Number Text

/-- Takes one given character. -/
def takeChar (c : Char) : List Char → Option (List Char)
  | [] => none
  | d :: s => if d = c then some s else none

/-- Takes a number below `bound`. All digits that stand next belong to it; there are `most` of
them at most, if that is given, and a zero at the start stands alone unless `zeros` allows it. -/
def takeNumber (base : Nat) (most : Option Nat) (zeros : Bool) (bound : Nat) (s : List Char) :
    Option (Nat × List Char) :=
  let digits := s.takeWhile fun c => (digitIn? base c).isSome
  let rest := s.dropWhile fun c => (digitIn? base c).isSome
  if most.any (· < digits.length) then none
  else if !zeros && digits.head? == some '0' && 1 < digits.length then none
  else match natural? base digits with
    | some n => if n < bound then some (n, rest) else none
    | none => none

def takeOctet (s : List Char) : Option (UInt8 × List Char) :=
  (takeNumber 10 (some 3) false 256 s).map fun p => (UInt8.ofNat p.1, p.2)

def takeGroup (s : List Char) : Option (UInt16 × List Char) :=
  (takeNumber 16 (some 4) true 65536 s).map fun p => (UInt16.ofNat p.1, p.2)

/-- Takes four octets with points between them. -/
def takeShort (s : List Char) : Option (Short × List Char) := do
  let (a, s) ← takeOctet s
  let (b, s) ← takeOctet (← takeChar '.' s)
  let (c, s) ← takeOctet (← takeChar '.' s)
  let (d, s) ← takeOctet (← takeChar '.' s)
  return (⟨a, b, c, d⟩, s)

/-- The groups read so far, whether the last two came as a short address, and the rest. -/
structure Groups where
  taken : List UInt16
  endsShort : Bool
  rest : List Char

/-- Takes groups with colons between them, as many as there is room for. Where two groups have
room a short address may stand for them, and ends the groups. -/
def takeGroups : Nat → Bool → List Char → Groups
  | 0, _, s => ⟨[], false, s⟩
  | room + 1, first, s =>
    match if first then some s else takeChar ':' s with
    | none => ⟨[], false, s⟩
    | some body =>
      match if 0 < room then takeShort body else none with
      | some (a, rest) =>
        let high := a.first.toUInt16 * 256 + a.second.toUInt16
        let low := a.third.toUInt16 * 256 + a.fourth.toUInt16
        ⟨[high, low], true, rest⟩
      | none =>
        match takeGroup body with
        | some (g, rest) =>
          let more := takeGroups room false rest
          ⟨g :: more.taken, more.endsShort, more.rest⟩
        | none => ⟨[], false, s⟩

/-- Takes eight groups, or fewer around a double colon that stands for the zero groups left out,
one at least. -/
def takeLong (s : List Char) : Option (Long × List Char) :=
  let front := takeGroups 8 true s
  if h : front.taken.length = 8 then some (⟨front.taken, h⟩, front.rest)
  else if front.endsShort then none
  else do
    let s ← takeChar ':' front.rest
    let s ← takeChar ':' s
    let back := takeGroups (7 - front.taken.length) true s
    let zeros := List.replicate (8 - front.taken.length - back.taken.length) 0
    let groups := front.taken ++ zeros ++ back.taken
    if h : groups.length = 8 then some (⟨groups, h⟩, back.rest) else none

def takePort (s : List Char) : Option (UInt16 × List Char) :=
  (takeNumber 10 none true 65536 s).map fun p => (UInt16.ofNat p.1, p.2)

/-- Takes the scope of a long address; without one the scope is zero. -/
def takeScope (s : List Char) : UInt32 × List Char :=
  match (takeChar '%' s).bind (takeNumber 10 none true 4294967296) with
  | some (n, rest) => (UInt32.ofNat n, rest)
  | none => (0, s)

def takeSocket (s : List Char) : Option (Socket × List Char) :=
  match takeShort s with
  | some (a, rest) =>
    (takeChar ':' rest).bind fun rest =>
      (takePort rest).map fun p => (.short a p.1, p.2)
  | none => do
    let (a, s) ← takeLong (← takeChar '[' s)
    let (scope, s) := takeScope s
    let s ← takeChar ']' s
    let s ← takeChar ':' s
    let (port, s) ← takePort s
    return (.long a scope port, s)

/-- The value of a text that a reader takes to its end. -/
def whole? {α : Type} (reader : List Char → Option (α × List Char)) (s : List Char) : Option α :=
  match reader s with
  | some (a, []) => some a
  | _ => none

def Short.read? (s : List Char) : Option Short := whole? takeShort s

def Long.read? (s : List Char) : Option Long := whole? takeLong s

def Host.read? (s : List Char) : Option Host :=
  match Short.read? s with
  | some a => some (.short a)
  | none => (Long.read? s).map .long

def Socket.read? (s : List Char) : Option Socket := whole? takeSocket s

end LayeredConfig.Address
