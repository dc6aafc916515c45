import LayeredConfig.Number.Digits
import LayeredConfig.Text.Pieces

/-!
# Network addresses

Addresses of four octets, addresses of eight groups of sixteen bits, and sockets, which add a
port. The long form leaves out its longest run of two or more zero groups when it is written,
the first one of several, and shows a mapped short address as such.
-/

namespace LayeredConfig.Address

open Number Text

/-- An address of four octets. -/
structure Short where
  first : UInt8
  second : UInt8
  third : UInt8
  fourth : UInt8
deriving DecidableEq, Repr

/-- An address of eight groups of sixteen bits. -/
structure Long where
  groups : List UInt16
  length_groups : groups.length = 8
deriving DecidableEq

/-- An address of either length. -/
inductive Host where
  | short (address : Short)
  | long (address : Long)
deriving DecidableEq

/-- An address with a port; a long address may name a scope. -/
inductive Socket where
  | short (address : Short) (port : UInt16)
  | long (address : Long) (scope : UInt32) (port : UInt16)
deriving DecidableEq

/-! ## Writing -/

def Short.write (a : Short) : String :=
  join "." ([a.first, a.second, a.third, a.fourth].map fun o => decimalText o.toNat)

def writeGroups (groups : List UInt16) : String :=
  join ":" (groups.map fun g => String.ofList (Nat.toDigits 16 g.toNat))

/-- The place and the length of the first longest run of zero groups. -/
def zeroRun (groups : List UInt16) : Nat × Nat :=
  (List.range groups.length).foldl
    (fun best i =>
      let length := ((groups.drop i).takeWhile (· == 0)).length
      if best.2 < length then (i, length) else best)
    (0, 0)

/-- The four octets of two groups. -/
def octets (high low : UInt16) : Short :=
  ⟨(high >>> 8).toUInt8, high.toUInt8, (low >>> 8).toUInt8, low.toUInt8⟩

def Long.write (a : Long) : String :=
  match a.groups with
  | [0, 0, 0, 0, 0, 0xffff, high, low] => "::ffff:" ++ (octets high low).write
  | groups =>
    let (start, length) := zeroRun groups
    if 1 < length then
      writeGroups (groups.take start) ++ "::" ++ writeGroups (groups.drop (start + length))
    else writeGroups groups

def Host.write : Host → String
  | .short a => a.write
  | .long a => a.write

def Socket.write : Socket → String
  | .short a port => a.write ++ ":" ++ decimalText port.toNat
  | .long a scope port =>
    let zone := if scope = 0 then "" else "%" ++ decimalText scope.toNat
    "[" ++ a.write ++ zone ++ "]:" ++ decimalText port.toNat

end LayeredConfig.Address
