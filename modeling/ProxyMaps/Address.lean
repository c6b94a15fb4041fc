/-
IP addresses: reading their text forms and writing the canonical one.

An IPv4 address is four numbers with points between them. An IPv6 address is
eight groups with colons between them; one run of zero groups may be left out
where two colons meet, and the last two groups may be written like an IPv4
address. The canonical form leaves out the first longest run of two or more
zero groups and is never dotted.
-/
import ProxyMaps.Text.Digit

namespace ProxyMaps

/-- An IP address. -/
inductive Address where
  /-- The four octets, the most significant first. -/
  | v4 (octets : List Nat)
  /-- The eight groups of 16 bits, the most significant first. -/
  | v6 (groups : List Nat)
  deriving DecidableEq, Repr

namespace Address

/-- The version of the protocol. -/
def version : Address → Nat
  | v4 _ => 4
  | v6 _ => 6

/-- The number of bits of an address. -/
def width : Address → Nat
  | v4 _ => 32
  | v6 _ => 128

/-- An octet: up to three digits, at most 255, without a leading zero. -/
def octet? (s : List Char) : Option Nat :=
  if s.isEmpty || !s.all Char.isDigit || 3 < s.length then none
  else if s.head? = some '0' && s ≠ ['0'] then none
  else
    let n := s.foldl (fun n d => n * 10 + (d.toNat - 0x30)) 0
    if n ≤ 255 then some n else none

/-- The four octets of a dotted address. -/
def octets? (s : List Char) : Option (List Nat) :=
  let parts := List.splitOn '.' s
  if parts.length = 4 then parts.mapM octet? else none

/-- A group: one to four hexadecimal digits. -/
def group? (s : List Char) : Option Nat :=
  if s.isEmpty || 4 < s.length then none
  else (s.mapM Text.hexValue?).map fun ds => ds.foldl (fun n d => n * 16 + d) 0

/-- The groups of a list of parts, of which the last one may be a dotted address. -/
def groups? : List (List Char) → Option (List Nat)
  | [] => some []
  | [last] =>
    if last.contains '.' then
      match octets? last with
      | some [a, b, c, d] => some [a * 256 + b, c * 256 + d]
      | _ => none
    else (group? last).map fun n => [n]
  | part :: rest => do
    let n ← group? part
    let ns ← groups? rest
    return n :: ns

/-- The parts of a text between colons; an empty text has no parts. -/
def parts (s : List Char) : List (List Char) := if s.isEmpty then [] else List.splitOn ':' s

/-- The text before and after the first two colons in a row. -/
def cutGap? : List Char → Option (List Char × List Char)
  | ':' :: ':' :: rest => some ([], rest)
  | c :: rest => (cutGap? rest).map fun p => (c :: p.1, p.2)
  | [] => none

/-- The eight groups of an IPv6 address. -/
def sixteenBitGroups? (s : List Char) : Option (List Nat) :=
  match cutGap? s with
  | some (left, right) => do
    let high ← (parts left).mapM group?
    let low ← groups? (parts right)
    let given := high.length + low.length
    if given ≤ 7 then some (high ++ List.replicate (8 - given) 0 ++ low) else none
  | none => (groups? (parts s)).filter fun gs => gs.length = 8

/-- The address that a text writes. -/
def read? (s : List Char) : Option Address :=
  match octets? s with
  | some os => some (v4 os)
  | none => (sixteenBitGroups? s).map v6

/-- The number of zeros at the front of a list. -/
def zerosAhead (gs : List Nat) : Nat := (gs.takeWhile (· = 0)).length

/-- Where the first longest run of zeros starts, and how long it is. -/
def longestRun : List Nat → Nat × Nat
  | [] => (0, 0)
  | g :: gs =>
    let here := zerosAhead (g :: gs)
    let (start, length) := longestRun gs
    if length ≤ here then (0, here) else (start + 1, length)

/-- Groups with colons between them. -/
def joinGroups (gs : List Nat) : List Char := [':'].intercalate (gs.map (Nat.toDigits 16))

/-- The canonical text of eight groups. -/
def renderGroups (gs : List Nat) : List Char :=
  let (start, length) := longestRun gs
  if 2 ≤ length then
    joinGroups (gs.take start) ++ ':' :: ':' :: joinGroups (gs.drop (start + length))
  else joinGroups gs

/-- The canonical text of an address. -/
def render : Address → List Char
  | v4 os => ['.'].intercalate (os.map (Nat.toDigits 10))
  | v6 gs => renderGroups gs

end Address

end ProxyMaps
