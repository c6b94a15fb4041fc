/-
Blocks of addresses: an address, and the length of the part of it that the
members of the block share. A lone address is the block of itself. The bits
behind that part need not be zero.
-/
import ProxyMaps.Address
import ProxyMaps.Text.Split

namespace ProxyMaps

/-- A block of addresses. -/
structure Cidr where
  address : Address
  /-- The number of leading bits that the members share. -/
  length : Nat
  /-- Whether the length was given. -/
  isRange : Bool
  deriving DecidableEq, Repr

namespace Cidr

/-- Why a text writes no block. -/
inductive Fault where
  /-- What follows the slash is not one to three digits. -/
  | badLength (spec : String)
  /-- The text before the slash, or all of it, is no address. -/
  | badAddress (text : String) (ranged : Bool)
  /-- The length is greater than the number of bits of the address. -/
  | tooLong (version : Nat) (text : String) (length : Nat)
  deriving DecidableEq, Repr

namespace Fault

/-- The wording of a fault. -/
def message : Fault → String
  | badLength spec => s!"CIDR range {spec} has an invalid length, ignoring"
  | badAddress text _ => s!"Invalid IP address {text}"
  | tooLong version text length =>
    s!"Invalid prefix length for IPv{version} address {text}/{length}"

/-- Whether the text had a usable length. -/
def isRange : Fault → Bool
  | badLength _ => false
  | badAddress _ ranged => ranged
  | tooLong _ _ _ => true

end Fault

/-- A length: one to three digits. -/
def length? (s : List Char) : Option Nat :=
  if s.isEmpty || 3 < s.length || !s.all Char.isDigit then none
  else some (s.foldl (fun n d => n * 10 + (d.toNat - 0x30)) 0)

/-- The block of an address text and a length, if one was given. -/
def ofParts (text : List Char) (length : Option Nat) : Except Fault Cidr :=
  match Address.read? text with
  | none => .error (.badAddress (String.ofList text) length.isSome)
  | some address =>
    match length with
    | none => .ok ⟨address, address.width, false⟩
    | some n =>
      if n ≤ address.width then .ok ⟨address, n, true⟩
      else .error (.tooLong address.version (String.ofList text) n)

/-- The block that a text writes. -/
def read (spec : String) : Except Fault Cidr :=
  match Text.cutFirst? '/' spec.toList with
  | some (text, length) =>
    match length? length with
    | some n => ofParts text (some n)
    | none => .error (.badLength spec)
  | none => ofParts spec.toList none

/-- Whether a text writes a block. -/
def accepts (spec : String) : Bool := (read spec).isOk

/-- The canonical text of a block, which always gives the length. -/
def render (c : Cidr) : String := String.ofList c.address.render ++ s!"/{c.length}"

/-- Why a text has no canonical form. -/
inductive RenderFault where
  /-- The text writes no block. -/
  | invalid
  deriving DecidableEq, Repr

/-- The wording of a fault in writing. -/
def RenderFault.message : RenderFault → String
  | invalid => "cannot serialize an invalid CIDRRange!"

/-- The canonical text of the block that a text writes. -/
def canonical (spec : String) : Except RenderFault String :=
  match read spec with
  | .ok c => .ok c.render
  | .error _ => .error .invalid

end Cidr

end ProxyMaps
