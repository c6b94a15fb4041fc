/-
Bytes written with 64 characters, four of which stand for three bytes. The
reader is a lenient one: characters that mean nothing are passed over, and so
is what follows complete padding.
-/

namespace ProxyMaps.Text.Base64

/-- The six bits of a character. -/
def bits? (c : Char) : Option Nat :=
  if 'A' ≤ c && c ≤ 'Z' then some (c.toNat - 0x41)
  else if 'a' ≤ c && c ≤ 'z' then some (c.toNat - 0x61 + 26)
  else if c.isDigit then some (c.toNat - 0x30 + 52)
  else if c = '+' then some 62
  else if c = '/' then some 63
  else none

/--
The bytes of a text, after `seen` of the four characters of a group, which
leave `left` as bits of the next byte, and `pads` signs of padding. A group
may not be left incomplete without padding.
-/
def bytesFrom? (seen left pads : Nat) : List Char → Option (List UInt8)
  | [] => if seen = 0 then some [] else none
  | c :: rest =>
    if c = '=' then
      if 2 ≤ seen then
        if 4 ≤ seen + pads + 1 then some [] else bytesFrom? seen left (pads + 1) rest
      else bytesFrom? seen left pads rest
    else
      match bits? c with
      | none => bytesFrom? seen left pads rest
      | some b =>
        let byte (n : Nat) (more : Option (List UInt8)) := more.map (UInt8.ofNat n :: ·)
        match seen with
        | 0 => bytesFrom? 1 b 0 rest
        | 1 => byte (left * 4 + b / 16) (bytesFrom? 2 (b % 16) 0 rest)
        | 2 => byte (left * 16 + b / 4) (bytesFrom? 3 (b % 4) 0 rest)
        | _ => byte (left * 64 + b) (bytesFrom? 0 0 0 rest)

/-- The bytes that a text writes. -/
def read? (s : List Char) : Option (List UInt8) := bytesFrom? 0 0 0 s

end ProxyMaps.Text.Base64
