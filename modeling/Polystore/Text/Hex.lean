import Polystore.Text.Blank
import Polystore.Text.Quoted

/-!
Octets in base sixteen, two digits each. Both cases of the digits are read, and blanks may stand
between octets.
-/

namespace Polystore.Text.Hex

def digit? (c : Char) : Option Nat := "0123456789abcdef".toList.findIdx? (· == c.toLower)

/-- The octets that characters stand for, or the position of one that is out of place. -/
def decodeFrom (position : Nat) : List Char → Except Nat (List UInt8)
  | [] => .ok []
  | [c] => if isBlank c then .ok [] else .error (position + if (digit? c).isSome then 1 else 0)
  | c :: d :: rest =>
    if isBlank c then decodeFrom (position + 1) (d :: rest)
    else
      match digit? c, digit? d with
      | none, _ => .error position
      | some _, none => .error (position + 1)
      | some high, some low =>
        ((high * 16 + low).toUInt8 :: ·) <$> decodeFrom (position + 2) rest

/-- The octets that a text stands for. What is beyond ASCII is out of place before all else. -/
def decode (s : String) : Except Nat (List UInt8) :=
  let codes := codes s.toList
  let front := codes.takeWhile (· < 128)
  if front.length < codes.length then .error front.length else decodeFrom 0 s.toList

def encode (octets : List UInt8) : String :=
  String.ofList (octets.flatMap fun octet => hexDigits 2 octet.toNat)

end Polystore.Text.Hex
