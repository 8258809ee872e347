import Polystore.Text.Quoted

/-!
UTF-8. The first octet of a character fixes its length and the bounds of its second octet;
decoding stops at the first octets that rule the text out and says which they are and why.
-/

namespace Polystore.Text.Utf8

/-- Why octets are no UTF-8 text. -/
inductive Reason where
  | startByte
  | continuationByte
  | endOfData
  deriving DecidableEq

namespace Reason

def message : Reason → String
  | startByte => "invalid start byte"
  | continuationByte => "invalid continuation byte"
  | endOfData => "unexpected end of data"

end Reason

/-- The octets that stop a reading: their offset, how many they are, and the first of them. -/
structure Failure where
  offset : Nat
  count : Nat
  first : UInt8
  reason : Reason

/-- How many octets follow a first octet, with the bounds of the second one. -/
def shape? (first : UInt8) : Option (Nat × UInt8 × UInt8) :=
  if first < 0x80 then some (0, 0x80, 0xBF)
  else if first < 0xC2 then none
  else if first < 0xE0 then some (1, 0x80, 0xBF)
  else if first = 0xE0 then some (2, 0xA0, 0xBF)
  else if first = 0xED then some (2, 0x80, 0x9F)
  else if first < 0xF0 then some (2, 0x80, 0xBF)
  else if first = 0xF0 then some (3, 0x90, 0xBF)
  else if first < 0xF4 then some (3, 0x80, 0xBF)
  else if first = 0xF4 then some (3, 0x80, 0x8F)
  else none

/-- The payload bits of a first octet that has `tails` octets behind it. -/
def payload (tails : Nat) (first : UInt8) : Nat :=
  match tails with
  | 0 => first.toNat
  | 1 => first.toNat % 0x20
  | 2 => first.toNat % 0x10
  | _ => first.toNat % 0x08

/-- Reads the tail octets of a character: its code point, or how many octets were good. -/
def tails (low high : UInt8) (code : Nat) : Nat → List UInt8 → Except (Nat × Reason) Nat
  | 0, _ => .ok code
  | _ + 1, [] => .error (0, .endOfData)
  | count + 1, octet :: rest =>
    if low ≤ octet ∧ octet ≤ high then
      match tails 0x80 0xBF (code * 0x40 + octet.toNat % 0x40) count rest with
      | .ok c => .ok c
      | .error (good, reason) => .error (good + 1, reason)
    else .error (0, .continuationByte)

/-- Reads octets from an offset on; the first `skip` octets belong to the character before. -/
def decodeFrom : Nat → Nat → List UInt8 → Except Failure (List Char)
  | _, _, [] => .ok []
  | skip + 1, offset, _ :: rest => decodeFrom skip (offset + 1) rest
  | 0, offset, first :: rest =>
    match shape? first with
    | none => .error ⟨offset, 1, first, .startByte⟩
    | some (count, low, high) =>
      match tails low high (payload count first) count rest with
      | .error (good, reason) => .error ⟨offset, good + 1, first, reason⟩
      | .ok code => (Char.ofNat code :: ·) <$> decodeFrom count (offset + 1) rest

/-- The text that octets spell. -/
def decode (octets : List UInt8) : Except Failure String :=
  (fun cs => String.ofList (keep cs)) <$> decodeFrom 0 0 octets

/-- Halves of pairs, which have no octets: where they stand in a text, how many stand there one
behind the other, and the code of the first. -/
structure Unencodable where
  position : Nat
  count : Nat
  first : Nat

/-- The octets of a text. -/
def encode (s : String) : Except Unencodable (List UInt8) :=
  let codes := codes s.toList
  let front := codes.takeWhile (!isSurrogate ·)
  match (codes.drop front.length).takeWhile isSurrogate with
  | [] => .ok (String.ofList (codes.map Char.ofNat)).toUTF8.toList
  | first :: more => .error ⟨front.length, more.length + 1, first⟩

/-- Two lower-case digits of an octet in base sixteen. -/
def hex (octet : UInt8) : String :=
  String.ofList [Nat.digitChar (octet.toNat / 16), Nat.digitChar (octet.toNat % 16)]

def Failure.message (f : Failure) : String :=
  if f.count = 1 then
    s!"'utf-8' codec can't decode byte 0x{hex f.first} in position {f.offset}: "
      ++ f.reason.message
  else
    s!"'utf-8' codec can't decode bytes in position {f.offset}-{f.offset + f.count - 1}: "
      ++ f.reason.message

def Unencodable.message (u : Unencodable) : String :=
  if u.count = 1 then
    let shown := String.ofList (codeEscape u.first)
    s!"'utf-8' codec can't encode character '{shown}' in position {u.position}: "
      ++ "surrogates not allowed"
  else
    s!"'utf-8' codec can't encode characters in position {u.position}-"
      ++ s!"{u.position + u.count - 1}: surrogates not allowed"

end Polystore.Text.Utf8
