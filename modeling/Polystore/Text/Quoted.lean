import Polystore.Text.Printable
import Polystore.Text.Surrogate

/-!
Quoted text and octets. A quotation uses single quotes unless the text holds one and no double
quote; backslashes, the quote itself and hidden characters are escaped.
-/

namespace Polystore.Text

/-- The last `width` digits of a number in base sixteen. -/
def hexDigits : Nat → Nat → List Char
  | 0, _ => []
  | width + 1, n => hexDigits width (n / 16) ++ [Nat.digitChar (n % 16)]

/-- The escape of a code. -/
def codeEscape (code : Nat) : List Char :=
  if code < 0x100 then '\\' :: 'x' :: hexDigits 2 code
  else if code < 0x10000 then '\\' :: 'u' :: hexDigits 4 code
  else '\\' :: 'U' :: hexDigits 8 code

/-- The double quote where only single quotes occur, otherwise the single quote. -/
def quoteFor (cs : List Char) : Char :=
  if cs.contains '\'' && !cs.contains '"' then '"' else '\''

/-- One character inside a quotation; `shown` says which characters stand for themselves. -/
def escape (shown : Char → Bool) (quote c : Char) : List Char :=
  if c = quote ∨ c = '\\' then ['\\', c]
  else if c = '\n' then ['\\', 'n']
  else if c = '\t' then ['\\', 't']
  else if c = '\r' then ['\\', 'r']
  else if shown c then [c]
  else codeEscape c.toNat

/-- The characters inside a quotation. What one character cannot stand for is shown by its code. -/
def escapeAll (shown : Char → Bool) (quote : Char) (cs : List Char) : List Char :=
  (units cs).flatMap fun
    | [c] => escape shown quote c
    | unit => codeEscape (codeOf unit)

def quoteWith (shown : Char → Bool) (cs : List Char) : List Char :=
  let quote := quoteFor cs
  quote :: escapeAll shown quote cs ++ [quote]

/-- The quotation that keeps every printable character. -/
def quoted (s : String) : String := String.ofList (quoteWith isPrintable s.toList)

/-- The quotation of octets, which are shown where they are printable ASCII. -/
def quotedOctets (octets : List UInt8) : List Char :=
  let shown (c : Char) : Bool := 32 ≤ c.toNat && c.toNat < 127
  'b' :: quoteWith shown (octets.map fun o => Char.ofNat o.toNat)

/-- Replaces each character beyond ASCII by its escape. -/
def asciiOnly (cs : List Char) : List Char :=
  cs.flatMap fun c => if c.toNat < 128 then [c] else codeEscape c.toNat

end Polystore.Text
