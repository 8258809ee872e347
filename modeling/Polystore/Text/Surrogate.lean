/-!
Halves of surrogate pairs. Two code units spell one character; a unit without its other half spells
none, but escapes may name it all the same. A text keeps such a half as two characters: a mark, and
the character of private use that is as far from the last plane's start as the half is from zero.
Where a text holds the mark as such, it is kept doubled. The mark is the character just in front of
the halves, so that texts have the order of their codes.
-/

namespace Polystore.Text

def isHighSurrogate (code : Nat) : Bool := 0xD800 ≤ code && code < 0xDC00

def isLowSurrogate (code : Nat) : Bool := 0xDC00 ≤ code && code < 0xE000

def isSurrogate (code : Nat) : Bool := isHighSurrogate code || isLowSurrogate code

/-- The code that a pair of code units spells. -/
def pairCode (high low : Nat) : Nat := 0x10000 + (high - 0xD800) * 0x400 + (low - 0xDC00)

/-- The character in front of what is kept. -/
def keptMark : Char := Char.ofNat 0xD7FF

/-- The characters of a code: one, but for a half and for the mark. -/
def ofCode (code : Nat) : List Char :=
  if isSurrogate code then [keptMark, Char.ofNat (0x100000 + code)]
  else if code = keptMark.toNat then [keptMark, keptMark]
  else [Char.ofNat code]

/-- The characters of a text that holds no halves, as they are kept. -/
def keep (cs : List Char) : List Char := cs.flatMap fun c => ofCode c.toNat

/-- Takes the characters of the first code. -/
def takeCode : List Char → List Char × List Char
  | c :: d :: rest => if c = keptMark then ([c, d], rest) else ([c], d :: rest)
  | cs => (cs, [])

/-- The characters of a text, code by code. -/
def units : List Char → List (List Char)
  | c :: d :: rest => if c = keptMark then [c, d] :: units rest else [c] :: units (d :: rest)
  | [c] => [[c]]
  | [] => []

/-- The code that characters are kept for. -/
def codeOf : List Char → Nat
  | [_, kept] => if kept = keptMark then kept.toNat else kept.toNat - 0x100000
  | cs => (cs.headD ' ').toNat

/-- The codes of a text. -/
def codes (cs : List Char) : List Nat := (units cs).map codeOf

/-- How many codes a text has. -/
def size (cs : List Char) : Nat := (units cs).length

/-- Whether halves of pairs are among the codes of a text. -/
def hasHalf (cs : List Char) : Bool := (codes cs).any isSurrogate

end Polystore.Text
