import Polystore.Decoding.IntegerText
import Polystore.Text.Surrogate
import Polystore.Vocabulary

/-!
Decoding of single values. Text and words are taken as they are; integers and truth values are
also read from numbers and texts that plainly stand for them. A text with half a surrogate pair is
text like any other, but nothing is read from it.
-/

namespace Polystore.Decoding

/-- Reads a value of a type, or says what is wrong with it. -/
abbrev Decoder (α : Type) := Value → Decoded α

/-- Accepts every value. -/
def anything : Decoder Value := .ok

def text : Decoder String
  | .text s => .ok s
  | v => .refuse .noText v

/-- Whether a text holds half a surrogate pair. -/
def isBroken (s : String) : Bool := Text.hasHalf s.toList

/-- One of the names of a vocabulary; of any other value something is said. -/
def wordOr (α : Type) [Vocabulary α] (complaint : Complaint) : Decoder α
  | .text s =>
    if isBroken s then .refuse .brokenText (.text s)
    else
      match Vocabulary.ofName? s with
      | some a => .ok a
      | none => .refuse complaint (.text s)
  | v => .refuse complaint v

/-- One of the names of a vocabulary. -/
def word (α : Type) [Vocabulary α] : Decoder α := wordOr α (.noWord (Vocabulary.names α))

/-- One of the names of a vocabulary that is a type of its own to the reader of the issue. -/
def memberOf (α : Type) [Vocabulary α] : Decoder α := wordOr α (.noMemberOf (Vocabulary.names α))

/-- The integer equal to a double, which has to fit into 64 bits. -/
def integerOfDouble (x : Binary64) : Except Complaint Int :=
  match x, x.toInt? with
  | .finite _ _ _, some i =>
    if -0x8000000000000000 < i ∧ i < 0x8000000000000000 then .ok i else .error .oversizeInteger
  | .finite _ _ _, none => .error .fractionalInteger
  | _, _ => .error .infiniteInteger

def integerOf : Value → Except Complaint Int
  | .int i => .ok i
  | .bool b => .ok (if b then 1 else 0)
  | .float x => integerOfDouble x
  | .text s => if isBroken s then .error .brokenText else integerOfText s
  | _ => .error .noInteger

/-- The decoder that refuses what a function refuses. -/
def ofFunction {α : Type} (read : Value → Except Complaint α) : Decoder α := fun v =>
  match read v with
  | .ok a => .ok a
  | .error complaint => .refuse complaint v

def integer : Decoder Int := ofFunction integerOf

def trueWords : List String := ["1", "on", "t", "true", "y", "yes"]

def falseWords : List String := ["0", "off", "f", "false", "n", "no"]

/-- Reads a truth value; letters may have either case. -/
def truthOfText (s : String) : Except Complaint Bool :=
  let word := String.ofList (s.toList.map Char.toLower)
  if trueWords.contains word then .ok true
  else if falseWords.contains word then .ok false
  else .error .unreadableTruth

/-- Reads a truth value from an integer. -/
def truthOfInteger (i : Int) : Except Complaint Bool :=
  if i = 0 then .ok false else if i = 1 then .ok true else .error .unreadableTruth

/-- Reads a truth value. A number that is no integer of at most 64 bits is of the wrong kind
altogether. -/
def truthOf : Value → Except Complaint Bool
  | .bool b => .ok b
  | .int i =>
    if -0x8000000000000000 ≤ i ∧ i < 0x8000000000000000 then truthOfInteger i
    else .error .noTruth
  | .float x =>
    match integerOfDouble x with
    | .ok i => truthOfInteger i
    | .error _ => .error .noTruth
  | .text s => if isBroken s then .error .brokenText else truthOfText s
  | _ => .error .noTruth

def truth : Decoder Bool := ofFunction truthOf

/-- Null, or a value of a type. -/
def nullable {α : Type} (decode : Decoder α) : Decoder (Option α)
  | .null => .ok none
  | v => some <$> decode v

/-- Decodes items from an index on; the issues of all of them are kept. -/
def itemsFrom {α : Type} (decode : Decoder α) : Nat → List Value → Decoded (List α)
  | _, [] => .ok []
  | i, v :: rest =>
    Decoded.both (Decoded.both (.ok List.cons) ((decode v).under (.index i)))
      (itemsFrom decode (i + 1) rest)

def list {α : Type} (decode : Decoder α) : Decoder (List α)
  | .list items => itemsFrom decode 0 items
  | v => .refuse .noList v

/-- An object with members of any names. -/
def map : Decoder Row
  | .object members => .ok members
  | v => .refuse .noMap v

/-- A value that one of two decoders accepts; each tells its issues under a name. -/
def either {α : Type} (first : String × Decoder α) (second : String × Decoder α) : Decoder α :=
  fun v =>
    match first.2 v, second.2 v with
    | .ok a, _ => .ok a
    | .error _, .ok a => .ok a
    | .error xs, .error ys =>
      .error (xs.map (·.under (.member first.1)) ++ ys.map (·.under (.member second.1)))

end Polystore.Decoding
