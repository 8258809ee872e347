import Polystore.Text.Utf8
import Polystore.Value

/-!
Values that JSON can carry: without infinite floats and floats that are no number, which it has no
numbers for, not nested too deep, and with names that have octets.
-/

namespace Polystore

namespace Value

mutual

/-- The value with null for every float that is infinite or no number. -/
def finite : Value → Value
  | .float x => if (x.toDyadic?).isSome then .float x else .null
  | .list items => .list (finiteItems items)
  | .object members => .object (finiteMembers members)
  | v => v

def finiteItems : List Value → List Value
  | [] => []
  | x :: xs => finite x :: finiteItems xs

def finiteMembers : List (String × Value) → List (String × Value)
  | [] => []
  | (name, x) :: xs => (name, finite x) :: finiteMembers xs

end

mutual

/-- How deep a value is nested, itself included. -/
def height : Value → Nat
  | .list items => itemsHeight items + 1
  | .object members => membersHeight members + 1
  | _ => 1

def itemsHeight : List Value → Nat
  | [] => 0
  | x :: xs => max (height x) (itemsHeight xs)

def membersHeight : List (String × Value) → Nat
  | [] => 0
  | (_, x) :: xs => max (height x) (membersHeight xs)

end

/-- What keeps a text from having octets. -/
def halves? (s : String) : Option Text.Utf8.Unencodable :=
  match Text.Utf8.encode s with
  | .ok _ => none
  | .error u => some u

mutual

/-- What keeps a name of a member, at any depth, from having octets. -/
def unencodable? : Value → Option Text.Utf8.Unencodable
  | .list items => unencodableItem? items
  | .object members => unencodableMember? members
  | _ => none

def unencodableItem? : List Value → Option Text.Utf8.Unencodable
  | [] => none
  | x :: xs => (unencodable? x).or (unencodableItem? xs)

def unencodableMember? : List (String × Value) → Option Text.Utf8.Unencodable
  | [] => none
  | (name, x) :: xs => ((halves? name).or (unencodable? x)).or (unencodableMember? xs)

end

/-- The greatest height of a value in a record. -/
def heightLimit : Nat := 255

end Value

end Polystore
