import Polystore.Value

/-!
Finite types whose members have names. The names are listed in the order in which messages give
them.
-/

namespace Polystore

class Vocabulary (α : Type) where
  members : List α
  name : α → String

namespace Vocabulary

variable {α : Type} [Vocabulary α]

/-- The member of a name. -/
def ofName? (name : String) : Option α := members.find? fun a => Vocabulary.name a == name

def names (α : Type) [Vocabulary α] : List String := (members (α := α)).map Vocabulary.name

end Vocabulary

/-- A value that may name a member of a vocabulary. -/
inductive Named (α : Type) where
  | known (a : α)
  | unknown (v : Value)

namespace Named

variable {α : Type} [Vocabulary α]

def ofValue (v : Value) : Named α :=
  match v with
  | .text name => (Vocabulary.ofName? name).elim (.unknown v) .known
  | _ => .unknown v

/-- The value that names. -/
def value : Named α → Value
  | known a => .text (Vocabulary.name a)
  | unknown v => v

end Named

end Polystore
