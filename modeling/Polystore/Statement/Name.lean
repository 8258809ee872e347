import Polystore.Value.Equality
import Polystore.Value.Text

/-!
What stands for names in statements. Statements that are resolved have texts there. A record may
have any value in the place of a name, though nothing but a text can be quoted.
-/

namespace Polystore.Statement

/-- Types whose members stand for names. -/
class Nominal (ν : Type) where
  equality : BEq ν
  value : ν → Value
  ofText : String → ν

instance : Nominal String where
  equality := inferInstance
  value := .text
  ofText s := s

instance : Nominal Value where
  equality := inferInstance
  value v := v
  ofText := .text

namespace Nominal

variable {ν : Type} [Nominal ν]

-- Where a type has an equality of its own, that is the one to find.
instance (priority := low) : BEq ν := equality

/-- The text that shows a name. -/
def display (name : ν) : String := (value name).display

/-- Whether there is a name, which an empty one does not count as. -/
def isPresent (name : ν) : Bool := (value name).isPresent

end Nominal

end Polystore.Statement
