import Polystore.Template.Fault

/-!
What the name of a field can lead to: a value, or the type of one, or what types lead to in turn, or
anything else that attributes lead to. Every value has its type as an attribute, and numbers have
those of complex and of rational numbers; what other attributes there are is left to the runtime.
-/

namespace Polystore.Template

inductive Referent where
  | value (v : Value)
  | type (name : String)
  /-- Types in a row, such as those that a type is based on. -/
  | types (names : List String)
  /-- A type of containers together with what stands for the type of their items. -/
  | applied (name : String) (argument : Value)
  /-- Anything else, known by its identity only. -/
  | object (identity : Nat)

/-- What the runtime says of attributes that are not known here, and of the objects they lead to:
what these hold and how they are shown. -/
structure Objects where
  attribute? : Referent → String → Option Referent
  item : Nat → Value → Except Fault Referent
  inspect : Nat → Except Fault String
  display : Nat → Except Fault String
  layOut : Nat → List Char → Except Fault (List Char)

namespace Objects

/-- No attributes but those that are known. -/
def none : Objects where
  attribute? _ _ := .none
  item _ _ := .error .unsupported
  inspect _ := .error .unsupported
  display _ := .error .unsupported
  layOut _ _ := .error .unsupported

end Objects

namespace Referent

/-- The name of the type of a value. -/
def typeName : Value → String
  | .null => "NoneType"
  | .bool _ => "bool"
  | .int _ => "int"
  | .float _ => "float"
  | .text _ => "str"
  | .octets _ => "bytes"
  | .list _ => "list"
  | .object _ => "dict"

/-- The attributes of a whole number. -/
def wholeAttributes (i : Int) : Row := [
  ("real", .int i), ("imag", .int 0), ("numerator", .int i), ("denominator", .int 1)]

/-- The attributes of a value, but for its type. -/
def valueAttributes : Value → Row
  | .int i => wholeAttributes i
  | .bool b => wholeAttributes (if b then 1 else 0)
  | .float x => [("real", .float x), ("imag", .float (.zero false))]
  | .list _ | .object _ => [("__hash__", .null)]
  | _ => []

/-- The types that a type is based on, the nearest one first. -/
def bases (name : String) : List String :=
  if name = "object" then []
  else if name = "bool" then ["int", "object"]
  else ["object"]

/-- The module of a type and its name there. -/
def qualifiedName (name : String) : String × String :=
  match name.toList.span (· ≠ '.') with
  | (front, _ :: behind) => (String.ofList front, String.ofList behind)
  | (_, []) => ("builtins", name)

/-- An attribute of a type. Collections have no hash. -/
def typeAttribute? (name asked : String) : Option Referent :=
  let (home, own) := qualifiedName name
  match asked with
  | "__class__" => some (.type "type")
  | "__name__" | "__qualname__" => some (.value (.text own))
  | "__module__" => some (.value (.text home))
  | "__base__" => some ((bases name).head?.elim (.value .null) .type)
  | "__bases__" => some (.types ((bases name).take 1))
  | "__mro__" => some (.types (name :: bases name))
  | "__hash__" => if name = "list" ∨ name = "dict" then some (.value .null) else none
  | _ => none

/-- A known attribute of a referent. A type that is applied has the attributes of the type, but for
a few of its own. -/
def known? (r : Referent) (name : String) : Option Referent :=
  match r, name with
  | .value v, "__class__" => some (.type (typeName v))
  | .value v, _ => ((valueAttributes v).lookup name).map .value
  | .types _, "__class__" => some (.type "tuple")
  | .types _, _ => none
  | .applied _ _, "__class__" => some (.type "types.GenericAlias")
  | .applied t _, "__origin__" => some (.type t)
  | .type t, _ | .applied t _, _ => typeAttribute? t name
  | .object _, _ => none

/-- Whether a type can be applied. -/
def isContainer (name : String) : Bool := ["list", "dict", "tuple", "type"].contains name

variable (objects : Objects)

/-- An attribute of a referent. -/
def attribute? (r : Referent) (name : String) : Option Referent :=
  (r.known? name).or (objects.attribute? r name)

/-- The text that shows a referent, as it tells text from other values. -/
def inspect : Referent → Except Fault String
  | .value v => v.writeInspected.mapError .unwritable
  | .type name => .ok (inspectType name)
  | .types [name] => .ok s!"({inspectType name},)"
  | .types names => .ok ("(" ++ ", ".intercalate (names.map inspectType) ++ ")")
  | .applied name argument => .ok s!"{name}[{argument.inspect}]"
  | .object identity => objects.inspect identity
where
  inspectType (name : String) : String := s!"<class '{name}'>"

def display : Referent → Except Fault String
  | .value v => v.write.mapError .unwritable
  | .object identity => objects.display identity
  | r => r.inspect objects

end Referent

end Polystore.Template
