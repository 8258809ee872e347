import Polystore.Fault

/-!
Keys of cached rows. A key is a pattern with its field for the id filled in, and its other fields
with values from the context; every field needs a value.
-/

namespace Polystore.Cache

/-- The values that the fields of a pattern are filled with. -/
def fieldValues (id : Value) (context : Row) : List String → Except Fault Row
  | [] => .ok []
  | name :: rest =>
    if name = "id" then ((name, id) :: ·) <$> fieldValues id context rest
    else
      match context.lookup name with
      | some v => ((name, v) :: ·) <$> fieldValues id context rest
      | none => .error (.missingField name)

variable (objects : Template.Objects)

/-- The key of the row of an id. -/
def key (pattern : String) (id : Value) (context : Row) : Except Fault String := do
  match Template.fieldNames pattern with
  | .error defect => .error (.template (.malformed defect))
  | .ok names =>
    match Template.fill objects pattern (← fieldValues id context names) with
    | .error fault => .error (.template fault)
    | .ok key => .ok key

/-- The ids with the keys of their rows. Nothing can be kept under an id that is a collection. -/
def keys (pattern : String) (context : Row) : List Value → Except Fault (List (Value × String))
  | [] => .ok []
  | id :: rest => do
    let key ← key objects pattern id context
    if id.isCollection then .error .noKey
    else return (id, key) :: (← keys pattern context rest)

end Polystore.Cache
