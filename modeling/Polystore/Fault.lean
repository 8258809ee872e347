import Polystore.Json.Failure
import Polystore.Template.Filling
import Polystore.Text.Utf8
import Polystore.Value.Whole

/-!
Faults: failures that are no answer to a caller's mistake. They come from values and names that
some operation cannot deal with, and from backends that fail.
-/

namespace Polystore

/-- The failure of a backend or a cache, in its own words. -/
structure Outage where
  kind : String
  message : String
  deriving DecidableEq

inductive Fault where
  | template (fault : Template.Fault)
  | missingField (name : String)
  | unreadableText (failure : Text.Utf8.Failure)
  | unencodable (u : Text.Utf8.Unencodable)
  | unreadableJson (failure : Json.Failure)
  | unknownWord (word : Value) (vocabulary : String)
  | unknownName (name : String)
  | noWhole (failure : Value.WholeFailure)
  | noText
  | noFirst
  | noElements
  | noKey
  | noOrder
  | nestedTooDeep
  | absent
  | unwritable (failure : Value.WriteFailure)
  | outage (o : Outage)

namespace Fault

def message : Fault → String
  | template fault => fault.message
  | missingField name | unknownName name => (Value.text name).inspect
  | unreadableText failure => failure.message
  | unencodable u => u.message
  | unreadableJson failure => failure.message ""
  | unknownWord word vocabulary =>
    match word.writeInspected with
    | .ok shown => s!"{shown} is not a valid {vocabulary}"
    | .error failure => failure.message
  | noWhole failure => failure.message
  | noText => "the value is no text"
  | noFirst => "an empty list has no first item"
  | noElements => "the value has no elements"
  | noKey => "nothing is found by a collection"
  | noOrder => "texts and other values have no order"
  | nestedTooDeep => "Maximum serialization depth exceeded"
  | absent => "what is looked for is absent"
  | unwritable failure => failure.message
  | outage o => o.message

/-- The sorts of faults. -/
inductive Kind where
  | value
  | text
  | octets
  | missingName
  | missingField
  | range
  | type
  | attribute
  | absence
  | overflow
  | depth
  | memory
  | outage (kind : String)
  deriving DecidableEq

def kindOfTemplate : Template.Fault → Kind
  | .layout .tooWide => .memory
  | .layout .tooLargeForFloat | .layout .tooLargeForCharacter | .layout .noCharacter => .overflow
  | .unknownName _ | .noMember _ => .missingName
  | .noPosition | .noItem => .range
  | .noAttribute => .attribute
  | .unsupported => .type
  | _ => .value

def kind : Fault → Kind
  | template fault => kindOfTemplate fault
  | missingField _ => .missingField
  | unreadableText _ => .text
  | unencodable _ => .octets
  | unreadableJson (.tooDeep _) => .depth
  | unreadableJson _ | unknownWord _ _ | nestedTooDeep | unwritable _ => .value
  | unknownName _ => .missingName
  | noWhole .infinite => .overflow
  | noWhole .noNumber => .type
  | noWhole _ => .value
  | noText => .attribute
  | noFirst => .range
  | noElements | noKey | noOrder => .type
  | absent => .absence
  | outage o => .outage o.kind

end Fault

end Polystore
