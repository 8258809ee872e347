import Polystore.Value.Text

/-!
Issues of values that do not have the expected form: what is wrong, where, and what was received
there.
-/

namespace Polystore.Decoding

/-- A step into a value: the name of a member or the index of an item. -/
inductive Step where
  | member (name : String)
  | index (i : Nat)
  deriving DecidableEq

namespace Step

def text : Step → String
  | member name => name
  | index i => toString i

def toValue : Step → Value
  | member name => .text name
  | index i => .int i

end Step

inductive Complaint where
  | missing
  | unknownMember
  | noText
  | brokenText
  | noList
  | noMap
  | noRecord (name : String)
  | noWord (words : List String)
  | noMemberOf (words : List String)
  | noInteger
  | unreadableInteger
  | fractionalInteger
  | oversizeInteger
  | infiniteInteger
  | noTruth
  | unreadableTruth
  deriving DecidableEq

namespace Complaint

/-- The words of a choice: quoted, with commas between them and `or` before the last. -/
def choice (words : List String) : String :=
  let quoted := words.map fun w => s!"'{w}'"
  match quoted.reverse with
  | [] => ""
  | [word] => word
  | last :: earlier => ", ".intercalate earlier.reverse ++ " or " ++ last

def message : Complaint → String
  | missing => "Field required"
  | unknownMember => "Extra inputs are not permitted"
  | noText => "Input should be a valid string"
  | brokenText =>
    "Input should be a valid string, unable to parse raw data as a unicode string"
  | noList => "Input should be a valid list"
  | noMap => "Input should be a valid dictionary"
  | noRecord name => s!"Input should be a valid dictionary or instance of {name}"
  | noWord words | noMemberOf words => "Input should be " ++ choice words
  | noInteger => "Input should be a valid integer"
  | unreadableInteger =>
    "Input should be a valid integer, unable to parse string as an integer"
  | fractionalInteger => "Input should be a valid integer, got a number with a fractional part"
  | oversizeInteger => "Unable to parse input string as an integer, exceeded maximum size"
  | infiniteInteger => "Input should be a finite number"
  | noTruth => "Input should be a valid boolean"
  | unreadableTruth => "Input should be a valid boolean, unable to interpret input"

def code : Complaint → String
  | missing => "missing"
  | unknownMember => "extra_forbidden"
  | noText => "string_type"
  | brokenText => "string_unicode"
  | noList => "list_type"
  | noMap => "dict_type"
  | noRecord _ => "model_type"
  | noWord _ => "literal_error"
  | noMemberOf _ => "enum"
  | noInteger => "int_type"
  | unreadableInteger => "int_parsing"
  | fractionalInteger => "int_from_float"
  | oversizeInteger => "int_parsing_size"
  | infiniteInteger => "finite_number"
  | noTruth => "bool_type"
  | unreadableTruth => "bool_parsing"

end Complaint

structure Issue where
  complaint : Complaint
  path : List Step
  received : Value

namespace Issue

/-- The issue seen from a value that holds the place of its path. -/
def under (step : Step) (issue : Issue) : Issue := { issue with path := step :: issue.path }

/-- The steps of the path, with points between them. -/
def location (issue : Issue) : String := ".".intercalate (issue.path.map Step.text)

/-- The issue as one line. -/
def line (issue : Issue) : String := s!"{issue.location}: {issue.complaint.message}"

/-- The issue as a list: code, path and message. -/
def toValue (issue : Issue) : Value :=
  .list [.text issue.complaint.code, .list (issue.path.map Step.toValue),
    .text issue.complaint.message]

end Issue

/-- Either what was decoded or every issue that stands in its way. -/
abbrev Decoded (α : Type) := Except (List Issue) α

namespace Decoded

def refuse {α : Type} (complaint : Complaint) (received : Value) : Decoded α :=
  .error [⟨complaint, [], received⟩]

/-- Applies what the first decoding gives to what the second gives; issues of both are kept. -/
def both {α β : Type} (f : Decoded (α → β)) (x : Decoded α) : Decoded β :=
  match f, x with
  | .ok f, .ok a => .ok (f a)
  | .ok _, .error issues => .error issues
  | .error issues, .ok _ => .error issues
  | .error first, .error second => .error (first ++ second)

def under {α : Type} (step : Step) : Decoded α → Decoded α
  | .ok a => .ok a
  | .error issues => .error (issues.map (·.under step))

end Decoded

end Polystore.Decoding
