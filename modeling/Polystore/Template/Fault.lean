import Polystore.Template.Layout
import Polystore.Template.Pieces

/-!
Why templates are not filled: they are malformed, or what a field names is not there or cannot be
shown in the way that the field asks for.
-/

namespace Polystore.Template

/-- Why a template cannot be filled. -/
inductive Fault where
  | malformed (defect : Defect)
  | layout (fault : Layout.Fault)
  | tooDeep
  | unknownConversion (mark : List Char)
  | emptyStep
  | unclosedBracket
  | textBehindBracket
  | unknownName (name : String)
  | noPosition
  | noItem
  | noMember (name : Value)
  | noAttribute
  | unsupported
  | unwritable (failure : Value.WriteFailure)

namespace Fault

def message : Fault → String
  | malformed defect => defect.message
  | layout fault => fault.message
  | tooDeep => "Max string recursion exceeded"
  | unknownConversion mark =>
    "Unknown conversion specifier " ++ Layout.Fault.shown (Text.codeOf mark) 127
  | emptyStep => "Empty attribute in format string"
  | unclosedBracket => "Missing ']' in format string"
  | textBehindBracket => "Only '.' or '[' may follow ']' in format field specifier"
  | unknownName name => (Value.text name).inspect
  | noMember name => name.inspect
  | noPosition => "no value by position"
  | noItem => "no item at this position"
  | noAttribute => "no attribute of this name"
  | unsupported => "not supported by a value of this type"
  | unwritable failure => failure.message

end Fault

end Polystore.Template
