import Polystore.Refusal
import Polystore.Value.Finite

/-!
Computations that leave a trace. What happens while a query is answered is recorded in order:
decisions, log events, reads of the cache, statements that are run, and looks at the flag by which
the caller cancels. A computation that fails keeps what it has recorded.
-/

namespace Polystore

inductive Phase where
  | validation
  | accessControl
  | rowRules
  | planning
  | nameResolution
  | generation
  | cache
  | execution
  deriving DecidableEq

namespace Phase

instance : Vocabulary Phase where
  members := [validation, accessControl, rowRules, planning, nameResolution, generation, cache,
    execution]
  name
    | validation => "validation"
    | accessControl => "access-control"
    | rowRules => "rls"
    | planning => "planning"
    | nameResolution => "name-resolution"
    | generation => "sql-generation"
    | cache => "cache"
    | execution => "execution"

def name (p : Phase) : String := Vocabulary.name p

end Phase

/-- A decision, with what it was based on. -/
structure Entry where
  phase : Phase
  message : String
  details : Row

namespace Entry

/-- The entry as a record that any reader of JSON understands. -/
def toRecord (e : Entry) : Except Fault Value :=
  match Value.unencodableMember? e.details with
  | some u => .error (.unencodable u)
  | none =>
    if Value.membersHeight e.details ≤ Value.heightLimit then
      .ok (.object [
        ("phase", .text e.phase.name), ("message", .text e.message),
        ("details", Value.finite (.object e.details))])
    else .error .nestedTooDeep

/-- The entry as a list: phase, message and details. -/
def toValue (e : Entry) : Value :=
  .list [.text e.phase.name, .text e.message, .object e.details]

end Entry

inductive Level where
  | debug
  | info
  | warning
  | error
  deriving DecidableEq

namespace Level

def name : Level → String
  | debug => "debug"
  | info => "info"
  | warning => "warning"
  | error => "error"

def rank : Level → Nat
  | debug => 10
  | info => 20
  | warning => 30
  | error => 40

end Level

/-- A log event with its fields; the surroundings it was recorded in add fields of their own. -/
structure Event where
  level : Level
  name : String
  fields : Row
  surroundings : Row

/-- A statement with its parameters and the place where it runs. -/
structure Call where
  sql : String
  params : List Value
  target : String

inductive Happening where
  | noted (e : Entry)
  | logged (e : Event)
  | readCache (keys : List String)
  | ran (c : Call)
  | looked (before : Stage)

/-- What a computation records, and what it comes to. -/
structure Traced (α : Type) where
  trace : List Happening
  result : Except Failure α

namespace Traced

variable {α β : Type}

def bind (t : Traced α) (f : α → Traced β) : Traced β :=
  match t.result with
  | .ok a => ⟨t.trace ++ (f a).trace, (f a).result⟩
  | .error failure => ⟨t.trace, .error failure⟩

instance : Monad Traced where
  pure a := ⟨[], .ok a⟩
  bind := bind

def fail (failure : Failure) : Traced α := ⟨[], .error failure⟩

def refuse (r : Refusal) : Traced α := fail (.refused r)

def ofExcept (result : Except Failure α) : Traced α := ⟨[], result⟩

def record (h : Happening) : Traced Unit := ⟨[h], .ok ()⟩

/-- Records a decision. -/
def note (phase : Phase) (message : String) (details : Row) : Traced Unit :=
  record (.noted ⟨phase, message, details⟩)

def log (level : Level) (name : String) (fields : Row) : Traced Unit :=
  record (.logged ⟨level, name, fields, []⟩)

/-- The same computation within surroundings that its log events show. -/
def within (surroundings : Row) (t : Traced α) : Traced α :=
  { t with trace := t.trace.map fun
      | .logged e => .logged { e with surroundings := surroundings ++ e.surroundings }
      | h => h }

end Traced

namespace Happening

def entry? : Happening → Option Entry
  | noted e => some e
  | _ => none

def event? : Happening → Option Event
  | logged e => some e
  | _ => none

def keys? : Happening → Option (List String)
  | readCache keys => some keys
  | _ => none

def call? : Happening → Option Call
  | ran c => some c
  | _ => none

def isLook : Happening → Bool
  | looked _ => true
  | _ => false

/-- The decisions of a trace as values. -/
def entryValues (trace : List Happening) : Value :=
  .list ((trace.filterMap entry?).map (·.toValue))

end Happening

end Polystore
