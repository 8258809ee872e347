import Polystore.Decoding.Scalar

/-!
Decoding of records. Each field has two names, one with capitals and one with underscores; where a
record gives both, the former counts and the latter is a member nobody asked for. The issues come
in the order of the fields, then those of unknown members in the order of the record.
-/

namespace Polystore.Decoding

/-- The two names of a field. -/
structure Key where
  capital : String
  plain : String

namespace Key

/-- The name with an underscore and a small letter for each capital. -/
def underscored (name : String) : String :=
  String.ofList (name.toList.flatMap fun c => if c.isUpper then ['_', c.toLower] else [c])

def of (capital : String) : Key := ⟨capital, underscored capital⟩

/-- The name that a record uses for a field. -/
def usedIn (key : Key) (members : Row) : Option String :=
  if members.has key.capital then some key.capital
  else if members.has key.plain then some key.plain
  else none

end Key

/-- Some fields of a record: their keys, and how they are read. -/
structure Fields (α : Type) where
  keys : List Key
  read : Row → Decoded α

namespace Fields

variable {α β : Type}

def constant (a : α) : Fields α := ⟨[], fun _ => .ok a⟩

/-- Reads further fields behind those that give a function. -/
def and (f : Fields (α → β)) (x : Fields α) : Fields β :=
  ⟨f.keys ++ x.keys, fun members => (f.read members).both (x.read members)⟩

/-- A field of a record, with what it is where the record lacks it. -/
def field (key : Key) (decode : Decoder α) (absent : Row → Decoded α) : Fields α where
  keys := [key]
  read members :=
    match key.usedIn members with
    | some name => (decode (members.cell name)).under (.member name)
    | none => absent members

/-- A field that every record has. -/
def required (key : Key) (decode : Decoder α) : Fields α :=
  field key decode fun members =>
    .error [⟨.missing, [.member key.capital], .object members⟩]

/-- A field with a standard value. -/
def optional (key : Key) (decode : Decoder α) (standard : α) : Fields α :=
  field key decode fun _ => .ok standard

/-- The members of a record that belong to no field. -/
def unknown (fields : Fields α) (members : Row) : Row :=
  let used := fields.keys.filterMap (·.usedIn members)
  members.filter fun m => !used.contains m.1

/-- The record of these fields and no others. A record with a member whose name is broken is not
looked into any further. -/
def closed (fields : Fields α) (name : String) : Decoder α
  | .object members =>
    match members.find? fun m => isBroken m.1 with
    | some m => .refuse .brokenText (.text m.1)
    | none =>
      let extras := (fields.unknown members).map fun m =>
        (⟨.unknownMember, [.member m.1], m.2⟩ : Issue)
      let rest : Decoded Unit := if extras.isEmpty then .ok () else .error extras
      Decoded.both (Decoded.both (.ok fun a _ => a) (fields.read members)) rest
  | v => .refuse (.noRecord name) v

end Fields

/-- Fields one after the other, as arguments of a function. -/
instance : Seq Fields where
  seq f x := f.and (x ())

instance : Pure Fields where
  pure := Fields.constant

end Polystore.Decoding
