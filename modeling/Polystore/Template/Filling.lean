import Polystore.Template.Numeral
import Polystore.Template.Pieces
import Polystore.Template.Referent

/-!
Filling templates. Each field is replaced by what its name leads to: a named value, then its items
and attributes step by step. Fields within a layout are filled before it is read, but no deeper.
-/

namespace Polystore.Template

/-- The position a name stands for, if it is one. Its digits are read before what follows them. -/
def position? (name : List Char) : Except Fault (Option Nat) :=
  match Layout.takeNumber name with
  | .error fault => .error (.layout fault)
  | .ok (n, []) => .ok n
  | .ok (_, _ :: _) => .ok none

/-- The item of a value by position or by name. -/
def itemOf (v : Value) (name : String) (position : Option Nat) : Except Fault Value :=
  match v, position with
  | .object _, some n => .error (.noMember (.int n))
  | .object members, none =>
    (members.lookup name).elim (.error (.noMember (.text name))) .ok
  | .list items, some n => items[n]?.elim (.error .noItem) .ok
  | .text s, some n =>
    (Text.units s.toList)[n]?.elim (.error .noItem) fun unit => .ok (.text (String.ofList unit))
  | .octets bytes, some n => bytes[n]?.elim (.error .noItem) fun b => .ok (.int b.toNat)
  | _, _ => .error .unsupported

variable (objects : Objects)

/-- The item of a referent by position or by name. A type of containers is applied to either. -/
def item (r : Referent) (name : List Char) : Except Fault Referent := do
  let position ← position? name
  let asked : Value := position.elim (.text (String.ofList name)) fun n => .int n
  match r, position with
  | .value v, _ => .value <$> itemOf v (String.ofList name) position
  | .types names, some n => names[n]?.elim (.error .noItem) fun t => .ok (.type t)
  | .type t, _ => if Referent.isContainer t then .ok (.applied t asked) else .error .unsupported
  | .object identity, _ => objects.item identity asked
  | _, _ => .error .unsupported

/-- Whether a character begins a further step of a name. -/
def beginsStep (c : Char) : Bool := c = '.' || c = '['

/-- Takes the characters up to the next step of a name. -/
def takeStep (cs : List Char) : List Char × List Char :=
  (cs.takeWhile (!beginsStep ·), cs.dropWhile (!beginsStep ·))

/-- Follows the steps of a name behind its first part. -/
def follow (r : Referent) : List Char → Except Fault Referent
  | [] => .ok r
  | '.' :: rest =>
    let step := takeStep rest
    if step.1.isEmpty then .error .emptyStep
    else
      match r.attribute? objects (String.ofList step.1) with
      | none => .error .noAttribute
      | some next => follow next step.2
  | '[' :: rest =>
    match _h : rest.dropWhile (· ≠ ']') with
    | [] => .error .unclosedBracket
    | _ :: more =>
      let name := rest.takeWhile (· ≠ ']')
      if name.isEmpty then .error .emptyStep
      else
        match item objects r name with
        | .error fault => .error fault
        | .ok next => follow next more
  | _ :: _ => .error .textBehindBracket
termination_by cs => cs.length
decreasing_by
  · have := (List.dropWhile_sublist (!beginsStep ·) (l := rest)).length_le
    simp only [takeStep, List.length_cons]
    omega
  · have := (List.dropWhile_sublist (fun c => decide (c ≠ ']')) (l := rest)).length_le
    simp only [_h, List.length_cons] at this
    simp only [List.length_cons]
    omega

/-- What a name leads to. There are no values by position. -/
def find (values : Row) (name : List Char) : Except Fault Referent := do
  let (first, steps) := takeStep name
  match ← position? first with
  | some _ => .error .noPosition
  | none =>
    if first.isEmpty then .error .noPosition
    else
      match values.lookup (String.ofList first) with
      | none => .error (.unknownName (String.ofList first))
      | some v => follow objects (.value v) steps

/-- Converts a referent to text by a mark. -/
def convert (mark : Option (List Char)) (r : Referent) : Except Fault Referent :=
  match mark with
  | none => .ok r
  | some ['s'] => (.value ∘ .text) <$> r.display objects
  | some ['r'] => (.value ∘ .text) <$> r.inspect objects
  | some ['a'] =>
    (fun s => .value (.text (String.ofList (Text.asciiOnly s.toList)))) <$> r.inspect objects
  | some mark => .error (.unknownConversion mark)

/-- Lays out a referent. An empty layout displays it. -/
def layOut (r : Referent) (layout : List Char) : Except Fault (List Char) :=
  if layout.isEmpty then String.toList <$> r.display objects
  else
    let laidOut (subject : Subject) (render : Layout → Except Layout.Fault (List Char)) :=
      match Layout.read subject layout >>= render with
      | .ok cs => Except.ok cs
      | .error fault => .error (Fault.layout fault)
    match r with
    | .value (.text s) => laidOut .text (·.text s.toList)
    | .value (.int i) => laidOut .whole (·.whole .whole i)
    | .value (.bool b) => laidOut .truth (·.whole .truth (if b then 1 else 0))
    | .value (.float x) => laidOut .float (·.double .float x)
    | .object identity => objects.layOut identity layout
    | _ => .error .unsupported

/-- Fills one field; `expand` fills the fields of its layout. -/
def fillField (expand : List Char → Except Fault (List Char)) (values : Row) (f : Field)
    : Except Fault (List Char) := do
  let r ← convert objects f.conversion (← find objects values f.name)
  layOut objects r (← if f.layout.contains '\x7b' then expand f.layout else .ok f.layout)

/-- Fills pieces one after the other. -/
def fillPieces (expand : List Char → Except Fault (List Char)) (values : Row)
    : List Piece → Except Fault (List Char)
  | [] => .ok []
  | .text cs :: rest => (cs ++ ·) <$> fillPieces expand values rest
  | .field f :: rest => do
    let cs ← fillField objects expand values f
    (cs ++ ·) <$> fillPieces expand values rest

/-- Fills a template whose layouts nest less than `depth` deep. -/
def fillWithin (values : Row) : Nat → List Char → Except Fault (List Char)
  | 0, _ => .error .tooDeep
  | depth + 1, template => do
    let reading := read template
    let cs ← fillPieces objects (fillWithin values depth) values reading.pieces
    match reading.defect with
    | some defect => .error (.malformed defect)
    | none => .ok cs

/-- Fills a template from named values. -/
def fill (template : String) (values : Row) : Except Fault String :=
  String.ofList <$> fillWithin objects values 2 template.toList

end Polystore.Template
