import Polystore.Json.Token

/-!
JSON documents. A document is read token by token; what is open around the place of reading is a
list of frames, and what may come next is the expectation. Each failure is told at the first token
that the expectation does not admit. How many lists and objects may be open at once is left to who
reads.
-/

namespace Polystore.Json

/-- A list or an object that is still open, with what it holds so far. -/
inductive Frame where
  | list (items : List Value)
  | object (members : Row) (name : String)

/-- What may come next. -/
inductive Expectation where
  | value
  | valueOrClose
  | nameOrClose
  | name
  | colon
  | commaOrClose
  | finish (document : Value)

/-- The place of reading. -/
structure Place where
  expects : Expectation
  frames : List Frame

namespace Place

def start : Place := ⟨.value, []⟩

/-- The place behind a complete value. The items of an open list are kept in reverse. -/
def afterValue (v : Value) : List Frame → Place
  | [] => ⟨.finish v, []⟩
  | .list items :: frames => ⟨.commaOrClose, .list (v :: items) :: frames⟩
  | .object members name :: frames =>
    ⟨.commaOrClose, .object (members.put name v) name :: frames⟩

variable (nesting : Nat)

/-- The place behind the start of a list or an object. -/
def openFrame (container : Container) (frames : List Frame) : Except Failure Place :=
  if nesting ≤ frames.length then .error (.tooDeep container)
  else
    match container with
    | .list => .ok ⟨.valueOrClose, .list [] :: frames⟩
    | .object => .ok ⟨.nameOrClose, .object [] "" :: frames⟩

/-- The place behind a token where a value may stand. -/
def onValue (position : Nat) (frames : List Frame) : Token → Except Failure Place
  | .text s => .ok (afterValue (.text s) frames)
  | .literal v => .ok (afterValue v frames)
  | .openList => openFrame nesting .list frames
  | .openObject => openFrame nesting .object frames
  | .brokenText failure => .error failure
  | .brokenNumber failure => .error failure
  | _ => .error (.malformed .valueExpected position)

/-- The place behind a token where a member's name may stand. -/
def onName (position : Nat) (frames : List Frame) : Token → Except Failure Place
  | .text s =>
    match frames with
    | .object members _ :: outer => .ok ⟨.colon, .object members s :: outer⟩
    | _ => .error (.malformed .nameExpected position)
  | .brokenText failure => .error failure
  | _ => .error (.malformed .nameExpected position)

/-- The place behind a token where a list or an object goes on or ends. -/
def onComma (position : Nat) : List Frame → Token → Except Failure Place
  | .list items :: frames, .comma => .ok ⟨.value, .list items :: frames⟩
  | .list items :: frames, .closeList => .ok (afterValue (.list items.reverse) frames)
  | .object members name :: frames, .comma => .ok ⟨.name, .object members name :: frames⟩
  | .object members _ :: frames, .closeObject => .ok (afterValue (.object members) frames)
  | _, _ => .error (.malformed .commaExpected position)

/-- The place behind a token. -/
def step (place : Place) (position : Nat) (token : Token) : Except Failure Place :=
  match place.expects with
  | .value => onValue nesting position place.frames token
  | .valueOrClose =>
    match place.frames, token with
    | .list items :: frames, .closeList => .ok (afterValue (.list items.reverse) frames)
    | frames, token => onValue nesting position frames token
  | .nameOrClose =>
    match place.frames, token with
    | .object members _ :: frames, .closeObject => .ok (afterValue (.object members) frames)
    | frames, token => onName position frames token
  | .name => onName position place.frames token
  | .colon =>
    match token with
    | .colon => .ok ⟨.value, place.frames⟩
    | _ => .error (.malformed .colonExpected position)
  | .commaOrClose => onComma position place.frames token
  | .finish _ => .error (.malformed .extraData position)

/-- The document, when the text ends at a place. -/
def finish (place : Place) (position : Nat) : Except Failure Value :=
  match place.expects with
  | .finish document => .ok document
  | .value | .valueOrClose => .error (.malformed .valueExpected position)
  | .nameOrClose | .name => .error (.malformed .nameExpected position)
  | .colon => .error (.malformed .colonExpected position)
  | .commaOrClose => .error (.malformed .commaExpected position)

/-- Reads on from a place; the first `skip` characters belong to the token before. -/
def readFrom (place : Place) : Nat → Nat → List Char → Except Failure Value
  | _, position, [] => place.finish position
  | skip + 1, position, _ :: rest => readFrom place skip (position + 1) rest
  | 0, position, c :: rest =>
    if Token.isBlank c then readFrom place 0 (position + 1) rest
    else
      let (token, length) := Token.first position (c :: rest)
      match place.step nesting position token with
      | .error failure => .error failure
      | .ok next => readFrom next (length - 1) (position + 1) rest

end Place

/-- Reads a document in which lists and objects are nested so deep at most. A byte order mark is not
part of one. -/
def parse (nesting : Nat) (source : String) : Except Failure Value :=
  match source.toList with
  | '\ufeff' :: _ => .error (.malformed .byteOrderMark 0)
  | cs => Place.start.readFrom nesting 0 0 cs

end Polystore.Json
