import Polystore.Entries
import Polystore.Text.Blank
import Polystore.Text.Lines

/-!
Files of environment variables: lines of `NAME=value`, with quotes, escapes, comments and an
optional `export`. A value may refer to other variables, and say what stands for one that is unset.
A line that cannot be read is passed over.
-/

namespace Polystore.EnvFile

/-- A variable; one without an equals sign has no value. -/
structure Binding where
  name : String
  value : Option String
  deriving DecidableEq

def isInlineSpace (c : Char) : Bool := Text.isSpace c && c != '\n'

def dropInlineSpaces (cs : List Char) : List Char := cs.dropWhile isInlineSpace

/-- Drops the word `export` with the spaces behind it. -/
def dropExport (cs : List Char) : List Char :=
  match "export".toList.isPrefixOf cs, cs.drop 6 with
  | true, c :: rest => if isInlineSpace c then dropInlineSpaces rest else cs
  | _, _ => cs

/-- The inside of a quotation and what follows it. A backslash hides the character behind it. -/
def inside? (quote : Char) (read : List Char) : List Char → Option (List Char × List Char)
  | '\\' :: c :: rest => inside? quote (c :: '\\' :: read) rest
  | c :: rest =>
    if c = quote then some (read.reverse, rest)
    else if c = '\\' then none
    else inside? quote (c :: read) rest
  | [] => none

/-- The characters that a backslash stands in front of within single quotes. -/
def singleEscape? : Char → Option Char
  | '\\' => some '\\'
  | '\'' => some '\''
  | _ => none

/-- The characters that letters stand for behind a backslash within double quotes. -/
def doubleEscape? : Char → Option Char
  | '\\' => some '\\'
  | '\'' => some '\''
  | '"' => some '"'
  | 'a' => some '\x07'
  | 'b' => some '\x08'
  | 'f' => some '\x0c'
  | 'n' => some '\n'
  | 'r' => some '\r'
  | 't' => some '\t'
  | 'v' => some '\x0b'
  | _ => none

/-- Replaces escapes by what they stand for. -/
def unescape (escape? : Char → Option Char) : List Char → List Char
  | '\\' :: c :: rest =>
    match escape? c with
    | some d => d :: unescape escape? rest
    | none => '\\' :: unescape escape? (c :: rest)
  | c :: rest => c :: unescape escape? rest
  | [] => []

/-- The characters in front of a comment, which spaces set apart. -/
def beforeComment (spaces : List Char) : List Char → List Char
  | [] => spaces.reverse
  | c :: rest =>
    if Text.isSpace c then beforeComment (c :: spaces) rest
    else if c = '#' ∧ !spaces.isEmpty then []
    else spaces.reverse ++ c :: beforeComment [] rest

/-- The value at the start of a text, and what follows it. A value behind spaces may be a comment
from its first character on. -/
def value? (spaced : Bool) : List Char → Option (List Char × List Char)
  | '\'' :: rest =>
    (inside? '\'' [] rest).map fun (inner, rest) => (unescape singleEscape? inner, rest)
  | '"' :: rest =>
    (inside? '"' [] rest).map fun (inner, rest) => (unescape doubleEscape? inner, rest)
  | cs =>
    let line := cs.takeWhile (· ≠ '\n')
    let value := if spaced && line.head? = some '#' then [] else beforeComment [] line
    some (Text.dropEndWhile Text.isSpace value, cs.drop line.length)

/-- The name at the start of a text, and what follows it. -/
def name? : List Char → Option (List Char × List Char)
  | '\'' :: rest =>
    let name := rest.takeWhile (· ≠ '\'')
    if name.isEmpty ∨ name.length = rest.length then none
    else some (name, rest.drop (name.length + 1))
  | cs =>
    let name := cs.takeWhile fun c => c != '=' && c != '#' && !Text.isSpace c
    if name.isEmpty then none else some (name, cs.drop name.length)

/-- Drops a comment up to the end of its line. -/
def dropComment (cs : List Char) : List Char :=
  match dropInlineSpaces cs with
  | '#' :: rest => rest.dropWhile (· ≠ '\n')
  | _ => cs

/-- Drops the end of a line, if it is near. -/
def endLine? (cs : List Char) : Option (List Char) :=
  match dropInlineSpaces cs with
  | [] => some []
  | c :: rest => if c = '\n' then some rest else none

/-- Drops all of a line. -/
def dropLine (cs : List Char) : List Char := (cs.dropWhile (· ≠ '\n')).drop 1

/-- A text behind a name: perhaps an equals sign and a value. -/
def assigned? (cs : List Char) : Option (Option (List Char)) × List Char :=
  match dropInlineSpaces cs with
  | '=' :: rest =>
    match value? (rest.head?.any isInlineSpace) (dropInlineSpaces rest) with
    | some (value, rest) => (some (some value), rest)
    | none => (none, rest)
  | rest => (some none, rest)

/-- The binding at the start of a text that is not blank there, and what follows its line. -/
def binding (cs : List Char) : Option Binding × List Char :=
  let cs := dropExport cs
  match cs with
  | '#' :: _ => (none, (endLine? (dropComment cs)).getD [])
  | _ =>
    match name? cs with
    | none => (none, dropLine cs)
    | some (name, rest) =>
      match assigned? rest with
      | (none, rest) => (none, dropLine rest)
      | (some value, rest) =>
        let rest := dropComment rest
        match endLine? rest with
        | some rest => (some ⟨String.ofList name, value.map String.ofList⟩, rest)
        | none => (none, dropLine rest)

/-- The bindings of a text, of which there are at most `fuel`. -/
def bindingsWithin : Nat → List Char → List Binding
  | 0, _ => []
  | fuel + 1, cs =>
    match cs.dropWhile Text.isSpace with
    | [] => []
    | cs =>
      let (found, rest) := binding cs
      found.toList ++ bindingsWithin fuel rest

/-- The characters without a byte order mark in front. -/
def dropMark : List Char → List Char
  | [] => []
  | c :: rest => if c = '\ufeff' then rest else c :: rest

/-- The bindings of a file. -/
def bindings (text : String) : List Binding :=
  bindingsWithin text.length (Text.unifyLineEnds (dropMark text.toList))

/-- The reference to a variable behind `$` and an opening brace: its name, what stands for it if it
is unset, and what follows. -/
def reference? (cs : List Char) : Option (String × String × List Char) :=
  let name := cs.takeWhile fun c => c != '\x7d' && c != ':'
  match cs.drop name.length with
  | '\x7d' :: rest => some (String.ofList name, "", rest)
  | ':' :: '-' :: rest =>
    let standard := rest.takeWhile (· ≠ '\x7d')
    match rest.drop standard.length with
    | _ :: rest => some (String.ofList name, String.ofList standard, rest)
    | [] => none
  | _ => none

/-- Replaces references to variables; the first `skip` characters belong to the one before. -/
def expandFrom (found? : String → Option String) : Nat → List Char → List Char
  | _, [] => []
  | skip + 1, _ :: rest => expandFrom found? skip rest
  | 0, c :: rest =>
    match c, rest with
    | '$', '\x7b' :: inner =>
      match reference? inner with
      | some (name, standard, behind) =>
        ((found? name).getD standard).toList
          ++ expandFrom found? (rest.length - behind.length) rest
      | none => c :: expandFrom found? 0 rest
    | _, _ => c :: expandFrom found? 0 rest

/-- The variables of a file on top of those of its surroundings; later ones see earlier ones. -/
def read (surroundings : Entries String String) (text : String)
    : Entries String (Option String) :=
  (bindings text).foldl
    (fun found b =>
      let found? (name : String) : Option String :=
        match found.lookup name with
        | some value => some (value.getD "")
        | none => surroundings.lookup name
      found.put b.name
        (b.value.map fun v => String.ofList (expandFrom found? 0 v.toList)))
    []

end Polystore.EnvFile
