import Polystore.Json.Document
import Polystore.Metadata.Catalog
import Polystore.Metadata.Reader
import Polystore.Refusal
import Polystore.Text.Lines

/-!
Catalogs from files. A file holds the JSON text of a metadata document in UTF-8; its lines may end
in any of the usual ways. How deep its lists and objects may be nested is left to who reads it.
-/

namespace Polystore

/-- What is found at the path of a metadata file. -/
inductive FileContent where
  | nothing
  | directory
  | octets (bytes : List UInt8)

namespace FileContent

variable (nesting : Nat)

/-- The value that the text of a file stands for. -/
def parse (path source : String) : Except Failure Value :=
  match Json.parse nesting source with
  | .ok v => .ok v
  | .error (.malformed cause position) =>
    .error (.refused (.misconfigured (.noJson path source (.malformed cause position))))
  | .error failure => .error (.fault (.unreadableJson failure))

/-- The value that a file holds. -/
def load (path : String) : FileContent → Except Failure Value
  | nothing => .error (.refused (.misconfigured (.missingFile path)))
  | directory => .error (.refused (.misconfigured (.directory path)))
  | octets bytes =>
    match Text.Utf8.decode bytes with
    | .ok source => parse nesting path (String.ofList (Text.unifyLineEnds source.toList))
    | .error failure => .error (.fault (.unreadableText failure))

end FileContent

namespace Catalog

/-- The catalog of a metadata document given as a value. -/
def ofValue (v : Value) : Except Refusal Catalog :=
  match Document.decode v with
  | .error issues => .error (.misconfigured (.malformed issues))
  | .ok d => (ofDocument d).mapError fun problems => .misconfigured (.notIntact problems)

/-- The catalog of a metadata file. -/
def ofFile (nesting : Nat) (path : String) (content : FileContent) : Except Failure Catalog := do
  (ofValue (← content.load nesting path)).mapError .refused

end Catalog

end Polystore
