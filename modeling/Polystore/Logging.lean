import Polystore.Metadata.Catalog
import Polystore.Settings.Basic
import Polystore.Text.Capitals
import Polystore.Trace

/-!
The log of a service. Events below a level are left out. A line shows level, name and fields of an
event together with what surrounds it; a field of the event itself counts more.
-/

namespace Polystore

namespace Settings

/-- The ranks of the level names. -/
def levelRanks : Entries String Nat := [
  ("DEBUG", 10), ("INFO", 20), ("WARNING", 30), ("WARN", 30), ("ERROR", 40), ("CRITICAL", 50),
  ("FATAL", 50), ("NOTSET", 0)]

/-- The least rank of the events that are logged. Letters may have either case; an unknown level is
taken for `INFO`. -/
def leastRank (s : Settings) : Nat :=
  let name := Text.capitals s.logLevel
  (levelRanks.lookup name).getD Level.info.rank

def logs (s : Settings) (e : Event) : Bool := s.leastRank ≤ e.level.rank

end Settings

namespace Event

/-- The event with its own fields only. -/
def toValue (e : Event) : Value :=
  .object (("event", .text e.name) :: ("log_level", .text e.level.name) :: e.fields)

/-- The fields of the event and of its surroundings. -/
def shown (e : Event) : Row :=
  e.fields.foldl (fun found field => found.put field.1 field.2) e.surroundings

/-- The line of the event in a log. -/
def line (e : Event) : Value :=
  .object ((Entries.put e.shown "event" (.text e.name)).put "level" (.text e.level.name))

/-- The characters that end a line although a text that holds them is shown as it is. -/
def lineBreaks : List Char :=
  [0x0B, 0x0C, 0x1C, 0x1D, 0x1E, 0x85, 0x2028, 0x2029].map Char.ofNat

/-- The characters for which a text is quoted, and shown without breaks. -/
def quotedMarks : List Char := [' ', '\t', '=', '\r', '\n', '"', '\'']

/-- How often the text of a field breaks the line it is on. -/
def breaks : Value → Nat
  | .text s => if s.toList.any quotedMarks.contains then 0 else s.toList.countP lineBreaks.contains
  | _ => 0

/-- How many lines the event takes where it is shown to be read. -/
def lineCount (e : Event) : Nat := (Entries.values e.shown).foldl (fun n v => n + breaks v) 1

end Event

namespace Catalog

/-- The event of a catalog that has been built. -/
def built (c : Catalog) : Event where
  level := .info
  name := "metadata_registry_built"
  fields := [
    ("databases", .int c.document.databases.length), ("tables", .int c.tables.length),
    ("syncs", .int c.document.syncs.length), ("roles", .int c.document.roles.length)]
  surroundings := []

end Catalog

end Polystore
