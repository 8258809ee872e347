import Polystore.Decoding.Record
import Polystore.Metadata.Document

/-!
Reading metadata documents from values. What a document leaves out has a standard value; what no
field asks for is refused.
-/

namespace Polystore

open Decoding Fields

namespace Database

def fields : Fields Database :=
  pure Database.mk <*> required (.of "id") text <*> required (.of "engine") (word Engine)
    <*> optional (.of "trinoCatalog") (nullable text) none
    <*> optional (.of "schemaName") (nullable text) none

def decode : Decoder Database := fields.closed "DatabaseMeta"

end Database

namespace Column

def fields : Fields Column :=
  pure Column.mk <*> required (.of "apiName") text <*> required (.of "physicalName") text
    <*> required (.of "type") (memberOf ColumnType) <*> optional (.of "nullable") truth true
    <*> optional (.of "indexed") truth false

def decode : Decoder Column := fields.closed "ColumnMeta"

end Column

namespace Relation

def fields : Fields Relation :=
  pure Relation.mk <*> required (.of "sourceColumn") text
    <*> required (.of "targetTable") text <*> required (.of "targetColumn") text
    <*> optional (.of "kind") (word Cardinality) .manyToOne

def decode : Decoder Relation := fields.closed "RelationMeta"

end Relation

namespace Table

def fields : Fields Table :=
  pure Table.mk <*> required (.of "id") text <*> required (.of "apiName") text
    <*> required (.of "database") text <*> required (.of "physicalName") text
    <*> required (.of "columns") (list Column.decode)
    <*> optional (.of "primaryKey") (list text) []
    <*> optional (.of "relations") (list Relation.decode) []

def decode : Decoder Table := fields.closed "TableMeta"

end Table

namespace Sync

def fields : Fields Sync :=
  pure Sync.mk <*> required (.of "sourceTable") text <*> required (.of "targetDatabase") text
    <*> required (.of "targetPhysicalName") text
    <*> optional (.of "method") (word Replication) .debezium
    <*> required (.of "estimatedLag") (memberOf Freshness)

def decode : Decoder Sync := fields.closed "ExternalSync"

end Sync

namespace CachedTable

def fields : Fields CachedTable :=
  pure CachedTable.mk <*> required (.of "table") text <*> required (.of "keyPattern") text
    <*> optional (.of "ttl") (nullable integer) none
    <*> optional (.of "columns") (nullable (list text)) none

def decode : Decoder CachedTable := fields.closed "CachedTableMeta"

end CachedTable

namespace RowRule

def fields : Fields RowRule :=
  pure RowRule.mk <*> required (.of "column") text
    <*> optional (.of "operator") (word RowOperator) .equal
    <*> optional (.of "contextKey") (nullable text) none

def decode : Decoder RowRule := fields.closed "RlsFilter"

end RowRule

namespace AllowedColumns

def decodeOnly : Decoder AllowedColumns := fun v => only <$> list text v

def decodeAll : Decoder AllowedColumns
  | .text "all" => .ok all
  | .text s => .refuse (if isBroken s then .brokenText else .noWord ["all"]) (.text s)
  | v => .refuse (.noWord ["all"]) v

def decode : Decoder AllowedColumns :=
  either ("list[str]", decodeOnly) ("literal['all']", decodeAll)

end AllowedColumns

namespace TableRule

def fields : Fields TableRule :=
  pure TableRule.mk <*> required (.of "table") text
    <*> optional (.of "allowedColumns") AllowedColumns.decode .all
    <*> optional (.of "filters") (list RowRule.decode) []

def decode : Decoder TableRule := fields.closed "TableRoleAccess"

end TableRule

namespace Role

def fields : Fields Role :=
  pure Role.mk <*> required (.of "id") text
    <*> optional (.of "tables") (list TableRule.decode) []

def decode : Decoder Role := fields.closed "RoleMeta"

end Role

namespace Document

def decodeFederation : Decoder Bool :=
  (pure id <*> optional (.of "enabled") truth false).closed "TrinoConfig"

def fields : Fields Document :=
  pure Document.mk <*> required (.of "databases") (list Database.decode)
    <*> required (.of "tables") (list Table.decode)
    <*> optional (.of "syncs") (list Sync.decode) []
    <*> optional (.of "caches") (list CachedTable.decode) []
    <*> optional (.of "roles") (list Role.decode) []
    <*> optional (.of "trino") decodeFederation false

def decode : Decoder Document := fields.closed "MultiDbConfig"

end Document

end Polystore
