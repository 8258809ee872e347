import Polystore.Decoding.Record
import Polystore.Query.Basic

/-!
Reading queries and contexts from values. What a query leaves out has a standard value; what no
field asks for is refused.
-/

namespace Polystore

open Decoding Fields

namespace Filter

def decode : Decoder Filter :=
  (pure Filter.mk <*> required (.of "column") text
    <*> optional (.of "op") (word Operator) .equal
    <*> optional (.of "value") anything .null).closed "Filter"

end Filter

namespace Join

def decode : Decoder Join :=
  (pure Join.mk <*> required (.of "table") text <*> optional (.of "type") (word JoinKind) .left
    <*> optional (.of "source") (nullable text) none
    <*> optional (.of "columns") (list text) []).closed "JoinSpec"

end Join

namespace OrderItem

def decode : Decoder OrderItem :=
  (pure OrderItem.mk <*> required (.of "column") text
    <*> optional (.of "direction") (word Direction) .ascending).closed "OrderItem"

end OrderItem

namespace GroupItem

def decode : Decoder GroupItem :=
  (pure GroupItem.mk <*> required (.of "column") text
    <*> optional (.of "granularity") (nullable (word Granularity)) none).closed "GroupByItem"

end GroupItem

namespace Aggregation

def decode : Decoder Aggregation :=
  (pure Aggregation.mk <*> required (.of "fn") (word AggregateFn)
    <*> optional (.of "column") (nullable text) none
    <*> required (.of "alias") text).closed "Aggregation"

end Aggregation

namespace Having

def decode : Decoder Having :=
  (pure Having.mk <*> required (.of "alias") text <*> required (.of "op") (word Comparison)
    <*> required (.of "value") anything).closed "HavingFilter"

end Having

namespace Query

def decode : Decoder Query :=
  (pure Query.mk <*> required ⟨"from", "from_"⟩ text
    <*> optional (.of "columns") (list text) []
    <*> optional (.of "filters") (list Filter.decode) []
    <*> optional (.of "joins") (list Join.decode) []
    <*> optional (.of "orderBy") (list OrderItem.decode) []
    <*> optional (.of "groupBy") (list GroupItem.decode) []
    <*> optional (.of "aggregations") (list Aggregation.decode) []
    <*> optional (.of "having") (list Having.decode) []
    <*> optional (.of "limit") (nullable integer) none
    <*> optional (.of "offset") (nullable integer) none
    <*> optional (.of "byIds") (nullable (list anything)) none
    <*> optional (.of "freshness") (nullable (memberOf Freshness)) none
    <*> optional (.of "mode") (word Mode) .rows).closed "QueryDefinition"

end Query

namespace Context

def decode : Decoder Context :=
  (pure Context.mk <*> required (.of "role") text
    <*> optional (.of "contextValues") map []).closed "ExecutionContext"

end Context

end Polystore
