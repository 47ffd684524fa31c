import SelectQuery.Json.Basic
import SelectQuery.Specification.Validation

namespace SelectQuery.Specification

def fieldNames : List String :=
  ["table_name", "primary_key", "select_clause", "distinct", "join_clause", "where_clause",
    "group_by", "having", "order_by", "skip", "take", "parameters", "unions", "from_subquery",
    "ctes"]

def countToJson : Option UInt64 → Json
  | none => .null
  | some n => .ofNat n.toNat

mutual

def toJson : Specification → Json
  | ⟨table, primaryKey, projection, distinct, joins, filter, grouping, groupFilter, ordering, skip,
      take, parameters, unions, source, ctes⟩ =>
    .object
      [("table_name", .string table), ("primary_key", .string primaryKey),
        ("select_clause", .string projection), ("distinct", .bool distinct),
        ("join_clause", .string joins), ("where_clause", .string filter),
        ("group_by", .string grouping), ("having", .string groupFilter),
        ("order_by", .string ordering), ("skip", countToJson skip), ("take", countToJson take),
        ("parameters", parameters.toJson), ("unions", .array (membersToJson unions)),
        ("from_subquery", sourceToJson source), ("ctes", .array (ctesToJson ctes))]

def membersToJson : List (UnionMember Specification) → List Json
  | [] => []
  | member :: members =>
    .object [("query", toJson member.query), ("all", .bool member.all)] :: membersToJson members

def sourceToJson : Option (DerivedTable Specification) → Json
  | none => .null
  | some source => .object [("query", toJson source.query), ("alias", .string source.label)]

def ctesToJson : List (CommonTable Specification) → List Json
  | [] => []
  | cte :: ctes =>
    .object [("name", .string cte.name), ("query", toJson cte.query)] :: ctesToJson ctes

end

def readMember? (read? : Json → Option Specification) (j : Json) :
    Option (UnionMember Specification) := do
  let fields ← j.fields? ["query", "all"]
  return ⟨← Json.required fields "query" read?, ← Json.field fields "all" false Json.asBool?⟩

def readSource? (read? : Json → Option Specification) (j : Json) :
    Option (DerivedTable Specification) := do
  let fields ← j.fields? ["query", "alias"]
  return ⟨← Json.required fields "query" read?, ← Json.required fields "alias" Json.asString?⟩

def readCte? (read? : Json → Option Specification) (j : Json) :
    Option (CommonTable Specification) := do
  let fields ← j.fields? ["name", "query"]
  return ⟨← Json.required fields "name" Json.asString?, ← Json.required fields "query" read?⟩

def readLevel? (read? : Json → Option Specification) (j : Json) : Option Specification := do
  let fields ← j.fields? fieldNames
  let text (name : String) := Json.field fields name "" Json.asString?
  return {
    table := ← text "table_name"
    primaryKey := ← text "primary_key"
    projection := ← text "select_clause"
    distinct := ← Json.field fields "distinct" false Json.asBool?
    joins := ← text "join_clause"
    filter := ← text "where_clause"
    grouping := ← text "group_by"
    groupFilter := ← text "having"
    ordering := ← text "order_by"
    skip := ← Json.field fields "skip" none (Json.nullable Json.asUInt64?)
    take := ← Json.field fields "take" none (Json.nullable Json.asUInt64?)
    parameters := ← Json.field fields "parameters" .empty Parameters.read?
    unions := ← Json.field fields "unions" [] (Json.list (readMember? read?))
    source := ← Json.field fields "from_subquery" none (Json.nullable (readSource? read?))
    ctes := ← Json.field fields "ctes" [] (Json.list (readCte? read?)) }

def readLevels? : Nat → Json → Option Specification
  | 0 => fun _ => none
  | levels + 1 => readLevel? (readLevels? levels)

def read? (j : Json) : Option Specification := readLevels? (j.nesting + 1) j

inductive LoadError
  | malformed
  | rejected (error : Error)

def load (j : Json) : Except LoadError Specification :=
  match read? j with
  | none => .error .malformed
  | some s =>
    match s.validate with
    | .error error => .error (.rejected error)
    | .ok () => .ok s

end SelectQuery.Specification
