import SelectQuery.Dialect.Basic
import SelectQuery.Json.Basic
import SelectQuery.Toml.Reader

namespace SelectQuery

structure Configuration where
  dialect : Dialect := .postgreSql
  databaseUrl : Option String := none
  maxConnections : UInt32 := 5
deriving DecidableEq

namespace Configuration

inductive ReadError
  | malformed
  | noConnections

def ReadError.message : ReadError → String
  | .malformed => "no configuration"
  | .noConnections => "max_connections must be at least 1"

def choice? : Json → Option String
  | .string name | .object [(name, .array [])] | .object [(name, .object [])] => some name
  | _ => none

def asUInt32? (j : Json) : Option UInt32 := do
  let n ← j.asUInt64?
  if n.toNat < 0x100000000 then some n.toUInt32 else none

def ofJson? (j : Json) : Option Configuration := do
  let members ← j.asObject?
  return {
    dialect := ← Json.field members "dialect" .postgreSql fun j => (choice? j).bind Dialect.ofCode?
    databaseUrl := ← Json.field members "database_url" none fun j => j.asString?.map some
    maxConnections := ← Json.field members "max_connections" 5 asUInt32? }

def read (text : String) : Except ReadError Configuration :=
  match (Toml.parse? text).bind ofJson? with
  | none => .error .malformed
  | some configuration =>
    if configuration.maxConnections = 0 then .error .noConnections else .ok configuration

def setDialect (c : Configuration) (dialect : Dialect) : Configuration := { c with dialect }

def setDatabaseUrl (c : Configuration) (url : String) : Configuration :=
  { c with databaseUrl := some url }

def setMaxConnections (c : Configuration) (count : UInt32) : Configuration :=
  { c with maxConnections := max count 1 }

end Configuration

end SelectQuery
