import SelectQuery.Json.Basic

/-! Tables under construction: which parts of a TOML text may still add to them. -/

namespace SelectQuery.Toml

inductive Origin
  | header
  | implied
  | dotted

inductive Node
  | value (j : Json)
  | table (origin : Origin) (entries : List (String × Node))
  | tables (earlier : List (List (String × Node))) (last : List (String × Node))

abbrev Table := List (String × Node)

namespace Table

def put (name : String) (node : Node) : Table → Table
  | [] => [(name, node)]
  | (n, old) :: rest => if n = name then (n, node) :: rest else (n, old) :: put name node rest

def alter (change : Option Node → Option Node) : List String → Table → Option Table
  | [], _ => none
  | [name], table => do return table.put name (← change (table.lookup name))
  | name :: path, table => do
    let node ←
      match table.lookup name with
      | none => (alter change path []).map (.table .implied)
      | some (.table origin entries) => (alter change path entries).map (.table origin)
      | some (.tables earlier last) => (alter change path last).map (.tables earlier)
      | some (.value _) => none
    return table.put name node

/-- A header opens a table once; being implied before does no harm. -/
def opened : Option Node → Option Node
  | none => some (.table .header [])
  | some (.table .implied entries) => some (.table .header entries)
  | _ => none

def extended : Option Node → Option Node
  | none => some (.tables [] [])
  | some (.tables earlier last) => some (.tables (earlier ++ [last]) [])
  | _ => none

/-- Gives a key a value. A key with dots goes through tables that no header opened, and the table
that takes the value must itself come from keys with dots. -/
def assign (value : Json) (direct : Bool) : List String → Table → Option Table
  | [], _ => none
  | [name], table =>
    if direct && (table.lookup name).isNone then some (table.put name (.value value)) else none
  | name :: path, table => do
    let node ←
      match table.lookup name with
      | none => (assign value true path []).map (.table .dotted)
      | some (.table .dotted entries) => (assign value true path entries).map (.table .dotted)
      | some (.table .implied entries) => (assign value false path entries).map (.table .implied)
      | some (.tables earlier last) => (assign value false path last).map (.tables earlier)
      | some (.table .header _) | some (.value _) => none
    return table.put name node

def assigned (path : List String) (value : Json) : Option Node → Option Node
  | some (.table origin entries) => (assign value true path entries).map (.table origin)
  | some (.tables earlier last) => (assign value true path last).map (.tables earlier)
  | _ => none

def assignIn (table path : List String) (value : Json) (root : Table) : Option Table :=
  if table.isEmpty then assign value true path root else alter (assigned path value) table root

end Table

mutual

def Node.toJson : Node → Json
  | .value j => j
  | .table _ entries => .object (membersToJson entries)
  | .tables earlier last => .array (elementsToJson earlier ++ [.object (membersToJson last)])

def membersToJson : List (String × Node) → List (String × Json)
  | [] => []
  | (name, node) :: rest => (name, node.toJson) :: membersToJson rest

def elementsToJson : List (List (String × Node)) → List Json
  | [] => []
  | table :: rest => .object (membersToJson table) :: elementsToJson rest

end

def Table.toJson (table : Table) : Json := .object (membersToJson table)

end SelectQuery.Toml
