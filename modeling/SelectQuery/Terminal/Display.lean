import SelectQuery.Database.Record
import SelectQuery.Query.Basic
import SelectQuery.Terminal.Style

namespace SelectQuery.Terminal

inductive Format
  | table
  | json
deriving DecidableEq

namespace Format

def all : List Format := [table, json]

def code : Format → String
  | table => "table"
  | json => "json"

def ofCode? (code : String) : Option Format := all.find? (·.code == code)

end Format

namespace Table

def cellText : Json → List Char
  | .null | .void => "NULL".toList
  | .string s => s.toList
  | j => j.write

def columns (rows : List Record) : List String := (rows.head?.map NameMap.names).getD []

def cells (rows : List Record) (column : String) : List (List Char) :=
  (rows.filterMap (·.get? column)).map cellText

def byteSize (cs : List Char) : Nat := (String.ofList cs).utf8ByteSize

def width (rows : List Record) (column : String) : Nat :=
  ((cells rows column).map byteSize).foldl max column.utf8ByteSize

def cell (record : Record) (column : String) : List Char :=
  ((record.get? column).map cellText).getD []

def line (mark : List Char) (parts : List (List Char)) : List Char := List.intercalate mark parts

def header (columns : List (String × Nat)) : List Char :=
  line " │ ".toList (columns.map fun (column, width) => padded width column.toList)

def separator (columns : List (String × Nat)) : List Char :=
  line "─┼─".toList (columns.map fun (_, width) => List.replicate width '─')

def row (columns : List (String × Nat)) (record : Record) : List Char :=
  line " │ ".toList (columns.map fun (column, width) => padded width (cell record column))

def sized (rows : List Record) : List (String × Nat) :=
  (columns rows).map fun column => (column, width rows column)

end Table

def showTable (screen : Screen) (rows : List Record) : String :=
  let columns := Table.sized rows
  lines ([screen.display [Style.bold, Style.white] (Table.header columns),
    screen.display [Style.dimmed] (Table.separator columns)] ++
    rows.map (Table.row columns) ++
    [[], screen.display [Style.cyan] (Text.natDigits rows.length) ++ " row(s) returned".toList])

def showRows (screen : Screen) (format : Format) (rows : List Record) : String :=
  if rows.isEmpty then lines [screen.display [Style.dimmed] "(no results)".toList]
  else match format with
    | .table => showTable screen rows
    | .json => lines [(Json.array (rows.map Record.toJson)).indent 0]

def quotedName (dialect : Dialect) (name : String) : String :=
  match dialect.quote name with
  | .ok quoted => quoted
  | .error _ => ""

def dialectLine (screen : Screen) (dialect : Dialect) : List Char :=
  let paging := Text.trim (dialect.paging 20 10).toList
  let executable := if dialect = .sqlServer then "no" else "yes"
  screen.display [Style.cyan] (padded 12 dialect.name.toList) ++ ' ' ::
    screen.display [Style.yellow] (padded 40 paging) ++ ' ' ::
    padded 10 (quotedName dialect "name").toList ++ ' ' ::
    screen.display [Style.dimmed] executable.toList

def dialectHeader (screen : Screen) : List Char :=
  let heading (width : Nat) (text : String) :=
    screen.display [Style.bold, Style.white] (padded width text.toList)
  heading 12 "Name" ++ ' ' :: heading 40 "Paging (skip 20, take 10)" ++ ' ' ::
    heading 10 "Quoting" ++ ' ' :: heading 0 "Executable"

def showDialects (screen : Screen) : String :=
  lines ([screen.display [Style.bold, Style.cyan] "Supported dialects".toList, [],
    dialectHeader screen, screen.display [Style.dimmed] (List.replicate 76 '─')] ++
    Dialect.all.map (dialectLine screen))

def parameterLine (screen : Screen) (entry : String × Value) : List Char :=
  "  @".toList ++ entry.1.toList ++ " = ".toList ++
    screen.display [Style.yellow] entry.2.display.toList

def parameterLines (screen : Screen) (parameters : Parameters) : List (List Char) :=
  if parameters.isEmpty then []
  else [] :: screen.display [Style.cyan] "Parameters:".toList ::
    parameters.entries.map (parameterLine screen)

def showQuery (screen : Screen) (dialect : Dialect) (query : Query) : String :=
  lines ([screen.display [Style.dimmed] "Dialect:".toList ++ ' ' ::
      screen.display [Style.cyan] dialect.name.toList,
    screen.display [Style.bold, Style.green] "Generated SQL:".toList,
    screen.display [Style.white] query.sql.toList] ++ parameterLines screen query.parameters)

end SelectQuery.Terminal
