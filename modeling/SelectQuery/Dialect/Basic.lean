import SelectQuery.Error

namespace SelectQuery.Quoted

def encode (closing : Char) : List Char → List Char
  | [] => []
  | c :: cs => if c = closing then closing :: c :: encode closing cs else c :: encode closing cs

def decode (closing : Char) : List Char → Option (List Char)
  | [] => some []
  | [c] => if c = closing then none else some [c]
  | c :: d :: cs =>
    if c = closing then
      if d = closing then (decode closing cs).map (c :: ·) else none
    else (decode closing (d :: cs)).map (c :: ·)

def quote (name : String) (opening closing : Char) : Except Error String := do
  requireText name "name"
  return String.ofList (opening :: encode closing name.toList ++ [closing])

def inner? (opening closing : Char) : List Char → Option (List Char)
  | [] => none
  | c :: cs => if c = opening && cs.getLast? == some closing then some cs.dropLast else none

def unquote? (quoted : String) (opening closing : Char) : Option String :=
  ((inner? opening closing quoted.toList).bind (decode closing)).map String.ofList

end SelectQuery.Quoted

namespace SelectQuery

inductive Dialect
  | sqlServer
  | postgreSql
  | mySql
  | sqlite
deriving DecidableEq

namespace Dialect

def all : List Dialect := [sqlServer, postgreSql, mySql, sqlite]

def name : Dialect → String
  | sqlServer => "SQLServer"
  | postgreSql => "PostgreSQL"
  | mySql => "MySQL"
  | sqlite => "SQLite"

def code : Dialect → String
  | sqlServer => "sqlserver"
  | postgreSql => "postgresql"
  | mySql => "mysql"
  | sqlite => "sqlite"

def ofCode? (code : String) : Option Dialect :=
  if code ∈ ["sqlserver", "mssql"] then some sqlServer
  else if code ∈ ["postgresql", "postgres", "pg"] then some postgreSql
  else if code = "mysql" then some mySql
  else if code ∈ ["sqlite", "sqlite3"] then some sqlite
  else none

def lowercase (cs : List Char) : String := String.ofList (cs.map Char.toLower)

def ofName (text : String) : Except Error Dialect :=
  let name := lowercase (Text.trim text.toList)
  if name ∈ ["sqlserver", "mssql", "tsql"] then .ok sqlServer
  else if name ∈ ["postgresql", "postgres", "pg"] then .ok postgreSql
  else if name ∈ ["mysql", "mariadb"] then .ok mySql
  else if name ∈ ["sqlite", "sqlite3"] then .ok sqlite
  else .error (.invalidArgument "dialect"
    s!"unknown dialect '{name}'. Expected: sqlserver, postgresql, mysql, or sqlite")

def ofUrl? (url : String) : Option Dialect :=
  let scheme := lowercase (url.toList.takeWhile (· != ':'))
  if scheme ∈ ["postgres", "postgresql"] then some postgreSql
  else if scheme ∈ ["mysql", "mariadb"] then some mySql
  else if scheme = "sqlite" then some sqlite
  else if scheme ∈ ["mssql", "sqlserver"] then some sqlServer
  else none

def paging (dialect : Dialect) (skip take : UInt64) : String :=
  let s := Text.ofNat skip.toNat
  let t := Text.ofNat take.toNat
  match dialect with
  | sqlServer => " OFFSET " ++ s ++ " ROWS FETCH NEXT " ++ t ++ " ROWS ONLY"
  | postgreSql | sqlite => " LIMIT " ++ t ++ " OFFSET " ++ s
  | mySql => " LIMIT " ++ s ++ ", " ++ t

def existence (dialect : Dialect) (inner : String) : String :=
  match dialect with
  | sqlServer | postgreSql => "SELECT CASE WHEN EXISTS (" ++ inner ++ ") THEN 1 ELSE 0 END"
  | mySql | sqlite => "SELECT EXISTS (" ++ inner ++ ")"

def boolLiteral (dialect : Dialect) (b : Bool) : String :=
  match dialect with
  | postgreSql => if b then "TRUE" else "FALSE"
  | _ => if b then "1" else "0"

def quotes : Dialect → Char × Char
  | sqlServer => ('[', ']')
  | postgreSql | sqlite => ('"', '"')
  | mySql => ('\x60', '\x60')

def quote (dialect : Dialect) (name : String) : Except Error String :=
  Quoted.quote name dialect.quotes.1 dialect.quotes.2

def unquote? (dialect : Dialect) (quoted : String) : Option String :=
  Quoted.unquote? quoted dialect.quotes.1 dialect.quotes.2

/-- What stands for the bound value with this number, counted from one. -/
def placeholder (dialect : Dialect) (index : Nat) : String :=
  match dialect with
  | sqlServer => "@p" ++ Text.ofNat index
  | postgreSql => "$" ++ Text.ofNat index
  | mySql | sqlite => "?"

def sharesValues : Dialect → Bool
  | sqlServer | postgreSql => true
  | mySql | sqlite => false

def parameterMark : Char := '@'

end Dialect

end SelectQuery
