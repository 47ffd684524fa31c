import SelectQuery.Command.Arguments
import SelectQuery.Configuration
import SelectQuery.Database.Connection
import SelectQuery.Database.Basic
import SelectQuery.Database.Fetch
import SelectQuery.Files
import SelectQuery.Json.Reader
import SelectQuery.Specification.Document
import SelectQuery.Terminal.Display

namespace SelectQuery.Command

structure Surroundings where
  files : Files := {}
  userFiles : Option (String × Files) := none
  databaseUrl : Option String := none
  screen : Terminal.Screen := ⟨false⟩

structure Outcome where
  code : UInt32
  output : String
  errors : String

namespace Outcome

def success (output : String) : Outcome := ⟨0, output, ""⟩

def failure (screen : Terminal.Screen) (reason : String) : Outcome :=
  let label := screen.display [Terminal.Style.bold, Terminal.Style.red] "Error:".toList
  ⟨1, "", String.ofList label ++ " " ++ reason⟩

def misuse : Outcome := ⟨2, "", "error: the command line is not understood"⟩

end Outcome

abbrev Attempt := Except String

def lift {α : Type} (result : Except Error α) : Attempt α := result.mapError Error.message

def configurationName : String := "qspec.toml"

def userConfigurationName : String := "qspec/config.toml"

def configurationFile? (around : Surroundings) : Option (String × Except FileProblem String) :=
  if around.files.contains configurationName then
    some (configurationName, around.files.readText configurationName)
  else
    match around.userFiles with
    | none => none
    | some (path, files) =>
      if files.contains userConfigurationName then
        some (path ++ "/" ++ userConfigurationName, files.readText userConfigurationName)
      else none

def configurationError (path : String) : Configuration.ReadError → Error
  | .malformed => .configuration path
  | .noConnections => .configuration (path ++ ": " ++ Configuration.ReadError.noConnections.message)

def configuration (around : Surroundings) : Attempt Configuration :=
  match configurationFile? around with
  | none => .ok {}
  | some (_, .error problem) =>
    .error ((Error.file problem.message).message ++ ": " ++ problem.message)
  | some (path, .ok text) => lift ((Configuration.read text).mapError (configurationError path))

/-- Arrays and objects nest at most this deep in the text of a specification. -/
def nestingLimit : Nat := 127

inductive TextFormat
  | json
  | toml

namespace TextFormat

def ofPath? (path : String) : Option TextFormat :=
  match Files.extension? path with
  | some "json" => some json
  | some "toml" => some toml
  | _ => none

def name : TextFormat → String
  | json => "JSON"
  | toml => "TOML"

def parse? : TextFormat → String → Option Json
  | json, text => Json.parse? nestingLimit text
  | toml, text => Toml.parse? text

def load (format : TextFormat) (text : String) : Except Specification.LoadError Specification :=
  match format.parse? text with
  | none => .error .malformed
  | some j => Specification.load j

end TextFormat

def loadMessage (format : TextFormat) (path : String) : Specification.LoadError → String
  | .malformed => "invalid " ++ format.name ++ " specification in " ++ path
  | .rejected error =>
    "invalid " ++ format.name ++ " specification in " ++ path ++ ": " ++ error.message

def specification (around : Surroundings) (path : String) : Attempt Specification := do
  let text ← (around.files.readText path).mapError fun problem =>
    "cannot read " ++ path ++ ": " ++ problem.message
  match TextFormat.ofPath? path with
  | none =>
    .error ("unsupported specification format '" ++ path ++ "' (expected .json or .toml)")
  | some format => (format.load text).mapError (loadMessage format path)

def compile (around : Surroundings) (path : String) (dialect : Option Dialect) (mode : Mode)
    (json : Bool) : Attempt String := do
  let settings ← configuration around
  let dialect := dialect.getD settings.dialect
  let s ← specification around path
  let query ← lift (s.compile dialect mode)
  if json then return query.toJson.renderIndented ++ "\n"
  else return Terminal.showQuery around.screen dialect query

def readDatabase (content : ByteArray) : Option Database :=
  if content.isEmpty then some {}
  else do
    let text ← String.fromUTF8? content
    Database.ofJson? (← Json.parse? text.length text)

def connect (around : Surroundings) (url : String) : Except Error (Option Database) := do
  match ← Connection.target url with
  | .memory => return some {}
  | .file path made =>
    match around.files.read path with
    | .error .missing => if made then return some {} else .error Connection.cannotOpen
    | .error _ => .error Connection.cannotOpen
    | .ok content => return readDatabase content

def notDatabase : Error := .execution (Sql.reported 26 "file is not a database")

/-- What a query finds, as it is shown. A file that is no database shows when it is asked. -/
def answer (around : Surroundings) (db : Option Database) (s : Specification) (mode : Mode)
    (format : Terminal.Format) : Except Error String := do
  let ask {α : Type} (ask : Database → Except Error α) : Except Error α :=
    match db with
    | some db => ask db
    | none => do
      let query ← s.compile Database.dialect mode
      let _ ← Binding.bind query.sql query.parameters Database.dialect
      .error notDatabase
  let cyan (text : String) :=
    Terminal.lines [around.screen.display [Terminal.Style.cyan] text.toList]
  match mode with
  | .rows => return Terminal.showRows around.screen format (← ask (·.fetchRecords s))
  | .count => return cyan (Text.ofInt (← ask (·.count s)).toInt)
  | .existence => return cyan (if ← ask (·.holdsAny s) then "true" else "false")

def run (around : Surroundings) (path : String) (url : Option String) (mode : Mode)
    (format : Terminal.Format) : Attempt String := do
  let settings ← configuration around
  match url <|> settings.databaseUrl with
  | none => .error "no database URL. Use --database-url or set QSPEC_DATABASE_URL"
  | some url => do
    let s ← specification around path
    let db ← lift (connect around url)
    lift (answer around db s mode format)

def databasePath? (url : String) : Option String :=
  match Connection.target url with
  | .ok (.file path _) => some path
  | _ => none

def wanted (around : Surroundings) : Request → List String
  | .compile path .. => [path]
  | .run path url .. =>
    let settings := (configuration around).toOption
    path :: ((url <|> settings.bind (·.databaseUrl)).bind databasePath?).toList
  | _ => []

def versionText : String := "qspec 0.1.0\n"

def helpText : String :=
  "Compile declarative query specifications to SQL\n\nUsage: qspec [OPTIONS] <COMMAND>\n\n" ++
  "Commands:\n  compile   Compile a specification file and print the SQL\n" ++
  "  dialects  List supported dialects\n" ++
  "  run       Compile a specification and execute it\n"

def perform (around : Surroundings) : Request → Attempt String
  | .version => .ok versionText
  | .help => .ok helpText
  | .dialects => .ok (Terminal.showDialects around.screen)
  | .compile path dialect mode json => compile around path dialect mode json
  | .run path url mode format => run around path url mode format

def respond (around : Surroundings) (arguments : List String) : Outcome :=
  match Request.ofArguments? around.databaseUrl arguments with
  | none => .misuse
  | some request =>
    match perform around request with
    | .ok output => .success output
    | .error reason => .failure around.screen reason

end SelectQuery.Command
