import SelectQuery.Text.Basic

namespace SelectQuery

inductive Error
  | invalidArgument (argument reason : String)
  | outOfRange (argument : String) (value : Int) (reason : String)
  | parameterConflict (name : String)
  | notNamedValues (reason : String)
  | missingParameter (name : String)
  | unsupportedDialect (name : String)
  | connection (reason : String)
  | execution (reason : String)
  | decoding (reason : String)
  | configuration (reason : String)
  | file (reason : String)
deriving DecidableEq

namespace Error

def message : Error → String
  | invalidArgument argument reason => s!"Invalid argument '{argument}': {reason}"
  | outOfRange argument value reason => s!"Argument '{argument}' out of range ({value}): {reason}"
  | parameterConflict name => s!"Parameter '@{name}' is bound to conflicting values"
  | notNamedValues reason => s!"Cannot convert parameters: {reason}"
  | missingParameter name => s!"Missing value for parameter '@{name}'"
  | unsupportedDialect name => s!"Dialect {name} is not supported by the execution engine"
  | connection reason => s!"Connection error: {reason}"
  | execution reason => s!"Execution error: {reason}"
  | decoding reason => s!"Decode error: {reason}"
  | configuration reason => s!"Configuration error: {reason}"
  | file reason => s!"IO error: {reason}"

def argument? : Error → Option String
  | invalidArgument argument _ | outOfRange argument _ _ => some argument
  | _ => none

def blank (argument : String) : Error :=
  invalidArgument argument "value cannot be empty or whitespace"

end Error

def requireText (value argument : String) : Except Error Unit :=
  if Text.isBlank value then .error (.blank argument) else .ok ()

end SelectQuery
