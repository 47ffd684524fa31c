import SelectQuery.Json.Token

namespace SelectQuery.Json

inductive Frame
  | array (items : List Json)
  | object (members : List (String × Json)) (readable : Bool) (name : Option String)

inductive Awaited
  | value
  | itemOrClose
  | nameOrClose
  | name
  | colon
  | commaOrClose

inductive Reading
  | within (stack : List Frame) (next : Awaited)
  | done (value : Json)

namespace Reading

def place (value : Json) : List Frame → Reading
  | [] => .done value
  | .array items :: rest => .within (.array (value :: items) :: rest) .commaOrClose
  | .object members readable (some name) :: rest =>
    .within (.object ((name, value) :: members) readable none :: rest) .commaOrClose
  | .object members _ none :: rest => .within (.object members false none :: rest) .commaOrClose

def closed (limit depth : Nat) : Frame → Json
  | .array items => if limit < depth then .void else .array items.reverse
  | .object members readable _ =>
    if limit < depth || !readable then .void else .object members.reverse

def close (limit : Nat) : List Frame → Option Reading
  | [] => none
  | frame :: rest => some (place (closed limit (rest.length + 1) frame) rest)

def text (content : Option String) : Json :=
  match content with
  | some s => .string s
  | none => .void

def value (stack : List Frame) : Token → Option Reading
  | .openArray => some (.within (.array [] :: stack) .itemOrClose)
  | .openObject => some (.within (.object [] true none :: stack) .nameOrClose)
  | .scalar j => some (place j stack)
  | .text content => some (place (text content) stack)
  | _ => none

def name (stack : List Frame) : Token → Option Reading
  | .text content =>
    match stack with
    | .object members readable _ :: rest =>
      some (.within (.object members readable content :: rest) .colon)
    | _ => none
  | _ => none

def step (limit : Nat) : Reading → Token → Option Reading
  | .within stack .value, t => value stack t
  | .within stack .itemOrClose, t =>
    match t with
    | .closeArray => close limit stack
    | t => value stack t
  | .within stack .nameOrClose, t =>
    match t with
    | .closeObject => close limit stack
    | t => name stack t
  | .within stack .name, t => name stack t
  | .within stack .colon, t =>
    match t with
    | .colon => some (.within stack .value)
    | _ => none
  | .within stack .commaOrClose, t =>
    match t, stack with
    | .comma, .array _ :: _ => some (.within stack .value)
    | .comma, .object .. :: _ => some (.within stack .name)
    | .closeArray, .array _ :: _ => close limit stack
    | .closeObject, .object .. :: _ => close limit stack
    | _, _ => none
  | .done _, _ => none

def run (limit : Nat) (reading : Reading) : List Token → Option Reading
  | [] => some reading
  | t :: ts => (step limit reading t).bind fun next => run limit next ts

def value? : Reading → Option Json
  | .done j => some j
  | .within .. => none

end Reading

def ofTokens? (limit : Nat) (tokens : List Token) : Option Json :=
  (Reading.run limit (.within [] .value) tokens).bind Reading.value?

def parse? (limit : Nat) (text : String) : Option Json :=
  (tokens? text.toList).bind (ofTokens? limit)

end SelectQuery.Json
