import SelectQuery.Json.Numeral

namespace SelectQuery.Json

inductive Token
  | openArray
  | closeArray
  | openObject
  | closeObject
  | comma
  | colon
  | scalar (value : Json)
  | text (content : Option String)

namespace Token

inductive Pending
  | character
  | escape
  /-- Hexadecimal digits: how many follow the next one, the code so far, and the leading surrogate
  that they complete. -/
  | code (left : Nat) (soFar : Nat) (lead : Option Nat)
  | afterLead (lead : Nat)
  | escapeAfterLead (lead : Nat)

inductive Scan
  | between
  | word (reversed : List Char)
  | string (reversed : List Char) (readable : Bool) (pending : Pending)

def isJsonSpace (c : Char) : Bool := c == ' ' || c == '\t' || c == '\n' || c == '\r'

def inWord (c : Char) : Bool :=
  Text.isAsciiLetter c || Text.isAsciiDigit c || c == '+' || c == '-' || c == '.'

def ofWord? (cs : List Char) : Option Token :=
  if cs = "null".toList then some (.scalar .null)
  else if cs = "true".toList then some (.scalar (.bool true))
  else if cs = "false".toList then some (.scalar (.bool false))
  else (Numeral.read? cs).map fun n => .scalar n.value

def isLead (code : Nat) : Bool := 0xD800 ≤ code && code < 0xDC00

def isTrail (code : Nat) : Bool := 0xDC00 ≤ code && code < 0xE000

def joined (lead trail : Nat) : Char :=
  Char.ofNat (0x10000 + (lead - 0xD800) * 0x400 + (trail - 0xDC00))

def between (c : Char) : Option (Scan × List Token) :=
  if isJsonSpace c then some (.between, [])
  else if inWord c then some (.word [c], [])
  else match c with
    | '[' => some (.between, [.openArray])
    | ']' => some (.between, [.closeArray])
    | '\x7b' => some (.between, [.openObject])
    | '\x7d' => some (.between, [.closeObject])
    | ',' => some (.between, [.comma])
    | ':' => some (.between, [.colon])
    | '"' => some (.string [] true .character, [])
    | _ => none

def inString (reversed : List Char) (readable : Bool) (c : Char) : Option (Scan × List Token) :=
  if c = '"' then
    some (.between, [.text (if readable then some (String.ofList reversed.reverse) else none)])
  else if c = '\\' then some (.string reversed readable .escape, [])
  else if c.toNat < 0x20 then none
  else some (.string (c :: reversed) readable .character, [])

def unescape? (c : Char) : Option Char :=
  match c with
  | '"' | '\\' | '/' => some c
  | 'b' => some '\x08'
  | 'f' => some '\x0c'
  | 'n' => some '\n'
  | 'r' => some '\r'
  | 't' => some '\t'
  | _ => none

def inEscape (reversed : List Char) (readable : Bool) (c : Char) : Option (Scan × List Token) :=
  if c = 'u' then some (.string reversed readable (.code 3 0 none), [])
  else (unescape? c).map fun d => (.string (d :: reversed) readable .character, [])

def codeRead (reversed : List Char) (readable : Bool) (code : Nat) (lead : Option Nat) : Scan :=
  match lead with
  | none =>
    if isLead code then .string reversed readable (.afterLead code)
    else if isTrail code then .string reversed false .character
    else .string (Char.ofNat code :: reversed) readable .character
  | some lead =>
    if isTrail code then .string (joined lead code :: reversed) readable .character
    else .string reversed false .character

def step : Scan → Char → Option (Scan × List Token)
  | .between, c => between c
  | .word reversed, c =>
    if inWord c then some (.word (c :: reversed), [])
    else do
      let token ← ofWord? reversed.reverse
      let (scan, tokens) ← between c
      return (scan, token :: tokens)
  | .string reversed readable .character, c => inString reversed readable c
  | .string reversed readable .escape, c => inEscape reversed readable c
  | .string reversed readable (.code left soFar lead), c => do
    let code := 16 * soFar + (← Text.hexDigit? c)
    match left with
    | 0 => return (codeRead reversed readable code lead, [])
    | left + 1 => return (.string reversed readable (.code left code lead), [])
  | .string reversed readable (.afterLead lead), c =>
    if c = '\\' then some (.string reversed readable (.escapeAfterLead lead), [])
    else inString reversed false c
  | .string reversed readable (.escapeAfterLead lead), c =>
    if c = 'u' then some (.string reversed readable (.code 3 0 (some lead)), [])
    else inEscape reversed false c

def finish? : Scan → Option (List Token)
  | .between => some []
  | .word reversed => (ofWord? reversed.reverse).map ([·])
  | .string .. => none

def scan? (scan : Scan) (reversed : List Token) : List Char → Option (List Token)
  | [] => (finish? scan).map (reversed.reverse ++ ·)
  | c :: cs =>
    match step scan c with
    | none => none
    | some (scan, tokens) => scan? scan (tokens.reverse ++ reversed) cs

end Token

def tokens? (cs : List Char) : Option (List Token) := Token.scan? .between [] cs

end SelectQuery.Json
