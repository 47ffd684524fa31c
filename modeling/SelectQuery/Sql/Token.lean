import SelectQuery.Binding.Token
import SelectQuery.Sql.Relation

namespace SelectQuery.Sql

inductive Token
  | word (text : String)
  | quotedName (name : String)
  | constant (cell : Cell) (written : String)
  | parameter
  | mark (c : Char)
deriving DecidableEq

namespace Token

def written : Token → String
  | word text => text
  | quotedName name => name
  | constant _ written => written
  | parameter => "?"
  | mark c => String.singleton c

def isSpace (c : Char) : Bool :=
  c == ' ' || c == '\t' || c == '\n' || c == '\x0c' || c == '\r'

def inWord (c : Char) : Bool :=
  Text.isAsciiLetter c || Text.isAsciiDigit c || c == '_' || c == '$' || 0x80 ≤ c.toNat

def isExponentMark (c : Char) : Bool := c == 'e' || c == 'E'

def extendsNumber (reversed : List Char) (c : Char) : Bool :=
  match reversed.getLast? with
  | none => false
  | some first =>
    (Text.isAsciiDigit first || first == '.') &&
      (c == '.' || ((c == '+' || c == '-') && reversed.head?.any isExponentMark))

def exponent? : List Char → Option Int
  | [] => some 0
  | [_] => none
  | _ :: c :: cs =>
    let digits := if c = '+' || c = '-' then cs else c :: cs
    if digits.isEmpty || !digits.all Text.isAsciiDigit then none
    else some (if c = '-' then -Text.ofDigits digits else Text.ofDigits digits)

def number? (cs : List Char) : Option Cell :=
  if cs.all Text.isAsciiDigit then
    let n := Text.ofDigits cs
    some (if n < 0x8000000000000000 then .int (Int64.ofNat n) else .real (.ofDecimal false n 0))
  else do
    let mantissa := cs.takeWhile (!isExponentMark ·)
    let whole := mantissa.takeWhile (· != '.')
    let places := (mantissa.dropWhile (· != '.')).drop 1
    if (whole ++ places).isEmpty || !(whole ++ places).all Text.isAsciiDigit then none
    let e ← exponent? (cs.dropWhile (!isExponentMark ·))
    return .real (.ofDecimal false (Text.ofDigits (whole ++ places)) (e - places.length))

def ofRun? (reversed : List Char) : Option (List Token) :=
  let cs := reversed.reverse
  match cs with
  | [] => some []
  | c :: _ =>
    if Text.isAsciiDigit c || c == '.' then
      (number? cs).map fun cell => [.constant cell (String.ofList cs)]
    else some [.word (String.ofList cs)]

def unquoted (mark : Char) : List Char → List Char
  | [] => []
  | [c] => [c]
  | c :: d :: cs =>
    if c = mark && d = mark then c :: unquoted mark cs else c :: unquoted mark (d :: cs)

def ofQuoted (opening : Char) (body : List Char) : Token :=
  let content := String.ofList (unquoted opening body)
  if opening = '\'' then .constant (.text content) ("'" ++ String.ofList body ++ "'")
  else .quotedName content

def startsWithDigit : List Binding.Token → Bool
  | .other c :: _ => Text.isAsciiDigit c
  | _ => false

def scan? (reversed : List Char) : List Binding.Token → Option (List Token)
  | [] => ofRun? reversed
  | .other c :: rest =>
    if inWord c || extendsNumber reversed c ||
        (c == '.' && reversed.isEmpty && startsWithDigit rest) then
      scan? (c :: reversed) rest
    else do
      let run ← ofRun? reversed
      let tokens ← scan? [] rest
      if isSpace c then return run ++ tokens
      else return run ++ (if c = '?' then .parameter else .mark c) :: tokens
  | .quoted opening _ body closed :: rest => do
    let run ← ofRun? reversed
    let tokens ← scan? [] rest
    if closed then return run ++ ofQuoted opening body :: tokens else none
  | .lineComment .. :: rest | .blockComment .. :: rest => do
    let run ← ofRun? reversed
    return run ++ (← scan? [] rest)
  | .parameter _ :: _ | .system _ :: _ => none

/-- The values for the marks that stand for them, in their order; null for marks without one. -/
def bind : List Cell → List Token → List Token
  | _, [] => []
  | [], .parameter :: tokens => .constant .null "?" :: bind [] tokens
  | cell :: cells, .parameter :: tokens => .constant cell "?" :: bind cells tokens
  | cells, token :: tokens => token :: bind cells tokens

end Token

def tokens? (sql : String) (values : List Cell) : Option (List Token) :=
  (Token.scan? [] (Binding.tokens .sqlite sql.toList)).map (Token.bind values)

end SelectQuery.Sql
