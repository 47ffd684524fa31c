import SelectQuery.Text.Basic

namespace SelectQuery.Toml

abbrev Reader (α : Type) := List Char → Option (α × List Char)

/-- The text with each line break one character; no other carriage return fits anywhere. -/
def joinLineBreaks : List Char → List Char
  | [] => []
  | '\r' :: '\n' :: cs => '\n' :: joinLineBreaks cs
  | c :: cs => c :: joinLineBreaks cs

def isBlank (c : Char) : Bool := c == ' ' || c == '\t'

def isPlain (c : Char) : Bool := c == '\t' || (0x20 ≤ c.toNat && c.toNat != 0x7F)

def skipBlanks (cs : List Char) : List Char := cs.dropWhile isBlank

def skipComment : List Char → List Char
  | '#' :: cs => cs.dropWhile isPlain
  | cs => cs

def nextLine? (cs : List Char) : Option (List Char) :=
  match skipComment (skipBlanks cs) with
  | [] => some []
  | '\n' :: cs => some cs
  | _ => none

def skipLines (inComment : Bool) : List Char → List Char
  | [] => []
  | c :: cs =>
    if c = '\n' then skipLines false cs
    else if inComment then if isPlain c then skipLines true cs else c :: cs
    else if isBlank c then skipLines false cs
    else if c = '#' then skipLines true cs
    else c :: cs

structure Quotation where
  mark : Char
  escapes : Bool
  lines : Bool

namespace Quotation

inductive Pending
  | character
  | escape
  | code (left soFar : Nat)
  | gap (broken : Bool)

def unescape? (c : Char) : Option Char :=
  match c with
  | '"' | '\\' => some c
  | 'b' => some '\x08'
  | 'f' => some '\x0c'
  | 'n' => some '\n'
  | 'r' => some '\r'
  | 't' => some '\t'
  | _ => none

def character (q : Quotation) (reversed : List Char) (c : Char) : Option (List Char × Pending) :=
  if q.escapes && c = '\\' then some (reversed, .escape)
  else if isPlain c || (q.lines && c = '\n') then some (c :: reversed, .character)
  else none

def step (q : Quotation) (reversed : List Char) (c : Char) :
    Pending → Option (List Char × Pending)
  | .character => q.character reversed c
  | .escape =>
    if c = 'u' then some (reversed, .code 3 0)
    else if c = 'U' then some (reversed, .code 7 0)
    else if q.lines && c = '\n' then some (reversed, .gap true)
    else if q.lines && isBlank c then some (reversed, .gap false)
    else (unescape? c).map fun d => (d :: reversed, .character)
  | .code left soFar => do
    let code := 16 * soFar + (← Text.hexDigit? c)
    match left with
    | 0 => if code.isValidChar then some (.ofNat code :: reversed, .character) else none
    | left + 1 => some (reversed, .code left code)
  | .gap broken =>
    if c = '\n' then some (reversed, .gap true)
    else if isBlank c then some (reversed, .gap broken)
    else if broken then q.character reversed c
    else none

def atCharacter : Pending → Bool
  | .character | .gap true => true
  | _ => false

def line? (q : Quotation) (reversed : List Char) (pending : Pending) : Reader String
  | [] => none
  | c :: cs =>
    if c = q.mark && atCharacter pending then some (String.ofList reversed.reverse, cs)
    else
      match q.step reversed c pending with
      | none => none
      | some (reversed, pending) => line? q reversed pending cs

/-- The end of a string on several lines: of the marks in a row the last three close it. -/
def closed? (q : Quotation) (marks : Nat) (reversed : List Char) : Reader String := fun cs =>
  if 3 ≤ marks && marks ≤ 5 then
    some (String.ofList (reversed.reverse ++ List.replicate (marks - 3) q.mark), cs)
  else none

def lines? (q : Quotation) (marks : Nat) (reversed : List Char) (pending : Pending) :
    Reader String
  | [] => q.closed? marks reversed []
  | c :: cs =>
    if c = q.mark && atCharacter pending then lines? q (marks + 1) reversed .character cs
    else if 3 ≤ marks then q.closed? marks reversed (c :: cs)
    else
      match q.step (List.replicate marks q.mark ++ reversed) c pending with
      | none => none
      | some (reversed, pending) => lines? q 0 reversed pending cs

def opened : List Char → List Char
  | '\n' :: cs => cs
  | cs => cs

end Quotation

def lineString? : Reader String
  | '"' :: cs => Quotation.line? ⟨'"', true, false⟩ [] .character cs
  | '\'' :: cs => Quotation.line? ⟨'\'', false, false⟩ [] .character cs
  | _ => none

def string? : Reader String
  | '"' :: '"' :: '"' :: cs =>
    Quotation.lines? ⟨'"', true, true⟩ 0 [] .character (Quotation.opened cs)
  | '\'' :: '\'' :: '\'' :: cs =>
    Quotation.lines? ⟨'\'', false, true⟩ 0 [] .character (Quotation.opened cs)
  | cs => lineString? cs

end SelectQuery.Toml
