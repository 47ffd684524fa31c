import SelectQuery.Sql.Problem
import SelectQuery.Sql.Statement
import SelectQuery.Sql.Token

namespace SelectQuery.Sql

abbrev Reader (α : Type) := List Token → Except (List Token) (α × List Token)

def foldCase (name : String) : String := String.ofList (name.toList.map Char.toLower)

def sameName (a b : String) : Bool := foldCase a == foldCase b

def reserved : List String :=
  ["all", "and", "as", "by", "delete", "distinct", "exists", "from", "group", "having", "in", "is",
    "join", "limit", "not", "null", "on", "or", "order", "select", "union", "where"]

namespace Reader

def isWord (word : String) : Token → Bool
  | .word w => foldCase w == word
  | _ => false

def isMark (c : Char) : Token → Bool
  | .mark d => d == c
  | _ => false

def skip? (accepts : Token → Bool) : List Token → Option (List Token)
  | [] => none
  | t :: ts => if accepts t then some ts else none

def need (accepts : Token → Bool) (ts : List Token) : Except (List Token) (List Token) :=
  match skip? accepts ts with
  | none => .error ts
  | some ts => .ok ts

def separated {α : Type} (separator : Token → Bool) (part : Reader α) :
    Nat → Reader (α × List α)
  | 0 => fun ts => .error ts
  | fuel + 1 => fun ts => do
    let (first, ts) ← part ts
    match skip? separator ts with
    | none => return ((first, []), ts)
    | some ts => do
      let ((next, further), ts) ← separated separator part fuel ts
      return ((first, next :: further), ts)

def listed {α : Type} (separator : Token → Bool) (part : Reader α) : Reader (α × List α) :=
  fun ts => separated separator part (ts.length + 1) ts

def list {α : Type} (separator : Token → Bool) (part : Reader α) : Reader (List α) := fun ts => do
  let ((first, further), ts) ← listed separator part ts
  return (first :: further, ts)

def name : Reader String
  | .word w :: ts => if foldCase w ∈ reserved then .error (.word w :: ts) else .ok (w, ts)
  | .quotedName n :: ts => .ok (n, ts)
  | ts => .error ts

def label (ts : List Token) : Except (List Token) (Option String × List Token) :=
  match skip? (isWord "as") ts with
  | some ts => do
    let (n, ts) ← name ts
    return (some n, ts)
  | none =>
    match name ts with
    | .ok (n, ts) => .ok (some n, ts)
    | .error _ => .ok (none, ts)

def columnName : Reader ColumnName := fun ts => do
  let (n, ts) ← name ts
  match skip? (isMark '.') ts with
  | none => return (⟨none, n⟩, ts)
  | some ts => do
    let (column, ts) ← name ts
    return (⟨some n, column⟩, ts)

def negated : Cell → Cell
  | .int i => .int (-i)
  | .real x => .real x.negated
  | cell => cell

def operand : Reader (Operand ColumnName × String)
  | .constant cell written :: ts => .ok ((.constant cell, written), ts)
  | .mark '-' :: .constant cell written :: ts =>
    .ok ((.constant (negated cell), "-" ++ written), ts)
  | t :: ts =>
    if isWord "null" t then .ok ((.constant .null, t.written), ts)
    else do
      let (c, ts) ← columnName (t :: ts)
      return ((.column c, c.text), ts)
  | [] => .error []

def comparison : Reader Comparison
  | .mark '<' :: .mark '=' :: ts => .ok (.lessOrEqual, ts)
  | .mark '<' :: .mark '>' :: ts | .mark '!' :: .mark '=' :: ts => .ok (.unequal, ts)
  | .mark '<' :: ts => .ok (.less, ts)
  | .mark '>' :: .mark '=' :: ts => .ok (.greaterOrEqual, ts)
  | .mark '>' :: ts => .ok (.greater, ts)
  | .mark '=' :: .mark '=' :: ts | .mark '=' :: ts => .ok (.equal, ts)
  | ts => .error ts

def predicate : Reader (Condition ColumnName) := fun ts => do
  let ((left, _), ts) ← operand ts
  match skip? (isWord "is") ts with
  | some ts =>
    match skip? (isWord "not") ts with
    | some ts => return (.isNotNull left, ← need (isWord "null") ts)
    | none => return (.isNull left, ← need (isWord "null") ts)
  | none => do
    let (c, ts) ← comparison ts
    let ((right, _), ts) ← operand ts
    return (.compare c left right, ts)

def conjunction : Reader (Condition ColumnName) := fun ts => do
  let ((first, further), ts) ← listed (isWord "and") predicate ts
  return (further.foldl .and first, ts)

def condition : Reader (Condition ColumnName) := fun ts => do
  let ((first, further), ts) ← listed (isWord "or") conjunction ts
  return (further.foldl .or first, ts)

def filter (ts : List Token) :
    Except (List Token) (Option (Condition ColumnName) × List Token) :=
  match skip? (isWord "where") ts with
  | none => .ok (none, ts)
  | some ts => do
    let (c, ts) ← condition ts
    return (some c, ts)

def item : Reader Item := fun ts =>
  match skip? (isMark '*') ts with
  | some ts => .ok (.all, ts)
  | none => do
    let ((o, written), ts) ← operand ts
    let (l, ts) ← label ts
    return (.operand o l written, ts)

def projection : Reader Projection
  | .word w :: .mark '(' :: .mark '*' :: .mark ')' :: ts =>
    if foldCase w = "count" then do
      let (l, ts) ← label ts
      return (.count (l.getD (w ++ "(*)")), ts)
    else .error (.mark '(' :: ts)
  | ts => do
    let (items, ts) ← list (isMark ',') item ts
    return (.items items, ts)

def source (query : Reader Select) : Reader (Source Select) := fun ts =>
  match skip? (isMark '(') ts with
  | some ts => do
    let (q, ts) ← query ts
    let (l, ts) ← label (← need (isMark ')') ts)
    return (.query q l, ts)
  | none => do
    let (n, ts) ← name ts
    let (l, ts) ← label ts
    return (.table n (l.getD n), ts)

def core (query : Reader Select) : Reader (Core Select) := fun ts => do
  let ts ← need (isWord "select") ts
  let distinct := skip? (isWord "distinct") ts
  let (p, ts) ← projection (distinct.getD ts)
  let (s, ts) ← source query (← need (isWord "from") ts)
  let (f, ts) ← filter ts
  return (⟨distinct.isSome, p, s, f⟩, ts)

def members (query : Reader Select) : Nat → Reader (List (Bool × Core Select))
  | 0 => fun ts => .ok ([], ts)
  | fuel + 1 => fun ts =>
    match skip? (isWord "union") ts with
    | none => .ok ([], ts)
    | some ts => do
      let all := skip? (isWord "all") ts
      let (c, ts) ← core query (all.getD ts)
      let (cs, ts) ← members query fuel ts
      return ((all.isSome, c) :: cs, ts)

def keyTarget : Reader KeyTarget
  | .constant (.int i) written :: ts =>
    if 0 ≤ i then .ok (.position i.toInt.toNat, ts) else .error (.constant (.int i) written :: ts)
  | ts => do
    let (c, ts) ← columnName ts
    return (.column c, ts)

def key : Reader Key := fun ts => do
  let (target, ts) ← keyTarget ts
  match skip? (isWord "desc") ts with
  | some ts => return (⟨target, true⟩, ts)
  | none => return (⟨target, false⟩, (skip? (isWord "asc") ts).getD ts)

def ordering (ts : List Token) : Except (List Token) (List Key × List Token) :=
  match skip? (isWord "order") ts with
  | none => .ok ([], ts)
  | some ts => do list (isMark ',') key (← need (isWord "by") ts)

def count : Reader Nat
  | .constant (.int i) written :: ts =>
    if 0 ≤ i then .ok (i.toInt.toNat, ts) else .error (.constant (.int i) written :: ts)
  | ts => .error ts

def paging (ts : List Token) : Except (List Token) (Option Paging × List Token) :=
  match skip? (isWord "limit") ts with
  | none => .ok (none, ts)
  | some ts => do
    let (take, ts) ← count ts
    match skip? (isWord "offset") ts with
    | none => return (some ⟨0, take⟩, ts)
    | some ts => do
      let (skip, ts) ← count ts
      return (some ⟨skip, take⟩, ts)

def definition (query : Reader Select) : Reader (String × Select) := fun ts => do
  let (n, ts) ← name ts
  let (q, ts) ← query (← need (isMark '(') (← need (isWord "as") ts))
  return ((n, q), ← need (isMark ')') ts)

def definitions (query : Reader Select) (ts : List Token) :
    Except (List Token) (List (String × Select) × List Token) :=
  match skip? (isWord "with") ts with
  | none => .ok ([], ts)
  | some ts => list (isMark ',') (definition query) ts

def select : Nat → Reader Select
  | 0 => fun ts => .error ts
  | levels + 1 => fun ts => do
    let (ctes, ts) ← definitions (select levels) ts
    let (first, ts) ← core (select levels) ts
    let (others, ts) ← members (select levels) ts.length ts
    let (keys, ts) ← ordering ts
    let (page, ts) ← paging ts
    return (⟨ctes, first, others, keys, page⟩, ts)

def existence (query : Reader Select) (ts : List Token) :
    Except (List Token) (Statement × List Token) := do
  let (q, ts) ← query (← need (isMark '(') ts)
  return (.existence q, ← need (isMark ')') ts)

def statement (levels : Nat) : Reader Statement
  | a :: b :: ts =>
    if isWord "select" a && isWord "exists" b then existence (select levels) ts
    else if isWord "delete" a && isWord "from" b then do
      let (n, ts) ← name ts
      let (f, ts) ← filter ts
      return (.delete n f, ts)
    else do
      let (q, ts) ← select levels (a :: b :: ts)
      return (.rows q, ts)
  | ts => .error (ts.drop 1)

def ended (ts : List Token) : Except (List Token) Unit :=
  match (skip? (isMark ';') ts).getD ts with
  | [] => .ok ()
  | ts => .error ts

def problem : List Token → Problem
  | [] => .incomplete
  | t :: _ => .unexpected t.written

def whole (ts : List Token) : Except (List Token) Statement := do
  let (s, ts) ← statement (ts.length + 1) ts
  ended ts
  return s

end Reader

namespace Statement

def read (sql : String) (values : List Cell) : Except Problem Statement :=
  match tokens? sql values with
  | none => .error (.unexpected sql)
  | some ts => (Reader.whole ts).mapError Reader.problem

end Statement

end SelectQuery.Sql
