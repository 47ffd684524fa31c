import SelectQuery.Dialect.Basic
import SelectQuery.Text.Basic

namespace SelectQuery.Binding

inductive Token
  /-- A text or name between quotes, with each quote inside written twice. -/
  | quoted (opening closing : Char) (body : List Char) (closed : Bool)
  | lineComment (body : List Char) (closed : Bool)
  | blockComment (body : List Char) (closed : Bool)
  /-- A name behind two marks belongs to the database. -/
  | system (name : List Char)
  | parameter (name : List Char)
  | other (c : Char)

namespace Token

def source : Token → List Char
  | quoted opening closing body closed =>
    opening :: body ++ (if closed then [closing] else [])
  | lineComment body closed => '-' :: '-' :: body ++ (if closed then ['\n'] else [])
  | blockComment body closed => '/' :: '*' :: body ++ (if closed then ['*', '/'] else [])
  | system name => '@' :: '@' :: name
  | parameter name => '@' :: name
  | other c => [c]

def isClosed : Token → Bool
  | quoted _ _ _ closed | lineComment _ closed | blockComment _ closed => closed
  | _ => true

def parameter? : Token → Option String
  | parameter name => some (String.ofList name)
  | _ => none

def quotedBody (closing : Char) : List Char → List Char × Bool × List Char
  | [] => ([], false, [])
  | [c] => if c = closing then ([], true, []) else ([c], false, [])
  | c :: d :: cs =>
    if c = closing then
      if d = closing then
        let (body, closed, rest) := quotedBody closing cs
        (c :: d :: body, closed, rest)
      else ([], true, d :: cs)
    else
      let (body, closed, rest) := quotedBody closing (d :: cs)
      (c :: body, closed, rest)

def lineBody : List Char → List Char × Bool × List Char
  | [] => ([], false, [])
  | c :: cs =>
    if c = '\n' then ([], true, cs)
    else
      let (body, closed, rest) := lineBody cs
      (c :: body, closed, rest)

def blockBody : List Char → List Char × Bool × List Char
  | [] => ([], false, [])
  | [c] => ([c], false, [])
  | c :: d :: cs =>
    if c = '*' && d = '/' then ([], true, cs)
    else
      let (body, closed, rest) := blockBody (d :: cs)
      (c :: body, closed, rest)

def closing? (dialect : Dialect) (c : Char) : Option Char :=
  if c = '\'' || c = '"' || c = '\x60' then some c
  else if c = '[' && dialect = .sqlServer then some ']'
  else none

def next (dialect : Dialect) (c : Char) (cs : List Char) : Token × List Char :=
  match closing? dialect c with
  | some closing =>
    let (body, closed, rest) := quotedBody closing cs
    (.quoted c closing body closed, rest)
  | none =>
    match cs with
    | [] => (.other c, [])
    | d :: rest =>
      if c = '/' && d = '*' then
        let (body, closed, rest) := blockBody rest
        (.blockComment body closed, rest)
      else if c = '-' && d = '-' then
        let (body, closed, rest) := lineBody rest
        (.lineComment body closed, rest)
      else if c = Dialect.parameterMark then
        if d = Dialect.parameterMark then
          (.system (rest.takeWhile Text.inIdentifier), rest.dropWhile Text.inIdentifier)
        else if Text.startsIdentifier d then
          (.parameter (cs.takeWhile Text.inIdentifier), cs.dropWhile Text.inIdentifier)
        else (.other c, cs)
      else (.other c, cs)

theorem length_quotedBody_le (closing : Char) (cs : List Char) :
    (quotedBody closing cs).2.2.length ≤ cs.length := by
  fun_induction quotedBody closing cs with
  | case1 => exact Nat.le_refl _
  | case2 => exact Nat.zero_le _
  | case3 => exact Nat.zero_le _
  | case4 cs body closed rest hbody ih =>
    rw [hbody] at ih
    exact Nat.le_trans ih (Nat.le_add_right _ 2)
  | case5 c d cs => exact Nat.le_succ _
  | case6 c d cs hc body closed rest hbody ih =>
    rw [hbody] at ih
    exact Nat.le_succ_of_le ih

theorem length_lineBody_le (cs : List Char) : (lineBody cs).2.2.length ≤ cs.length := by
  fun_induction lineBody cs with
  | case1 => exact Nat.le_refl _
  | case2 => exact Nat.le_succ _
  | case3 c cs hc body closed rest hbody ih =>
    rw [hbody] at ih
    exact Nat.le_succ_of_le ih

theorem length_blockBody_le (cs : List Char) : (blockBody cs).2.2.length ≤ cs.length := by
  fun_induction blockBody cs with
  | case1 => exact Nat.le_refl _
  | case2 => exact Nat.zero_le _
  | case3 c d cs => exact Nat.le_add_right _ 2
  | case4 c d cs hmarks body closed rest hbody ih =>
    rw [hbody] at ih
    exact Nat.le_succ_of_le ih

theorem length_dropWhile_le {α : Type} (p : α → Bool) (l : List α) :
    (l.dropWhile p).length ≤ l.length :=
  (List.dropWhile_suffix p).length_le

theorem length_next_le (dialect : Dialect) (c : Char) (cs : List Char) :
    (next dialect c cs).2.length ≤ cs.length := by
  unfold next
  split
  · exact length_quotedBody_le _ cs
  · split
    · exact Nat.le_refl _
    · next d rest =>
      split
      · exact Nat.le_succ_of_le (length_blockBody_le rest)
      · split
        · exact Nat.le_succ_of_le (length_lineBody_le rest)
        · split
          · split
            · exact Nat.le_succ_of_le (length_dropWhile_le _ rest)
            · split
              · exact length_dropWhile_le _ (d :: rest)
              · exact Nat.le_refl _
          · exact Nat.le_refl _

end Token

def tokens (dialect : Dialect) : List Char → List Token
  | [] => []
  | c :: cs => (Token.next dialect c cs).1 :: tokens dialect (Token.next dialect c cs).2
termination_by cs => cs.length
decreasing_by exact Nat.lt_succ_of_le (Token.length_next_le dialect c cs)

end SelectQuery.Binding
