import SelectQuery.Toml.Element

namespace SelectQuery.Toml

inductive Line
  | table (path : List String)
  | element (path : List String)
  | pair (path : List String) (value : Json)
  | empty

def closing? (closing : List Char) (cs : List Char) : Option (List Char) :=
  if closing.isPrefixOf cs then some (cs.drop closing.length) else none

def line? : Reader Line := fun cs =>
  match skipBlanks cs with
  | '[' :: '[' :: cs => do
    let (path, cs) ← key? limit cs
    return (.element path, ← closing? [']', ']'] cs)
  | '[' :: cs => do
    let (path, cs) ← key? limit cs
    return (.table path, ← closing? [']'] cs)
  | [] => some (.empty, [])
  | c :: cs =>
    if c = '#' || c = '\n' then some (.empty, c :: cs)
    else (pair? (value? limit) (c :: cs)).map fun ((path, j), cs) => (.pair path j, cs)

def lines? : Nat → List Char → Option (List Line)
  | 0, _ => none
  | _ + 1, [] => some []
  | fuel + 1, c :: cs => do
    let (line, rest) ← line? (c :: cs)
    let lines ← lines? fuel (← nextLine? rest)
    return line :: lines

structure Draft where
  root : Table := []
  current : List String := []

namespace Draft

def add (draft : Draft) : Line → Option Draft
  | .empty => some draft
  | .table path => (draft.root.alter Table.opened path).map (⟨·, path⟩)
  | .element path => (draft.root.alter Table.extended path).map (⟨·, path⟩)
  | .pair path j => (draft.root.assignIn draft.current path j).map (⟨·, draft.current⟩)

end Draft

def ofLines? (lines : List Line) : Option Json :=
  (lines.foldlM Draft.add {}).map (·.root.toJson)

def body : List Char → List Char
  | '\uFEFF' :: cs => cs
  | cs => cs

def parse? (text : String) : Option Json :=
  let cs := joinLineBreaks (body text.toList)
  (lines? (cs.length + 1) cs).bind ofLines?

end SelectQuery.Toml
