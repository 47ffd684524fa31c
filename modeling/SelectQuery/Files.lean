namespace SelectQuery

inductive FileProblem
  | missing
  | isDirectory
  | notDirectory
  | notText

def FileProblem.message : FileProblem → String
  | .missing => "No such file or directory (os error 2)"
  | .isDirectory => "Is a directory (os error 21)"
  | .notDirectory => "Not a directory (os error 20)"
  | .notText => "stream did not contain valid UTF-8"

abbrev FilePath := List String

structure Files where
  contents : List (FilePath × ByteArray) := []
  directories : List FilePath := []

namespace Files

def components (path : String) : List String := path.splitOn "/"

def step (reached : FilePath) (part : String) : FilePath :=
  if part = "" || part = "." then reached
  else if part = ".." then
    match reached with
    | "/" :: _ => reached
    | [] | ".." :: _ => ".." :: reached
    | _ :: above => above
  else part :: reached

def parts (path : String) : FilePath × List String :=
  match components path with
  | "" :: rest => (["/"], rest)
  | parts => ([], parts)

def place (path : String) : FilePath :=
  let (start, parts) := parts path
  (parts.foldl step start).reverse

def add (files : Files) (path : String) (content : ByteArray) : Files :=
  { files with contents := files.contents ++ [(place path, content)] }

def addDirectory (files : Files) (path : String) : Files :=
  { files with directories := place path :: files.directories }

def isDirectory (files : Files) (path : FilePath) : Bool :=
  files.directories.contains path ||
    files.contents.any fun (file, _) => path.isPrefixOf file && path != file

def content? (files : Files) (path : FilePath) : Option ByteArray := files.contents.lookup path

def walk (files : Files) (reached : FilePath) : List String → Except FileProblem ByteArray
  | [] => .error .isDirectory
  | part :: rest =>
    let next := step reached part
    if next.length ≤ reached.length || part = ".." then walk files next rest
    else
      match files.content? next.reverse with
      | some content => if rest.isEmpty then .ok content else .error .notDirectory
      | none =>
        if files.isDirectory next.reverse then walk files next rest else .error .missing

def read (files : Files) (path : String) : Except FileProblem ByteArray :=
  if path.isEmpty then .error .missing
  else
    let (start, parts) := parts path
    files.walk start parts

def readText (files : Files) (path : String) : Except FileProblem String := do
  match String.fromUTF8? (← files.read path) with
  | none => .error .notText
  | some text => .ok text

def contains (files : Files) (path : String) : Bool :=
  match files.read path with
  | .ok _ => true
  | .error _ => false

def extension? (path : String) : Option String :=
  match (place path).getLast? with
  | none | some ".." | some "/" => none
  | some name =>
    let reversed := name.toList.reverse
    match reversed.dropWhile (· != '.') with
    | [] | ['.'] => none
    | _ => some (String.ofList (reversed.takeWhile (· != '.')).reverse)

end Files

end SelectQuery
