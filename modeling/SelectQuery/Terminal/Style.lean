import SelectQuery.Text.Basic

namespace SelectQuery.Terminal

structure Style where
  codes : List Nat

namespace Style

def bold : Nat := 1
def dimmed : Nat := 2
def green : Nat := 32
def yellow : Nat := 33
def red : Nat := 31
def cyan : Nat := 36
def white : Nat := 37

def reset : List Char := ['\x1b', '[', '0', 'm']

def start (style : Style) : List Char :=
  '\x1b' :: '[' :: List.intercalate [';'] (style.codes.map Text.natDigits) ++ ['m']

/-- The style starts again behind every reset inside the text. -/
def resumed (style : Style) : List Char → List Char
  | '\x1b' :: '[' :: '0' :: 'm' :: cs => reset ++ style.start ++ resumed style cs
  | c :: cs => c :: resumed style cs
  | [] => []

def paint (style : Style) (cs : List Char) : List Char :=
  style.start ++ style.resumed cs ++ reset

end Style

structure Screen where
  styled : Bool

namespace Screen

def ofVariable (forced : Option String) : Screen := ⟨forced.any (· != "0")⟩

def display (screen : Screen) (codes : List Nat) (cs : List Char) : List Char :=
  if screen.styled then Style.paint ⟨codes⟩ cs else cs

end Screen

def padded (width : Nat) (cs : List Char) : List Char :=
  cs ++ List.replicate (width - cs.length) ' '

def lines (ls : List (List Char)) : String := String.ofList (ls.flatMap (· ++ ['\n']))

end SelectQuery.Terminal
