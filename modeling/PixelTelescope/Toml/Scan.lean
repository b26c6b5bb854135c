import PixelTelescope.Text.Numeral

namespace PixelTelescope.Toml

inductive Fault where
  | malformed
  /-- A whole number has more digits than are read. -/
  | tooLong
  deriving Repr, DecidableEq

/-- A step through the text: it takes characters from the front or fails. -/
abbrev Scan := StateT (List Char) (Except Fault)

def fail {α : Type} : Scan α := throw .malformed

def isSpace (c : Char) : Bool := c == ' ' || c == '\t'

/-- A character that cannot stand for itself on a line. -/
def isForbidden (c : Char) : Bool := c != '\t' && (c.toNat < 0x20 || c.toNat == 0x7f)

def isBare (c : Char) : Bool :=
  Text.isDigit c || ('a' ≤ c && c ≤ 'z') || ('A' ≤ c && c ≤ 'Z') || c == '-' || c == '_'

def next? : Scan (Option Char) := return (← get).head?

def skipSpaces : Scan Unit := modify fun cs => cs.dropWhile isSpace

/-- Takes a text from the front, if it stands there. -/
def accept (text : String) : Scan Bool := do
  match text.toList.isPrefixOf? (← get) with
  | some rest => set rest; return true
  | none => return false

def expect (text : String) : Scan Unit := do
  unless ← accept text do fail

mutual

/-- Leaves out blanks, line ends and comments. -/
def dropGap : List Char → Except Fault (List Char)
  | [] => .ok []
  | '#' :: rest => dropRemark rest
  | c :: rest => if isSpace c || c == '\n' then dropGap rest else .ok (c :: rest)

def dropRemark : List Char → Except Fault (List Char)
  | [] => .ok []
  | '\n' :: rest => dropGap rest
  | c :: rest => if isForbidden c then .error .malformed else dropRemark rest

end

def skipGap : Scan Unit := do
  match dropGap (← get) with
  | .ok rest => set rest
  | .error fault => throw fault

/-- Leaves out a comment up to the end of its line. -/
def skipRemark : Scan Unit := do
  match ← get with
  | '#' :: rest =>
    if (rest.takeWhile (· ≠ '\n')).any isForbidden then fail
    else set (rest.dropWhile (· ≠ '\n'))
  | _ => return

end PixelTelescope.Toml
