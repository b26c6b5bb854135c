import PixelTelescope.Text.Hex
import PixelTelescope.Toml.Scan

namespace PixelTelescope.Toml

def isScalarValue (n : Nat) : Bool := n < 0xd800 || (0xdfff < n && n < 0x110000)

def escapedPoint (digits : List Char) : Except Fault Char :=
  match Text.hex? digits with
  | some n => if isScalarValue n then .ok (Char.ofNat n) else .error .malformed
  | none => .error .malformed

def escapedLetter (c : Char) : Except Fault Char :=
  if c = 'b' then .ok '\x08'
  else if c = 't' then .ok '\t'
  else if c = 'n' then .ok '\n'
  else if c = 'f' then .ok '\x0c'
  else if c = 'r' then .ok '\r'
  else if c = '"' || c = '\\' then .ok c
  else .error .malformed

def prepend (c : Char) (read : List Char × List Char) : List Char × List Char :=
  (c :: read.1, read.2)

/-- The text up to the closing quote on the same line, and what follows it. -/
def readBasic : List Char → Except Fault (List Char × List Char)
  | [] => .error .malformed
  | '"' :: rest => .ok ([], rest)
  | '\\' :: 'u' :: a :: b :: c :: d :: rest => do
    return prepend (← escapedPoint [a, b, c, d]) (← readBasic rest)
  | '\\' :: 'U' :: a :: b :: c :: d :: e :: f :: g :: h :: rest => do
    return prepend (← escapedPoint [a, b, c, d, e, f, g, h]) (← readBasic rest)
  | '\\' :: c :: rest => do return prepend (← escapedLetter c) (← readBasic rest)
  | c :: rest =>
    if isForbidden c || c = '\\' then .error .malformed
    else do return prepend c (← readBasic rest)

/-- Where a reader of a text of many lines stands: in the text, on a line that a backslash has
ended, or in the blanks after that line. -/
inductive Fold where
  | text
  | line
  | gap
  deriving Repr, DecidableEq

/-- The text up to three closing quotes, and what follows them. -/
def readLong : Fold → List Char → Except Fault (List Char × List Char)
  | _, [] => .error .malformed
  | .line, c :: rest =>
    if isSpace c then readLong .line rest
    else if c = '\n' then readLong .gap rest
    else .error .malformed
  | _, '"' :: '"' :: '"' :: rest => .ok ([], rest)
  | _, '\\' :: 'u' :: a :: b :: c :: d :: rest => do
    return prepend (← escapedPoint [a, b, c, d]) (← readLong .text rest)
  | _, '\\' :: 'U' :: a :: b :: c :: d :: e :: f :: g :: h :: rest => do
    return prepend (← escapedPoint [a, b, c, d, e, f, g, h]) (← readLong .text rest)
  | _, '\\' :: c :: rest =>
    if c = '\n' then readLong .gap rest
    else if isSpace c then readLong .line rest
    else do return prepend (← escapedLetter c) (← readLong .text rest)
  | fold, c :: rest =>
    if fold = .gap && (isSpace c || c = '\n') then readLong .gap rest
    else if (isForbidden c && c ≠ '\n') || c = '\\' then .error .malformed
    else do return prepend c (← readLong .text rest)

/-- Up to three closing apostrophes. -/
def readLongLiteral : List Char → Except Fault (List Char × List Char)
  | [] => .error .malformed
  | '\'' :: '\'' :: '\'' :: rest => .ok ([], rest)
  | c :: rest =>
    if isForbidden c && c ≠ '\n' then .error .malformed
    else do return prepend c (← readLongLiteral rest)

def readLiteral : List Char → Except Fault (List Char × List Char)
  | [] => .error .malformed
  | '\'' :: rest => .ok ([], rest)
  | c :: rest =>
    if isForbidden c then .error .malformed else do return prepend c (← readLiteral rest)

/-- One or two quotes more belong to the text of a long string. -/
def withQuotes (quote : Char) (read : List Char × List Char) : List Char × List Char :=
  let extra := (read.2.take 2).takeWhile (· = quote)
  (read.1 ++ extra, read.2.drop extra.length)

def dropLineEnd : List Char → List Char
  | '\n' :: rest => rest
  | cs => cs

def scanText (read : List Char → Except Fault (List Char × List Char)) : Scan String := do
  let (text, rest) ← read (← get)
  set rest
  return String.ofList text

/-- A string without its opening quote, where only one line is allowed. -/
def scanShort (quote : Char) : Scan String :=
  scanText (if quote = '"' then readBasic else readLiteral)

/-- A string on one line or on many. -/
def scanString : Scan (Option String) := do
  if ← accept "\"\"\"" then
    scanText fun cs => return withQuotes '"' (← readLong .text (dropLineEnd cs))
  else if ← accept "\"" then scanShort '"'
  else if ← accept "'''" then
    scanText fun cs => return withQuotes '\'' (← readLongLiteral (dropLineEnd cs))
  else if ← accept "'" then scanShort '\''
  else return none

end PixelTelescope.Toml
