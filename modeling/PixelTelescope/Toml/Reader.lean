import PixelTelescope.Text.Newline
import PixelTelescope.Toml.Draft
import PixelTelescope.Toml.Number
import PixelTelescope.Toml.Quote
import PixelTelescope.Toml.Time

namespace PixelTelescope.Toml

def scanKeyPart : Scan String := do
  match ← get with
  | '"' :: rest => set rest; scanShort '"'
  | '\'' :: rest => set rest; scanShort '\''
  | cs =>
    let name := cs.takeWhile isBare
    if name.isEmpty then fail
    else
      set (cs.dropWhile isBare)
      return String.ofList name

def scanKey : Nat → Scan Path
  | 0 => fail
  | fuel + 1 => do
    let part ← scanKeyPart
    skipSpaces
    if ← accept "." then
      skipSpaces
      return part :: (← scanKey fuel)
    else return [part]

def orFail {α : Type} : Option α → Scan α
  | some x => return x
  | none => fail

/-- A value that holds no others. -/
def scanPlain : Scan Value := do
  match ← scanString with
  | some s => return .text s
  | none =>
    if ← accept "true" then return .bool true
    else if ← accept "false" then return .bool false
    else
      match ← scanMoment with
      | some m => return .moment m
      | none => do orFail (← scanNumber)

mutual

def scanValue : Nat → Scan Value
  | 0 => fail
  | fuel + 1 => do
    if ← accept "[" then
      skipGap
      if ← accept "]" then return .list [] else return .list (← scanItems fuel)
    else if ← accept "\x7b" then
      skipSpaces
      if ← accept "\x7d" then return .table [] else return .table (← scanPairs fuel {}).fields
    else scanPlain

def scanItems : Nat → Scan (List Value)
  | 0 => fail
  | fuel + 1 => do
    let v ← scanValue fuel
    skipGap
    if ← accept "]" then return [v]
    expect ","
    skipGap
    if ← accept "]" then return [v]
    return v :: (← scanItems fuel)

def scanPairs : Nat → Draft → Scan Draft
  | 0, _ => fail
  | fuel + 1, draft => do
    let (key, v) ← scanPair fuel
    let draft ← orFail (draft.assignInline key v)
    skipSpaces
    if ← accept "\x7d" then return draft
    expect ","
    skipSpaces
    scanPairs fuel draft

def scanPair : Nat → Scan (Path × Value)
  | 0 => fail
  | fuel + 1 => do
    let key ← scanKey (fuel + 1)
    expect "="
    skipSpaces
    return (key, ← scanValue fuel)

end

/-- The line of a header, with the path that later keys belong to. -/
def scanHeader (fuel : Nat) (draft : Draft) : Scan (Path × Draft) := do
  let isItem ← accept "[["
  unless isItem do expect "["
  skipSpaces
  let path ← scanKey fuel
  let draft ← orFail (if isItem then draft.declareItem path else draft.declareTable path)
  expect (if isItem then "]]" else "]")
  return (path, draft)

/-- A header, a key with its value, or nothing, up to a comment or the end of the line. -/
def scanStatement (fuel : Nat) (header : Path) (draft : Draft) : Scan (Path × Draft) := do
  match ← next? with
  | some '[' => scanHeader fuel draft.endSection
  | some c =>
    if isBare c || c = '"' || c = '\'' then
      let (key, v) ← scanPair fuel
      return (header, ← orFail (draft.assign header key v))
    else return (header, draft)
  | none => return (header, draft)

def scanLines : Nat → Path → Draft → Scan Draft
  | 0, _, _ => fail
  | fuel + 1, header, draft => do
    skipSpaces
    let (header, draft) ← scanStatement (fuel + 1) header draft
    skipSpaces
    skipRemark
    if ← accept "\n" then scanLines fuel header draft
    else if (← get).isEmpty then return draft
    else fail

/-- The top table of a document. -/
def read (text : String) : Except Fault Fields :=
  let cs := Text.joinPairs text.toList
  (scanLines (2 * cs.length + 2) [] {} cs).map fun (draft, _) => draft.fields

end PixelTelescope.Toml
