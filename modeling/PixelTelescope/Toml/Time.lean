import PixelTelescope.Toml.Scan
import PixelTelescope.Value.Moment

namespace PixelTelescope.Toml

/-- So many digits that give a number within bounds. -/
def digits? (count low high : Nat) (cs : List Char) : Option (Nat × List Char) :=
  let digits := cs.take count
  if digits.length = count && digits.all Text.isDigit then
    let n := Text.natOfDigits digits
    if low ≤ n && n ≤ high then some (n, cs.drop count) else none
  else none

def skip? (c : Char) : List Char → Option (List Char)
  | d :: rest => if d = c then some rest else none
  | [] => none

/-- A fraction of a second in microseconds; further digits are dropped. -/
def fraction (cs : List Char) : Nat × List Char :=
  match cs with
  | '.' :: rest =>
    let digits := rest.takeWhile Text.isDigit
    if digits.isEmpty then (0, cs)
    else
      let kept := digits.take 6
      (Text.natOfDigits kept * Decimal.tenTo (6 - kept.length), rest.dropWhile Text.isDigit)
  | _ => (0, cs)

def clock? (cs : List Char) : Option (Clock × List Char) := do
  let (hour, cs) ← digits? 2 0 23 cs
  let (minute, cs) ← digits? 2 0 59 (← skip? ':' cs)
  let (second, cs) ← digits? 2 0 59 (← skip? ':' cs)
  let (micro, cs) := fraction cs
  some (⟨hour, minute, second, micro⟩, cs)

def date? (cs : List Char) : Option (Date × List Char) := do
  let (year, cs) ← digits? 4 0 9999 cs
  let (month, cs) ← digits? 2 1 12 (← skip? '-' cs)
  let (day, cs) ← digits? 2 1 31 (← skip? '-' cs)
  some (⟨year, month, day⟩, cs)

def offset? : List Char → Option (Int × List Char)
  | c :: rest =>
    if c = 'Z' || c = 'z' then some (0, rest)
    else if c = '+' || c = '-' then do
      let (hours, rest) ← digits? 2 0 23 rest
      let (minutes, rest) ← digits? 2 0 59 (← skip? ':' rest)
      let n : Int := hours * 60 + minutes
      some (if c = '-' then -n else n, rest)
    else none
  | [] => none

/-- What follows a date: a time of day with an offset, a time of day alone, or nothing. -/
def afterDate (d : Date) (cs : List Char) : Moment × List Char :=
  match cs with
  | c :: rest =>
    if c = 'T' || c = 't' || c = ' ' then
      match clock? rest with
      | some (t, after) =>
        match offset? after with
        | some (offset, last) => (.zoned d t offset, last)
        | none => (.localTime d t, after)
      | none => (.date d, cs)
    else (.date d, cs)
  | [] => (.date d, [])

def scanMoment : Scan (Option Moment) := do
  let cs ← get
  match date? cs with
  | some (d, rest) =>
    let (m, rest) := afterDate d rest
    if d.isValid then set rest; return m else fail
  | none =>
    match clock? cs with
    | some (t, rest) => set rest; return some (.clock t)
    | none => return none

end PixelTelescope.Toml
