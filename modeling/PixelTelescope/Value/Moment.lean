namespace PixelTelescope

structure Date where
  year : Nat
  month : Nat
  day : Nat
  deriving Repr, DecidableEq

structure Clock where
  hour : Nat
  minute : Nat
  second : Nat
  microsecond : Nat
  deriving Repr, DecidableEq

/-- A date, a time of day or both, the last with an offset from universal time in minutes. -/
inductive Moment where
  | date (d : Date)
  | clock (t : Clock)
  | localTime (d : Date) (t : Clock)
  | zoned (d : Date) (t : Clock) (offset : Int)
  deriving Repr, DecidableEq

def isLeapYear (year : Nat) : Bool := year % 4 == 0 && (year % 100 != 0 || year % 400 == 0)

def daysInMonth (year month : Nat) : Nat :=
  if month = 2 then (if isLeapYear year then 29 else 28)
  else if [4, 6, 9, 11].contains month then 30
  else 31

def Date.isValid (d : Date) : Bool :=
  1 ≤ d.year && 1 ≤ d.month && d.month ≤ 12 && 1 ≤ d.day && d.day ≤ daysInMonth d.year d.month

def padded (width n : Nat) : String :=
  let digits := toString n
  String.ofList (List.replicate (width - digits.length) '0') ++ digits

namespace Date

def text (d : Date) : String :=
  padded 4 d.year ++ "-" ++ padded 2 d.month ++ "-" ++ padded 2 d.day

end Date

namespace Clock

def text (t : Clock) : String :=
  padded 2 t.hour ++ ":" ++ padded 2 t.minute ++ ":" ++ padded 2 t.second ++
    if t.microsecond = 0 then "" else "." ++ padded 6 t.microsecond

/-- Hour and minute, and what follows them as far as it is not zero. -/
def parts (t : Clock) : List Nat :=
  [t.hour, t.minute] ++
    if t.microsecond ≠ 0 then [t.second, t.microsecond]
    else if t.second ≠ 0 then [t.second]
    else []

end Clock

def offsetText (offset : Int) : String :=
  let minutes := offset.natAbs
  (if offset < 0 then "-" else "+") ++ padded 2 (minutes / 60) ++ ":" ++ padded 2 (minutes % 60)

def arguments (parts : List Nat) : String := ", ".intercalate (parts.map toString)

/-- An offset as the span of days and seconds that it adds, the seconds never negative. -/
def zoneCall (offset : Int) : String :=
  if offset = 0 then "datetime.timezone.utc"
  else
    let seconds := offset * 60
    let days := seconds.fdiv 86400
    let rest := seconds.fmod 86400
    let shown := (if days = 0 then [] else ["days=" ++ toString days]) ++
      (if rest = 0 then [] else ["seconds=" ++ toString rest])
    "datetime.timezone(datetime.timedelta(" ++ ", ".intercalate shown ++ "))"

namespace Moment

def text : Moment → String
  | .date d => d.text
  | .clock t => t.text
  | .localTime d t => d.text ++ " " ++ t.text
  | .zoned d t offset => d.text ++ " " ++ t.text ++ offsetText offset

/-- The moment as it stands inside a list. -/
def call : Moment → String
  | .date d => "datetime.date(" ++ arguments [d.year, d.month, d.day] ++ ")"
  | .clock t => "datetime.time(" ++ arguments t.parts ++ ")"
  | .localTime d t => "datetime.datetime(" ++ arguments ([d.year, d.month, d.day] ++ t.parts) ++ ")"
  | .zoned d t offset =>
    "datetime.datetime(" ++ arguments ([d.year, d.month, d.day] ++ t.parts) ++
      ", tzinfo=" ++ zoneCall offset ++ ")"

end Moment

end PixelTelescope
