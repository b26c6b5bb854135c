import PixelTelescope.Keyed

namespace PixelTelescope.CommandLine

/-- An option by its long and its short name. -/
structure Choice where
  long : String
  short : Option Char
  takesValue : Bool
  deriving Repr, DecidableEq

/-- Arguments told apart: values of options under their long names, and all others in order. -/
structure Arguments where
  values : List (String × String) := []
  positionals : List String := []
  deriving Repr, DecidableEq

namespace Arguments

/-- The value that was given last for an option. -/
def value? (a : Arguments) (long : String) : Option String :=
  Keyed.get? long (Keyed.ofPairs a.values)

def isSet (a : Arguments) (long : String) : Bool := (a.value? long).isSome

end Arguments

/-- What one argument sets, and the option that takes the next argument for its value. -/
structure Setting where
  values : List (String × String) := []
  waiting : Option String := none
  deriving Repr, DecidableEq

/-- Short options in one argument. The first that takes a value takes the rest of it. -/
def shorts (known : List Choice) : List Char → Option Setting
  | [] => some {}
  | c :: rest => do
    let choice ← known.find? fun choice => choice.short = some c
    if choice.takesValue then
      if rest.isEmpty then some { waiting := some choice.long }
      else some { values := [(choice.long, String.ofList rest)] }
    else
      let later ← shorts known rest
      some { later with values := (choice.long, "") :: later.values }

/-- The name of a long option and the value behind the first equals sign. -/
def splitLong (cs : List Char) : String × Option String :=
  match cs.dropWhile (· ≠ '=') with
  | _ :: value => (String.ofList (cs.takeWhile (· ≠ '=')), some (String.ofList value))
  | [] => (String.ofList cs, none)

def long (choice : Choice) (value : Option String) : Option Setting :=
  match choice.takesValue, value with
  | true, some v => some { values := [(choice.long, v)] }
  | true, none => some { waiting := some choice.long }
  | false, none => some { values := [(choice.long, "")] }
  | false, some _ => none

def setting (known : List Choice) (arg : List Char) : Option Setting :=
  let (name, value) := splitLong arg
  match known.find? fun choice => "--" ++ choice.long = name with
  | some choice => long choice value
  | none =>
    match arg with
    | '-' :: '-' :: _ => none
    | _ => shorts known (arg.drop 1)

def Arguments.withValues (values : List (String × String)) (a : Arguments) : Arguments :=
  { a with values := values ++ a.values }

def Arguments.withPositional (arg : String) (a : Arguments) : Arguments :=
  { a with positionals := arg :: a.positionals }

/-- Reads arguments, unless an option is unknown or lacks its value. Two dashes alone end the
options, and one dash alone is no option. -/
def arguments? (known : List Choice) : List String → Option Arguments
  | [] => some {}
  | arg :: rest =>
    match arg.toList with
    | ['-', '-'] => some { positionals := rest }
    | '-' :: c :: cs =>
      match setting known ('-' :: c :: cs) with
      | none => none
      | some s =>
        match s.waiting with
        | none => (arguments? known rest).map (·.withValues s.values)
        | some name =>
          match rest with
          | [] => none
          | value :: rest =>
            (arguments? known rest).map (·.withValues (s.values ++ [(name, value)]))
    | _ => (arguments? known rest).map (·.withPositional arg)

end PixelTelescope.CommandLine
