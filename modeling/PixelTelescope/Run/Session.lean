import PixelTelescope.Act
import PixelTelescope.Run.File

namespace PixelTelescope.Run

/-- What a session knows of the run that it has opened. -/
structure Opened where
  path : String
  run : Int
  detector : String
  deriving Repr, DecidableEq

/-- The one writer of a run file. -/
structure Session (α : Type) where
  stage : Stage := .uninitialized
  count : Nat := 0
  opened : Option Opened := none
  file : File α := {}

/-- What goes wrong while an event is stored, and while a failed one is cleared away. -/
structure Hazard (α : Type) where
  /-- By the number of the step, from zero on, and the step itself. -/
  during : Nat → Step α → Option StoreFault := fun _ _ => none
  /-- Why a group cannot be removed. -/
  removal : String → Option String := fun _ => none
  /-- Why the count cannot be put back. -/
  restoring : Option String := none

variable {α : Type}

/-- Takes steps up to the first that goes wrong. -/
def perform (hazard : Hazard α) : Nat → List (Step α) → File α → File α × Option StoreFault
  | _, [], f => (f, none)
  | n, step :: rest, f =>
    match hazard.during n step with
    | some fault => (f, some fault)
    | none =>
      match f.apply step with
      | .ok f => perform hazard (n + 1) rest f
      | .error fault => (f, some fault)

def removeGroup (hazard : Hazard α) (f : File α) (name : String) : File α × List Entry :=
  if f.hasEvent name then
    match hazard.removal name with
    | none => (f.remove name, [])
    | some reason =>
      (f, [.error ("Could not remove partial event group " ++ name ++ ": " ++ reason)])
  else (f, [])

def restoreCount (hazard : Hazard α) (path : String) (count : Nat) (f : File α) :
    File α × List Entry :=
  match hazard.restoring with
  | none => (f.setCount count, [])
  | some reason => (f, [.error ("Could not restore n_events on " ++ path ++ ": " ++ reason)])

/-- Clears away what a failed event has left behind. -/
def discard (hazard : Hazard α) (path : String) (count : Nat) (key : String) (f : File α) :
    File α × List Entry :=
  let (f, first) := removeGroup hazard f (stagingKey key)
  let (f, second) := removeGroup hazard f key
  let (f, third) := restoreCount hazard path count f
  (f, first ++ second ++ third)

def StoreFault.failure (number : Int) (path : String) : StoreFault → Failure
  | .own failure => failure
  | .refused => .output (.event number path)

namespace Session

def path (s : Session α) : String := (s.opened.map (·.path)).getD ""

/-- Starts a run in a file that could be created, or could not. The file is given back as far as
it was written, also when the session does not open. -/
def openRun (s : Session α) (created : Except Failure Unit) (path : String) (run : Reading Float)
    (detector : String) (config : Option String) : After (Session α × Option (File α)) Unit :=
  match s.stage with
  | .uninitialized =>
    match created, run.toInt with
    | .error failure, _ => ⟨(s, none), [], .error failure⟩
    | .ok _, .error fault => ⟨(s, some {}), [], .error (.number fault)⟩
    | .ok _, .ok run =>
      match File.begin run detector config with
      | (file, some failure) => ⟨(s, some file), [], .error failure⟩
      | (file, none) =>
        ⟨({ stage := .open, count := 0, opened := some ⟨path, run, detector⟩, file }, some file),
          [.debug ("Opened run file " ++ path ++ " (run " ++ toString run ++ ", detector " ++
            detector ++ ")")],
          .ok ()⟩
  | stage => ⟨(s, none), [], .error (.lifecycle (.cannotOpen stage))⟩

/-- Stores one event: all of it, or nothing. -/
def append (s : Session α) (hazard : Hazard α) (r : Event.Record α) : After (Session α) Unit :=
  match s.stage with
  | .open =>
    let key := eventKey r.number
    if s.file.hasEvent key then ⟨s, [], .error (.lifecycle (.alreadyWritten r.number))⟩
    else
      match perform hazard 0 (eventSteps s.count r) s.file with
      | (file, none) => ⟨{ s with file, count := s.count + 1 }, [], .ok ()⟩
      | (file, some fault) =>
        let (file, entries) := discard hazard s.path s.count key file
        ⟨{ s with file }, entries, .error (fault.failure r.number s.path)⟩
  | stage => ⟨s, [], .error (.lifecycle (.cannotWrite r.number stage))⟩

/-- Ends the run and gives the number of its events, also when it has ended before. -/
def close (s : Session α) : After (Session α) Nat :=
  match s.stage with
  | .open => ⟨{ s with stage := .closed, file := s.file.setCount s.count }, [], .ok s.count⟩
  | .closed => ⟨s, [], .ok s.count⟩
  | .uninitialized => ⟨s, [], .error (.lifecycle .neverOpened)⟩

end Session

end PixelTelescope.Run
