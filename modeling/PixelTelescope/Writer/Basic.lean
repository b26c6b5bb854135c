import PixelTelescope.Assignment.Configured
import PixelTelescope.Event.Builder
import PixelTelescope.Gear.Export

namespace PixelTelescope

/-- All that a run is written with. -/
structure Writer where
  settings : Config.WriterSection
  registry : Geometry.Registry Float
  outputDir : Path
  run : Int
  configText : Option String
  builder : Event.Builder

namespace Writer

/-- What is known once a run has been written. -/
structure Summary where
  count : Nat
  eventFile : Path
  geometryFile : Option Path
  deriving Repr, DecidableEq

/-- Where the writing of a run stands. -/
structure Progress where
  desk : Run.Desk Float
  eventFile : Option Path := none
  geometryFile : Option Path := none

def assignment (w : Writer) : Assignment := w.builder.assignment

def exporter (w : Writer) : Gear.Exporter := ⟨w.settings.detectorName, w.assignment.sensorIds⟩

/-- Resolves where the hits of each detector go. -/
def create (settings : Config.WriterSection) (registry : Geometry.Registry Float)
    (outputDir : String) (run : Int) (configText : Option String) :
    Logged (Except Failure Writer) :=
  let logged := (settings.request registry.names).logged
  ⟨logged.entries, logged.result.map fun assignment =>
    { settings, registry, run, configText
      outputDir := .ofText outputDir
      builder := {
        assignment, run
        eventType := settings.eventType
        pixelType := settings.pixelType
        truth := settings.truth } }⟩

/-- A name with a suffix, below the output directory unless it starts at the root. -/
def outputPath (w : Writer) (name extension : String) : Except Failure Path :=
  let given := Path.ofText name
  let p := if given.suffix = "" then given.withSuffix? ("." ++ extension) else some given
  match p with
  | some p => .ok (w.outputDir.join p)
  | none => .error (.file .badName)

def setDisk (p : Progress) (disk : Disk (Run.Content Float)) : Progress :=
  { p with desk := { p.desk with disk } }

/-- The path of an output file, for which directories are made. -/
def createOutputFile (w : Writer) (name extension : String) : Act Progress Path := fun p =>
  match w.outputPath name extension with
  | .error f => ⟨p, [], .error f⟩
  | .ok path =>
    match p.desk.disk.makeDirectories path.parent with
    | .ok disk => ⟨setDisk p disk, [], .ok path⟩
    | .error fault => ⟨p, [], .error (.file fault)⟩

def onDesk {β : Type} (act : Act (Run.Desk Float) β) : Act Progress β := fun p =>
  let after := act p.desk
  ⟨{ p with desk := after.state }, after.entries, after.result⟩

def setEventFile (path : Path) : Act Progress Unit := fun p =>
  ⟨{ p with eventFile := some path }, [], .ok ()⟩

def setGeometryFile (path : Path) : Act Progress Unit := fun p =>
  ⟨{ p with geometryFile := some path }, [], .ok ()⟩

def placeGeometry (w : Writer) : Act Progress Unit :=
  match w.settings.geometryFile.filter (· ≠ "") with
  | some name => do
    let path ← w.createOutputFile name "xml"
    setGeometryFile path
  | none => .succeed ()

/-- Opens the run file. -/
def start (w : Writer) : Act Progress Unit := do
  w.placeGeometry
  let path ← w.createOutputFile w.settings.fileName "h5"
  setEventFile path
  onDesk fun desk => desk.openRun path (.whole w.run) w.settings.detectorName w.configText
  Act.log [.debug ("Collections: " ++ Text.quotedList w.assignment.names)]

/-- Builds and stores one event. -/
def write (w : Writer) (number : Int) (messages : List (Event.Message Float)) :
    Act Progress (Event.Record Float) := do
  let r ← Act.ofResult (w.builder.build number messages)
  onDesk fun desk => desk.put r
  Act.log [.debug ("Event " ++ toString number ++ ": " ++ toString r.hitCount ++ " hits")]
  return r

def eventPath (p : Progress) : Path := p.eventFile.getD ⟨"", []⟩

def exportGeometry (w : Writer) : Act Progress Unit := fun p =>
  match p.geometryFile with
  | none => ⟨p, [], .ok ()⟩
  | some path =>
    let logged := w.exporter.write p.desk.disk path w.registry
    match logged.result with
    | .ok disk =>
      ⟨setDisk p disk,
        logged.entries ++ [.info ("Wrote GEAR geometry to file:\n" ++ path.text)], .ok ()⟩
    | .error f => ⟨p, logged.entries, .error f⟩

/-- Closes the run file, then writes the geometry file. -/
def finalize (w : Writer) : Act Progress Summary := do
  let count ← onDesk Run.Desk.close
  fun p =>
    let rest : Act Progress Summary := do
      Act.log [.info ("Wrote " ++ toString count ++ " events to file:\n" ++ (eventPath p).text)]
      w.exportGeometry
      return ⟨count, eventPath p, p.geometryFile⟩
    rest p

/-- Closes the run file after a failure and keeps the events in it. -/
def abort : Act Progress Nat := fun p =>
  match p.desk.session.stage with
  | .open => onDesk Run.Desk.close p
  | _ => ⟨p, [], .ok p.desk.session.count⟩

end Writer

end PixelTelescope
