import PixelTelescope.Disk.Basic
import PixelTelescope.Run.Picture
import PixelTelescope.Run.Session
import PixelTelescope.Text.Newline

namespace PixelTelescope.Run

/-- What a file holds: a run, a text, or something that is not looked at. -/
inductive Content (α : Type) where
  | run (file : File α)
  | text (s : String)
  | other

variable {α : Type}

/-- The run in a file. -/
def readRun (d : Disk (Content α)) (path : String) : Except Failure (File α) :=
  match d.read path with
  | .ok (.run file) => .ok file
  | .ok _ => .error (.file .foreign)
  | .error fault => .error (.file fault)

/-- The text in a file, with line feeds between its lines. -/
def readText (d : Disk (Content α)) (path : Path) : Except Failure String :=
  match d.find path with
  | .ok (.file (.text s)) => .ok (Text.withLineFeeds s)
  | .ok (.file _) => .error (.number .malformed)
  | .ok .directory => .error (.file .isDirectory)
  | .error fault => .error (.file fault)

/-- Makes room for a run file; what the system refuses is told as a failure to create it. -/
def createFile (d : Disk (Content α)) (path : Path) : Except Failure (Disk (Content α)) :=
  match d.write path (.run {}) with
  | .ok d => .ok d
  | .error .badName => .error (.file .badName)
  | .error _ => .error (.output (.create path.text))

/-- Puts the file of a session back where it stands. -/
def store (d : Disk (Content α)) (path : Path) (file : File α) : Disk (Content α) :=
  (d.write path (.run file)).toOption.getD d

/-- A session and the disk that its file is on. -/
structure Desk (α : Type) where
  disk : Disk (Content α)
  session : Session α := {}
  /-- What goes wrong while the event of a number is stored. -/
  hazards : Int → Hazard α := fun _ => {}

namespace Desk

def openRun (w : Desk α) (path : Path) (run : Reading Float) (detector : String)
    (config : Option String) : After (Desk α) Unit :=
  let created := createFile w.disk path
  let after := w.session.openRun (created.map fun _ => ()) path.text run detector config
  let disk := match created, after.state.2 with
    | .ok d, some file => store d path file
    | _, _ => w.disk
  ⟨{ w with disk, session := after.state.1 }, after.entries, after.result⟩

/-- Brings the file on the disk to where the session is. -/
def sync (w : Desk α) (s : Session α) : Desk α :=
  match s.opened with
  | some o => { w with disk := store w.disk (.ofText o.path) s.file, session := s }
  | none => { w with session := s }

def append (w : Desk α) (hazard : Hazard α) (r : Event.Record α) : After (Desk α) Unit :=
  match w.session.stage with
  | .open =>
    let after := w.session.append hazard r
    ⟨w.sync after.state, after.entries, after.result⟩
  | _ =>
    let after := w.session.append hazard r
    ⟨w, after.entries, after.result⟩

/-- Stores an event with what goes wrong for its number. -/
def put (w : Desk α) (r : Event.Record α) : After (Desk α) Unit :=
  w.append (w.hazards r.number) r

def close (w : Desk α) : After (Desk α) Nat :=
  let after := w.session.close
  match w.session.stage with
  | .open => ⟨w.sync after.state, after.entries, after.result⟩
  | _ => ⟨{ w with session := after.state }, after.entries, after.result⟩

end Desk

/-- The maps of the run in a file. -/
def readMaps (d : Disk (Content α)) (path : String) (filter : Option String) :
    Except Failure (List (Int × HitMap)) := do
  hitMaps filter (← (← readRun d path).records)

/-- The picture of a run, and the disk with the picture on it. -/
def savePicture (d : Disk (Content α)) (path : String) (out filter : Option String) :
    Except Failure (Picture × Disk (Content α)) := do
  let picture ← Picture.ofMaps path out filter (← readMaps d path filter)
  match d.write (.ofText picture.path) .other with
  | .ok d => return (picture, d)
  | .error fault => .error (.file fault)

end PixelTelescope.Run
