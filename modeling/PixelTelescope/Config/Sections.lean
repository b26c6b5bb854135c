import PixelTelescope.Config.Basic
import PixelTelescope.Config.Kinds
import PixelTelescope.Value.Display

namespace PixelTelescope.Config

open Checked (given required optional items)

abbrev Fields := List (String × Value)

def asWorkers : Value → Checked Workers :=
  either "int" (fun v => (Checked.start Workers.count).and (asWhole v))
    "literal['auto']" (asWord fun s => if s = "auto" then some .auto else none)

def asDiagnostics (v : Value) : Checked Int :=
  (asWhole v).ensure (fun n => n = 0 || n = 1 || n = 2) .diagnosticsRange

def RunSection.check (fields : Fields) : Checked RunSection :=
  Checked.start RunSection.mk
    |>.and (given "run_number" fields 1 asWhole)
    |>.and (given "workers" fields .auto asWorkers)
    |>.and (given "progress" fields true asTruth)
    |>.and (given "diagnostics_level" fields 1 asDiagnostics)
    |>.and (given "n_events" fields 100 asWhole)
    |>.and (given "seed" fields none (optional asWhole))
    |>.and (given "hits_per_detector" fields 2.0 asNumber)

/-- A table is named wherever one is to be read. -/
def SourceSection.hasInput (s : SourceSection) : Bool :=
  s.format ≠ .table || s.inputPath.getD "" ≠ ""

def SourceSection.check (fields : Fields) : Checked SourceSection :=
  let parts := Checked.start SourceSection.mk
    |>.and (given "output_dir" fields "output" asText)
    |>.and (given "input_format" fields .synthetic (asWord SourceFormat.ofText?))
    |>.and (given "input_path" fields none (optional asText))
  parts.ensure SourceSection.hasInput .inputNeeded

def displayed (row : Value) : Option (List String) := row.items?.map (·.map Value.display)

/-- Rows of whatever kind become rows of texts. -/
def asRows (v : Value) : Checked (List (List String)) :=
  match v.items?.bind (·.mapM displayed) with
  | some list => .ok list
  | none => .error .notIterable

def WriterSection.check (fields : Fields) : Checked WriterSection :=
  Checked.start WriterSection.mk
    |>.and (given "file_name" fields "output.h5" asText)
    |>.and (given "geometry_file" fields (some "allpix_squared_gear.xml") (optional asText))
    |>.and (given "detector_name" fields "EUTelescope" asText)
    |>.and (given "pixel_type" fields .timed (asChoice PixelType.ofValue?))
    |>.and (given "dump_mc_truth" fields false asTruth)
    |>.and (given "event_type" fields 2 asWhole)
    |>.and (given "output_collection_name" fields none (optional asText))
    |>.and (given "detector_assignment" fields none (optional asRows))

def asNumbers (v : Value) : Checked (List Float) := items asNumber v

def asGrid (v : Value) : Checked (List (List Float)) := items asNumbers v

def hasLength {α : Type} (n : Nat) (list : List α) : Bool := list.length = n

def FieldSection.check (fields : Fields) : Checked (FieldSection Float) :=
  Checked.start FieldSection.mk
    |>.and (given "type" fields .none (asWord Geometry.FieldKind.ofText?))
    |>.and (given "vector" fields [0.0, 0.0, 0.0]
      fun v => (asNumbers v).ensure (hasLength 3) .fieldComponents)
    |>.and (given "gradient" fields none (optional asGrid))

def asOrientation : Value → Checked (Orientation Float) :=
  either "list[float]" (fun v => (Checked.start Orientation.angles).and (asNumbers v))
    "list[list[float]]" (fun v => (Checked.start Orientation.matrix).and (asGrid v))

def asPixels (v : Value) : Checked (List Int) :=
  ((items asWhole v).ensure (hasLength 2) .pairComponents).ensure (·.all (1 ≤ ·)) .positivePixels

def DetectorSection.check (fields : Fields) : Checked (DetectorSection Float) :=
  Checked.start DetectorSection.mk
    |>.and (required "name" fields asText)
    |>.and (given "type" fields "mimosa26" asText)
    |>.and (required "position" fields
      fun v => (asNumbers v).ensure (hasLength 3) .positionComponents)
    |>.and (given "orientation" fields (.angles [0.0, 0.0, 0.0]) asOrientation)
    |>.and (given "number_of_pixels" fields [1152, 576] asPixels)
    |>.and (given "pixel_size" fields [18.4, 18.4]
      fun v => (asNumbers v).ensure (hasLength 2) .pairComponents)
    |>.and (given "sensor_thickness" fields 50.0 asNumber)
    |>.and (given "sensor_excess" fields 0.0 asNumber)
    |>.and (given "chip_thickness" fields 0.0 asNumber)

/-- Every section; what is wrong is listed in the order of sections and their fields. -/
def check (fields : Fields) : Checked Config :=
  Checked.start Config.mk
    |>.and (given "run" fields {} (Checked.table RunSection.check))
    |>.and (given "io" fields {} (Checked.table SourceSection.check))
    |>.and (given "writer" fields {} (Checked.table WriterSection.check))
    |>.and (given "field" fields ⟨.none, [0.0, 0.0, 0.0], none⟩ (Checked.table FieldSection.check))
    |>.and (required "detectors" fields (items (Checked.table DetectorSection.check)))

end PixelTelescope.Config
