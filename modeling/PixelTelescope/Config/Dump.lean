import PixelTelescope.Config.Basic
import PixelTelescope.Value.Basic

namespace PixelTelescope

namespace Value

def ofOption {α : Type} (f : α → Value) : Option α → Value
  | some x => f x
  | none => .null

def ofList {α : Type} (f : α → Value) (list : List α) : Value := .list (list.map f)

end Value

def Workers.toValue : Workers → Value
  | .count n => .int n
  | .auto => .text "auto"

namespace Config

def RunSection.toValue (s : RunSection) : Value :=
  .table [
    ("run_number", .int s.number),
    ("workers", s.workers.toValue),
    ("progress", .bool s.progress),
    ("diagnostics_level", .int s.diagnostics),
    ("n_events", .int s.events),
    ("seed", .ofOption .int s.seed),
    ("hits_per_detector", .float s.hitsPerDetector)]

def SourceSection.toValue (s : SourceSection) : Value :=
  .table [
    ("output_dir", .text s.outputDir),
    ("input_format", .text s.format.text),
    ("input_path", .ofOption .text s.inputPath)]

def WriterSection.toValue (s : WriterSection) : Value :=
  .table [
    ("file_name", .text s.fileName),
    ("geometry_file", .ofOption .text s.geometryFile),
    ("detector_name", .text s.detectorName),
    ("pixel_type", .int s.pixelType.code),
    ("dump_mc_truth", .bool s.truth),
    ("event_type", .int s.eventType),
    ("output_collection_name", .ofOption .text s.collection),
    ("detector_assignment", .ofOption (.ofList .texts) s.assignment)]

def FieldSection.toValue (s : FieldSection Float) : Value :=
  .table [
    ("type", .text s.kind.text),
    ("vector", .ofList .float s.vector),
    ("gradient", .ofOption (.ofList (.ofList .float)) s.gradient)]

def Orientation.toValue : Orientation Float → Value
  | .angles list => .ofList .float list
  | .matrix rows => .ofList (.ofList .float) rows

def DetectorSection.toValue (s : DetectorSection Float) : Value :=
  .table [
    ("name", .text s.name),
    ("type", .text s.type),
    ("position", .ofList .float s.position),
    ("orientation", s.orientation.toValue),
    ("number_of_pixels", .ofList .int s.pixels),
    ("pixel_size", .ofList .float s.pixelSize),
    ("sensor_thickness", .float s.thickness),
    ("sensor_excess", .float s.excess),
    ("chip_thickness", .float s.chip)]

/-- The sections by name. -/
def toFields (c : Config) : List (String × Value) := [
  ("run", c.run.toValue),
  ("io", c.source.toValue),
  ("writer", c.writer.toValue),
  ("field", c.field.toValue),
  ("detectors", .ofList DetectorSection.toValue c.detectors)]

end Config

end PixelTelescope
