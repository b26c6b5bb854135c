import PixelTelescope.Config.Issue
import PixelTelescope.Run.Stage
import PixelTelescope.Scalar
import PixelTelescope.Text.Quoted

namespace PixelTelescope

/-- A configuration that is invalid or contradicts itself. -/
inductive ConfigurationFault where
  | malformedText (source : String)
  | invalid (source : String) (issues : List Config.Issue)
  | collectionName (name : String)
  | rowLength (index : Nat) (row : String)
  | unlistedDetector (detector : String)
  | repeatedDetector (detector : String)
  | sensorId (text detector : String)
  | repeatedSensorId (id : Int)
  | uncovered (detectors : List String)
  | duplicateDetector (name : String)
  | improperRotation
  | orientationShape (shape : List Nat)
  | customField
  | tableFormat (suffix path : String)
  | tableColumns (path : String) (columns : List String)
  deriving Repr, DecidableEq

/-- An operation outside the stage of a session in which it is allowed. -/
inductive LifecycleFault where
  | cannotOpen (stage : Run.Stage)
  | cannotWrite (event : Int) (stage : Run.Stage)
  | alreadyWritten (event : Int)
  | neverOpened
  | notInitialized
  | interrupted (reason : String)
  deriving Repr, DecidableEq

inductive OutputFault where
  | create (path : String)
  | event (number : Int) (path : String)
  | geometry (path : String)
  deriving Repr, DecidableEq

inductive FileFault where
  | notFound
  | notDirectory
  | isDirectory
  | exists
  | nameTooLong
  /-- The name holds a NUL character or has no last part. -/
  | badName
  /-- The file is not of the kind that is read. -/
  | foreign
  deriving Repr, DecidableEq

inductive ShapeFault where
  /-- Rows of one array differ in length. -/
  | ragged
  | mismatched
  | missingIndex
  | notScalar
  deriving Repr, DecidableEq

inductive Failure where
  | configuration (fault : ConfigurationFault)
  | lifecycle (fault : LifecycleFault)
  | unknownDetector (detector : String)
  | output (fault : OutputFault)
  | validation (issues : List Config.Issue)
  | number (fault : NumberFault)
  | shape (fault : ShapeFault)
  | file (fault : FileFault)
  | unknownUnit (name : String)
  | notRotation (sizes : List Nat)
  | pixelType (value : String)
  | noFieldFunction
  | fieldType
  | workers
  | progressBar
  | noEvent (event : Int) (path : String)
  | noCollection (name : String) (event : Int)
  | noHits (path : String) (collection : Option String)
  | noDetector
  | notListed
  | notIterable
  | generatorSeed
  | meanHits
  /-- The rows of a hit table do not fit together. -/
  | malformedTable
  /-- The table lacks the member that is asked for. -/
  | missingKey
  deriving Repr, DecidableEq

/-- The sizes of an array along its axes, as in `(3, 3)`. -/
def shapeText : List Nat → String
  | [n] => "(" ++ toString n ++ ",)"
  | shape => "(" ++ ", ".intercalate (shape.map toString) ++ ")"

def ConfigurationFault.message : ConfigurationFault → String
  | .malformedText source => "Malformed TOML in " ++ source
  | .invalid source _ => "Invalid configuration in " ++ source
  | .collectionName name => "Invalid output collection name '" ++ name ++ "'"
  | .rowLength index row =>
    "detector_assignment entry " ++ toString index ++ " must be [detector, collection] or " ++
      "[detector, collection, sensor_id], got " ++ row
  | .unlistedDetector detector => "detector_assignment names unknown detector '" ++ detector ++ "'"
  | .repeatedDetector detector => "Detector '" ++ detector ++ "' is assigned more than once"
  | .sensorId text detector =>
    "Sensor ID '" ++ text ++ "' of detector '" ++ detector ++ "' is not an integer"
  | .repeatedSensorId id => "Sensor ID " ++ toString id ++ " is assigned to more than one detector"
  | .uncovered detectors =>
    "detector_assignment does not cover detector(s): " ++ ", ".intercalate detectors
  | .duplicateDetector name => "Duplicate detector name '" ++ name ++ "' in geometry"
  | .improperRotation => "Orientation matrix is not a proper rotation"
  | .orientationShape shape =>
    "Orientation must be 3 angles or a 3x3 matrix, got shape " ++ shapeText shape
  | .customField => "Custom magnetic fields cannot be declared in the config file"
  | .tableFormat suffix path => "Unsupported hit table format '" ++ suffix ++ "' for " ++ path
  | .tableColumns path columns =>
    "Hit table " ++ path ++ " is missing column(s): " ++ ", ".intercalate columns

def LifecycleFault.message : LifecycleFault → String
  | .cannotOpen stage => "Cannot open run file: session is already " ++ stage.text
  | .cannotWrite event stage =>
    "Cannot write event " ++ toString event ++ ": session is " ++ stage.text
  | .alreadyWritten event => "Event " ++ toString event ++ " has already been written"
  | .neverOpened => "Cannot close run file: session was never opened"
  | .notInitialized => "process_events requires an initialized WriterModule"
  | .interrupted reason => reason

def OutputFault.message : OutputFault → String
  | .create path => "Cannot create output file " ++ path
  | .event number path => "Failed to write event " ++ toString number ++ " to " ++ path
  | .geometry path => "Cannot write to GEAR geometry file " ++ path

/-- The text of a failure, where it has one of its own. -/
def Failure.message? : Failure → Option String
  | .configuration fault => some fault.message
  | .lifecycle fault => some fault.message
  | .unknownDetector detector =>
    some ("No output collection resolved for detector '" ++ detector ++ "'")
  | .output fault => some fault.message
  | .unknownUnit name => some ("Unknown unit '" ++ name ++ "'")
  | .notRotation sizes =>
    some ("Rotation matrix must have shape (3, 3), got " ++ shapeText sizes)
  | .pixelType value =>
    some ("Unsupported pixel_type " ++ value ++ "; expected one of [1, 2]")
  | .noFieldFunction => some "Custom magnetic field requires a field function"
  | .workers => some "workers must be int or 'auto'"
  | .noEvent event path => some ("Event " ++ toString event ++ " not found in " ++ path)
  | .noCollection name event =>
    some ("No collection '" ++ name ++ "' in event " ++ toString event)
  | .noHits path collection =>
    some ("No hits found in " ++ path ++
      match collection with
      | some name => " for collection " ++ name
      | none => "")
  | _ => none

/-- What a user is told of a failure. -/
def Failure.text (f : Failure) : String :=
  f.message?.getD <|
    match f with
    | .file .notFound => "No such file"
    | .file .notDirectory => "Not a directory"
    | .file .isDirectory => "Is a directory"
    | .file _ => "Cannot use file"
    | .validation _ => "Invalid value"
    | .malformedTable => "Malformed hit table"
    | .progressBar => "Progress cannot be shown with several threads"
    | .generatorSeed => "Seed must not be negative"
    | .meanHits => "Mean number of hits must not be negative"
    | _ => "Value does not fit"

instance : MonadLift (Except NumberFault) (Except Failure) where
  monadLift
    | .ok x => .ok x
    | .error fault => .error (.number fault)

instance : MonadLift (Except ShapeFault) (Except Failure) where
  monadLift
    | .ok x => .ok x
    | .error fault => .error (.shape fault)

end PixelTelescope
