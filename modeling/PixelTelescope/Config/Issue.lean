namespace PixelTelescope.Config

/-- One step on the way from the whole configuration to a value in it. -/
inductive Step where
  | field (name : String)
  | index (n : Nat)
  deriving Repr, DecidableEq

/-- A condition on values that have the right kind. -/
inductive Rule where
  | diagnosticsRange
  | inputNeeded
  | fieldComponents
  | positionComponents
  | pairComponents
  | positivePixels
  deriving Repr, DecidableEq

def Rule.text : Rule → String
  | .diagnosticsRange => "diagnostics_level must be 0, 1, or 2"
  | .inputNeeded => "io.input_path is required when io.input_format = 'table'"
  | .fieldComponents => "field.vector must have three components"
  | .positionComponents => "detector position must have three components"
  | .pairComponents => "number_of_pixels and pixel_size must have two components"
  | .positivePixels => "number_of_pixels must be positive"

/-- What is wrong with a value. -/
inductive Complaint where
  | missing
  | notSection
  | notList
  | notText
  | notTruth
  | unreadableTruth
  | notWhole
  | unreadableWhole
  | wholeTooLong
  | fractional
  | notFinite
  | notNumber
  | unreadableNumber
  | notChoice
  | rule (r : Rule)
  deriving Repr, DecidableEq

def Complaint.code : Complaint → String
  | .missing => "missing"
  | .notSection => "model_type"
  | .notList => "list_type"
  | .notText => "string_type"
  | .notTruth => "bool_type"
  | .unreadableTruth => "bool_parsing"
  | .notWhole => "int_type"
  | .unreadableWhole => "int_parsing"
  | .wholeTooLong => "int_parsing_size"
  | .fractional => "int_from_float"
  | .notFinite => "finite_number"
  | .notNumber => "float_type"
  | .unreadableNumber => "float_parsing"
  | .notChoice => "literal_error"
  | .rule _ => "value_error"

def Complaint.text? : Complaint → Option String
  | .rule r => some ("Value error, " ++ r.text)
  | _ => none

structure Issue where
  place : List Step
  complaint : Complaint
  deriving Repr, DecidableEq

def Issue.under (step : Step) (i : Issue) : Issue := { i with place := step :: i.place }

end PixelTelescope.Config
