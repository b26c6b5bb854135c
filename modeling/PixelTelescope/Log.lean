namespace PixelTelescope

inductive Level where
  | debug
  | info
  | warning
  | error
  deriving Repr, DecidableEq

namespace Level

def rank : Level → Nat
  | .debug => 10
  | .info => 20
  | .warning => 30
  | .error => 40

def label : Level → String
  | .debug => "DEBUG"
  | .info => "INFO"
  | .warning => "WARNING"
  | .error => "ERROR"

/-- What is shown at 0 (warnings only), 1 (status) and any other setting (all). -/
def ofDiagnostics (setting : Int) : Level :=
  if setting = 0 then .warning else if setting = 1 then .info else .debug

end Level

structure Entry where
  level : Level
  text : String
  deriving Repr, DecidableEq

namespace Entry

def debug (text : String) : Entry := ⟨.debug, text⟩
def info (text : String) : Entry := ⟨.info, text⟩
def warning (text : String) : Entry := ⟨.warning, text⟩
def error (text : String) : Entry := ⟨.error, text⟩

def isShown (threshold : Level) (e : Entry) : Bool := threshold.rank ≤ e.level.rank

def line (e : Entry) : String := "[" ++ e.level.label ++ "] " ++ e.text ++ "\n"

end Entry

/-- Where messages go: nowhere before the first configuration, and to one handler after it. -/
structure Logger where
  threshold : Level := .warning
  handlers : Nat := 0
  deriving Repr, DecidableEq

namespace Logger

def configure (setting : Int) (logger : Logger) : Logger :=
  { threshold := .ofDiagnostics setting, handlers := max logger.handlers 1 }

/-- The lines that the handler prints. -/
def printed (logger : Logger) (entries : List Entry) : String :=
  if logger.handlers = 0 then ""
  else String.join ((entries.filter (·.isShown logger.threshold)).map Entry.line)

end Logger

/-- The entries logged on the way to a result. -/
structure Logged (α : Type) where
  entries : List Entry
  result : α

end PixelTelescope
