import GuestFlow.File.Path
import GuestFlow.Journal
import GuestFlow.Number.Numeral
import GuestFlow.Settings.Environment
import GuestFlow.Text.Letter

/-!
# Settings

What the library leaves to whoever runs it: how much of the journal to show and in which
form, where definitions lie, how runs behave and where the service listens.  Every
setting has a variable and a usual value.
-/

set_option autoImplicit false

namespace GuestFlow

structure Settings where
  logLevel : String
  logFormat : String
  definitionsDirectory : Option Path
  strictOutputs : Bool
  maxAutoAdvance : Int
  host : String
  portNumber : Int
  reload : Bool

/-- How lines of the journal are shown by default. -/
def usualLogFormat : String := "%(asctime)s - %(name)s - %(levelname)s - %(message)s"

namespace Settings

def usual : Settings where
  logLevel := "INFO"
  logFormat := usualLogFormat
  definitionsDirectory := none
  strictOutputs := false
  maxAutoAdvance := 100
  host := "0.0.0.0"
  portNumber := 8000
  reload := false

/-! ## From the environment -/

/-- Whether a variable is one of the words that mean yes. -/
def isSet (environment : Environment) (name : String) : Bool :=
  match environment.get? name with
  | some value => ["1", "true", "yes", "on"].contains (Letter.small (Blank.trim value))
  | none => false

def readInteger (environment : Environment) (name usual : String) : Except Fault Int :=
  Numeral.readInteger 10 (environment.getOr name usual)

/-- The settings that the variables of an environment ask for. -/
def ofEnvironment (environment : Environment) : Except Fault Settings := do
  let directory := environment.getOr "WORKFLOW_DEFINITIONS_DIR" ""
  let maxAutoAdvance ← readInteger environment "WORKFLOW_MAX_AUTO_ADVANCE" "100"
  let portNumber ← readInteger environment "API_PORT" "8000"
  .ok {
    logLevel := Letter.capital (environment.getOr "WORKFLOW_LOG_LEVEL" "INFO")
    logFormat := environment.getOr "WORKFLOW_LOG_FORMAT" usualLogFormat
    definitionsDirectory := if directory = "" then none else some (Path.ofText directory)
    strictOutputs := isSet environment "WORKFLOW_STRICT_OUTPUTS"
    maxAutoAdvance
    host := environment.getOr "API_HOST" "0.0.0.0"
    portNumber
    reload := isSet environment "API_RELOAD" }

/-! ## The journal -/

/-- What a level says: a rank, or a word that stands for a form of lines instead. -/
inductive Threshold where
  | rank (rank : Nat)
  | form (text : String)
  deriving DecidableEq, Repr

/-- What the names of levels stand for. -/
def namedThresholds : List (String × Threshold) := [
  ("CRITICAL", .rank 50), ("FATAL", .rank 50), ("ERROR", .rank Weight.error.rank),
  ("WARNING", .rank Weight.warning.rank), ("WARN", .rank Weight.warning.rank),
  ("INFO", .rank Weight.info.rank), ("DEBUG", .rank Weight.debug.rank), ("NOTSET", .rank 0),
  ("BASIC_FORMAT", .form "%(levelname)s:%(name)s:%(message)s")]

/-- The threshold of the settings; an unknown level counts as the usual one. -/
def threshold (settings : Settings) : Threshold :=
  (namedThresholds.lookup settings.logLevel).getD (.rank Weight.info.rank)

end Settings

end GuestFlow
