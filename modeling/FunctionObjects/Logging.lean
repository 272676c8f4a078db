import FunctionObjects.Value.World
/-!
# Logging

Messages go to the logger that they name and from there to the root, whose handlers show them if
they are at least as grave as the first level that is set on the way up.  Configuring installs a
handler only where there is none.
-/

namespace FunctionObjects

namespace Level

def name : Level → String
  | debug => "DEBUG"
  | info => "INFO"
  | warning => "WARNING"
  | error => "ERROR"

end Level

/-- The logger of validation results. -/
def ValidationResult.logger : String := "fnweave.core.validation_result"

/-- The records of all messages of a result. -/
def ValidationResult.records (r : ValidationResult) (l : Level) : List LogRecord :=
  r.errors.map fun m => ⟨l, ValidationResult.logger, m⟩

/-- Logs some records. -/
def Run.log (rs : List LogRecord) : Run Unit := modify fun w => { w with log := w.log ++ rs }

/-- The levels and handlers of the loggers. -/
structure Logging where
  /-- The level of the root. -/
  root : Nat
  /-- The handlers that the application itself has installed on the root. -/
  ownHandlers : Nat
  /-- Whether configuring has installed a handler. -/
  installed : Bool
  /-- The level of the library, if it is set. -/
  library : Option Nat
  /-- The level of the reader of tables, if it is set. -/
  tables : Option Nat
deriving DecidableEq, Repr

namespace Logging

/-- The loggers before anything is configured; the root lets warnings through. -/
def initial (ownHandler : Bool) : Logging := ⟨30, if ownHandler then 1 else 0, false, none, none⟩

/-- The number of handlers on the root. -/
def handlers (l : Logging) : Nat := l.ownHandlers + (if l.installed then 1 else 0)

/-- The level at which information is shown. -/
def defaultLevel : Nat := 20

/-- The level at which only errors are shown. -/
def errorLevel : Nat := 40

/-- Sets the level of the library; where no handler is, one is installed that takes its level. -/
def configure (l : Logging) (level : Nat) : Logging :=
  let l := if l.handlers = 0 then
      { l with root := level, installed := true, tables := some errorLevel }
    else l
  { l with library := some level }

/-- Whether a logger is one of a family, by the first part of its name. -/
def isWithin (family logger : String) : Bool :=
  logger == family || logger.startsWith (family ++ ".")

/-- The level that decides about a logger: its own, or that of the root if its own is zero. -/
def effective (l : Logging) (logger : String) : Nat :=
  let own :=
    if isWithin "fnweave" logger then l.library
    else if isWithin "polars" logger then l.tables
    else none
  (own.filter (· != 0)).getD l.root

/-- Whether a message is shown; one without a level never is. -/
def shows (l : Logging) (logger : String) (level : Nat) : Bool :=
  level != 0 && l.effective logger ≤ level

/-- The name of a level; levels between the named ones have none. -/
def levelName (n : Nat) : String :=
  ([(0, "NOTSET"), (10, "DEBUG"), (20, "INFO"), (30, "WARNING"), (40, "ERROR"),
    (50, "CRITICAL")].lookup n).getD ("Level " ++ toString n)

/-- The line that shows a message, without the time. -/
def line (logger : String) (level : Nat) (message : String) : String :=
  "[" ++ logger ++ "] " ++ levelName level ++ ": " ++ message ++ "\n"

end Logging

end FunctionObjects
