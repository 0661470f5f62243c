import CatalogConsole.Conversion
import CatalogConsole.History
import CatalogConsole.LogFlags

/-! # The log

The log has a level and a list of handlers.  A record below the level is dropped, and any other
record goes to every handler.  Only the console handler writes, one line per record, on the error
stream.  A log without handlers still writes the bare message of a warning or worse, so that a
program that never sets up its log does not lose them.

Any number is a level if it can be printed, since it gets its name from it.
-/
namespace CatalogConsole

/-- The name of the level with a number.  Where it has no name of its own, the number stands in. -/
def LogLevel.nameOf (number : Int) : Except ConversionError String :=
  if number = 0 then .ok "NOTSET"
  else if number = 10 then .ok "DEBUG"
  else if number = 20 then .ok "INFO"
  else if number = 30 then .ok "WARNING"
  else if number = 40 then .ok "ERROR"
  else if number = 50 then .ok "CRITICAL"
  else do return "Level " ++ (← printedInteger number)

/-- A level of messages, with its name. -/
structure LogLevel where
  number : Int
  name : String
  named : LogLevel.nameOf number = .ok name
  deriving DecidableEq, Repr

namespace LogLevel

/-- The level of debugging messages. -/
def debug : LogLevel := ⟨10, "DEBUG", rfl⟩

/-- The level of messages for information. -/
def info : LogLevel := ⟨20, "INFO", rfl⟩

/-- The level of warnings. -/
def warning : LogLevel := ⟨30, "WARNING", rfl⟩

/-- The level with a number, unless it has no name. -/
def ofNumber (number : Int) : Except ConversionError LogLevel :=
  match named : nameOf number with
  | .ok name => .ok ⟨number, name, named⟩
  | .error reason => .error reason

end LogLevel

/-- A message for the log, from the logger of this name; the root logger has the empty name. -/
structure LogRecord where
  level : LogLevel
  logger : String
  message : String
  deriving DecidableEq, Repr

namespace LogRecord

/-- The name of a logger. -/
def loggerName (logger : String) : String :=
  if logger = "" then "root" else logger

/-- The line that the console handler writes: the level in a column of eight characters, the logger
and the message. -/
def line (r : LogRecord) : String :=
  String.ofList (r.level.name.toList.rightpad 8 ' ') ++ " " ++ loggerName r.logger ++ ": " ++
    r.message ++ "\n"

end LogRecord

/-- What receives the records of a log. -/
inductive LogHandler
  /-- Writes a line on the error stream. -/
  | console
  /-- Throws every record away. -/
  | silent
  deriving DecidableEq, Repr

/-- The texts that a handler writes for a record. -/
def LogHandler.written (r : LogRecord) : LogHandler → List String
  | console => [r.line]
  | silent => []

/-- The state of the log. -/
structure Log where
  level : Int
  handlers : List LogHandler
  deriving DecidableEq, Repr

namespace Log

/-- The log before anything has been set up. -/
def initial : Log := ⟨LogLevel.warning.number, []⟩

/-- The level that log flags ask for; a verbose flag outweighs a quiet one. -/
def levelFor (flags : LogFlags) : Int :=
  if flags.verbose then LogLevel.debug.number
  else if flags.quiet then LogLevel.warning.number
  else LogLevel.info.number

/-- The log after a setup, whatever it was before: the console handler is the only one. -/
def setup (flags : LogFlags) : Log := ⟨levelFor flags, [.console]⟩

/-- The log with one more handler that writes nothing. -/
def addSilent (log : Log) : Log := { log with handlers := log.handlers ++ [.silent] }

/-- The texts written on the error stream for a record. -/
def written (log : Log) (r : LogRecord) : List String :=
  if r.level.number < log.level then []
  else if log.handlers = [] then
    (if r.level.number < LogLevel.warning.number then [] else [r.message ++ "\n"])
  else log.handlers.flatMap (LogHandler.written r)

/-- What can be done with a log. -/
inductive Step
  | setup (flags : LogFlags)
  | addSilent
  | record (r : LogRecord)
  deriving DecidableEq, Repr

/-- The log after a step, and the texts written in it. -/
def step (log : Log) : Step → Log × List String
  | .setup flags => (.setup flags, [])
  | .addSilent => (log.addSilent, [])
  | .record r => (log, log.written r)

/-- A record below the level is dropped. -/
theorem written_of_below {log : Log} {r : LogRecord} (below : r.level.number < log.level) :
    log.written r = [] := by
  rw [written, if_pos below]

/-- After a setup a record that reaches the level is written once. -/
theorem written_setup (flags : LogFlags) (r : LogRecord) :
    (setup flags).written r =
      if r.level.number < levelFor flags then [] else [r.line] := by
  simp [written, setup, LogHandler.written]

end Log

end CatalogConsole
