import Remit.Log.Format

/-!
The logger at the root of the library and its handlers. Configuring it replaces the console
handler of the configuration before and leaves the handlers of others alone.
-/

namespace Remit.Log

inductive Handler where
  /-- A handler that configuring attached. -/
  | console (id : Nat) (format : String)
  | foreign (id : Nat)
deriving DecidableEq

namespace Handler

def isConsole (id : Nat) : Handler → Bool
  | .console other _ => other = id
  | .foreign _ => false

def output (r : Record) : Handler → String
  | .console _ format => ((Format.render? format r).map (· ++ "\n")).getD ""
  | .foreign _ => ""

end Handler

/-- The console handler made last; one that never got a format is not attached. -/
structure Installed where
  id : Nat
  format : Option String
deriving DecidableEq

structure Logger where
  /-- Severity of the lowest level handled, zero for the default. -/
  level : Nat
  handlers : List Handler
  installed : Option Installed
  /-- Number of console handlers made so far. -/
  made : Nat
deriving DecidableEq

inductive FormatError where
  | noField (format : String)
deriving DecidableEq

def FormatError.message : FormatError → String
  | .noField format => "invalid format '" ++ format ++ "'"

namespace Logger

def initial : Logger :=
  ⟨0, [], none, 0⟩

def detachInstalled (logger : Logger) : Logger :=
  match logger.installed with
  | none => logger
  | some installed =>
      { logger with handlers := logger.handlers.filter fun h => !h.isConsole installed.id }

/-- A new console handler takes the place of the old one. If its format is refused, it is kept as
the installed one but not attached, and the level stays. -/
def configure (logger : Logger) (level : Level) (format : String) :
    Except FormatError Unit × Logger :=
  let detached := logger.detachInstalled
  let id := logger.made
  if Format.accepted format then
    let text := Format.effective format
    (.ok (), {
      level := level.severity
      handlers := detached.handlers ++ [.console id text]
      installed := some ⟨id, some text⟩
      made := id + 1 })
  else
    (.error (.noField format),
      { detached with installed := some ⟨id, none⟩, made := id + 1 })

/-- A handler is attached once. -/
def attachForeign (logger : Logger) (id : Nat) : Logger :=
  if .foreign id ∈ logger.handlers then logger
  else { logger with handlers := logger.handlers ++ [.foreign id] }

def detachForeign (logger : Logger) (id : Nat) : Logger :=
  { logger with handlers := logger.handlers.filter (· ≠ .foreign id) }

/-- Warnings and worse pass a logger without a level of its own. -/
def threshold (logger : Logger) : Nat :=
  if logger.level = 0 then Level.warning.severity else logger.level

def isWithin (name : String) : Bool :=
  name = root || (root ++ ".").toList.isPrefixOf name.toList

def passes (logger : Logger) (r : Record) : Bool :=
  isWithin r.logger && logger.threshold ≤ r.level.severity

/-- Warnings and worse that no handler gets are printed as bare text. -/
def bare (r : Record) : String :=
  if Level.warning.severity ≤ r.level.severity then r.text ++ "\n" else ""

/-- Handlers get the records of the loggers they are attached to and of those below. -/
def printed (logger : Logger) (r : Record) : String :=
  if !isWithin r.logger then bare r
  else if !logger.passes r then ""
  else if logger.handlers.isEmpty then bare r
  else String.join (logger.handlers.map (Handler.output r))

/-- The records that foreign handlers get, one for each. -/
def observed (logger : Logger) (r : Record) : List Record :=
  if logger.passes r then
    logger.handlers.filterMap fun
      | .foreign _ => some r
      | .console _ _ => none
  else []

end Logger

end Remit.Log
