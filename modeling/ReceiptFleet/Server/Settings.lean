import ReceiptFleet.Server.Endpoint

/-!
Settings from environment variables. A variable that is missing, or whose number cannot be read, leaves
its default in force.
-/

namespace ReceiptFleet.Server

/-- Variables that are set, by name. -/
abbrev Environment := List (String × String)

/-- The value of a variable. -/
def Environment.get? (env : Environment) (name : String) : Option String := List.lookup name env

/-- How a fleet polls: the pause between polls, after how many failed fetches in a row a printer is
closed, and how many events are kept for a slow subscriber. -/
structure Polling where
  pauseMs : Nat := 1000
  threshold : Nat := 3
  capacity : Nat := 64
deriving DecidableEq, Repr

/-- The settings of a server. -/
structure Settings where
  polling : Polling := {}
  logLevel : String := "info"
  logDirectory : Option String := none
  printers : List Endpoint := []
  printOnReady : Option String := none
  shutdownSeconds : Option Nat := none
deriving DecidableEq, Repr

/-- The number in a variable, if there is one below a limit. -/
def Environment.number? (env : Environment) (limit : Nat) (name : String) : Option Nat :=
  (env.get? name).bind fun value => Text.unsigned? limit value.toList

/-- The names of the variables that have a meaning for a server's settings. -/
def Settings.variables : List String :=
  ["POLL_INTERVAL_MS", "ERROR_THRESHOLD", "EVENT_CAPACITY", "LOG_LEVEL", "LOG_DIR", "PRINTERS",
    "PRINT_ON_READY", "SHUTDOWN_AFTER_SECS"]

/-- The settings of an environment. -/
def Settings.ofEnvironment (env : Environment) : Settings :=
  let defaults : Settings := {}
  { polling :=
      { pauseMs := (env.number? Text.limit64 "POLL_INTERVAL_MS").getD defaults.polling.pauseMs
        threshold := (env.number? Text.limit32 "ERROR_THRESHOLD").getD defaults.polling.threshold
        capacity := (env.number? Text.limit64 "EVENT_CAPACITY").getD defaults.polling.capacity }
    logLevel := (env.get? "LOG_LEVEL").getD defaults.logLevel
    logDirectory := env.get? "LOG_DIR"
    printers := ((env.get? "PRINTERS").map endpoints).getD defaults.printers
    printOnReady := env.get? "PRINT_ON_READY"
    shutdownSeconds := env.number? Text.limit64 "SHUTDOWN_AFTER_SECS" }

end ReceiptFleet.Server
