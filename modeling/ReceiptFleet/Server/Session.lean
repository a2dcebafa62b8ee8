import ReceiptFleet.Printer.Network
import ReceiptFleet.Server.EnvFile
import ReceiptFleet.Server.Files
import ReceiptFleet.Server.LogFilter

/-!
A session of the server, from its start to its end: it takes its settings from the environment, reads the
markup to print on ready printers, sets up its printers, and shuts down. The first thing that fails
ends it.
-/

namespace ReceiptFleet.Server

/-- Where log lines go. -/
inductive LogPlace where
  | output
  | directory (path : String)
deriving DecidableEq, Repr

/-- Why a server does not start: what it was about, and the cause. -/
structure StartError where
  about : String
  cause : String
deriving DecidableEq, Repr

/-- The text of a start error; further lines of the cause are set in like the first. -/
def StartError.message (e : StartError) : String :=
  let cause := Text.joinPieces '\n' ((Text.pieces '\n' e.cause.toList).map ("    ".toList ++ ·))
  "Error: " ++ e.about ++ "\n\nCaused by:\n" ++ String.ofList cause ++ "\n"

/-- What a session comes to: its log lines up to the point at which the server runs, how many seconds it
then runs if there is a limit, its log lines after that, its exit code, what it writes about a failure,
and where the log lines go. -/
structure Session where
  opening : List LogLine
  seconds : Option Nat := some 0
  ending : List LogLine := []
  code : Nat
  errors : String
  place : LogPlace
deriving DecidableEq, Repr

namespace Session

/-- The name of the file that supplies variables. -/
def envFileName : String := ".env"

/-- The variable that overrides the log level. -/
def filterVariable : String := "RUST_LOG"

/-- The target of the server's own lines. -/
def serverTarget : String := "print_server"

/-- The target of the lines of its fleet. -/
def fleetTarget : String := "print_server::fleet::coordinator"

/-- The line at the start. -/
def started : LogLine := ⟨.info, serverTarget, "Print server starting...", []⟩

/-- The line about missing printers. -/
def noPrinters : LogLine := ⟨.warn, serverTarget, "No printers configured (set PRINTERS)", []⟩

/-- The line at the end. -/
def stopping : LogLine := ⟨.info, serverTarget, "Shutting down", []⟩

/-- The line about closing so many printers. -/
def closing (count : Nat) : LogLine :=
  ⟨.info, fleetTarget, "Closing printer fleet", [("count", toString count)]⟩

/-- The environment with what the file of variables adds. -/
def environment (files : FileSystem) (env : Environment) : Environment :=
  match files envFileName with
  | .file text => EnvFile.extend env text
  | _ => env

/-- The filter for log lines: that of the overriding variable if it can be read, else that of the log
level, else the one for `info`. -/
def filter (env : Environment) (settings : Settings) : LogFilter :=
  let overriding := (env.get? filterVariable).bind LogFilter.ofText?
  (overriding.or (LogFilter.ofText? settings.logLevel)).getD [{ limit := Level.info.number }]

/-- Where log lines go, and what is said of a log directory that does not exist. -/
def logPlace (files : FileSystem) (settings : Settings) : LogPlace × String :=
  match settings.logDirectory with
  | none => (.output, "")
  | some path =>
    match files path with
    | .file _ | .directory => (.directory path, "")
    | .missing | .throughFile =>
      (.output, "Log directory " ++ path ++ " does not exist, logging to stdout\n")

/-- Reads the markup for ready printers, if there is to be one. -/
def readMarkup (files : FileSystem) (settings : Settings) : Except StartError Unit :=
  match settings.printOnReady with
  | none => .ok ()
  | some path =>
    match (files path).text with
    | .ok _ => .ok ()
    | .error cause => .error ⟨"reading " ++ path, cause⟩

/-- The printer of an endpoint. -/
def printer (endpoint : Endpoint) : Except StartError NetworkPrinter :=
  match NetworkPrinter.ofAddress endpoint.address with
  | .ok p => .ok { p with name := endpoint.name, width := endpoint.width.getD p.width }
  | .error fault => .error ⟨"printer " ++ endpoint.name, fault.message⟩

/-- The printers of a server; of several with one name the first counts. -/
def printers (settings : Settings) : Except StartError (List NetworkPrinter) := do
  let all ← settings.printers.mapM printer
  return all.foldl (fun kept p => if kept.any (·.name = p.name) then kept else kept ++ [p]) []

/-- The session of a server with some files and environment. -/
def run (files : FileSystem) (env : Environment) : Session :=
  let env := environment files env
  let settings := Settings.ofEnvironment env
  let (place, notice) := logPlace files settings
  let logged := fun (lines : List LogLine) => lines.filter (filter env settings).admits
  let ready := do
    readMarkup files settings
    printers settings
  match ready with
  | .error e =>
    { opening := logged [started], code := 1, errors := notice ++ e.message, place }
  | .ok printers =>
    let missing := if settings.printers.isEmpty then [noPrinters] else []
    { opening := logged (started :: missing)
      seconds := settings.shutdownSeconds
      ending := logged [stopping, closing printers.length]
      code := 0
      errors := notice
      place }

/-- All log lines of a session. -/
def log (s : Session) : List LogLine := s.opening ++ s.ending

end Session

end ReceiptFleet.Server
