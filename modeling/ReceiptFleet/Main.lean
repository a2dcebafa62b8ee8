import ReceiptFleet.Server.Session

/-!
The server as a program. It looks up what a session asks of its surroundings, writes what the session comes
to, and waits in between.
-/

namespace ReceiptFleet.Server

/-- What a path leads to, as far as reading it tells. -/
def readEntry (path : String) : IO FileEntry := do
  try
    return .file (← IO.FS.readFile path)
  catch
    | .inappropriateType _ code _ => return if code = 21 then .directory else .throughFile
    | _ => return .missing

/-- The variables of some names that are set. -/
def readVariables (names : List String) : IO Environment :=
  names.filterMapM fun name => return (← IO.getEnv name).map (name, ·)

/-- Writes log lines to where they go. -/
def writeLog (place : LogPlace) (lines : List LogLine) : IO Unit :=
  match place with
  | .output => lines.forM fun line => IO.println line.text
  | .directory path => do
    let file ← IO.FS.Handle.mk (path ++ "/print-server.log") .append
    lines.forM fun line => file.putStrLn line.text

/-- Waits so many seconds. -/
def wait : Nat → IO Unit
  | 0 => return ()
  | n + 1 => do
    IO.sleep 1000
    wait n

/-- Waits until the program is ended from outside. -/
partial def waitForEver : IO Unit := do
  IO.sleep 1000
  waitForEver

end ReceiptFleet.Server

open ReceiptFleet.Server in
/-- Runs a server; the exit code tells whether it started. -/
def main : IO UInt32 := do
  let supplied ← readEntry Session.envFileName
  let mentioned := match supplied with
    | .file text => EnvFile.mentioned text
    | _ => []
  let env ← readVariables (Session.filterVariable :: Settings.variables ++ mentioned)
  let known := fun path => if path = Session.envFileName then supplied else .missing
  let settings := Settings.ofEnvironment (Session.environment known env)
  let paths := settings.printOnReady.toList ++ settings.logDirectory.toList
  let entries ← paths.mapM fun path => return (path, ← readEntry path)
  let files := fun path => (List.lookup path entries).getD (known path)
  let session := Session.run files env
  writeLog session.place session.opening
  if session.code = 0 then
    match session.seconds with
    | some n => wait n
    | none => waitForEver
  IO.eprint session.errors
  writeLog session.place session.ending
  return UInt32.ofNat session.code
