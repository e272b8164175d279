import CloudDesk.Billing.CostReport
import CloudDesk.Desk.Serving
import CloudDesk.Json.Writing
import CloudDesk.Startup

namespace CloudDesk.Program

open Http

def requestOf (line : String) : Request :=
  let isBlank := fun c => c == ' ' || c == '\n' || c == '\r'
  let cs := line.toList.dropWhile isBlank
  let rest := (cs.dropWhile fun c => !isBlank c).dropWhile isBlank
  let body := (rest.dropWhile fun c => !isBlank c).dropWhile isBlank
  { method := String.ofList (cs.takeWhile fun c => !isBlank c)
    uri := String.ofList (rest.takeWhile fun c => !isBlank c)
    contentType := if body.isEmpty then none else some "application/json"
    body := Text.utf8 (String.ofList body) }

def writeReply (r : Reply) : String :=
  let body := match r.body with
    | .nothing => ""
    | .text s => s
    | .json j => j.write
  s!"{r.status} {body}"

def instantOf (time : Nat) : Instant := ⟨time / 1000, time % 1000 * 1000000⟩

def source (d : Desk) : CostSource :=
  CostReport.fetch (fun _ => none) d.settings.endpoint d.cloud

def readEnvironment : IO Environment := do
  let values ← Config.variableNames.filterMapM fun name => do
    return (← IO.getEnv name).map fun value => (name, Text.utf8 value)
  return ⟨values⟩

partial def serveLines (input output : IO.FS.Stream) (last : Nat) (d : Desk) : IO Unit := do
  let line ← input.getLine
  if line.isEmpty then return
  let time ← IO.monoMsNow
  let id ← IO.getRandomBytes 16
  let (reply, d, _) := d.serve (source d) ⟨instantOf time, ⟨id.toList⟩⟩ (time - last) (requestOf line)
  output.putStrLn (writeReply reply)
  output.flush
  serveLines input output time d

end CloudDesk.Program

open CloudDesk in
/-- Each line of the input is a method, a target and possibly a JSON body, with blanks between.
Costs cannot be fetched from here, so every sync fails as it does when the cost service is down. -/
def main : IO UInt32 := do
  let config := Config.ofEnvironment (← Program.readEnvironment)
  let (entries, result) := Startup.run Startup.noDatabase config
  let errors ← IO.getStderr
  for entry in entries do
    errors.putStrLn entry.toJson.write
  match result with
  | .error failure =>
    errors.putStrLn failure.write
    return 1
  | .ok desk =>
    let start ← IO.monoMsNow
    let desk := desk.settle (Program.source desk) (Program.instantOf start)
    Program.serveLines (← IO.getStdin) (← IO.getStdout) start desk
    return 0
