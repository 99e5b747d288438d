import CivicForum.Config.Toml
import CivicForum.Forum.Startup

/-! # The program

The program starts the service and answers requests. The first line of its input is a record with
the text of the settings file (`config`) and the variables of the environment (`env`); each further
line is a request with the time at which it comes. Each request is answered by one line.

* `Program.readStart`, `Program.readRequest?`: what the lines of the input say.
* `Program.writeResponse`: the line that answers a request.
* `main`: the program.
-/

set_option autoImplicit false

namespace CivicForum.Program

/-- The settings file, nothing when it cannot be understood, and the variables of the
environment. -/
def readStart (line : String) : Option Json × List (String × String) :=
  let v := (Json.parse? line).getD .null
  let file :=
    match v.field? "config" with
    | some (.text document) => Toml.parse? document
    | _ => some (.record [])
  let vars :=
    match v.field? "env" with
    | some (.record fields) => fields.filterMap fun (name, v) => v.text?.map fun t => (name, t)
    | _ => []
  (file, vars)

/-- A request and the time at which it comes. -/
def readRequest? (line : String) : Option (Instant × Http.Request) := do
  let v ← Json.parse? line
  let now ← Timestamp.readZoned (← (← v.field? "now").text?).toList
  return (now, {
    method := ← (← v.field? "method").text?
    target := ← (← v.field? "path").text?
    contentType := (v.field? "content_type").bind Json.text?
    body := Http.encode (((v.field? "body").bind Json.text?).getD "") })

/-- The line that answers a request. -/
def writeResponse (r : Http.Response) : String :=
  let body :=
    match r.body with
    | .json v => ("json", v)
    | .text s => ("text", .text s)
  (Json.record [("status", .int r.status), body]).compact

/-- Every database can be opened, and every address can be bound. -/
def machine : Machine := ⟨fun _ => true, fun _ => true⟩

/-- Answers the lines of the input, one after the other. A line that is no request is passed
over. -/
partial def serve (input output : IO.FS.Stream) (f : Session) : IO Unit := do
  let line ← input.getLine
  if line = "" then return
  match readRequest? line with
  | none => serve input output f
  | some (now, r) =>
    let (outcome, f) := { f with now := now }.step (.request r)
    if let .response response := outcome then
      output.putStrLn (writeResponse response)
      output.flush
    serve input output f

end CivicForum.Program

open CivicForum CivicForum.Program in
/-- Starts the service and answers requests until the input ends. -/
def main (args : List String) : IO UInt32 := do
  let input ← IO.getStdin
  let (file, vars) := readStart (← input.getLine)
  let report := Startup.run machine args file vars ⟨0, 0⟩
  match report.failure, report.opened with
  | some failure, _ =>
    IO.eprintln failure.message
    return failure.exitCode.toUInt32
  | none, some (_, f) =>
    serve input (← IO.getStdout) f
    return 0
  | none, none => return 0
