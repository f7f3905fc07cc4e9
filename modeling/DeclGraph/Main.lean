/-
**The command line.**

The program takes a picture of the files, runs the command line on it and carries out what comes of
it: a text is printed or written, messages are told, and the status is given back. A server goes on
until a client asks it to stop. Programs are run by the shell of this library, so an external parser
is a script.
-/

import DeclGraph.CommandLine.Run
import DeclGraph.CommandLine.Snapshot
import Std.Async.TCP

namespace DeclGraph.CommandLine

open Std.Async (Async)
open Std.Async.TCP.Socket (Client)
open Std.Net (IPv4Addr SocketAddress)

/-! ### Places -/

/-- The places that a configuration refers to. -/
def placesOfConfig (config : Config) : List Path :=
  config.projectsRoot :: config.parser.program :: config.parser.arguments.map Path.mk

/-- The places that a task refers to. -/
def placesOfTask : Task → List Path
  | .graph file _ output => file :: output.toList
  | .tree directory _ _ => [directory.getD ⟨"."⟩]
  | .index directory output => directory :: output.toList
  | .serve _ => []

/-- A picture of the files that an invocation refers to. -/
def picture (invocation : Invocation) : IO FileSystem := do
  let config := invocation.config.toList
  let files ← Snapshot.take config
  match configOf Shell.launch.wording files invocation with
  | .ok settings =>
    Snapshot.take (config ++ placesOfConfig settings ++ placesOfTask invocation.task)
  | .error _ => return files

/-! ### Tasks that end -/

/-- Writes the file that a report changed. -/
def carryOut (task : Task) (report : Report) : IO Unit := do
  let output := match task with
    | .graph _ _ output | .index _ output => output
    | _ => none
  if report.status = 0 then
    match output with
    | none => return ()
    | some path =>
      match report.files.itemAt? true path with
      | some (.regular bytes _) => IO.FS.writeBinFile path.text ⟨bytes.toArray⟩
      | _ => return ()

/-- Prints a report and gives its status back. -/
def tell (report : Report) : IO UInt32 := do
  (← IO.getStdout).putStr report.printed
  (← IO.getStderr).putStr report.told
  return UInt32.ofNat report.status

/-! ### The server -/

/-- Cuts the first line off some bytes, with its line feed. -/
def firstLine? (bytes : List UInt8) : Option (List UInt8 × List UInt8) :=
  match bytes.span (· != 10) with
  | (line, _ :: rest) => some (line, rest)
  | _ => none

/-- The places that a line of a client refers to. -/
def placesOfLine (service : Service) (line : List UInt8) : List Path :=
  let context := service.projects.context?.toList
  let named := match Server.Request.ofText (Text.trim (Text.Utf8.decodeLossy line)) with
    | .ok (.graph path) => path :: context.map (·.resolve path)
    | _ => []
  context.map (·.root) ++ named

/-- Answers one line; false if the connection is closed. -/
def answerLine (config : Config) (server : IO.Ref Server) (client : Client) (number : Nat)
    (line : List UInt8) : IO Bool := do
  let places := placesOfLine (← server.get).service line
  let files ← Snapshot.take (placesOfConfig config ++ places)
  let reaction ← server.modifyGet fun server =>
    let (server, reaction) := server.receive files number line
    (reaction, server)
  match reaction with
  | .reply reply => (client.send (reply.line ++ "\n").toUTF8).block
  | _ => pure ()
  return (← server.get).open? number = some true

/-- Answers the lines of a client. -/
partial def talk (config : Config) (server : IO.Ref Server) (client : Client) (number : Nat)
    (waiting : List UInt8) : IO Unit := do
  match firstLine? waiting with
  | some (line, rest) =>
    if ← answerLine config server client number line then talk config server client number rest
  | none =>
    match ← (client.recv? 65536).block with
    | some bytes => talk config server client number (waiting ++ bytes.toList)
    | none =>
      if !waiting.isEmpty then
        let _ ← answerLine config server client number waiting

/-- Takes clients until one has asked the server to stop. -/
partial def takeClients (config : Config) (server : IO.Ref Server)
    (listener : Std.Async.TCP.Socket.Server) (address : SocketAddress) (number : Nat) :
    IO Unit := do
  let client ← listener.accept.block
  let accepted ← server.modifyGet fun server =>
    let server := server.accept number
    (server.open? number == some true, server)
  if !accepted then return ()
  let conversation := do
    try talk config server client number [] catch _ => pure ()
    if (← server.get).stopped then
      let wake ← Client.mk
      try (wake.connect address).block catch _ => pure ()
  let _ ← IO.asTask conversation .dedicated
  takeClients config server listener address (number + 1)

/-- The address at which a server listens. -/
def addressOf? (settings : ServerSettings) : Option SocketAddress :=
  let host := if settings.host = "localhost" then "127.0.0.1" else settings.host
  (IPv4Addr.ofString host).map fun address => .v4 ⟨address, UInt16.ofNat settings.port⟩

/-- Runs a server and gives its status back. -/
def serve (config : Config) (settings : ServerSettings) (server : Server) : IO UInt32 := do
  let listener ← Std.Async.TCP.Socket.Server.mk
  let bound ← try
      match addressOf? settings with
      | none => pure (Except.error "invalid socket address")
      | some address => do
        listener.bind address
        listener.listen 128
        pure (Except.ok (← listener.getSockName))
    catch error => pure (Except.error error.toString)
  match bound with
  | .error cause =>
    let failure : Failure := ⟨some ("Failed to bind to " ++ settings.address), cause⟩
    (← IO.getStderr).putStr failure.report
    return 1
  | .ok address =>
    takeClients config (← IO.mkRef server) listener address 0
    return 0

/-! ### All of it -/

/-- Runs an invocation and gives its status back. -/
def start (invocation : Invocation) : IO UInt32 := do
  let files ← picture invocation
  match invocation.task, configOf Shell.launch.wording files invocation with
  | .serve port, .ok config =>
    serve config (settingsOf config port) { service := Service.ofConfig Shell.launch config }
  | task, _ =>
    let report := runInvocation Shell.launch files invocation
    try
      carryOut task report
      tell report
    catch error =>
      let failure : Failure := ⟨some "Cannot write", error.toString⟩
      tell ⟨1, "", failure.report, files⟩

end DeclGraph.CommandLine

/-- Runs the words of a command line. -/
def main (words : List String) : IO UInt32 := do
  match DeclGraph.CommandLine.Instruction.ofWords? words with
  | some (.invoke invocation) => DeclGraph.CommandLine.start invocation
  | some (.tell text) =>
    (← IO.getStdout).putStr text
    return 0
  | none => return 2
