/-
**The server.**

Clients send lines on connections, all of which share one service. A connection is opened when the
server accepts it; it is closed by a line that is no text, and by the reply to its own request for
the server to stop. From that reply on the server accepts no connection any more, and those that are
open go on, whether anything was sent on them before or not.

* `Server.accept`: the server after it comes to a connection that waits for it;
* `Server.receive`: the server after one line on a connection, and what the client sees;
* `Server.step`: the server after one event of either kind;
* `Server.run`: the server after many lines, whose connections are accepted as they are first used.
-/

import DeclGraph.Server.Reply

namespace DeclGraph

/-- A server at work. -/
structure Server where
  service : Service
  /-- whether a request for the server to stop was answered -/
  stopped : Bool := false
  /-- the connections that were accepted, and whether they are still open -/
  connections : List (Nat × Bool) := []

namespace Server

/-- What a client sees after sending a line. -/
inductive Reaction where
  | reply (reply : Reply)
  /-- a blank line is passed over -/
  | silence
  /-- the connection is closed -/
  | closed
  /-- the connection was not accepted, and nobody reads the line -/
  | refused
  deriving Inhabited

/-- Whether a connection is open; `none` if it was not accepted. -/
def open? (server : Server) (connection : Nat) : Option Bool :=
  (server.connections.find? fun entry => entry.1 == connection).map Prod.snd

/-- Notes whether a connection is open. -/
def note (server : Server) (connection : Nat) (isOpen : Bool) : Server :=
  { server with
    connections := (connection, isOpen) ::
      server.connections.filter fun entry => entry.1 != connection }

/-- The server after it comes to a connection: it is opened, unless the server has stopped. -/
def accept (server : Server) (connection : Nat) : Server :=
  match server.open? connection with
  | some _ => server
  | none => if server.stopped then server else server.note connection true

/-- The server after the text of a line on an open connection. -/
def answer (server : Server) (files : FileSystem) (connection : Nat) (line : String) :
    Server × Reaction :=
  match Request.ofText line with
  | .error fault => (server, .reply (.error (.fault fault)))
  | .ok .shutdown =>
    let (service, reply) := server.service.respond files .shutdown
    (({ server with service := service, stopped := true }).note connection false, .reply reply)
  | .ok request =>
    let (service, reply) := server.service.respond files request
    ({ server with service := service }, .reply reply)

/-- The server after a line on an open connection. -/
def hear (server : Server) (files : FileSystem) (connection : Nat) (bytes : List UInt8) :
    Server × Reaction :=
  match Text.Utf8.decode bytes with
  | .error _ => (server.note connection false, .closed)
  | .ok text =>
    let line := Text.trim text
    if line.isEmpty then (server, .silence) else server.answer files connection line

/-- The server after a line on a connection. -/
def receive (server : Server) (files : FileSystem) (connection : Nat) (bytes : List UInt8) :
    Server × Reaction :=
  match server.open? connection with
  | some true => server.hear files connection bytes
  | some false => (server, .closed)
  | none => (server, .refused)

/-- What happens to a server. The lines that a client sends before its connection is accepted wait
there, and come up after it. -/
inductive Event where
  | accept (connection : Nat)
  | line (connection : Nat) (bytes : List UInt8)
  deriving DecidableEq, Repr, Inhabited

/-- The server after an event, and what the client sees of a line. -/
def step (server : Server) (files : FileSystem) : Event → Server × Option Reaction
  | .accept connection => (server.accept connection, none)
  | .line connection bytes =>
    let (server, reaction) := server.receive files connection bytes
    (server, some reaction)

/-- The server after many lines, each on its connection, and what the clients see. A connection is
accepted right before its first line. -/
def run (server : Server) (files : FileSystem) :
    List (Nat × List UInt8) → Server × List Reaction
  | [] => (server, [])
  | (connection, bytes) :: lines =>
    let (server, reaction) := (server.accept connection).receive files connection bytes
    let (server, reactions) := server.run files lines
    (server, reaction :: reactions)

end Server

end DeclGraph
