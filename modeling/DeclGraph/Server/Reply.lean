/-
**Replies of the server.**

Every request is answered with data or with a failure that has a tag and a text. A reply is one
line of JSON in which the fields of every object are in ascending order.

* `Service.respond`: the service after a request, and what the request is answered with;
* `Reply.line`: a reply as it is sent.
-/

import DeclGraph.Diagram.Json
import DeclGraph.Server.Request
import DeclGraph.Service
import DeclGraph.Tree.Json

namespace DeclGraph.Server

open Json (Value)

/-- The data of an answer. -/
inductive Answer where
  | pong
  | diagram (graph : Graph)
  | entries (list : List Entry)
  | root (path : Path)
  | project (current : Option Project)
  | done
  | farewell
  deriving Repr, Inhabited

/-- The data of an answer as JSON. -/
def Answer.toJson : Answer → Value
  | pong => .string "PONG"
  | diagram graph => (Diagram.ofGraph graph).toJson
  | entries list => .array (list.map Entry.toJson)
  | root path => .object [("root", .string path.text)]
  | project current => .ofOption (current.map Project.toJson)
  | done => .null
  | farewell => .string "Shutting down..."

/-- Why there is no answer. -/
inductive Refusal where
  /-- the line is no request -/
  | fault (cause : Fault)
  /-- the service failed -/
  | failure (cause : Error)
  deriving DecidableEq, Repr, Inhabited

namespace Refusal

/-- The tag of a refusal. -/
def kind : Refusal → String
  | fault _ => "request"
  | failure cause => cause.kind

/-- The refusal in words. -/
def message : Refusal → String
  | fault cause => cause.message
  | failure cause => cause.message

end Refusal

/-- What a line is replied with. -/
abbrev Reply := Except Refusal Answer

namespace Reply

/-- A reply as JSON. -/
def toJson : Reply → Value
  | .ok answer => .object [("status", .string "success"), ("data", answer.toJson)]
  | .error refusal =>
    .object [("status", .string "error"), ("kind", .string refusal.kind),
      ("message", .string refusal.message)]

/-- A reply as it is sent, without the line feed behind it. -/
def line (reply : Reply) : String := reply.toJson.sorted.compact

/-- The reply to what the service found. -/
def ofResult {α : Type} (answer : α → Answer) : Except Error α → Reply
  | .ok value => .ok (answer value)
  | .error error => .error (.failure error)

end Reply

end DeclGraph.Server

namespace DeclGraph.Service

open Server

/-- The service after a request, and the reply. -/
def respond (service : Service) (files : FileSystem) : Request → Service × Reply
  | .ping => (service, .ok .pong)
  | .graph path => (service, Reply.ofResult .diagram (service.graph files path))
  | .tree language => (service, Reply.ofResult .entries (service.tree files language))
  | .select project =>
    let context := ProjectContext.ofProject project service.projects.projectsRoot
    (service.withProjects (·.select project), .ok (.root context.root))
  | .clear => (service.withProjects ActiveProject.clear, .ok .done)
  | .current => (service, .ok (.project service.projects.current))
  | .shutdown => (service, .ok .farewell)

end DeclGraph.Service
