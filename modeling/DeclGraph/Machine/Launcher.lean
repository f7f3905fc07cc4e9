/-
**Programs that are started.**

A program is started with arguments, without input and with a limit on its time. What can be told of
its run is how it ended and what it wrote.

* `Launcher`: what starts programs.
-/

import DeclGraph.Error
import DeclGraph.Machine.FileSystem

namespace DeclGraph

/-- What is known of a program after its run. -/
inductive Outcome where
  /-- it could not be started -/
  | refused (reason : String)
  /-- it was stopped when its time was over -/
  | overtime
  /-- it ended with a status, or without one if a signal ended it -/
  | ended (status : Option Int) (output messages : List UInt8)
  deriving DecidableEq, Repr, Inhabited

/-- What starts programs, and how texts that are not accepted are told of where it does. -/
structure Launcher where
  /-- the run of a program, given a limit on its time, the program and its arguments -/
  start : FileSystem → Duration → Path → List String → Outcome
  wording : Wording := {}

end DeclGraph
