/-
**The project that requests refer to.**

Two kinds of requests change the project of a server, and only when they are answered: one names
another project, one clears it. All other lines on open connections leave the server as it was, so
that runs with and without them tell the clients the same.

* `Exchange.Selects`, `Exchange.Clears`: the exchanges that change the project;
* `IsIdle`: lines that change nothing;
* **`selection_of_run`**: the project after a run is the one that was named last, unless it was
  cleared since; idle lines leave the server as it was, and may be left out of a run.
-/

import DeclGraph.Proofs.Lists
import DeclGraph.Proofs.Server.Exchange

namespace DeclGraph.Server

variable {server : Server} {files : FileSystem} {lines : List (Nat × List UInt8)}

/-! ### Exchanges that change the project -/

namespace Exchange

/-- The line was a request and the client got its data. -/
def Succeeds (exchange : Exchange) : Prop := ∃ answer, exchange.reaction = .reply (.ok answer)

/-- The client named another project. -/
def Selects (exchange : Exchange) (project : Project) : Prop :=
  Asks exchange.bytes (.select project) ∧ exchange.Succeeds

def Clears (exchange : Exchange) : Prop := Asks exchange.bytes .clear ∧ exchange.Succeeds

/-- The client neither named nor cleared a project. -/
def KeepsProject (exchange : Exchange) : Prop :=
  (∀ project, ¬ exchange.Selects project) ∧ ¬ exchange.Clears

end Exchange

/-- A project was named, and since then no other was, nor was it cleared. -/
def LastSelected (exchanges : List Exchange) (project : Project) : Prop :=
  ∃ before exchange after, exchanges = before ++ exchange :: after ∧ exchange.Selects project ∧
    ∀ later ∈ after, later.KeepsProject

theorem not_lastSelected_nil (project : Project) : ¬ LastSelected [] project := by
  rintro ⟨before, exchange, after, split, _⟩
  cases before <;> cases split

theorem lastSelected_cons {exchange : Exchange} {exchanges : List Exchange} {project : Project} :
    LastSelected (exchange :: exchanges) project ↔
      LastSelected exchanges project ∨
        exchange.Selects project ∧ ∀ later ∈ exchanges, later.KeepsProject := by
  constructor
  · rintro ⟨before, other, after, split, selects, kept⟩
    cases before with
    | nil =>
      cases split
      exact Or.inr ⟨selects, kept⟩
    | cons head before =>
      cases split
      exact Or.inl ⟨before, other, after, rfl, selects, kept⟩
  · rintro (⟨before, other, after, rfl, selects, kept⟩ | ⟨selects, kept⟩)
    · exact ⟨exchange :: before, other, after, rfl, selects, kept⟩
    · exact ⟨[], exchange, exchanges, rfl, selects, kept⟩

/-! ### The project after one line -/

/-- The service changes its project for two kinds of requests only. -/
theorem current_respond {service : Service} {request : Request} {project : Project} :
    (service.respond files request).1.projects.current = some project ↔
      request = .select project ∨
        service.projects.current = some project ∧ request ≠ .clear ∧
          ∀ other, request ≠ .select other := by
  cases request <;> simp [Service.respond, Service.withProjects, ActiveProject.select,
    ActiveProject.clear]

/-- Naming and clearing a project always succeed. -/
theorem succeeds_respond {service : Service} {request : Request} {connection : Nat}
    {bytes : List UInt8} (changes : request = .clear ∨ ∃ project, request = .select project) :
    (⟨connection, bytes, .reply (service.respond files request).2⟩ : Exchange).Succeeds := by
  rcases changes with rfl | ⟨project, rfl⟩
  · exact ⟨.done, rfl⟩
  · exact ⟨_, rfl⟩

theorem Exchange.keepsProject_of_not_succeeds {exchange : Exchange}
    (fails : ¬ exchange.Succeeds) : exchange.KeepsProject :=
  ⟨fun _ selects => fails selects.2, fun clears => fails clears.2⟩

theorem Exchange.keepsProject_of_asks {exchange : Exchange} {request : Request}
    (asks : Asks exchange.bytes request) (keeps : request ≠ .clear)
    (keepsAll : ∀ project, request ≠ .select project) : exchange.KeepsProject :=
  ⟨fun project selects => keepsAll project (asks.unique selects.1),
    fun clears => keeps (asks.unique clears.1)⟩

/-- **The project after a line on an open connection.** -/
theorem current_of_hears {connection : Nat} {bytes : List UInt8} {heard : Server × Reaction}
    (hears : Hears server files connection bytes heard) (project : Project) :
    heard.1.service.projects.current = some project ↔
      (⟨connection, bytes, heard.2⟩ : Exchange).Selects project ∨
        server.service.projects.current = some project ∧
          (⟨connection, bytes, heard.2⟩ : Exchange).KeepsProject := by
  have keeps : ∀ {exchange : Exchange} {after : Server}, exchange.KeepsProject →
      after.service = server.service →
        (after.service.projects.current = some project ↔
          exchange.Selects project ∨
            server.service.projects.current = some project ∧ exchange.KeepsProject) := by
    intro exchange after kept same
    rw [same]
    simp [kept, kept.1 project]
  cases hears with
  | garbled _ => exact keeps (Exchange.keepsProject_of_not_succeeds (by simp [Exchange.Succeeds])) rfl
  | blank _ => exact keeps (Exchange.keepsProject_of_not_succeeds (by simp [Exchange.Succeeds])) rfl
  | fault cause _ _ _ =>
    exact keeps (Exchange.keepsProject_of_not_succeeds (by simp [Exchange.Succeeds])) rfl
  | shutdown asks => exact keeps (Exchange.keepsProject_of_asks asks (by simp) (by simp)) rfl
  | request request asks _ =>
    rw [current_respond]
    constructor
    · rintro (rfl | ⟨current, keeps, keepsAll⟩)
      · exact Or.inl ⟨asks, succeeds_respond (Or.inr ⟨project, rfl⟩)⟩
      · exact Or.inr ⟨current, Exchange.keepsProject_of_asks asks keeps keepsAll⟩
    · rintro (⟨selects, _⟩ | ⟨current, keepsAll, keeps⟩)
      · exact Or.inl (asks.unique selects)
      · refine Or.inr ⟨current, ?_, ?_⟩
        · rintro rfl
          exact keeps ⟨asks, succeeds_respond (Or.inl rfl)⟩
        · rintro other rfl
          exact keepsAll other ⟨asks, succeeds_respond (Or.inr ⟨other, rfl⟩)⟩

/-- **The project after one line.** -/
theorem current_receive {line : Nat × List UInt8} {project : Project} :
    (server.receive files line.1 line.2).1.service.projects.current = some project ↔
      (server.exchange files line).Selects project ∨
        server.service.projects.current = some project ∧
          (server.exchange files line).KeepsProject := by
  have receives := receives_receive server files line.1 line.2
  unfold exchange
  generalize server.receive files line.1 line.2 = received at receives
  have kept : ∀ {exchange : Exchange}, ¬ exchange.Succeeds →
      (server.service.projects.current = some project ↔
        exchange.Selects project ∨
          server.service.projects.current = some project ∧ exchange.KeepsProject) := by
    intro exchange fails
    have keeps := Exchange.keepsProject_of_not_succeeds fails
    simp [keeps, keeps.1 project]
  cases receives with
  | refused _ => exact kept (by simp [Exchange.Succeeds])
  | closed _ => exact kept (by simp [Exchange.Succeeds])
  | heard _ hears => exact current_of_hears hears project

/-- A client that names a project on an open connection is always answered. -/
theorem selects_exchange {line : Nat × List UInt8} {project : Project}
    (isOpen : server.open? line.1 = some true) (asks : Asks line.2 (.select project)) :
    (server.exchange files line).Selects project := by
  refine ⟨asks, ?_⟩
  have hears := hears_hear server files line.1 line.2
  unfold Exchange.Succeeds exchange
  rw [receive_of_open isOpen]
  cases same : server.hear files line.1 line.2 with
  | mk after reaction =>
    rw [same] at hears
    cases hears with
    | garbled garbled => exact absurd asks.isText garbled
    | blank blank => exact absurd asks (blank.not_asks _)
    | fault cause _ _ none => exact absurd asks (none _)
    | shutdown stops => cases asks.unique stops
    | request request is _ =>
      cases asks.unique is
      exact ⟨_, rfl⟩

theorem current_run {project : Project} :
    (server.run files lines).1.service.projects.current = some project ↔
      LastSelected (server.exchanges files lines) project ∨
        server.service.projects.current = some project ∧
          ∀ exchange ∈ server.exchanges files lines, exchange.KeepsProject := by
  induction lines generalizing server with
  | nil =>
    simp [run, exchanges, not_lastSelected_nil]
  | cons line lines ih =>
    rw [run_cons, exchanges_cons, ih, current_receive, service_accept, lastSelected_cons]
    rw [List.forall_mem_cons, or_and_right, and_assoc, or_assoc]

/-! ### Lines that change nothing -/

def Request.isQuestion : Request → Bool
  | ping | graph _ | tree _ | current => true
  | select _ | clear | shutdown => false

/-- A line is text, and if it is a request, then one that changes nothing. Blank lines, malformed
ones, and those with unknown commands or ill-typed parameters are idle too. -/
def IsIdle (bytes : List UInt8) : Prop :=
  IsText bytes ∧ ∀ request, Asks bytes request → request.isQuestion = true

instance (bytes : List UInt8) : Decidable (IsIdle bytes) :=
  decidable_of_iff (IsText bytes ∧ ∀ request ∈ requestIn? bytes, request.isQuestion = true) <| by
    simp only [IsIdle, asks_iff, Option.mem_def]

/-- **An idle line on a connection that was opened leaves the server as it was.** -/
theorem receive_of_idle {connection : Nat} {bytes : List UInt8} (idle : IsIdle bytes)
    (opened : (server.open? connection).isSome) :
    (server.receive files connection bytes).1 = server := by
  obtain ⟨isOpen, state⟩ := Option.isSome_iff_exists.mp opened
  cases isOpen with
  | false =>
    unfold receive
    rw [state]
  | true =>
    rw [receive_of_open state]
    cases same : server.hear files connection bytes with
    | mk after reaction =>
      have hears := hears_hear server files connection bytes
      rw [same] at hears
      cases hears with
      | garbled garbled => exact absurd idle.1 garbled
      | blank _ => rfl
      | fault cause _ _ _ => rfl
      | shutdown asks => cases idle.2 _ asks
      | request request asks _ =>
        have question := idle.2 request asks
        cases request <;> first | rfl | cases question

theorem open?_run_isSome {connection : Nat} (opened : (server.open? connection).isSome) :
    ((server.run files lines).1.open? connection).isSome := by
  induction lines generalizing server with
  | nil => exact opened
  | cons line lines ih =>
    rw [run_cons]
    refine ih ((receives_receive _ files _ _).open?_isSome ?_)
    by_cases same : connection = line.1
    · subst same
      rwa [accept_of_known opened]
    · rwa [open?_accept_of_ne same]

/-- **Idle lines may be left out of a run.** -/
theorem run_without (opened : ∀ line ∈ lines, (server.open? line.1).isSome) {dropped : Nat → Bool}
    (idle : ∀ place line, lines[place]? = some line → dropped place = true → IsIdle line.2) :
    server.run files (without dropped lines) =
      ((server.run files lines).1, without dropped (server.run files lines).2) := by
  induction lines generalizing server dropped with
  | nil => rfl
  | cons line lines ih =>
    have openedLine := opened line List.mem_cons_self
    have openedRest : ∀ other ∈ lines,
        ((server.receive files line.1 line.2).1.open? other.1).isSome := fun other member =>
      (receives_receive _ files _ _).open?_isSome (opened other (List.mem_cons_of_mem _ member))
    have idleRest : ∀ place other, lines[place]? = some other → dropped (place + 1) = true →
        IsIdle other.2 := fun place other found => idle (place + 1) other found
    have rest := ih openedRest idleRest
    rw [run_cons, accept_of_known openedLine]
    unfold without
    by_cases drop : dropped 0 = true
    · rw [if_pos drop, if_pos drop, ← rest, receive_of_idle (idle 0 line rfl drop) openedLine]
    · rw [if_neg drop, if_neg drop, run_cons, accept_of_known openedLine, rest]

/-- **The project after a run is the one that was named last, unless it was cleared since; there is
none otherwise.** Every other line that is text and does not stop the server leaves the server as it
was, wherever it stands in the run, and leaving out any of these lines changes nothing for the
rest. -/
theorem selection_of_run (opened : ∀ line ∈ lines, server.open? line.1 = some true)
    (unselected : server.service.projects.current = none) :
    (∀ project, (server.run files lines).1.service.projects.current = some project ↔
        LastSelected (server.exchanges files lines) project) ∧
      (∀ before line after, lines = before ++ line :: after → IsIdle line.2 →
        ((server.run files before).1.receive files line.1 line.2).1 =
          (server.run files before).1) ∧
      ∀ dropped : Nat → Bool,
        (∀ place line, lines[place]? = some line → dropped place = true → IsIdle line.2) →
          server.run files (without dropped lines) =
            ((server.run files lines).1, without dropped (server.run files lines).2) := by
  have known : ∀ line ∈ lines, (server.open? line.1).isSome := fun line member => by
    rw [opened line member]
    rfl
  refine ⟨fun project => ?_, fun before line after split idle => ?_, fun dropped idle => ?_⟩
  · simp [current_run, unselected]
  · refine receive_of_idle idle (open?_run_isSome (known line ?_))
    rw [split]
    exact List.mem_append_right _ List.mem_cons_self
  · exact run_without known idle

def asciiBytes (text : String) : List UInt8 := text.toList.map fun c => UInt8.ofNat c.toNat

def smallServer : Server :=
  { service := .ofConfig { start := fun _ _ _ _ => .overtime } {}, connections := [(0, true), (1, true)] }

def namingLine : Nat × List UInt8 := (0, asciiBytes "[\"SET_PROJECT\",[7,\"demo\"]]")

/-- One client names a project, and the other one sends a question, a blank line and a line that is
no request. -/
def smallLines : List (Nat × List UInt8) :=
  [(1, asciiBytes "[\"PING\",null]"), namingLine, (1, asciiBytes " "), (1, asciiBytes "PING")]

/-- The project is the one named, and all lines but the second may be left out. -/
theorem selection_of_small_run :
    (∀ line ∈ smallLines, smallServer.open? line.1 = some true) ∧
      smallServer.service.projects.current = none ∧
      LastSelected (smallServer.exchanges {} smallLines) ⟨7, "demo", ""⟩ ∧
      (smallServer.run {} [namingLine]).1 = (smallServer.run {} smallLines).1 := by
  have opened : ∀ line ∈ smallLines, smallServer.open? line.1 = some true := by
    simp [smallLines, namingLine, smallServer, open?]
  have idle : ∀ place line, smallLines[place]? = some line → (place != 1) = true →
      IsIdle line.2 := by
    intro place line found other
    rcases place with _ | _ | _ | _ | place
    · cases found
      decide +kernel
    · cases other
    · cases found
      decide +kernel
    · cases found
      decide +kernel
    · cases found
  obtain ⟨selected, -, shortened⟩ := selection_of_run opened rfl
  have same : (smallServer.run {} [namingLine]).1 = (smallServer.run {} smallLines).1 := by
    have kept : without (· != 1) smallLines = [namingLine] := by simp [without, smallLines]
    rw [← kept, shortened _ idle]
  have asks : Asks namingLine.2 (.select ⟨7, "demo", ""⟩) := by decide +kernel
  have selects : (smallServer.exchange {} namingLine).Selects ⟨7, "demo", ""⟩ :=
    selects_exchange (opened namingLine (by simp [smallLines])) asks
  refine ⟨opened, rfl, (selected _).mp ?_, same⟩
  rw [← same, current_run, exchanges_cons, lastSelected_cons]
  exact Or.inl (Or.inr ⟨selects, by simp [exchanges]⟩)

end DeclGraph.Server
