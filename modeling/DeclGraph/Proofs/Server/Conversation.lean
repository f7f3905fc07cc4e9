/-
**What a client can count on.**

Whoever knows which connections the server came to and which lines were sent so far can tell what
comes of the next line: which connections are served depends on that history alone, and so do the
lines that get a reply. A connection that the server came to before it stopped is served whenever
its first line is sent; one that it comes to later is not. Files may change between two events.

* `Occurrence`: an event together with what a client sees of it;
* `converse`: the server after many events, each with the files of its time, and their history;
* `Exchange.Stops`, `Opened`, `Ended`: what a history says of the server and its connections;
* `Remembers`: the server knows just that, which every event preserves;
* **`conversation`**: every line of a conversation is replied to, passed over or left unanswered as
  the history before it says, and every reply is one line of JSON.
-/

import DeclGraph.Proofs.Json.RoundTrip
import DeclGraph.Proofs.Server.Exchange

namespace DeclGraph.Server

/-! ### Conversations -/

def atStart (service : Service) : Server := { service := service }

/-- What has come to pass: the server came to a connection, or a line met with a reaction. -/
inductive Occurrence where
  | accept (connection : Nat)
  | exchange (exchange : Exchange)
  deriving Inhabited

def Occurrence.event : Occurrence → Event
  | accept connection => .accept connection
  | exchange seen => .line seen.connection seen.bytes

/-- What an event comes to. -/
def occurrence (server : Server) (files : FileSystem) : Event → Occurrence
  | .accept connection => .accept connection
  | .line connection bytes => .exchange (server.exchange files (connection, bytes))

/-- The server after many events, each with the files that it finds, and their history. -/
def converse (server : Server) : List (FileSystem × Event) → Server × List Occurrence
  | [] => (server, [])
  | (files, event) :: events =>
    let rest := (server.step files event).1.converse events
    (rest.1, server.occurrence files event :: rest.2)

/-! ### What a history says -/

/-- The client asked the server to stop and got a reply. -/
def Exchange.Stops (exchange : Exchange) : Prop :=
  Asks exchange.bytes .shutdown ∧ ∃ reply, exchange.reaction = .reply reply

/-- The line is the last one of its connection that is answered. -/
def Exchange.Closes (exchange : Exchange) : Prop := ¬ IsText exchange.bytes ∨ exchange.Stops

/-- A request for the server to stop was answered. -/
def Stopped (history : List Occurrence) : Prop :=
  ∃ exchange, .exchange exchange ∈ history ∧ exchange.Stops

/-- The server came to a connection before it stopped. -/
def Opened (history : List Occurrence) (connection : Nat) : Prop :=
  ∃ earlier later, history = earlier ++ .accept connection :: later ∧ ¬ Stopped earlier

/-- The last line of an open connection that is answered was sent. -/
def Ended (history : List Occurrence) (connection : Nat) : Prop :=
  ∃ earlier exchange later, history = earlier ++ .exchange exchange :: later ∧
    exchange.connection = connection ∧ Opened earlier connection ∧ exchange.Closes

section Concat

variable {history : List Occurrence} {occurrence : Occurrence} {exchange : Exchange}
  {connection other : Nat}

/-- Something is found in a longer history if it is found in the shorter one or is the last thing
that came to pass. -/
theorem exists_split_concat_iff {found : List Occurrence → Occurrence → Prop} :
    (∃ earlier here later, history ++ [occurrence] = earlier ++ here :: later ∧ found earlier here) ↔
      (∃ earlier here later, history = earlier ++ here :: later ∧ found earlier here) ∨
        found history occurrence := by
  constructor
  · rintro ⟨earlier, here, later, split, holds⟩
    rcases List.eq_nil_or_concat later with rfl | ⟨later, last, rfl⟩
    · obtain ⟨rfl, last⟩ := List.append_inj' split rfl
      cases last
      exact Or.inr holds
    · rw [List.concat_eq_append, ← List.cons_append, ← List.append_assoc] at split
      exact Or.inl ⟨earlier, here, later, (List.append_inj' split rfl).1, holds⟩
  · rintro (⟨earlier, here, later, rfl, holds⟩ | holds)
    · exact ⟨earlier, here, later ++ [occurrence], by simp, holds⟩
    · exact ⟨history, occurrence, [], rfl, holds⟩

theorem opened_iff : Opened history connection ↔ ∃ earlier here later,
    history = earlier ++ here :: later ∧ here = .accept connection ∧ ¬ Stopped earlier := by
  constructor
  · rintro ⟨earlier, later, split, running⟩
    exact ⟨earlier, _, later, split, rfl, running⟩
  · rintro ⟨earlier, _, later, split, rfl, running⟩
    exact ⟨earlier, later, split, running⟩

theorem ended_iff : Ended history connection ↔ ∃ earlier here later,
    history = earlier ++ here :: later ∧ ∃ exchange, here = .exchange exchange ∧
      exchange.connection = connection ∧ Opened earlier connection ∧ exchange.Closes := by
  constructor
  · rintro ⟨earlier, exchange, later, split, holds⟩
    exact ⟨earlier, _, later, split, exchange, rfl, holds⟩
  · rintro ⟨earlier, _, later, split, exchange, rfl, holds⟩
    exact ⟨earlier, exchange, later, split, holds⟩

theorem stopped_concat_accept :
    Stopped (history ++ [.accept connection]) ↔ Stopped history := by
  simp [Stopped]

theorem stopped_concat_exchange :
    Stopped (history ++ [.exchange exchange]) ↔ Stopped history ∨ exchange.Stops := by
  simp [Stopped, or_and_right, exists_or]

theorem opened_concat_accept : Opened (history ++ [.accept other]) connection ↔
    Opened history connection ∨ other = connection ∧ ¬ Stopped history := by
  rw [opened_iff, exists_split_concat_iff, ← opened_iff, Occurrence.accept.injEq]

theorem opened_concat_exchange :
    Opened (history ++ [.exchange exchange]) connection ↔ Opened history connection := by
  rw [opened_iff, exists_split_concat_iff, ← opened_iff]
  simp

theorem ended_concat_accept :
    Ended (history ++ [.accept other]) connection ↔ Ended history connection := by
  rw [ended_iff, exists_split_concat_iff, ← ended_iff]
  simp

theorem ended_concat_exchange : Ended (history ++ [.exchange exchange]) connection ↔
    Ended history connection ∨
      exchange.connection = connection ∧ Opened history connection ∧ exchange.Closes := by
  rw [ended_iff, exists_split_concat_iff, ← ended_iff]
  simp

theorem Opened.append (opened : Opened history connection) (more : List Occurrence) :
    Opened (history ++ more) connection := by
  obtain ⟨earlier, later, rfl, running⟩ := opened
  exact ⟨earlier, later ++ more, by simp, running⟩

theorem Ended.opened (ended : Ended history connection) : Opened history connection := by
  obtain ⟨earlier, exchange, later, rfl, _, opened, _⟩ := ended
  exact opened.append _

end Concat

/-! ### One line -/

section Line

variable {server : Server} {files : FileSystem} {connection : Nat} {bytes : List UInt8}
  {heard : Server × Reaction} {history : List Occurrence}

namespace Hears

theorem stopped_iff (hears : Hears server files connection bytes heard) :
    heard.1.stopped = true ↔
      server.stopped = true ∨ (⟨connection, bytes, heard.2⟩ : Exchange).Stops := by
  cases hears with
  | garbled garbled => simp [Exchange.Stops, note]
  | blank _ => simp [Exchange.Stops]
  | fault cause _ _ none => simp [Exchange.Stops, none]
  | shutdown asks => simp [Exchange.Stops, note, asks]
  | request request asks other =>
    have keeps : ¬ Asks bytes .shutdown := fun stops => other (asks.unique stops)
    simp [Exchange.Stops, keeps]

theorem isOpen_iff (hears : Hears server files connection bytes heard)
    (isOpen : server.open? connection = some true) :
    heard.1.open? connection = some true ↔
      ¬ (⟨connection, bytes, heard.2⟩ : Exchange).Closes := by
  cases hears with
  | garbled garbled => simp [Exchange.Closes, open?_note_self, garbled]
  | blank blank => simp [Exchange.Closes, Exchange.Stops, isOpen, blank.isText]
  | fault cause isText _ none => simp [Exchange.Closes, Exchange.Stops, isOpen, isText, none]
  | shutdown asks => simp [Exchange.Closes, Exchange.Stops, open?_note_self, asks]
  | request request asks other =>
    have keeps : ¬ Asks bytes .shutdown := fun stops => other (asks.unique stops)
    have same : ({ server with service := (server.service.respond files request).1 } : Server).open?
        connection = some true := isOpen
    simp [Exchange.Closes, Exchange.Stops, same, asks.isText, keeps]

end Hears

/-- **A server knows of what came to pass which of its connections it serves.** -/
structure Remembers (server : Server) (history : List Occurrence) : Prop where
  stopped : server.stopped = true ↔ Stopped history
  known : ∀ connection, (server.open? connection).isSome ↔ Opened history connection
  isOpen : ∀ connection, server.open? connection = some true ↔
    Opened history connection ∧ ¬ Ended history connection

theorem remembers_atStart (service : Service) : Remembers (atStart service) [] := by
  have never : ∀ connection, ¬ Opened [] connection := by
    rintro connection ⟨earlier, later, split, _⟩
    cases earlier <;> cases split
  refine ⟨?_, fun connection => ?_, fun connection => ?_⟩
  · simp [atStart, Stopped]
  · simp [atStart, open?, never]
  · simp [atStart, open?, never]

namespace Remembers

theorem shut_iff (remembers : Remembers server history) :
    server.open? connection = some false ↔ Ended history connection := by
  have known := remembers.known connection
  have isOpen := remembers.isOpen connection
  have opened : Ended history connection → Opened history connection := Ended.opened
  cases state : server.open? connection with
  | none => simp_all
  | some isOpen => cases isOpen <;> simp_all

theorem new_iff (remembers : Remembers server history) :
    server.open? connection = none ↔ ¬ Opened history connection := by
  rw [← remembers.known connection, Option.not_isSome_iff_eq_none]

/-- **After it came to a connection the server still remembers.** -/
theorem accept (remembers : Remembers server history) (connection : Nat) :
    Remembers (server.accept connection) (history ++ [.accept connection]) := by
  have unstopped : (server.accept connection).stopped = true ↔
      Stopped (history ++ [.accept connection]) := by
    rw [stopped_accept, remembers.stopped, stopped_concat_accept]
  rcases server.accept_cases connection with ⟨settled, same⟩ | ⟨isNew, running, same⟩
  · have opened : ∀ other, Opened (history ++ [.accept connection]) other ↔
        Opened history other := by
      intro other
      rw [opened_concat_accept, or_iff_left_iff_imp]
      rintro ⟨rfl, running⟩
      rcases settled with known | stopped
      · exact (remembers.known _).mp known
      · exact absurd (remembers.stopped.mp stopped) running
    refine ⟨unstopped, fun other => ?_, fun other => ?_⟩
    · rw [same, opened, remembers.known]
    · rw [same, opened, ended_concat_accept, remembers.isOpen]
  · have fresh : ¬ Stopped history := by simp [← remembers.stopped, running]
    have unended : ¬ Ended history connection := fun ended =>
      remembers.new_iff.mp isNew ended.opened
    refine ⟨unstopped, fun other => ?_, fun other => ?_⟩
    · rw [same, opened_concat_accept]
      by_cases here : connection = other
      · subst here
        simp [open?_note_self, fresh]
      · rw [open?_note_of_ne (Ne.symm here), remembers.known]
        simp [here]
    · rw [same, opened_concat_accept, ended_concat_accept]
      by_cases here : connection = other
      · subst here
        simp [open?_note_self, fresh, unended]
      · rw [open?_note_of_ne (Ne.symm here), remembers.isOpen]
        simp [here]

/-- **After every line the server still remembers.** -/
theorem receive (remembers : Remembers server history) (files : FileSystem)
    (line : Nat × List UInt8) :
    Remembers (server.receive files line.1 line.2).1
      (history ++ [.exchange (server.exchange files line)]) := by
  have receives := receives_receive server files line.1 line.2
  unfold exchange
  generalize server.receive files line.1 line.2 = received at receives
  cases receives with
  | refused isNew =>
    have never := remembers.new_iff.mp isNew
    refine ⟨?_, fun connection => ?_, fun connection => ?_⟩
    · rw [stopped_concat_exchange, remembers.stopped]
      simp [Exchange.Stops]
    · rw [opened_concat_exchange, remembers.known]
    · rw [opened_concat_exchange, ended_concat_exchange, remembers.isOpen]
      by_cases same : line.1 = connection
      · subst same
        simp [never]
      · simp [same]
  | closed isShut =>
    have ended := remembers.shut_iff.mp isShut
    refine ⟨?_, fun connection => ?_, fun connection => ?_⟩
    · rw [stopped_concat_exchange, remembers.stopped]
      simp [Exchange.Stops]
    · rw [opened_concat_exchange, remembers.known]
    · rw [opened_concat_exchange, ended_concat_exchange, remembers.isOpen]
      by_cases same : line.1 = connection
      · subst same
        simp [ended]
      · simp [same]
  | heard isOpen hears =>
    obtain ⟨opened, goesOn⟩ := (remembers.isOpen line.1).mp isOpen
    refine ⟨?_, fun connection => ?_, fun connection => ?_⟩
    · rw [stopped_concat_exchange, hears.stopped_iff, remembers.stopped]
    · rw [opened_concat_exchange]
      by_cases same : line.1 = connection
      · subst same
        have known := hears.open?_isSome (by rw [isOpen]; rfl)
        simp [known, opened]
      · rw [hears.open?_of_ne (Ne.symm same), remembers.known]
    · rw [opened_concat_exchange, ended_concat_exchange]
      by_cases same : line.1 = connection
      · subst same
        rw [hears.isOpen_iff isOpen]
        simp [opened, goesOn]
      · rw [hears.open?_of_ne (Ne.symm same), remembers.isOpen]
        simp [same]

/-- **After every event the server still remembers.** -/
theorem step (remembers : Remembers server history) (files : FileSystem) (event : Event) :
    Remembers (server.step files event).1 (history ++ [server.occurrence files event]) := by
  cases event with
  | accept connection => exact remembers.accept connection
  | line connection bytes => exact remembers.receive files (connection, bytes)

end Remembers

/-- **What the client sees, from the history before.** -/
structure Follows (history : List Occurrence) (exchange : Exchange) : Prop where
  /-- a connection that the server did not come to before it stopped is not served -/
  refused_iff : exchange.reaction = .refused ↔ ¬ Opened history exchange.connection
  /-- a connection is closed by a line that is no text, and behind its last line -/
  closed_iff : exchange.reaction = .closed ↔ Opened history exchange.connection ∧
    (Ended history exchange.connection ∨ ¬ IsText exchange.bytes)
  /-- blank lines are passed over -/
  silence_iff : exchange.reaction = .silence ↔ Opened history exchange.connection ∧
    ¬ Ended history exchange.connection ∧ IsBlank exchange.bytes
  /-- all other lines that are text are replied to, whether the server has stopped since or not -/
  reply_iff : (∃ reply, exchange.reaction = .reply reply) ↔ Opened history exchange.connection ∧
    ¬ Ended history exchange.connection ∧ IsText exchange.bytes ∧ ¬ IsBlank exchange.bytes

theorem Remembers.follows (remembers : Remembers server history) (line : Nat × List UInt8) :
    Follows history (server.exchange files line) := by
  have receives := receives_receive server files line.1 line.2
  unfold exchange
  generalize server.receive files line.1 line.2 = received at receives
  cases receives with
  | refused isNew =>
    have never := remembers.new_iff.mp isNew
    constructor <;> simp [never]
  | closed isShut =>
    have ended := remembers.shut_iff.mp isShut
    constructor <;> simp [ended, ended.opened]
  | heard isOpen hears =>
    obtain ⟨opened, goesOn⟩ := (remembers.isOpen line.1).mp isOpen
    cases hears with
    | garbled garbled =>
      have unread : ¬ IsBlank line.2 := fun blank => garbled blank.isText
      constructor <;> simp [opened, goesOn, garbled, unread]
    | blank blank => constructor <;> simp [opened, goesOn, blank, blank.isText]
    | fault cause isText notBlank _ => constructor <;> simp [opened, goesOn, isText, notBlank]
    | shutdown asks =>
      have notBlank : ¬ IsBlank line.2 := fun blank => blank.not_asks _ asks
      constructor <;> simp [opened, goesOn, asks.isText, notBlank]
    | request request asks _ =>
      have notBlank : ¬ IsBlank line.2 := fun blank => blank.not_asks _ asks
      constructor <;> simp [opened, goesOn, asks.isText, notBlank]

end Line

/-! ### Whole conversations -/

section Conversation

variable {server : Server} {history : List Occurrence}

/-- Every event has come to pass, in the order of the events. -/
theorem map_converse (events : List (FileSystem × Event)) :
    (server.converse events).2.map Occurrence.event = events.map Prod.snd := by
  induction events generalizing server with
  | nil => rfl
  | cons event events ih =>
    obtain ⟨files, event⟩ := event
    rw [converse, List.map_cons, ih, List.map_cons]
    cases event <;> rfl

theorem converse_append (first second : List (FileSystem × Event)) :
    server.converse (first ++ second) =
      (((server.converse first).1.converse second).1,
        (server.converse first).2 ++ ((server.converse first).1.converse second).2) := by
  induction first generalizing server with
  | nil => rfl
  | cons event first ih => rw [List.cons_append, converse, converse, ih]; rfl

theorem Remembers.converse (remembers : Remembers server history)
    (events : List (FileSystem × Event)) :
    Remembers (server.converse events).1 (history ++ (server.converse events).2) := by
  induction events generalizing server history with
  | nil => simpa [Server.converse] using remembers
  | cons event events ih =>
    have after := ih (remembers.step event.1 event.2)
    rwa [List.append_assoc, List.singleton_append] at after

theorem Remembers.follows_converse (remembers : Remembers server history)
    {events : List (FileSystem × Event)} {before after : List Occurrence}
    {exchange : Exchange} (split : (server.converse events).2 = before ++ .exchange exchange :: after) :
    Follows (history ++ before) exchange := by
  induction events generalizing server history before with
  | nil => cases before <;> cases split
  | cons event events ih =>
    obtain ⟨files, event⟩ := event
    rw [Server.converse] at split
    cases before with
    | nil =>
      rw [List.nil_append, List.cons.injEq] at split
      rw [List.append_nil]
      cases event with
      | accept connection => cases split.1
      | line connection bytes =>
        rw [← Occurrence.exchange.inj split.1]
        exact remembers.follows (connection, bytes)
    | cons first before =>
      rw [List.cons_append, List.cons.injEq] at split
      have follows := ih (remembers.step files event) split.2
      rwa [split.1, List.append_assoc, List.singleton_append] at follows

/-- **A reply is one line of JSON.** -/
theorem line_isJson (reply : Reply) :
    Json.Printable reply.line ∧
      Json.Syntax.ofText? reply.line = some reply.toJson.sorted.toSyntax :=
  ⟨Json.printable_compact _, Json.ofText?_compact _⟩

/-- **Every line of a conversation meets with what the history before it calls for.** The history
has one occurrence for each event, in the same order. A line on a connection that the server came to
before it stopped is replied to exactly once if it is text and not blank, until the connection ends;
a line on any other connection is not. A reply is a text without control characters, hence without
line breaks, and reads back as JSON. The server has stopped if and only if a request for it to stop
was answered, and does not start again. -/
theorem conversation (service : Service) (events : List (FileSystem × Event)) :
    ((atStart service).converse events).2.map Occurrence.event = events.map Prod.snd ∧
      (∀ before exchange after,
        ((atStart service).converse events).2 = before ++ .exchange exchange :: after →
          Follows before exchange) ∧
      (∀ exchange, .exchange exchange ∈ ((atStart service).converse events).2 → ∀ reply : Reply,
        exchange.reaction = .reply reply →
          Json.Printable reply.line ∧
            Json.Syntax.ofText? reply.line = some reply.toJson.sorted.toSyntax) ∧
      (((atStart service).converse events).1.stopped = true ↔
        ∃ exchange, .exchange exchange ∈ ((atStart service).converse events).2 ∧ exchange.Stops) ∧
      ∀ more, ((atStart service).converse events).1.stopped = true →
        ((atStart service).converse (events ++ more)).1.stopped = true := by
  have stoppedIff : ∀ events, ((atStart service).converse events).1.stopped = true ↔
      Stopped ((atStart service).converse events).2 := fun events =>
    ((remembers_atStart service).converse events).stopped
  refine ⟨map_converse events, fun before exchange after split => ?_,
    fun _ _ reply _ => line_isJson reply, stoppedIff events, fun more stopped => ?_⟩
  · simpa using (remembers_atStart service).follows_converse split
  · obtain ⟨stop, member, stops⟩ := (stoppedIff events).mp stopped
    rw [stoppedIff, converse_append]
    exact ⟨stop, List.mem_append_left _ member, stops⟩

end Conversation

end DeclGraph.Server
