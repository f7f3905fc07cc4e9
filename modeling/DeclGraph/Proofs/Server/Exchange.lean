/-
**What passes between a server and its clients.**

* `Asks`, `IsText`, `IsBlank`: what a line says;
* `accept_cases`: a connection is opened, or nothing happens;
* `Hears`, `Receives`: everything that a line on an open connection, and on any one, can do;
* **`hears_hear`**, **`receives_receive`**: a line does one of these things;
* `after`: the server after events of both kinds;
* `Exchange`, `exchanges`: a line on a connection together with what its client sees, and the
  exchanges of a run.
-/

import DeclGraph.Server.Basic

namespace DeclGraph.Server

/-! ### What a line says -/

def IsText (bytes : List UInt8) : Prop := ∃ text, Text.Utf8.decode bytes = .ok text

/-- A line is text without anything but blanks. -/
def IsBlank (bytes : List UInt8) : Prop :=
  ∃ text, Text.Utf8.decode bytes = .ok text ∧ Text.trim text = ""

/-- A line is a request. -/
def Asks (bytes : List UInt8) (request : Request) : Prop :=
  ∃ text, Text.Utf8.decode bytes = .ok text ∧ Request.ofText (Text.trim text) = .ok request

theorem IsBlank.isText {bytes : List UInt8} (blank : IsBlank bytes) : IsText bytes :=
  let ⟨text, decoded, _⟩ := blank
  ⟨text, decoded⟩

theorem Asks.isText {bytes : List UInt8} {request : Request} (asks : Asks bytes request) :
    IsText bytes :=
  let ⟨text, decoded, _⟩ := asks
  ⟨text, decoded⟩

theorem Asks.unique {bytes : List UInt8} {request other : Request} (asks : Asks bytes request)
    (asksOther : Asks bytes other) : request = other := by
  obtain ⟨text, decoded, is⟩ := asks
  obtain ⟨same, decodedSame, isOther⟩ := asksOther
  rw [decoded] at decodedSame
  cases decodedSame
  rw [is] at isOther
  exact Except.ok.inj isOther

def requestIn? (bytes : List UInt8) : Option Request :=
  (Text.Utf8.decode bytes).toOption.bind fun text => (Request.ofText (Text.trim text)).toOption

theorem toOption_eq_some_iff {ε α : Type} {result : Except ε α} {value : α} :
    result.toOption = some value ↔ result = .ok value := by
  cases result <;> simp [Except.toOption]

theorem isText_iff {bytes : List UInt8} :
    IsText bytes ↔ (Text.Utf8.decode bytes).toOption.isSome := by
  simp only [IsText, Option.isSome_iff_exists, toOption_eq_some_iff]

theorem asks_iff {bytes : List UInt8} {request : Request} :
    Asks bytes request ↔ requestIn? bytes = some request := by
  simp only [Asks, requestIn?, Option.bind_eq_some_iff, toOption_eq_some_iff]

instance (bytes : List UInt8) : Decidable (IsText bytes) := decidable_of_iff _ isText_iff.symm

instance (bytes : List UInt8) (request : Request) : Decidable (Asks bytes request) :=
  decidable_of_iff _ asks_iff.symm

theorem ofText_empty : Request.ofText "" = .error .malformed := by
  rfl

theorem IsBlank.not_asks {bytes : List UInt8} (blank : IsBlank bytes) (request : Request) :
    ¬ Asks bytes request := by
  rintro ⟨text, decoded, is⟩
  obtain ⟨same, decodedSame, empty⟩ := blank
  rw [decoded] at decodedSame
  cases decodedSame
  rw [empty, ofText_empty] at is
  cases is

variable {server : Server} {files : FileSystem} {connection : Nat} {bytes : List UInt8}

/-! ### Which connections are open -/

theorem open?_note_self (isOpen : Bool) :
    (server.note connection isOpen).open? connection = some isOpen := by
  simp [open?, note]

theorem open?_note_of_ne {other : Nat} (different : other ≠ connection) (isOpen : Bool) :
    (server.note connection isOpen).open? other = server.open? other := by
  have kept : ((server.connections.filter fun entry => entry.1 != connection).find?
      fun entry => entry.1 == other) = server.connections.find? fun entry => entry.1 == other := by
    rw [List.find?_filter]
    congr 1
    funext entry
    by_cases same : entry.1 = other <;> simp [same, different]
  simp [open?, note, different.symm, kept]

/-! ### Accepted connections -/

/-- **A connection is opened if the server has not stopped; otherwise nothing happens.** -/
theorem accept_cases (server : Server) (connection : Nat) :
    ((server.open? connection).isSome ∨ server.stopped = true) ∧
        server.accept connection = server ∨
      server.open? connection = none ∧ server.stopped = false ∧
        server.accept connection = server.note connection true := by
  unfold accept
  cases state : server.open? connection with
  | some isOpen => exact Or.inl ⟨Or.inl rfl, rfl⟩
  | none =>
    cases stopped : server.stopped with
    | true => exact Or.inl ⟨Or.inr rfl, rfl⟩
    | false => exact Or.inr ⟨rfl, rfl, rfl⟩

theorem accept_of_known (known : (server.open? connection).isSome) :
    server.accept connection = server := by
  rcases server.accept_cases connection with ⟨_, same⟩ | ⟨isNew, _⟩
  · exact same
  · rw [isNew] at known
    cases known

theorem service_accept : (server.accept connection).service = server.service := by
  rcases server.accept_cases connection with ⟨_, same⟩ | ⟨_, _, same⟩
  · rw [same]
  · rw [same]
    rfl

theorem stopped_accept : (server.accept connection).stopped = server.stopped := by
  rcases server.accept_cases connection with ⟨_, same⟩ | ⟨_, _, same⟩
  · rw [same]
  · rw [same]
    rfl

theorem open?_accept_of_ne {other : Nat} (different : other ≠ connection) :
    (server.accept connection).open? other = server.open? other := by
  rcases server.accept_cases connection with ⟨_, same⟩ | ⟨_, _, same⟩ <;> rw [same]
  exact open?_note_of_ne different true

/-! ### One line -/

/-- **What a line on an open connection can do.** -/
inductive Hears (server : Server) (files : FileSystem) (connection : Nat) (bytes : List UInt8) :
    Server × Reaction → Prop
  /-- what is no text closes the connection -/
  | garbled : ¬ IsText bytes →
      Hears server files connection bytes (server.note connection false, .closed)
  /-- a blank line is passed over -/
  | blank : IsBlank bytes → Hears server files connection bytes (server, .silence)
  /-- what is no request is refused -/
  | fault (cause : Fault) : IsText bytes → ¬ IsBlank bytes → (∀ request, ¬ Asks bytes request) →
      Hears server files connection bytes (server, .reply (.error (.fault cause)))
  /-- the server takes leave of the connection -/
  | shutdown : Asks bytes .shutdown →
      Hears server files connection bytes
        (({ server with stopped := true }).note connection false, .reply (.ok .farewell))
  /-- the service answers -/
  | request (request : Request) : Asks bytes request → request ≠ .shutdown →
      Hears server files connection bytes
        ({ server with service := (server.service.respond files request).1 },
          .reply (server.service.respond files request).2)

/-- **A line on an open connection does one of these things.** -/
theorem hears_hear (server : Server) (files : FileSystem) (connection : Nat) (bytes : List UInt8) :
    Hears server files connection bytes (server.hear files connection bytes) := by
  unfold hear
  cases decoded : Text.Utf8.decode bytes with
  | error fault => exact .garbled fun ⟨text, isText⟩ => by rw [decoded] at isText; cases isText
  | ok text =>
    have meaning : ∀ request, Asks bytes request ↔ Request.ofText (Text.trim text) = .ok request := by
      intro request
      simp only [Asks, decoded, Except.ok.injEq, exists_eq_left']
    by_cases empty : Text.trim text = ""
    · simp only [empty]
      exact .blank ⟨text, decoded, empty⟩
    · have notBlank : ¬ IsBlank bytes := by
        simpa only [IsBlank, decoded, Except.ok.injEq, exists_eq_left'] using empty
      simp only [String.isEmpty_iff, empty, if_false]
      unfold answer
      cases is : Request.ofText (Text.trim text) with
      | error cause =>
        refine .fault cause ⟨text, decoded⟩ notBlank fun request asks => ?_
        rw [meaning, is] at asks
        cases asks
      | ok request =>
        have asks := (meaning request).mpr is
        cases request with
        | shutdown => exact .shutdown asks
        | _ => exact .request _ asks (by simp)

namespace Hears

variable {heard : Server × Reaction}

theorem open?_isSome (hears : Hears server files connection bytes heard)
    (opened : (server.open? connection).isSome) : (heard.1.open? connection).isSome := by
  cases hears with
  | garbled _ => rw [open?_note_self]; rfl
  | shutdown _ => rw [open?_note_self]; rfl
  | blank _ | fault _ _ _ _ | request _ _ _ => exact opened

theorem open?_of_ne (hears : Hears server files connection bytes heard) {other : Nat}
    (different : other ≠ connection) : heard.1.open? other = server.open? other := by
  cases hears with
  | garbled _ => exact open?_note_of_ne different false
  | shutdown _ => exact open?_note_of_ne different false
  | blank _ | fault _ _ _ _ | request _ _ _ => rfl

end Hears

theorem receive_of_open (isOpen : server.open? connection = some true) :
    server.receive files connection bytes = server.hear files connection bytes := by
  unfold receive
  rw [isOpen]

/-- **What a line on any connection can do.** -/
inductive Receives (server : Server) (files : FileSystem) (connection : Nat) (bytes : List UInt8) :
    Server × Reaction → Prop
  /-- nobody reads the lines of a connection that was not accepted -/
  | refused : server.open? connection = none →
      Receives server files connection bytes (server, .refused)
  /-- a connection stays closed -/
  | closed : server.open? connection = some false →
      Receives server files connection bytes (server, .closed)
  /-- the line is heard -/
  | heard {heard : Server × Reaction} : server.open? connection = some true →
      Hears server files connection bytes heard → Receives server files connection bytes heard

/-- **A line on any connection does one of these things.** -/
theorem receives_receive (server : Server) (files : FileSystem) (connection : Nat)
    (bytes : List UInt8) :
    Receives server files connection bytes (server.receive files connection bytes) := by
  unfold receive
  cases state : server.open? connection with
  | none => exact .refused state
  | some isOpen =>
    cases isOpen with
    | true => exact .heard state (hears_hear server files connection bytes)
    | false => exact .closed state

/-- A connection that was accepted stays so. -/
theorem Receives.open?_isSome {received : Server × Reaction}
    (receives : Receives server files connection bytes received) {other : Nat}
    (known : (server.open? other).isSome) : (received.1.open? other).isSome := by
  cases receives with
  | refused _ => exact known
  | closed _ => exact known
  | heard isOpen hears =>
    by_cases same : other = connection
    · subst same
      exact hears.open?_isSome known
    · rwa [hears.open?_of_ne same]

/-! ### Runs -/

/-- A line on a connection, and what its client sees. -/
structure Exchange where
  connection : Nat
  bytes : List UInt8
  reaction : Reaction
  deriving Inhabited

def exchange (server : Server) (files : FileSystem) (line : Nat × List UInt8) : Exchange :=
  ⟨line.1, line.2, (server.receive files line.1 line.2).2⟩

/-- The server after many events, during which no file changes. -/
def after (server : Server) (files : FileSystem) : List Event → Server
  | [] => server
  | event :: events => (server.step files event).1.after files events

/-- The exchanges of a run, in the order of its lines. -/
def exchanges (server : Server) (files : FileSystem) (lines : List (Nat × List UInt8)) :
    List Exchange :=
  List.zipWith (fun line reaction => ⟨line.1, line.2, reaction⟩) lines (server.run files lines).2

theorem run_cons (line : Nat × List UInt8) (lines : List (Nat × List UInt8)) :
    server.run files (line :: lines) =
      ((((server.accept line.1).receive files line.1 line.2).1.run files lines).1,
        ((server.accept line.1).receive files line.1 line.2).2 ::
          (((server.accept line.1).receive files line.1 line.2).1.run files lines).2) := rfl

theorem exchanges_cons (line : Nat × List UInt8) (lines : List (Nat × List UInt8)) :
    server.exchanges files (line :: lines) =
      (server.accept line.1).exchange files line ::
        ((server.accept line.1).receive files line.1 line.2).1.exchanges files lines := rfl

end DeclGraph.Server
