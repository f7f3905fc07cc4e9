/-
**The root of all projects.**

A client names a project, and the name is joined to the root of all projects. As long as the names
stay inside that root, so does everything that is told while a project is active: the directory of
the project, what is listed, and the files whose graphs are told.

* `Entry.Within`: an entry at any depth of some trees;
* `Config.Admits`: the names of projects that stay inside the root of all projects;
* `Service.Serves`: a service as a configuration has it, for an admitted project or none;
* **`Server.serves_after`**: a server serves after any events in which admitted projects only are
  named;
* `Server.StaysInside`: what is told on a line;
* **`replies_stay_inside`**: which names are admitted, and what is told when all names are;
* **`escaping_name_told`**: a name that is not admitted.
-/

import DeclGraph.Proofs.FileSystem.Places
import DeclGraph.Proofs.Project.Confinement
import DeclGraph.Proofs.Server.Selection
import DeclGraph.Proofs.Tree.Level
import DeclGraph.Proofs.Tree.Origin

namespace DeclGraph

open FileSystem

variable {files other : FileSystem} {base root path : Path}

/-! ### What is listed inside a base -/

/-- **An entry stands somewhere in trees.** -/
inductive Entry.Within (entry : Entry) : List Entry → Prop
  | here {trees : List Entry} : entry ∈ trees → Within entry trees
  | deeper {parent : Entry} {children trees : List Entry} : parent ∈ trees →
      parent.children = some children → Within entry children → Within entry trees

theorem Entry.not_within_nil (entry : Entry) : ¬ entry.Within [] := by
  intro within
  cases within with
  | here member => cases member
  | deeper member => cases member

theorem Tree.Grown.inside {isLink : Path → Bool} {entries tree : List Entry}
    (grown : Tree.Grown isLink
      (fun directory tree => directory.Inside base →
        ∀ entry : Entry, entry.Within tree → entry.path.Inside base) entries tree)
    (fresh : ∀ entry ∈ entries, entry.Fresh) (inside : ∀ entry ∈ entries, entry.path.Inside base)
    {entry : Entry} (within : entry.Within tree) : entry.path.Inside base := by
  have placed : ∀ entry ∈ tree, entry.path.Inside base :=
    grown.forall_mem (fun entry _ _ inside => by cases entry; exact inside) inside
  cases within with
  | here member => exact placed entry member
  | deeper member isParent deeper =>
    rcases grown.children_cases fresh member isParent with rfl | below
    · exact absurd deeper entry.not_within_nil
    · exact below (placed _ member) entry deeper

/-- **What is listed below a directory that stays inside a base stays inside it.** -/
theorem Tree.Builder.inside_of_list (proper : files.Proper) {builder : Tree.Builder}
    {tree : List Entry} (lists : builder.list files root = .ok tree) (inside : root.Inside base)
    {entry : Entry} (within : entry.Within tree) : entry.path.Inside base := by
  unfold list at lists
  split_ifs at lists
  refine Tree.list_induction (motive := fun directory tree => directory.Inside base →
    ∀ entry : Entry, entry.Within tree → entry.path.Inside base) ?_ lists inside entry within
  intro directory entries tree reads grown inside entry within
  refine grown.inside (fun entry => fresh_of_mem_level reads) (fun entry member => ?_) within
  obtain ⟨isName, path⟩ := spelled_of_mem_level proper reads member
  rw [path]
  exact inside.join isName

/-- What is listed depends on the contents of no file. -/
theorem FileSystem.AgreeOn.list_eq {watched : Location → Prop} (agree : AgreeOn watched files other)
    (distinct : (files.items.map Prod.fst).Nodup) (distinctOther : (other.items.map Prod.fst).Nodup)
    (builder : Tree.Builder) (root : Path) : builder.list other root = builder.list files root := by
  have levels : builder.level other = builder.level files :=
    funext (agree.level_eq distinct distinctOther builder)
  have links : other.isLink = files.isLink := funext agree.isLink_eq
  unfold Tree.Builder.list
  rw [agree.isDirectory_eq, links, levels]

/-! ### Names of projects -/

/-- **The names of projects that stay inside the root of all projects**: relative ones that never
climb out, and absolute ones that are already spelled inside. -/
def Config.Admits (config : Config) (name : String) : Prop :=
  (⟨name⟩ : Path).isAbsolute = false ∧ (⟨name⟩ : Path).neverClimbs = true ∨
    (⟨name⟩ : Path).isAbsolute = true ∧ (⟨name⟩ : Path).Inside config.projectsRoot

instance (config : Config) (name : String) : Decidable (config.Admits name) :=
  inferInstanceAs (Decidable (_ ∧ _ ∨ _ ∧ _))

theorem Config.inside_iff_admits (config : Config) (project : Project) :
    (config.contextOf project).root.Inside config.projectsRoot ↔ config.Admits project.name :=
  Path.inside_join_iff

/-! ### Services for admitted projects -/

namespace Service

variable {launcher : Launcher} {config : Config} {service : Service} {project : Project}

/-- **A service as a configuration has it**, for an admitted project or none. -/
def Serves (launcher : Launcher) (config : Config) (service : Service) : Prop :=
  service = .ofConfig launcher config ∨
    ∃ project, service = .forProject launcher config project ∧ config.Admits project.name

namespace Serves

theorem projectsRoot (serves : service.Serves launcher config) :
    service.projects.projectsRoot = config.projectsRoot := by
  rcases serves with rfl | ⟨project, rfl, _⟩ <;> rfl

/-- The project that a service is for. -/
theorem of_current (serves : service.Serves launcher config)
    (active : service.projects.current.isSome) :
    ∃ project, service = .forProject launcher config project ∧ config.Admits project.name := by
  rcases serves with rfl | there
  · cases active
  · exact there

/-- A request for an admitted project, or any other one, leaves a service that serves. -/
theorem respond (serves : service.Serves launcher config) (files : FileSystem)
    {request : Server.Request}
    (admitted : ∀ project, request = .select project → config.Admits project.name) :
    (service.respond files request).1.Serves launcher config := by
  cases request with
  | select project =>
    refine Or.inr ⟨project, ?_, admitted project rfl⟩
    rcases serves with rfl | ⟨before, rfl, _⟩ <;> rfl
  | clear =>
    refine Or.inl ?_
    rcases serves with rfl | ⟨before, rfl, _⟩ <;> rfl
  | ping | graph _ | tree _ | current | shutdown => exact serves

end Serves

/-- The places in an admitted project lie below the root of all projects. -/
theorem isPrefix_of_holds (free : files.LinkFree) (admits : config.Admits project.name)
    {location : Location} (holds : (config.contextOf project).Holds files location) :
    files.placeOf config.projectsRoot <+: location := by
  obtain ⟨root, leads, below⟩ := holds
  exact (free.isPrefix_of_inside ((config.inside_iff_admits project).mpr admits) leads).trans below

/-- **With an active project, the contents of files elsewhere do not matter for any request.** -/
theorem respond_eq (confines : config.confinesPaths = true) (proper : files.Proper)
    (distinct : (files.items.map Prod.fst).Nodup) (free : files.LinkFree)
    (reads : launcher.ReadsGivenFile config.parser) (admits : config.Admits project.name)
    (distinctOther : (other.items.map Prod.fst).Nodup)
    (agree : AgreeOn (files.placeOf config.projectsRoot <+: ·) files other)
    (request : Server.Request) :
    (forProject launcher config project).respond other request =
      (forProject launcher config project).respond files request := by
  cases request with
  | graph path =>
    have same : (forProject launcher config project).graph other path =
        (forProject launcher config project).graph files path :=
      (graph_confined confines proper reads).2.2.mono
        (fun _ => isPrefix_of_holds free admits) other agree
    show (_, Server.Reply.ofResult _ _) = (_, Server.Reply.ofResult _ _)
    rw [same]
  | tree language =>
    have same : (forProject launcher config project).tree other language =
        (forProject launcher config project).tree files language :=
      agree.list_eq distinct distinctOther _ _
    show (_, Server.Reply.ofResult _ _) = (_, Server.Reply.ofResult _ _)
    rw [same]
  | ping | select _ | clear | current | shutdown => rfl

/-- **With an active project, a graph is that of a file below the root of all projects.** -/
theorem extract_of_graph (confines : config.confinesPaths = true) (proper : files.Proper)
    (free : files.LinkFree) (admits : config.Admits project.name) {graph : Graph}
    (tells : (forProject launcher config project).graph files path = .ok graph) :
    ∃ location, files.placeOf config.projectsRoot <+: location ∧
      (forProject launcher config project).registry.extract files (pathOf location) =
        .ok graph := by
  by_cases inside : ∃ location,
      files.locate ((config.contextOf project).resolve path) = .ok location ∧
        (config.contextOf project).Holds files location
  · obtain ⟨location, leads, holds⟩ := inside
    rw [graph_eq_of_confines confines, ProjectContext.confine_of_holds proper leads holds] at tells
    exact ⟨location, isPrefix_of_holds free admits holds, tells⟩
  · have outside := graph_of_not_holds launcher project path confines proper
      fun location leads holds => inside ⟨location, leads, holds⟩
    obtain ⟨⟨error, fails, _⟩, _⟩ := outside
    rw [fails] at tells
    cases tells

/-! ### What an answer says about its request -/

section Answers

variable {request : Server.Request}

theorem ofResult_eq_ok_iff {α : Type} {answer : α → Server.Answer} {result : Except Error α}
    {told : Server.Answer} : Server.Reply.ofResult answer result = .ok told ↔
      ∃ value, result = .ok value ∧ answer value = told := by
  cases result <;> simp [Server.Reply.ofResult]

theorem ofResult_diagram_inj {first second : Except Error Graph}
    (same : Server.Reply.ofResult .diagram first = Server.Reply.ofResult .diagram second) :
    first = second := by
  cases first <;> cases second <;> cases same <;> rfl

theorem graph_eq_of_respond_eq
    (same : (service.respond other (.graph path)).2 = (service.respond files (.graph path)).2) :
    service.graph other path = service.graph files path :=
  ofResult_diagram_inj same

theorem select_of_root (answers : (service.respond files request).2 = .ok (.root root)) :
    ∃ project, request = .select project ∧
      root = (ProjectContext.ofProject project service.projects.projectsRoot).root := by
  cases request with
  | select project =>
    cases answers
    exact ⟨project, rfl, rfl⟩
  | graph _ | tree _ =>
    obtain ⟨_, _, same⟩ := ofResult_eq_ok_iff.mp answers
    cases same
  | ping | clear | current | shutdown => cases answers

theorem tree_of_entries {entries : List Entry}
    (answers : (service.respond files request).2 = .ok (.entries entries)) :
    ∃ language, service.tree files language = .ok entries := by
  cases request with
  | tree language =>
    obtain ⟨_, lists, same⟩ := ofResult_eq_ok_iff.mp answers
    cases same
    exact ⟨language, lists⟩
  | graph _ =>
    obtain ⟨_, _, same⟩ := ofResult_eq_ok_iff.mp answers
    cases same
  | ping | select _ | clear | current | shutdown => cases answers

theorem graph_of_diagram {graph : Graph}
    (answers : (service.respond files request).2 = .ok (.diagram graph)) :
    ∃ path, service.graph files path = .ok graph := by
  cases request with
  | graph path =>
    obtain ⟨_, tells, same⟩ := ofResult_eq_ok_iff.mp answers
    cases same
    exact ⟨path, tells⟩
  | tree _ =>
    obtain ⟨_, _, same⟩ := ofResult_eq_ok_iff.mp answers
    cases same
  | ping | select _ | clear | current | shutdown => cases answers

end Answers

end Service

/-! ### Servers -/

namespace Server

variable {launcher : Launcher} {config : Config} {server : Server} {connection : Nat}
  {bytes : List UInt8} {events : List Event}

/-- A line that is answered is a request, and answered by the service. -/
theorem exists_request_of_reply {answer : Answer}
    (replies : (server.receive files connection bytes).2 = .reply (.ok answer)) :
    ∃ request, Asks bytes request ∧ (server.service.respond files request).2 = .ok answer := by
  have receives := receives_receive server files connection bytes
  generalize server.receive files connection bytes = received at receives replies
  cases receives with
  | refused _ => cases replies
  | closed _ => cases replies
  | heard _ hears =>
    cases hears with
    | garbled _ => cases replies
    | blank _ => cases replies
    | fault _ _ _ _ => cases replies
    | shutdown asks =>
      cases replies
      exact ⟨.shutdown, asks, rfl⟩
    | request request asks _ => exact ⟨request, asks, Reaction.reply.inj replies⟩

/-- File systems matter to a server as far as they matter to its service. -/
theorem receive_eq_of_respond_eq (same : ∀ request,
      server.service.respond other request = server.service.respond files request) :
    server.receive other connection bytes = server.receive files connection bytes := by
  have answers : ∀ line,
      server.answer other connection line = server.answer files connection line := by
    intro line
    unfold answer
    simp only [same]
  have hears : server.hear other connection bytes = server.hear files connection bytes := by
    unfold hear
    simp only [answers]
  unfold receive
  rw [hears]

/-- A line that names an admitted project, or none, leaves a server that serves. -/
theorem serves_receive (serves : server.service.Serves launcher config)
    (admitted : ∀ project, Asks bytes (.select project) → config.Admits project.name) :
    (server.receive files connection bytes).1.service.Serves launcher config := by
  have receives := receives_receive server files connection bytes
  generalize server.receive files connection bytes = received at receives
  cases receives with
  | refused _ => exact serves
  | closed _ => exact serves
  | heard _ hears =>
    cases hears with
    | garbled _ | blank _ | fault _ _ _ _ | shutdown _ => exact serves
    | request request asks _ =>
      refine serves.respond files fun project is => admitted project ?_
      rw [← is]
      exact asks

/-- All projects that are named in some events are admitted. -/
def NamesAdmitted (config : Config) (events : List Event) : Prop :=
  ∀ connection bytes, .line connection bytes ∈ events → ∀ project, Asks bytes (.select project) →
    config.Admits project.name

/-- An event in which an admitted project is named, or none, leaves a server that serves. -/
theorem serves_step (serves : server.service.Serves launcher config) {event : Event}
    (admitted : NamesAdmitted config [event]) :
    (server.step files event).1.service.Serves launcher config := by
  cases event with
  | accept connection =>
    show (server.accept connection).service.Serves launcher config
    rwa [service_accept]
  | line connection bytes =>
    exact serves_receive serves (admitted connection bytes (List.mem_singleton_self _))

/-- **A server serves after any events in which admitted projects only are named.** -/
theorem serves_after (serves : server.service.Serves launcher config)
    (admitted : NamesAdmitted config events) :
    (server.after files events).service.Serves launcher config := by
  induction events generalizing server with
  | nil => exact serves
  | cons event events ih =>
    refine ih (serves_step serves fun connection bytes is => ?_) fun connection bytes is => ?_
    · exact admitted connection bytes (List.mem_cons.mpr (Or.inl (List.mem_singleton.mp is)))
    · exact admitted connection bytes (List.mem_cons_of_mem _ is)

/-- **What is told on a line stays inside the root of all projects.** -/
structure StaysInside (config : Config) (files : FileSystem) (server : Server)
    (line : Nat × List UInt8) : Prop where
  /-- the directory of the active project -/
  active : ∀ context, server.service.projects.context? = some context →
    context.root.Inside config.projectsRoot
  /-- the directory that is reported for a new project -/
  reported : ∀ root, (server.receive files line.1 line.2).2 = .reply (.ok (.root root)) →
    root.Inside config.projectsRoot
  /-- everything that is listed -/
  listed : ∀ entries, (server.receive files line.1 line.2).2 = .reply (.ok (.entries entries)) →
    ∀ entry : Entry, entry.Within entries → entry.path.Inside config.projectsRoot ∧
      ∀ follow location, files.resolve follow entry.path = .ok location →
        files.placeOf config.projectsRoot <+: location
  /-- the file whose graph is told -/
  told : server.service.projects.current.isSome → ∀ graph,
    (server.receive files line.1 line.2).2 = .reply (.ok (.diagram graph)) →
      ∃ location, files.placeOf config.projectsRoot <+: location ∧
        server.service.registry.extract files (pathOf location) = .ok graph
  /-- files elsewhere may hold anything -/
  unread : server.service.projects.current.isSome → ∀ other,
    (other.items.map Prod.fst).Nodup →
      AgreeOn (files.placeOf config.projectsRoot <+: ·) files other →
        (server.receive other line.1 line.2).2 = (server.receive files line.1 line.2).2

theorem staysInside_of_serves (confines : config.confinesPaths = true) (proper : files.Proper)
    (distinct : (files.items.map Prod.fst).Nodup) (free : files.LinkFree)
    (reads : launcher.ReadsGivenFile config.parser) (serves : server.service.Serves launcher config)
    (line : Nat × List UInt8)
    (admitted : ∀ project, Asks line.2 (.select project) → config.Admits project.name) :
    StaysInside config files server line where
  active := by
    intro context isContext
    obtain ⟨project, current, rfl⟩ := Option.map_eq_some_iff.mp isContext
    obtain ⟨_, same, admits⟩ := serves.of_current (Option.isSome_of_eq_some current)
    rw [same] at current ⊢
    cases current
    exact (config.inside_iff_admits project).mpr admits
  reported := by
    intro root replies
    obtain ⟨request, asks, answers⟩ := exists_request_of_reply replies
    obtain ⟨project, rfl, rfl⟩ := Service.select_of_root answers
    rw [serves.projectsRoot]
    exact (config.inside_iff_admits project).mpr (admitted project asks)
  listed := by
    intro entries replies entry within
    obtain ⟨request, _, answers⟩ := exists_request_of_reply replies
    obtain ⟨language, lists⟩ := Service.tree_of_entries answers
    have inside : entry.path.Inside config.projectsRoot := by
      rcases serves with same | ⟨project, same, admits⟩ <;> rw [same] at lists
      · cases lists
      · exact Tree.Builder.inside_of_list proper lists
          ((config.inside_iff_admits project).mpr admits) within
    exact ⟨inside, fun follow location leads => free.isPrefix_of_inside inside leads⟩
  told := by
    intro active graph replies
    obtain ⟨request, _, answers⟩ := exists_request_of_reply replies
    obtain ⟨path, tells⟩ := Service.graph_of_diagram answers
    obtain ⟨project, same, admits⟩ := serves.of_current active
    rw [same] at tells ⊢
    exact Service.extract_of_graph confines proper free admits tells
  unread := by
    intro active other distinctOther agree
    obtain ⟨project, same, admits⟩ := serves.of_current active
    refine congrArg Prod.snd (receive_eq_of_respond_eq fun request => ?_)
    rw [same]
    exact Service.respond_eq confines proper distinct free reads admits distinctOther agree request

/-- **Which names stay inside the root of all projects, and what is told when all names do.** A name
stays inside exactly if it is relative and never climbs out, or absolute and already spelled inside.
Whatever connections a server comes to and whatever lines are sent on them, if all projects that are
named have such names, then everything that is told stays inside: the directories of projects,
everything that is listed, and the files whose graphs are told; and with an active project files
elsewhere may hold anything. -/
theorem replies_stay_inside (launcher : Launcher) (config : Config) (files : FileSystem)
    (server : Server) (events : List Event) (confines : config.confinesPaths = true)
    (proper : files.Proper) (distinct : (files.items.map Prod.fst).Nodup) (free : files.LinkFree)
    (reads : launcher.ReadsGivenFile config.parser)
    (starts : server.service = .ofConfig launcher config)
    (admitted : NamesAdmitted config events) :
    (∀ project, (config.contextOf project).root.Inside config.projectsRoot ↔
        config.Admits project.name) ∧
      ∀ before connection bytes after, events = before ++ .line connection bytes :: after →
        StaysInside config files (server.after files before) (connection, bytes) := by
  refine ⟨config.inside_iff_admits, ?_⟩
  rintro before connection bytes after rfl
  refine staysInside_of_serves confines proper distinct free reads
    (serves_after (Or.inl starts) fun other line is => ?_) (connection, bytes) ?_
  · exact admitted other line (List.mem_append_left _ is)
  · exact admitted connection bytes (List.mem_append_right _ List.mem_cons_self)

/-! ### Examples -/

/-- A request on an open connection is answered by the service. -/
theorem receive_of_asks {request : Request} (isOpen : server.open? connection = some true)
    (asks : Asks bytes request) (other : request ≠ .shutdown) :
    server.receive files connection bytes =
      ({ server with service := (server.service.respond files request).1 },
        .reply (server.service.respond files request).2) := by
  have hears := hears_hear server files connection bytes
  rw [receive_of_open isOpen]
  generalize server.hear files connection bytes = heard at hears
  cases hears with
  | garbled garbled => exact absurd asks.isText garbled
  | blank blank => exact absurd asks (blank.not_asks _)
  | fault cause _ _ none => exact absurd asks (none _)
  | shutdown stops => exact absurd (asks.unique stops) other
  | request same is _ =>
    cases asks.unique is
    rfl

/-- A project beside a file that is in no project. -/
def openFiles (secret : String) : FileSystem where
  items := [
    (["projects"], .directory false),
    (["projects", "demo"], .directory false),
    (["projects", "demo", "a.py"], .file [] false),
    (["secret.py"], .file (asciiBytes secret) false)]

theorem item?_openFiles (secret : String) {location : Location}
    (elsewhere : location ≠ ["secret.py"]) :
    (openFiles secret).item? location = (openFiles "").item? location := by
  have passed : (["secret.py"] == location) = false := beq_eq_false_iff_ne.mpr elsewhere.symm
  simp only [openFiles, item?, List.find?_cons, passed, List.find?_nil]

theorem agreeOn_openFiles (secret : String) :
    AgreeOn (["projects"] <+: ·) (openFiles secret) (openFiles "") := by
  refine ⟨rfl, fun location => ?_, fun location below => (item?_openFiles secret ?_).symm⟩
  · by_cases elsewhere : location = ["secret.py"]
    · subst elsewhere
      rfl
    · rw [item?_openFiles secret elsewhere]
  · rintro rfl
    revert below
    decide

theorem linkFree_openFiles (secret : String) : (openFiles secret).LinkFree :=
  linkFree_of_items (by simp [openFiles])

def openServer : Server := { service := .ofConfig Service.printing {}, connections := [(0, true)] }

/-- A client names a project. -/
def naming (name : String) : List UInt8 :=
  asciiBytes ("[\"SET_PROJECT\",[7,\"" ++ name ++ "\"]]")

def asksTree : List UInt8 := asciiBytes "[\"TREE\",null]"

def asksGraph (path : String) : List UInt8 := asciiBytes ("[\"GRAPH\",[\"" ++ path ++ "\"]]")

/-- A name that is one name is admitted, and another client asks for a file of the project. -/
theorem admitted_name_told :
    ({} : Config).Admits "demo" ∧
      StaysInside {} (openFiles "")
        (openServer.after (openFiles "") [.line 0 (naming "demo"), .accept 1])
        (1, asksGraph "a.py") := by
  have named : Asks (naming "demo") (.select ⟨7, "demo", ""⟩) := by decide +kernel
  have asks : Asks (asksGraph "a.py") (.graph ⟨"a.py"⟩) := by decide +kernel
  have admits : ({} : Config).Admits "demo" := by decide +kernel
  refine ⟨admits, ?_⟩
  refine (replies_stay_inside Service.printing {} (openFiles "") openServer
    [.line 0 (naming "demo"), .accept 1, .line 1 (asksGraph "a.py")] rfl (by decide +kernel)
    (by decide +kernel) (linkFree_openFiles _) (Service.readsGivenFile_printing _) rfl ?_).2
    [.line 0 (naming "demo"), .accept 1] _ _ [] rfl
  intro connection bytes sent project is
  simp only [List.mem_cons, List.not_mem_nil, Event.line.injEq, reduceCtorEq, or_false,
    false_or] at sent
  rcases sent with ⟨_, rfl⟩ | ⟨_, rfl⟩
  · cases named.unique is
    exact admits
  · cases asks.unique is

/-- A file system with a function outside of all projects. -/
def secretFiles : FileSystem := openFiles "def f(): pass"

/-- The server after a client has named the directory above all projects. -/
def escaped : Server :=
  { openServer with service := .forProject Service.printing {} ⟨7, "..", ""⟩ }

theorem receive_naming_above :
    openServer.receive secretFiles 0 (naming "..") =
      (escaped, .reply (.ok (.root ⟨"projects/.."⟩))) := by
  have named : Asks (naming "..") (.select ⟨7, "..", ""⟩) := by decide +kernel
  rw [receive_of_asks rfl named (by rintro ⟨⟩)]
  rfl

theorem not_staysInside_naming : ¬ StaysInside {} secretFiles openServer (0, naming "..") := by
  intro stays
  have inside := stays.reported ⟨"projects/.."⟩ (by rw [receive_naming_above])
  revert inside
  decide +kernel

theorem not_staysInside_tree : ¬ StaysInside {} secretFiles escaped (0, asksTree) := by
  intro stays
  have asks : Asks asksTree (.tree none) := by decide +kernel
  have lists : (escaped.service.tree secretFiles none).toOption.map (·.map Entry.path) =
      some [⟨"projects/../projects"⟩, ⟨"projects/../secret.py"⟩] := by decide +kernel
  cases same : escaped.service.tree secretFiles none with
  | error _ =>
    rw [same] at lists
    cases lists
  | ok entries =>
    rw [same] at lists
    have isListed : (⟨"projects/../secret.py"⟩ : Path) ∈ entries.map Entry.path := by
      rw [show entries.map Entry.path = _ from Option.some.inj lists]
      decide
    obtain ⟨entry, member, path⟩ := List.mem_map.mp isListed
    have replies : (escaped.receive secretFiles 0 asksTree).2 =
        .reply (.ok (.entries entries)) := by
      rw [receive_of_asks rfl asks (by rintro ⟨⟩), Service.respond, same]
      rfl
    have inside := (stays.listed entries replies entry (.here member)).1
    rw [path] at inside
    revert inside
    decide +kernel

theorem not_staysInside_graph : ¬ StaysInside {} secretFiles escaped (0, asksGraph "secret.py") := by
  intro stays
  have asks : Asks (asksGraph "secret.py") (.graph ⟨"secret.py"⟩) := by decide +kernel
  have empty : (escaped.service.graph (openFiles "") ⟨"secret.py"⟩).toOption.map (·.nodes.length) =
      some 0 := by decide +kernel
  have holds : (escaped.service.graph secretFiles ⟨"secret.py"⟩).toOption.map (·.nodes.length) =
      some 1 := by decide +kernel
  have same := stays.unread rfl (openFiles "") (by decide +kernel) (agreeOn_openFiles _)
  rw [receive_of_asks rfl asks (by rintro ⟨⟩), receive_of_asks rfl asks (by rintro ⟨⟩)] at same
  rw [Service.graph_eq_of_respond_eq (Reaction.reply.inj same), holds] at empty
  cases empty

/-- **A name that climbs out is taken, and what is then told lies outside**: the directory of the
project, what is listed, and the file whose graph is told. -/
theorem escaping_name_told :
    ({} : Config).confinesPaths = true ∧ secretFiles.Proper ∧ secretFiles.LinkFree ∧
      ¬ ({} : Config).Admits ".." ∧ ¬ StaysInside {} secretFiles openServer (0, naming "..") ∧
      ∀ line ∈ [asksTree, asksGraph "secret.py"],
        ¬ StaysInside {} secretFiles (openServer.after secretFiles [.line 0 (naming "..")])
          (0, line) := by
  have leaves : openServer.after secretFiles [.line 0 (naming "..")] = escaped := by
    rw [after, after, step, receive_naming_above]
  rw [leaves]
  refine ⟨rfl, by decide +kernel, linkFree_openFiles _, by decide +kernel,
    not_staysInside_naming, ?_⟩
  simp only [List.forall_mem_cons, List.not_mem_nil, false_imp_iff, implies_true, and_true]
  exact ⟨not_staysInside_tree, not_staysInside_graph⟩

end Server

end DeclGraph
