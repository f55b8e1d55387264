import ReferencePages.Proofs.Page.Diagram
import ReferencePages.Proofs.Program.Repeat
import ReferencePages.Proofs.Pipeline.Conversation
/-!
Blocks and diagrams as they reach a page. A fenced block is kept where the fences above it are closed; the
diagrams of the pages of the schema and of the state machines are kept whatever stands above them.
-/

namespace ReferencePages

open Program (Logged exists_of_outcome_ok)

variable {w : Workshop} {kind : PageKind} {s t : Session}

/-- How the diagram of a state machine is drawn. -/
def StateMachine.style (machine : StateMachine) : Diagram.StateStyle :=
  { initial := machine.initialState, terminal := machine.terminalStates, key := machine.keyStates }

/-- How the source of a state machine is read. -/
def StateMachine.settings (machine : StateMachine) : Transition.Settings :=
  { qualifiers := machine.qualifiers, start := machine.startSentinel, stop := machine.endSentinel }

namespace Recipe

theorem schemaBlocks_diagram (config : Config) {tables : List Table} (some : tables ≠ []) (keys : List ForeignKey)
    (file : Path) : ∃ before after,
      schemaBlocks config tables keys file = before ++ Diagram.entities tables keys :: after := by
  have filled : tables.isEmpty = false := by simpa using some
  unfold schemaBlocks
  rw [filled]
  exact ⟨["## Entity Relationship Diagram"], _, rfl⟩

theorem machineBlocks_diagram (config : Config) (machine : StateMachine) (file : Path)
    {transitions : List Transition} (some : transitions ≠ []) : ∃ before after,
      machineBlocks config machine file transitions =
        before ++ Diagram.states machine.style transitions :: after := by
  have filled : transitions.isEmpty = false := by simpa using some
  unfold machineBlocks
  rw [filled]
  exact ⟨("## " ++ machine.title) :: if machine.description.isEmpty then [] else [machine.description], _, rfl⟩

end Recipe

namespace Pipeline

/-- A text is read for a page, under one of the names under which the page asks for files. Entries may have
been made in the log before it is read. -/
def IsRead (w : Workshop) (kind : PageKind) (s : Session) (key text : Text) : Prop :=
  ∃ relative u, (key, relative) ∈ (recipe w kind).files ∧ Logged s u ∧
    ((Program.readSource (w.config.sourceDirectory.child relative)).outcome u).1 = .ok text

/-- A block stands line by line on the page that has been made. -/
def Holds (w : Workshop) (kind : PageKind) (s t : Session) (block : Text) : Prop :=
  ∃ mode text, t.tree.fileAt (pagePlace w s.directory kind) = some (mode, Utf8.encode text) ∧
    Text.splitOnChar '\n' block <:+: Text.splitOnChar '\n' text

theorem readSource_isRead {sources : Sources} (resolves : w.Resolves kind sources) {key text : Text}
    (listed : key ∈ (recipe w kind).files.map Prod.fst) {u v : Session} (logged : Logged s u)
    (run : (Program.readSource (sources.file key)).outcome u = (.ok text, v)) :
    IsRead w kind s key text ∧ Logged s v := by
  have reads : Program.Reads w.IsSource (Program.readSource (sources.file key)) :=
    .readSource (resolves.file listed)
  have after := reads.logged u
  obtain ⟨x, y, found⟩ := resolves
  obtain ⟨relative, needed, value⟩ := (SourceTree.resolve_ok found).2.1 key listed
  have here : sources.file key = w.config.sourceDirectory.child relative := value
  rw [here] at run after
  rw [run] at after
  exact ⟨⟨relative, u, needed, logged, by rw [run]⟩, Program.Steady.trans logged after⟩

/-- Where no log file is kept, a text that is read is what its file holds from the beginning. -/
theorem IsRead.unlogged {key text : Text} (isRead : IsRead w kind s key text) (unlogged : s.logFile = none) :
    ∃ relative, (key, relative) ∈ (recipe w kind).files ∧
      ((Program.readSource (w.config.sourceDirectory.child relative)).outcome s).1 = .ok text := by
  obtain ⟨relative, u, needed, logged, read⟩ := isRead
  have reads : Program.Reads (fun _ => True)
      (Program.readSource (w.config.sourceDirectory.child relative)) := .readSource trivial
  have apart : Program.Unlogged (fun _ => True) s := by
    intro place kept
    rw [unlogged] at kept
    cases kept
  exact ⟨relative, needed, (reads.outcome_logged apart logged).symm.trans read⟩

/-- Every block of a draft that its page keeps stands on the page that is made of it. -/
theorem publish_holds {d : Draft} {result : PageResult} {u : Session}
    (run : (publish w kind d).outcome u = (.ok result, t)) (logged : Logged s u) {block : Text}
    (kept : Text.splitOnChar '\n' block <:+: Text.splitOnChar '\n' (finish d).render) :
    Holds w kind s t block := by
  obtain ⟨⟨mode, _, page, _⟩, _⟩ := publish_eq_ok run
  rw [logged.fields.1] at page
  exact ⟨mode, _, page, kept⟩

/-- A page that is made is composed of its sources and then written. -/
theorem make_steps {result : PageResult} (run : (make w kind).outcome s = (.ok result, t)) :
    ∃ sources d u v, w.Resolves kind sources ∧ Logged s u ∧
      ((recipe w kind).compose sources).outcome u = (.ok d, v) ∧
      (publish w kind d).outcome v = (.ok result, t) := by
  rw [make_eq] at run
  obtain ⟨d, v, composed, published⟩ := Program.outcome_bind_eq_ok run
  obtain ⟨sources, u, prepared, composed⟩ := Program.outcome_bind_eq_ok composed
  have logged := (prepare_reads w kind).logged s
  rw [prepared] at logged
  exact ⟨sources, d, u, v, prepare_resolves prepared, logged, composed, published⟩

theorem make_entities {result : PageResult} (run : (make w .schema).outcome s = (.ok result, t)) :
    ∃ schema constraints, IsRead w .schema s "tables" schema ∧ IsRead w .schema s "constraints" constraints ∧
      (Schema.tables w.config.schema.scan schema ≠ [] →
        Holds w .schema s t (Diagram.entities (Schema.tables w.config.schema.scan schema)
          (ForeignKey.extract constraints))) := by
  obtain ⟨sources, d, u, v, resolves, logged, composed, published⟩ := make_steps run
  obtain ⟨schema, x, read, composed⟩ := Program.outcome_bind_eq_ok composed
  obtain ⟨constraints, y, read', composed⟩ := Program.outcome_bind_eq_ok composed
  obtain ⟨_, z, said, composed⟩ := Program.outcome_bind_eq_ok composed
  obtain ⟨isRead, before⟩ := readSource_isRead resolves (List.mem_cons_self ..) logged read
  obtain ⟨isRead', before'⟩ :=
    readSource_isRead resolves (List.mem_cons_of_mem _ (List.mem_cons_self ..)) before read'
  rw [Program.outcome_log] at said
  cases said
  cases composed
  refine ⟨schema, constraints, isRead, isRead', fun some => ?_⟩
  refine publish_holds published (Program.Steady.trans before' (Logged.record _ _ _ _)) ?_
  obtain ⟨above, below, blocks⟩ := Recipe.schemaBlocks_diagram w.config some (ForeignKey.extract constraints)
    (sources.file "tables")
  exact Page.render_entities blocks

/-- The blocks of a machine stand together among those of all machines. -/
theorem readMachines_blocks {sources : Sources} (resolves : w.Resolves .stateMachines sources)
    {machines : List StateMachine} (within : machines ⊆ w.config.stateMachines) {u v : Session}
    (logged : Logged s u) {blocks : List Text} {count : Nat}
    (run : (Recipe.readMachines w.config sources machines).outcome u = (.ok (blocks, count), v)) :
    Logged s v ∧ ∀ machine ∈ machines, ∃ text before after, IsRead w .stateMachines s machine.key text ∧
      blocks = before ++ Recipe.machineBlocks w.config machine (sources.file machine.key)
        (Transition.extract machine.settings text) ++ after := by
  induction machines generalizing u blocks count with
  | nil =>
    cases run
    exact ⟨logged, nofun⟩
  | cons machine machines ih =>
    obtain ⟨known, rest⟩ := List.cons_subset.mp within
    obtain ⟨text, x, read, run⟩ := Program.outcome_bind_eq_ok run
    obtain ⟨_, y, said, run⟩ := Program.outcome_bind_eq_ok run
    obtain ⟨⟨others, number⟩, z, later, last⟩ := Program.outcome_bind_eq_ok run
    have listed : machine.key ∈ (recipe w .stateMachines).files.map Prod.fst :=
      Dictionary.mem_keys_ofList (List.mem_map.mpr
        ⟨(machine.key, machine.file), List.mem_map.mpr ⟨machine, known, rfl⟩, rfl⟩)
    obtain ⟨isRead, before⟩ := readSource_isRead resolves listed logged read
    rw [Program.outcome_log] at said
    cases said
    cases last
    obtain ⟨logged', each⟩ := ih rest (Program.Steady.trans before (Logged.record x _ _ _)) later
    refine ⟨logged', fun other member => ?_⟩
    rcases List.mem_cons.mp member with rfl | member
    · exact ⟨text, [], others, isRead, rfl⟩
    · obtain ⟨text', above, below, isRead', split⟩ := each other member
      refine ⟨text', Recipe.machineBlocks w.config machine (sources.file machine.key)
        (Transition.extract machine.settings text) ++ above, below, isRead', ?_⟩
      rw [split, List.append_assoc, List.append_assoc, List.append_assoc]
      rfl

theorem make_states {result : PageResult} (run : (make w .stateMachines).outcome s = (.ok result, t))
    {machine : StateMachine} (configured : machine ∈ w.config.stateMachines) (plain : machine.style.IsPlain) :
    ∃ text, IsRead w .stateMachines s machine.key text ∧ (Transition.extract machine.settings text ≠ [] →
      Holds w .stateMachines s t
        (Diagram.states machine.style (Transition.extract machine.settings text))) := by
  obtain ⟨sources, d, u, v, resolves, logged, composed, published⟩ := make_steps run
  obtain ⟨⟨blocks, count⟩, x, read, composed⟩ := Program.outcome_bind_eq_ok composed
  cases composed
  obtain ⟨logged', each⟩ := readMachines_blocks resolves (List.Subset.refl _) logged read
  obtain ⟨text, above, below, isRead, split⟩ := each machine configured
  refine ⟨text, isRead, fun some => publish_holds published logged' ?_⟩
  obtain ⟨before, after, diagram⟩ := Recipe.machineBlocks_diagram w.config machine (sources.file machine.key) some
  have whole : blocks = (above ++ before) ++
      Diagram.states machine.style (Transition.extract machine.settings text) :: (after ++ below) := by
    rw [split, diagram]
    simp only [List.append_assoc, List.cons_append]
  exact Page.render_states plain whole

/-- What a page keeps line by line. A fenced block is kept where an even number of lines begins with three
backticks in the parts above it: the banner, the intro without blanks at its ends, and the earlier blocks, with
their lines ended as the page ends them. The diagram of a schema that declares tables is kept on its page; so
is that of a state machine with transitions, where its states have names that can stand in one line and the
name of the initial one is there and does not end in a blank. -/
theorem make_verbatim :
    (∀ (p : Page) (before after : List Text) (block : Text), p.blocks = before ++ block :: after →
      Page.IsFenced block → Even ((p.banner :: Text.trim p.intro :: before).map Page.fenceCount).sum →
      Text.splitOnChar '\n' block <:+: Text.splitOnChar '\n' p.render) ∧
    (∀ (w : Workshop) (s t : Session) (result : PageResult),
      (make w .schema).outcome s = (.ok result, t) → ∃ schema constraints,
        IsRead w .schema s "tables" schema ∧ IsRead w .schema s "constraints" constraints ∧
        (Schema.tables w.config.schema.scan schema ≠ [] → Holds w .schema s t
          (Diagram.entities (Schema.tables w.config.schema.scan schema) (ForeignKey.extract constraints)))) ∧
    ∀ (w : Workshop) (s t : Session) (result : PageResult),
      (make w .stateMachines).outcome s = (.ok result, t) → ∀ machine ∈ w.config.stateMachines,
        machine.style.IsPlain → ∃ text, IsRead w .stateMachines s machine.key text ∧
          (Transition.extract machine.settings text ≠ [] → Holds w .stateMachines s t
            (Diagram.states machine.style (Transition.extract machine.settings text))) :=
  ⟨fun _ _ _ _ blocks fenced closed => Page.render_isFenced fenced blocks closed,
    fun _ _ _ _ run => make_entities run, fun _ _ _ _ run _ configured plain => make_states run configured plain⟩

/-- A block with two blank lines in its fence. -/
def gapBlock : Text := "```\na\n\n\nb\n```"

/-- A page with blocks under an intro. -/
def pageUnder (intro : Text) (blocks : List Text) : Page :=
  { title := "Notes", generator := "notes", origin := "notes", sourceDescription := "notes", intro, blocks
    modeNote := none }

/-- Settings that skip the model, with one state machine that starts in a given state. -/
def machineWorkshop (initial : Text) : Workshop :=
  let machine : StateMachine :=
    { key := "door", title := "Door", file := "door.rs", qualifiers := [], keyStates := ["Open"],
      description := [], initialState := initial, terminalStates := ["Shut"],
      startSentinel := "let target = match", endSentinel := "Ok(target)" }
  let standard := Config.standard (Path.ofText "/") (Path.ofText "/src") (Path.ofText "/pages")
  { config := { standard with stateMachines := [machine] } }

def doorSource : Text := "let target = match x\n(Open, Close) => Shut,\nOk(target)\n"

def namesSource : Text := "CREATE TABLE tasker.tasks (\n  name_uuid uuid\n);\n"

def constraintsSource : Text := "ALTER TABLE tasks ADD FOREIGN KEY (name_uuid) REFERENCES names (name_uuid);\n"

/-- A source tree with a schema of one table, its constraints, and a state machine. -/
def drawnSession : Session :=
  Session.new
    { entries :=
        [(["src"], .directory), (["src", "migrations"], .directory),
         (["src", "migrations", "20260110000001_schema_and_tables.sql"],
           .file 0o644 (Utf8.encode namesSource)),
         (["src", "migrations", "20260110000002_constraints_and_indexes.sql"],
           .file 0o644 (Utf8.encode constraintsSource)),
         (["src", "door.rs"], .file 0o644 (Utf8.encode doorSource))] }
    []

theorem make_verbatim_drawn :
    Text.splitOnChar '\n' gapBlock <:+:
      Text.splitOnChar '\n' (pageUnder "```\nx\n```" [gapBlock, gapBlock]).render ∧
    (∃ result t, (make (machineWorkshop "Open") .schema).outcome drawnSession = (.ok result, t) ∧
      Holds (machineWorkshop "Open") .schema drawnSession t (Diagram.entities
        (Schema.tables Config.standardSchema.scan namesSource) (ForeignKey.extract constraintsSource))) ∧
    ∃ result t, (make (machineWorkshop "Open") .stateMachines).outcome drawnSession = (.ok result, t) ∧
      ∀ machine ∈ (machineWorkshop "Open").config.stateMachines, Holds (machineWorkshop "Open") .stateMachines
        drawnSession t (Diagram.states machine.style (Transition.extract machine.settings doorSource)) := by
  have schemaMade : ((make (machineWorkshop "Open") .schema).outcome drawnSession).1.isOk = true := by
    decide +kernel
  have statesMade : ((make (machineWorkshop "Open") .stateMachines).outcome drawnSession).1.isOk = true := by
    decide +kernel
  have read {p : Path} {source text : Text}
      (holds : ((Program.readSource p).outcome drawnSession).1.toOption = some source)
      (result : ((Program.readSource p).outcome drawnSession).1 = .ok text) : text = source := by
    rw [result] at holds
    exact Option.some.inj holds
  have fenced : Page.IsFenced gapBlock :=
    ⟨by decide +kernel, by decide +kernel, by decide +kernel, by decide +kernel⟩
  refine ⟨make_verbatim.1 _ [gapBlock] [] gapBlock rfl fenced (by decide +kernel), ?_, ?_⟩
  · cases run : (make (machineWorkshop "Open") .schema).outcome drawnSession with
    | mk outcome t =>
      rw [run] at schemaMade
      cases outcome with
      | error failure => cases schemaMade
      | ok result =>
        obtain ⟨schema, constraints, isRead, isRead', drawn⟩ := make_verbatim.2.1 _ _ _ _ run
        obtain ⟨relative, needed, held⟩ := isRead.unlogged rfl
        obtain ⟨relative', needed', held'⟩ := isRead'.unlogged rfl
        obtain rfl : relative = (machineWorkshop "Open").config.schema.tablesFile := by
          simpa [recipe, Recipe.schema] using needed
        obtain rfl : relative' = (machineWorkshop "Open").config.schema.constraintsFile := by
          simpa [recipe, Recipe.schema] using needed'
        obtain rfl : schema = namesSource := read (by decide +kernel) held
        obtain rfl : constraints = constraintsSource := read (by decide +kernel) held'
        exact ⟨result, t, rfl, drawn (by decide +kernel)⟩
  · cases run : (make (machineWorkshop "Open") .stateMachines).outcome drawnSession with
    | mk outcome t =>
      rw [run] at statesMade
      cases outcome with
      | error failure => cases statesMade
      | ok result =>
        refine ⟨result, t, rfl, fun machine member => ?_⟩
        obtain rfl := List.mem_singleton.mp member
        obtain ⟨text, isRead, drawn⟩ := make_verbatim.2.2 _ _ _ _ run _ member
          ⟨by decide +kernel, by decide +kernel, by decide +kernel⟩
        obtain ⟨relative, needed, held⟩ := isRead.unlogged rfl
        obtain ⟨_, rfl⟩ := Prod.mk.inj (List.mem_singleton.mp needed)
        obtain rfl : text = doorSource := read (by decide +kernel) held
        exact drawn (by decide +kernel)

/-- The number of lines that begin with three backticks where only a line feed ends a line. -/
def plainFences (parts : List Text) : Nat := (parts.flatMap (Text.splitOnChar '\n')).countP Page.isFence

/-- A fenced block is not kept under an intro that has a fence once its blanks are gone, nor under a block with
a fence behind a carriage return. The diagram of a state machine whose initial state has an empty name is not
kept. -/
theorem not_verbatim :
    (Page.IsFenced gapBlock ∧ Even (plainFences [(pageUnder "  ```" [gapBlock]).banner, "  ```"]) ∧
      ¬ Text.splitOnChar '\n' gapBlock <:+: Text.splitOnChar '\n' (pageUnder "  ```" [gapBlock]).render) ∧
    (Even (plainFences [(pageUnder [] ["x\r```", gapBlock]).banner, [], "x\r```"]) ∧
      ¬ Text.splitOnChar '\n' gapBlock <:+: Text.splitOnChar '\n' (pageUnder [] ["x\r```", gapBlock]).render) ∧
    let run := (make (machineWorkshop []) .stateMachines).outcome drawnSession
    run.1.isOk = true ∧ ∀ machine ∈ (machineWorkshop []).config.stateMachines,
      ((run.2.tree.fileAt (pagePlace (machineWorkshop []) [] .stateMachines)).bind fun file =>
        (Utf8.decode file.2).toOption).any (fun text => !decide (Text.splitOnChar '\n'
          (Diagram.states machine.style (Transition.extract machine.settings doorSource))
            <:+: Text.splitOnChar '\n' text)) = true :=
  ⟨⟨⟨by decide +kernel, by decide +kernel, by decide +kernel, by decide +kernel⟩, by decide +kernel,
    by decide +kernel⟩, ⟨by decide +kernel, by decide +kernel⟩, by decide +kernel⟩

end Pipeline
end ReferencePages
