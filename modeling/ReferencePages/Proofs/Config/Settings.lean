import ReferencePages.Proofs.Config.Places
/-!
The settings as a whole. Loading succeeds just where everything that is looked at fits, and then each
setting is decided by its layers.
-/

namespace ReferencePages.Config

/-! ### What must fit, and what is settled -/

/-- What must fit for the settings of the endpoint. -/
structure EndpointFits (environment : Dictionary Text) (d : Section) : Prop where
  model : (∀ s, ¬Named environment modelVariable s) → d.IsLegible "model"
  address : (∀ s, ¬Named environment endpointVariable s) → d.IsLegible "base_url"
  probeTimeout : d.IsConvertible "probe_timeout"
  requestTimeout : d.IsConvertible "request_timeout"

/-- How the settings of the endpoint are decided. A time of zero is none for a probe. -/
structure EndpointSettled (environment : Dictionary Text) (d : Section) (e : EndpointSettings) :
    Prop where
  model : Decides [Named environment modelVariable, d.Says HasText "model"] standardEndpoint.model e.model
  address : ∃ url, Decides [Named environment endpointVariable, d.Says HasText "base_url"]
    standardEndpoint.baseUrl url ∧ e.baseUrl = withScheme url
  skip : Decides [NamedTruth environment skipVariable, d.Says HasTruth "skip"] false e.skip
  probeTimeout : Decides [fun x => d.Says HasNumber "probe_timeout" x ∧ x.isNonzero]
    standardEndpoint.probeTimeout e.probeTimeout
  requestTimeout : Decides [fun x? => ∃ x, x? = some x ∧ d.Says HasNumber "request_timeout" x] none
    e.requestTimeout

/-- What must fit for the settings of the schema. -/
structure SchemaFits (d : Section) : Prop where
  name : d.IsLegible "name"
  tablesFile : d.IsLegible "tables_file"
  constraintsFile : d.IsLegible "constraints_file"
  keyGenerators : d.AreLegible "pk_generators"
  descriptions : ∀ entry ∈ (d.inner "table_descriptions").entries, Section.IsShowable d.document entry

/-- How the settings of the schema are decided. -/
structure SchemaSettled (d : Section) (schema : SchemaSettings) : Prop where
  name : Decides [d.Says HasText "name"] standardSchema.scan.name schema.scan.name
  tablesFile : Decides [d.Says HasText "tables_file"] standardSchema.tablesFile schema.tablesFile
  constraintsFile : Decides [d.Says HasText "constraints_file"] standardSchema.constraintsFile
    schema.constraintsFile
  keyGenerators : Decides [d.SaysTexts "pk_generators"] standardSchema.scan.keyGenerators
    schema.scan.keyGenerators
  descriptions : ∃ pairs, Picks (HasDescription d.document) (d.inner "table_descriptions").entries pairs ∧
    schema.tableDescriptions = Dictionary.ofList pairs

/-- What must fit for the settings of the workspace. -/
structure CratesFits (d : Section) : Prop where
  coreMembers : d.AreLegible "core_members"
  workerStarts : d.AreLegible "worker_prefixes"

/-- How the settings of the workspace are decided. -/
structure CratesSettled (d : Section) (crates : CrateSettings) : Prop where
  coreMembers : Decides [d.SaysTexts "core_members"] standardCrates.coreMembers crates.coreMembers
  workerStarts : Decides [d.SaysTexts "worker_prefixes"] standardCrates.workerStarts crates.workerStarts

/-- What must fit for the settings of decision records. -/
structure DecisionsFits (d : Section) : Prop where
  directory : d.IsLegible "directory"
  linkStart : d.IsLegible "link_prefix"

/-- How the settings of decision records are decided. -/
structure DecisionsSettled (d : Section) (decisions : DecisionSettings) : Prop where
  directory : Decides [d.Says HasText "directory"] standardDecisions.directory decisions.directory
  linkStart : Decides [d.Says HasText "link_prefix"] standardDecisions.linkStart decisions.linkStart
  pattern : decisions.pattern = standardDecisions.pattern

/-- What must fit for the settings apart from paths. -/
structure SettingsFit (environment : Dictionary Text) (d : Section) : Prop where
  project : d.IsLegible "project_name"
  endpoint : EndpointFits environment (d.inner "llm")
  schema : SchemaFits (d.inner "schema")
  crates : CratesFits (d.inner "crates")
  decisions : DecisionsFits (d.inner "decisions")
  errorFile : (d.inner "errors").IsLegible "file"
  guideFile : (d.inner "config_guide").IsLegible "file"

/-- How the settings apart from paths are decided. State machines and what is looked for in the files of
errors and of configuration structures are the standard ones. -/
structure SettingsSettled (environment : Dictionary Text) (d : Section) (config : Config) : Prop where
  project : Decides [d.Says HasText "project_name"] standardProject config.projectName
  endpoint : EndpointSettled environment (d.inner "llm") config.endpoint
  schema : SchemaSettled (d.inner "schema") config.schema
  crates : CratesSettled (d.inner "crates") config.crates
  decisions : DecisionsSettled (d.inner "decisions") config.decisions
  errorFile : Decides [(d.inner "errors").Says HasText "file"] standardErrors.file config.errors.file
  guideFile : Decides [(d.inner "config_guide").Says HasText "file"] standardConfigGuide.file
    config.configGuide.file
  stateMachines : config.stateMachines = standardMachines
  boundary : config.errors.boundary = standardErrors.boundary
  sections : config.configGuide.sections = standardConfigGuide.sections

/-- What must fit for the directories that pages are made from and written to. -/
structure DirectoriesFit (s : Session) (root : Path) (environment : Dictionary Text) (d : Section) :
    Prop where
  sourceText : (∀ text, ¬Named environment sourceVariable text) → d.IsLegible "source_dir"
  outputText : d.IsLegible "output_dir"
  source : ∀ place, Resolves s root place → ∀ text,
    Decides [Named environment sourceVariable, d.Says HasText "source_dir"] standardSource text →
      ∃ directory, Leads s place text directory
  output : ∀ place, Resolves s root place → ∀ text,
    Decides [d.Says HasText "output_dir"] standardOutput text → ∃ directory, Leads s place text directory

/-- What must fit for all settings. The root must lead somewhere, and the path of the configuration file
must not be too long. -/
structure Fits (s : Session) (root : Path) (environment : Dictionary Text) (d : Section) : Prop where
  rooted : ∃ place, Resolves s root place
  file : ∀ place, Resolves s root place →
    s.tree.locate s.directory (place.child fileName) ≠ .error .nameTooLong
  directories : DirectoriesFit s root environment d
  settings : SettingsFit environment d

/-- How all settings are decided. -/
structure Settled (s : Session) (root : Path) (environment : Dictionary Text) (d : Section)
    (config : Config) : Prop where
  rooted : Resolves s root config.root
  source : ∃ text,
    Decides [Named environment sourceVariable, d.Says HasText "source_dir"] standardSource text ∧
      Leads s config.root text config.sourceDirectory
  output : ∃ text, Decides [d.Says HasText "output_dir"] standardOutput text ∧
    Leads s config.root text config.outputDirectory
  settings : SettingsSettled environment d config

/-! ### The parts of the settings -/

theorem Section.inner_document (d : Section) (key : Text) : (d.inner key).document = d.document := by
  unfold Section.inner
  split <;> rfl

section
variable (environment : Dictionary Text) (d : Section)

theorem endpointOf_comes :
    Comes (EndpointFits environment d) (EndpointSettled environment d) (endpointOf environment d) := by
  refine ((Section.variableOr_comes d "model" environment modelVariable _).bind fun model byModel =>
    (Section.variableOr_comes d "base_url" environment endpointVariable _).bind fun url byUrl =>
    (Section.float?_comes d "probe_timeout").bind fun probe? saysProbe =>
    (Section.float?_comes d "request_timeout").bind fun request? saysRequest => .pure ?_).congr
      ⟨fun ⟨model, address, probeTimeout, requestTimeout, _⟩ =>
        ⟨model, address, probeTimeout, requestTimeout⟩,
      fun fit => ⟨fit.model, fit.address, fit.probeTimeout, fit.requestTimeout, trivial⟩⟩
  constructor
  case model => exact byModel
  case address => exact ⟨url, byUrl, rfl⟩
  case skip =>
    exact .or (fun _ => Section.truthOf?_bind_eq_some) (.getD fun _ => Section.truth?_eq_some d "skip")
  case probeTimeout =>
    refine .getD fun x => ?_
    rw [Option.filter_eq_some_iff, saysProbe]
  case requestTimeout => exact .option saysRequest

theorem schemaOf_comes : Comes (SchemaFits d) (SchemaSettled d) (schemaOf d) := by
  refine ((Section.textOr_comes d "name" _).bind fun name byName =>
    (Section.textOr_comes d "tables_file" _).bind fun tablesFile byTables =>
    (Section.textOr_comes d "constraints_file" _).bind fun constraintsFile byConstraints =>
    (Section.textsOr_comes d "pk_generators" _).bind fun keyGenerators byGenerators =>
    (Section.descriptions_comes (d.inner "table_descriptions")).bind fun descriptions picked =>
      .pure ?_).congr ?_
  · rw [Section.inner_document] at picked
    exact ⟨byName, byTables, byConstraints, byGenerators, picked⟩
  · rw [Section.inner_document]
    exact ⟨fun ⟨name, tablesFile, constraintsFile, keyGenerators, descriptions, _⟩ =>
        ⟨name, tablesFile, constraintsFile, keyGenerators, descriptions⟩,
      fun fit => ⟨fit.name, fit.tablesFile, fit.constraintsFile, fit.keyGenerators, fit.descriptions,
        trivial⟩⟩

theorem cratesOf_comes : Comes (CratesFits d) (CratesSettled d) (cratesOf d) :=
  ((Section.textsOr_comes d "core_members" _).bind fun _ byMembers =>
    (Section.textsOr_comes d "worker_prefixes" _).bind fun _ byStarts =>
      .pure ⟨byMembers, byStarts⟩).congr
    ⟨fun ⟨members, starts, _⟩ => ⟨members, starts⟩,
      fun fit => ⟨fit.coreMembers, fit.workerStarts, trivial⟩⟩

theorem decisionsOf_comes : Comes (DecisionsFits d) (DecisionsSettled d) (decisionsOf d) :=
  ((Section.textOr_comes d "directory" _).bind fun _ byDirectory =>
    (Section.textOr_comes d "link_prefix" _).bind fun _ byStart =>
      .pure ⟨byDirectory, byStart, rfl⟩).congr
    ⟨fun ⟨directory, start, _⟩ => ⟨directory, start⟩,
      fun fit => ⟨fit.directory, fit.linkStart, trivial⟩⟩

theorem settingsOf_comes (root sourceDirectory outputDirectory : Path) :
    Comes (SettingsFit environment d)
      (fun config => config.root = root ∧ config.sourceDirectory = sourceDirectory ∧
        config.outputDirectory = outputDirectory ∧ SettingsSettled environment d config)
      (settingsOf environment d root sourceDirectory outputDirectory) :=
  ((Section.textOr_comes d "project_name" _).bind fun _ byProject =>
    (endpointOf_comes environment (d.inner "llm")).bind fun _ endpoint =>
    (schemaOf_comes (d.inner "schema")).bind fun _ schema =>
    (cratesOf_comes (d.inner "crates")).bind fun _ crates =>
    (decisionsOf_comes (d.inner "decisions")).bind fun _ decisions =>
    (Section.textOr_comes (d.inner "errors") "file" _).bind fun _ byErrors =>
    (Section.textOr_comes (d.inner "config_guide") "file" _).bind fun _ byGuide =>
      .pure ⟨rfl, rfl, rfl, byProject, endpoint, schema, crates, decisions, byErrors, byGuide,
        rfl, rfl, rfl⟩).congr
    ⟨fun ⟨project, endpoint, schema, crates, decisions, errorFile, guideFile, _⟩ =>
        ⟨project, endpoint, schema, crates, decisions, errorFile, guideFile⟩,
      fun fit => ⟨fit.project, fit.endpoint, fit.schema, fit.crates, fit.decisions, fit.errorFile,
        fit.guideFile, trivial⟩⟩

end

/-! ### Loading -/

/-- What is done once the configuration file has been read. -/
theorem settle_yields {s : Session} {root place : Path} (environment : Dictionary Text) (d : Section)
    (resolves : Resolves s root place) :
    Yields s (DirectoriesFit s root environment d ∧ SettingsFit environment d)
      (Settled s root environment d) (do
        let source ← Program.ofExcept id
          (variableOr environment d sourceVariable "source_dir" standardSource)
        let output ← Program.ofExcept id (d.textOr "output_dir" standardOutput)
        let sourceDirectory ← resolveAgainst place source
        let outputDirectory ← resolveAgainst place output
        Program.ofExcept id (settingsOf environment d place sourceDirectory outputDirectory)) := by
  have sourceSingle : IsSingle (Decides
      [Named environment sourceVariable, d.Says HasText "source_dir"] standardSource) := by
    apply Decides.unique
    simp [Named.unique, Section.Says.unique HasText.unique]
  have outputSingle : IsSingle (Decides [d.Says HasText "output_dir"] standardOutput) := by
    apply Decides.unique
    simp [Section.Says.unique HasText.unique]
  -- What must fit may not mention what earlier steps have come to, so it is asked of every place and text
  -- that they can come to; there is one of each.
  have placed {standard text : Text} {layers : List (Text → Prop)}
      (single : IsSingle (Decides layers standard)) (decides : Decides layers standard text) :
      Yields s (∀ place, Resolves s root place → ∀ text, Decides layers standard text →
        ∃ directory, Leads s place text directory) (Leads s place text) (resolveAgainst place text) :=
    (resolveAgainst_yields place text).congr
      (((Resolves.unique root).forall_iff resolves).trans (single.forall_iff decides)).symm
  refine ((Yields.ofExcept (Section.variableOr_comes d "source_dir" environment sourceVariable _)).bind
    fun sourceText bySource => (Yields.ofExcept (Section.textOr_comes d "output_dir" _)).bind
    fun outputText byOutput => (placed sourceSingle bySource).bind
    fun source toSource => (placed outputSingle byOutput).bind
    fun output toOutput => (Yields.ofExcept (settingsOf_comes environment d place source output)).imp
    ?_).congr ?_
  · rintro config ⟨rfl, rfl, rfl, settled⟩
    exact ⟨resolves, ⟨sourceText, bySource, toSource⟩, ⟨outputText, byOutput, toOutput⟩, settled⟩
  · exact ⟨fun ⟨sourceText, outputText, source, output, settings⟩ =>
        ⟨⟨sourceText, outputText, source, output⟩, settings⟩,
      fun ⟨fit, settings⟩ => ⟨fit.sourceText, fit.outputText, fit.source, fit.output, settings⟩⟩

/-- Loading leaves the state as it is, succeeds just where everything fits, and then settles everything. -/
theorem load_yields {s : Session} {root : Path} {environment : Dictionary Text} {d : Section}
    (reads : ∀ place, Resolves s root place → ReadsAs s (place.child fileName) d) :
    Yields s (Fits s root environment d) (Settled s root environment d) (load root environment) := by
  have short {place : Path} (resolves : Resolves s root place) :
      Yields s (∀ place, Resolves s root place →
        s.tree.locate s.directory (place.child fileName) ≠ .error .nameTooLong) (· = d)
        (readFile (place.child fileName)) :=
    (readFile_yields (reads place resolves)).congr ⟨fun short place' resolves' =>
      Resolves.unique root _ _ resolves resolves' ▸ short, fun all => all place resolves⟩
  have stepwise : Yields s _ _ (load root environment) :=
    (resolve_yields root).bind fun place resolves =>
      (short resolves).bind fun | _, rfl => settle_yields environment d resolves
  refine stepwise.congr ?_
  exact ⟨fun ⟨rooted, file, directories, settings⟩ => ⟨rooted, file, directories, settings⟩,
    fun fit => ⟨fit.rooted, fit.file, fit.directories, fit.settings⟩⟩

/-- The mapping that is read for a root. -/
theorem reads_of_readFile {s : Session} {root place : Path} {d : Section}
    (resolves : Resolves s root place)
    (run : ((readFile (place.child fileName)).outcome s).1 = .ok d) :
    ∀ place, Resolves s root place → ReadsAs s (place.child fileName) d :=
  ((Resolves.unique root).forall_iff resolves).mpr (readsAs_of_readFile (Program.outcome_eq_of_fst run)).1

/-- For every root, environment and mapping, loading leaves the state as it is. Where everything fits, there
are settings, each decided by its layers, so that a value that cannot be used gives way to the next layer.
Where something does not fit, loading fails, and the failure is no fault of the configuration. -/
theorem load_settles {s : Session} {root : Path} {environment : Dictionary Text} {d : Section}
    (reads : ∀ place, Resolves s root place → ReadsAs s (place.child fileName) d) :
    ((load root environment).outcome s).2 = s ∧
      (Fits s root environment d → ∃ config, ((load root environment).outcome s).1 = .ok config ∧
        Settled s root environment d config) ∧
      (¬Fits s root environment d → ∃ failure, ((load root environment).outcome s).1 = .error failure ∧
        ∀ fault, failure ≠ .configuration fault) := by
  obtain ⟨comes, stays⟩ : Yields s (Fits s root environment d) (Settled s root environment d)
    (load root environment) := load_yields reads
  refine ⟨stays, ?_⟩
  generalize ((load root environment).outcome s).1 = result at comes
  cases comes with
  | result fit settled => exact ⟨fun _ => ⟨_, rfl, settled⟩, fun unfit => absurd fit unfit⟩
  | failure unfit foreign => exact ⟨fun fit => absurd fit unfit, fun _ => ⟨_, rfl, foreign⟩⟩

/-- A process in a directory with nothing but a configuration file. -/
def sessionOver (text : Text) : Session :=
  Session.new { entries := [(["docs"], .directory),
    (["docs", ".refgen.yml"], .file 0o644 (Utf8.encode text))] } ["docs"]

/-- Where the process is. -/
def here : Path := { anchor := .relative, parts := [] }

/-- Where the process is, as an absolute path. -/
def hereResolved : Path := { anchor := .root, parts := ["docs"] }

theorem resolves_here (text : Text) : Resolves (sessionOver text) here hereResolved :=
  ⟨here, .plain nofun, nofun, rfl⟩

/-- A mapping with values of kinds that nothing is read from. -/
def junkText : Text :=
  "project_name: [a]\nllm:\n  model: 7\n  skip: maybe\n  probe_timeout: soon\nschema: 3\n"

theorem load_settles_junk : ∃ d : Section, d.entries.length = 3 ∧
    (∀ place, Resolves (sessionOver junkText) here place →
      ReadsAs (sessionOver junkText) (place.child fileName) d) ∧
    ((load here []).outcome (sessionOver junkText)).2 = sessionOver junkText ∧
    ∃ config, ((load here []).outcome (sessionOver junkText)).1 = .ok config ∧
      Settled (sessionOver junkText) here [] d config ∧ config.endpoint.model = ['7'] := by
  have read : (((readFile (hereResolved.child fileName)).outcome
      (sessionOver junkText)).1.toOption.map (·.entries.length)) = some 3 := by decide +kernel
  have loaded : ((load here []).outcome (sessionOver junkText)).1.toOption.map (·.endpoint.model) =
      some ['7'] := by decide +kernel
  obtain ⟨d, run, counted⟩ := Program.exists_ok_of_toOption read
  obtain ⟨config, loads, model⟩ := Program.exists_ok_of_toOption loaded
  have reads := reads_of_readFile (resolves_here junkText) run
  obtain ⟨stays, succeeds, fails⟩ :=
    @load_settles (sessionOver junkText) here [] d reads
  by_cases fit : Fits (sessionOver junkText) here [] d
  · obtain ⟨config', loads', settled⟩ := succeeds fit
    cases loads.symm.trans loads'
    exact ⟨d, counted, reads, stays, config, loads, settled, model⟩
  · obtain ⟨failure, failed, _⟩ := fails fit
    exact nomatch loads.symm.trans failed

/-- A mapping with a time that is a whole number too large for a floating-point number. -/
def farText : Text := "llm:\n  probe_timeout: 1" ++ List.replicate 309 '0' ++ "\n"

theorem load_overflows :
    (∃ d : Section, d.entries.length = 1 ∧ ∀ place, Resolves (sessionOver farText) here place →
      ReadsAs (sessionOver farText) (place.child fileName) d) ∧
    ∃ failure, ((load here []).outcome (sessionOver farText)).1 = .error failure ∧
      ∀ fault, failure ≠ .configuration fault := by
  have read : (((readFile (hereResolved.child fileName)).outcome
      (sessionOver farText)).1.toOption.map (·.entries.length)) = some 1 := by decide +kernel
  have fails : ((load here []).outcome (sessionOver farText)).1.toOption.isNone = true := by
    decide +kernel
  obtain ⟨d, run, counted⟩ := Program.exists_ok_of_toOption read
  have reads := reads_of_readFile (resolves_here farText) run
  have comes : Comes _ _ ((load here []).outcome (sessionOver farText)).1 := (load_yields reads).comes
  refine ⟨⟨d, counted, reads⟩, ?_⟩
  generalize ((load here []).outcome (sessionOver farText)).1 = result at fails comes
  cases comes with
  | result => cases fails
  | failure _ foreign => exact ⟨_, rfl, foreign⟩

end ReferencePages.Config
