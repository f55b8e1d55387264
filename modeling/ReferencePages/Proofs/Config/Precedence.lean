import ReferencePages.Proofs.Config.Settings
import ReferencePages.Proofs.Text.Search
/-!
Which layer counts. The environment file adds variables and changes none, and a variable counts more than
the configuration file, which counts more than the standard value.
-/

namespace ReferencePages.Config

/-! ### The environment file -/

/-- The names that have a value, with it. -/
def valued (resolved : Dictionary (Option Text)) : Dictionary Text :=
  resolved.filterMap fun (key, value) => value.map fun value => (key, value)

/-- What the text of an environment file assigns. -/
def assignments (environment : Dictionary Text) (text : Text) : Dictionary Text :=
  valued (EnvironmentFile.resolve environment (EnvironmentFile.bindings text) [])

/-- What the environment file in a root assigns: nothing if there is no such file, or if it may not be
read. -/
inductive Assigns (s : Session) (root : Path) : Dictionary Text → Prop
  | missing (absent : s.tree.isFile s.directory (root.child environmentFileName) = false) :
    Assigns s root []
  | off (off : EnvironmentFile.isOff s.environment = true) : Assigns s root []
  | file {text : Text} (on : EnvironmentFile.isOff s.environment = false)
    (holds : Holds s (root.child environmentFileName) text) :
    Assigns s root (assignments s.environment text)

/-- The variables that are set stay, and those with a value are added to them. -/
theorem exportAll_get? {resolved : Dictionary (Option Text)} {environment merged : Dictionary Text}
    (exports : exportAll resolved environment = .ok merged) (name : Text) :
    merged.get? name = (environment.get? name).or ((valued resolved).get? name) := by
  -- The environment grows with each entry, so that the first entry of a name counts.
  induction resolved generalizing environment with
  | nil =>
    cases exports
    exact Option.or_none.symm
  | cons entry rest ih =>
    obtain ⟨key, value⟩ := entry
    cases value with
    | none =>
      rw [exportAll] at exports
      · exact ih exports
      · exact fun _ _ => nofun
    | some v =>
      have first : (valued ((key, some v) :: rest)).get? name =
          if key = name then some v else (valued rest).get? name := rfl
      rw [first]
      cases set : environment.get? key with
      | some kept =>
        simp only [exportAll, set] at exports
        rw [ih exports]
        split
        · rename_i same
          rw [← same, set]
          rfl
        · rfl
      | none =>
        simp only [exportAll, set] at exports
        split at exports
        · cases exports
        · split at exports
          · cases exports
          · rw [ih exports]
            split
            · rename_i same
              rw [← same, Dictionary.get?_set_self, set]
              rfl
            · rename_i other
              rw [Dictionary.get?_set_of_ne (Ne.symm other)]

/-- To read the environment file changes nothing but the environment, which keeps its variables and gains
what the file assigns to others. -/
theorem loadEnvironment_eq_ok {s t : Session} {root : Path} {found : Bool}
    (run : (loadEnvironment root).outcome s = (.ok found, t)) :
    ∃ assigned, Assigns s root assigned ∧ ∃ environment, t = { s with environment } ∧
      ∀ name, environment.get? name = (s.environment.get? name).or (assigned.get? name) := by
  obtain ⟨there, u, asked, rest⟩ := Program.outcome_bind_eq_ok run
  obtain ⟨rfl, answer, _⟩ := Program.isFile_eq_ok.mp asked
  rw [Program.outcome_bind, Program.outcome_get] at rest
  dsimp only at rest
  split at rest
  · rename_i unread
    cases rest
    refine ⟨[], ?_, _, rfl, fun name => Option.or_none.symm⟩
    rcases Bool.or_eq_true_iff.mp unread with absent | off
    · exact .missing (by simpa [answer] using absent)
    · exact .off off
  · rename_i read
    obtain ⟨text, u, opened, given⟩ := Program.outcome_bind_eq_ok rest
    obtain ⟨holds, rfl⟩ := readText_eq_ok.mp opened
    refine ⟨assignments _ text, .file (by simpa using (not_or.mp (mt Bool.or_eq_true_iff.mpr read)).2) holds,
      ?_⟩
    rw [Program.outcome_bind, Program.outcome_get] at given
    dsimp only at given
    split at given
    · rename_i nothing
      cases given
      refine ⟨_, rfl, fun name => ?_⟩
      rw [assignments, List.isEmpty_iff.mp nothing]
      exact Option.or_none.symm
    · obtain ⟨merged, v, exported, last⟩ := Program.outcome_bind_eq_ok given
      obtain ⟨exports, rfl⟩ := Program.outcome_ofExcept_eq_ok.mp exported
      cases last
      exact ⟨_, rfl, exportAll_get? exports⟩

/-! ### Precedence -/

/-- An address has a scheme in front once it is completed. -/
theorem withScheme_starts (url : Text) :
    Text.startsWith "http://" (withScheme url) || Text.startsWith "https://" (withScheme url) := by
  unfold withScheme
  split
  · assumption
  · rw [Bool.or_eq_true_iff]
    exact .inl (Text.startsWith_iff.mpr (List.prefix_append _ _))

/-- What a successful load has read, and how it has settled everything. -/
theorem settled_of_load {s t : Session} {root : Path} {environment : Dictionary Text} {config : Config}
    (loads : (load root environment).outcome s = (.ok config, t)) :
    ∃ d, (∀ place, Resolves s root place → ReadsAs s (place.child fileName) d) ∧
      Settled s root environment d config := by
  obtain ⟨place, u, resolved, rest⟩ := Program.outcome_bind_eq_ok loads
  obtain ⟨_, resolves, rfl⟩ := (resolve_yields root).of_ok resolved
  obtain ⟨d, v, read, _⟩ := Program.outcome_bind_eq_ok rest
  have reads := reads_of_readFile resolves (congrArg Prod.fst read)
  exact ⟨d, reads, ((load_yields reads).of_ok loads).2.1⟩

/-- The settings that the environment has a part in: each is decided by the first layer that says
something of it, with the environment above the configuration file. An address begins with a scheme. -/
structure IsLayered (s : Session) (d : Section) (config : Config) : Prop where
  model : Decides [Named s.environment modelVariable, (d.inner "llm").Says HasText "model"]
    standardEndpoint.model config.endpoint.model
  address : ∃ url,
    Decides [Named s.environment endpointVariable, (d.inner "llm").Says HasText "base_url"]
      standardEndpoint.baseUrl url ∧ config.endpoint.baseUrl = withScheme url
  scheme : Text.startsWith "http://" config.endpoint.baseUrl ||
    Text.startsWith "https://" config.endpoint.baseUrl
  source : ∃ text,
    Decides [Named s.environment sourceVariable, d.Says HasText "source_dir"] standardSource text ∧
      Leads s config.root text config.sourceDirectory
  skip : Decides [NamedTruth s.environment skipVariable, (d.inner "llm").Says HasTruth "skip"] false
    config.endpoint.skip

/-- The variables of the process stay as they are, empty ones too, and the environment file adds others to
them. Settings loaded with the variables that there are then are layered, over what the configuration file
is read as. -/
theorem load_precedence {s t u : Session} {root : Path} {found : Bool} {config : Config}
    (extended : (loadEnvironment root).outcome s = (.ok found, t))
    (loads : (load root t.environment).outcome t = (.ok config, u)) :
    (∃ assigned, Assigns s root assigned ∧
      ∀ name, t.environment.get? name = (s.environment.get? name).or (assigned.get? name)) ∧
    ∃ d, (∀ place, Resolves t root place → ReadsAs t (place.child fileName) d) ∧
      IsLayered t d config := by
  obtain ⟨assigned, assigns, environment, rfl, merged⟩ := loadEnvironment_eq_ok extended
  obtain ⟨d, reads, settled⟩ := settled_of_load loads
  have endpoint := settled.settings.endpoint
  refine ⟨⟨assigned, assigns, merged⟩, d, reads, endpoint.model, endpoint.address, ?_, settled.source,
    endpoint.skip⟩
  obtain ⟨url, _, same⟩ := endpoint.address
  rw [same]
  exact withScheme_starts url

/-- A process with an empty name of a model and a variable that turns the model off, over a root whose
files say something else. -/
def layeredSession : Session :=
  { Session.new
      { entries :=
          [(["docs"], .directory),
           (["docs", ".env"], .file 0o644 (Utf8.encode "OLLAMA_MODEL=x\nOLLAMA_HOST=far:80\nSKIP_LLM=no\n")),
           (["docs", ".refgen.yml"],
             .file 0o644 (Utf8.encode "source_dir: 7\nllm:\n  model: m\n  base_url: near\n"))] }
      ["docs"] with
    environment := [("OLLAMA_MODEL", ""), ("SKIP_LLM", " ON ")] }

/-- The state in which the environment file has been read. -/
def layeredRead : Session := ((loadEnvironment here).outcome layeredSession).2

theorem load_precedence_layered :
    (loadEnvironment here).outcome layeredSession = (.ok true, layeredRead) ∧
    ∃ config u, (load here layeredRead.environment).outcome layeredRead = (.ok config, u) ∧
      config.endpoint.model = ['m'] ∧
      (∃ assigned, Assigns layeredSession here assigned ∧ ∀ name, layeredRead.environment.get? name =
        (layeredSession.environment.get? name).or (assigned.get? name)) ∧
      ∃ d, (∀ place, Resolves layeredRead here place → ReadsAs layeredRead (place.child fileName) d) ∧
        IsLayered layeredRead d config := by
  have read : ((loadEnvironment here).outcome layeredSession).1.toOption.map id = some true := by
    decide +kernel
  have loaded : ((load here layeredRead.environment).outcome layeredRead).1.toOption.map
      (·.endpoint.model) = some ['m'] := by decide +kernel
  obtain ⟨found, extended, same⟩ := Program.exists_ok_of_toOption read
  obtain ⟨config, loads, model⟩ := Program.exists_ok_of_toOption loaded
  have extended : (loadEnvironment here).outcome layeredSession = (.ok true, layeredRead) := by
    unfold layeredRead
    rw [← (same : found = true)]
    exact Program.outcome_eq_of_fst extended
  have loads := Program.outcome_eq_of_fst loads
  exact ⟨extended, config, _, loads, model, load_precedence extended loads⟩

end ReferencePages.Config
