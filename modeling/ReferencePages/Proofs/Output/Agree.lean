import ReferencePages.Proofs.Output.Write
import ReferencePages.Proofs.Program.Agree
/-!
Writing a page in two runs side by side. Up to the entry in the log, a write works on files alone, and it
looks into none of them.
-/

namespace ReferencePages

open Program (Agree AgreeAt AgreeOn Alike SameExchanges Steady)

namespace Program

variable {R : Session → Session → Prop} {unequal : Prop} {sources : Path → Prop}

theorem reach_agree (stage : WriteStage) (interruption? : Option Interruption) :
    AgreeOn R (reach stage interruption?) (reach stage interruption?) := by
  unfold reach
  split
  · split
    · exact .throw _
    · exact .pure _
  · exact .pure _

theorem nextInterruption_agree : Agree unequal sources nextInterruption nextInterruption := by
  intro s t alike
  obtain ⟨⟨endpoint, rehearsal, log, tree, rfl⟩, files, apart⟩ := alike
  unfold AgreeAt nextInterruption
  rw [outcome_bind, outcome_bind, outcome_get, outcome_get]
  dsimp only
  split
  · exact ⟨rfl, ⟨⟨endpoint, rehearsal, log, tree, rfl⟩, files, apart⟩, Steady.refl _, Steady.refl _⟩
  · exact ⟨rfl, ⟨⟨endpoint, rehearsal, log, tree, rfl⟩, files, apart⟩, ⟨rfl, rfl⟩, ⟨rfl, rfl⟩⟩

theorem makeDirectories_agree (p : Path) :
    Agree unequal sources (makeDirectories p) (makeDirectories p) := by
  intro s t alike
  obtain ⟨place, same⟩ := alike.sameBut
  have later : Alike unequal sources { s with tree := (s.tree.makeDirectories s.directory p).1 }
      { t with tree := (t.tree.makeDirectories s.directory p).1 } :=
    alike.changeFiles fun _ _ _ trees => (trees.makeDirectories s.directory p).2
  rw [alike.directory] at later
  unfold AgreeAt
  rw [makeDirectories_outcome, makeDirectories_outcome, alike.directory,
    (same.makeDirectories s.directory p).1]
  exact ⟨rfl, later, ⟨rfl, rfl⟩, ⟨rfl, rfl⟩⟩

end Program

namespace OutputWriter

open Program

variable {unequal : Prop} {sources : Path → Prop}

/-- States that are alike, where the log file is not the temporary file unless the files are the same. -/
structure Beside (unequal : Prop) (sources : Path → Prop) (temporary : Place) (s t : Session) : Prop where
  alike : Alike unequal sources s t
  apart : t.tree = s.tree ∨ s.logFile ≠ some temporary

variable {temporary : Place}

theorem Beside.changeFiles {s t : Session} (beside : Beside unequal sources temporary s t)
    {change : FileTree → FileTree}
    (keeps : ∀ place t u, FileTree.SameBut place t u → FileTree.SameBut place (change t) (change u)) :
    Beside unequal sources temporary { s with tree := change s.tree } { t with tree := change t.tree } :=
  ⟨beside.alike.changeFiles keeps, beside.apart.imp_left (congrArg change)⟩

theorem changeFiles_agree {change : FileTree → FileTree}
    (keeps : ∀ place t u, FileTree.SameBut place t u → FileTree.SameBut place (change t) (change u)) :
    AgreeOn (Beside unequal sources temporary)
      (modify fun s => { s with tree := change s.tree } : Program PUnit)
      (modify fun s => { s with tree := change s.tree }) := by
  intro s t beside
  exact ⟨rfl, beside.changeFiles keeps, ⟨rfl, rfl⟩, ⟨rfl, rfl⟩⟩

theorem modeFor_agree (target : Path) :
    AgreeOn (Beside unequal sources temporary) (modeFor target) (modeFor target) := by
  refine AgreeOn.unchanged (modeFor_outcome target) (modeFor_outcome target) fun s t beside => ?_
  obtain ⟨place, same⟩ := beside.alike.sameBut
  unfold modeFor
  rw [outcome_bind, outcome_bind, node?_outcome, node?_outcome, beside.alike.directory, same.locate_eq]
  cases s.tree.locate s.directory target with
  | error fault =>
    cases fault with
    | nameTooLong => rfl
    | _ => exact congrArg (fun mask => Except.ok (FileTree.newFileMode mask)) beside.alike.mask.symm
  | ok found =>
    dsimp only
    rcases same.lookup_cases found with equal | ⟨mode, old, new, before, after⟩
    · rw [equal]
      split
      · rfl
      · rfl
      · exact congrArg (fun mask => Except.ok (FileTree.newFileMode mask)) beside.alike.mask.symm
    · rw [before, after]
      rfl

/-- A file that is the same in both trees goes to the place of another in both, or in neither. -/
theorem replace_cases {place : Place} {t u : FileTree} (same : t.SameBut place u) {source : Place}
    (equal : u.lookup source = t.lookup source) (target : Place) (paths : Path × Path) :
    (∃ e, replace t source target paths = .error e ∧ replace u source target paths = .error e) ∨
      ∃ node, replace t source target paths = .ok ((t.erase source).set target node) ∧
        replace u source target paths = .ok ((u.erase source).set target node) := by
  unfold replace
  rw [equal]
  rcases same.lookup_cases target with kinds | ⟨mode, old, new, before, after⟩
  · rw [kinds]
    cases t.lookup target with
    | none =>
      cases t.lookup source with
      | none => exact .inl ⟨_, rfl, rfl⟩
      | some node => exact .inr ⟨node, rfl, rfl⟩
    | some there =>
      cases there with
      | directory =>
        dsimp only
        split
        · exact .inl ⟨_, rfl, rfl⟩
        · exact .inl ⟨_, rfl, rfl⟩
      | file mode contents =>
        cases t.lookup source with
        | none => exact .inl ⟨_, rfl, rfl⟩
        | some node => exact .inr ⟨node, rfl, rfl⟩
  · rw [before, after]
    cases t.lookup source with
    | none => exact .inl ⟨_, rfl, rfl⟩
    | some node => exact .inr ⟨node, rfl, rfl⟩

/-- The page takes its place in both trees. A log file that it replaces is the same in both from then on,
and is no log file any more. -/
theorem Beside.putInPlace {s t : Session} (beside : Beside unequal sources temporary s t) (found : Place)
    (node : Node) :
    Beside unequal sources temporary
      { s with
        tree := (s.tree.erase temporary).set found node
        logFile := if s.logFile = some found then none else s.logFile }
      { t with
        tree := (t.tree.erase temporary).set found node
        logFile := if t.logFile = some found then none else t.logFile } := by
  obtain ⟨⟨⟨endpoint, rehearsal, log, tree, rfl⟩, files, apart⟩, beside⟩ := beside
  dsimp only at files beside
  refine ⟨⟨⟨endpoint, rehearsal, log, _, rfl⟩, ?_, ?_⟩, ?_⟩
  · dsimp only
    rcases files with equal | ⟨differs, file, kept, trees⟩
    · exact .inl (by rw [equal])
    · by_cases here : file = found
      · subst here
        exact .inl ((trees.erase temporary).set_self node)
      · have kept' : (if s.logFile = some found then none else s.logFile) = some file := by
          rw [kept, if_neg (by simpa using here)]
        exact .inr ⟨differs, file, kept', (trees.erase temporary).set found node⟩
  · intro differs file kept
    dsimp only at kept
    split at kept
    · cases kept
    · exact apart differs file kept
  · dsimp only
    refine beside.imp (fun equal => by rw [equal]) fun apartFromLog => ?_
    split
    · exact nofun
    · exact apartFromLog

theorem Beside.lookup_temporary {s t : Session} (beside : Beside unequal sources temporary s t) :
    t.tree.lookup temporary = s.tree.lookup temporary := by
  rcases beside.apart with equal | apart
  · rw [equal]
  · rcases beside.alike.files with equal | ⟨_, file, kept, same⟩
    · rw [equal]
    · refine same.lookup_eq fun here => ?_
      rw [here] at apart
      exact apart kept

theorem putInPlace_agree (target : Path) :
    AgreeOn (Beside unequal sources temporary) (putInPlace target temporary)
      (putInPlace target temporary) := by
  intro s t beside
  obtain ⟨place, same⟩ := beside.alike.sameBut
  unfold AgreeAt OutputWriter.putInPlace
  rw [outcome_bind, outcome_bind, outcome_get, outcome_get]
  dsimp only
  rw [beside.alike.directory, same.locateNew_eq]
  cases s.tree.locateNew s.directory target with
  | error fault => exact ⟨rfl, beside, Steady.refl _, Steady.refl _⟩
  | ok found =>
    dsimp only
    rcases replace_cases same beside.lookup_temporary found _ with ⟨e, left, right⟩ | ⟨node, left, right⟩
    · rw [left, right]
      exact ⟨rfl, beside, Steady.refl _, Steady.refl _⟩
    · have placed := beside.putInPlace found node
      rw [beside.alike.directory] at placed
      rw [left, right]
      exact ⟨rfl, placed, ⟨rfl, rfl⟩, ⟨rfl, rfl⟩⟩

theorem fill_agree (target : Path) (temporary : Place) (contents : Bytes)
    (interruption? : Option Interruption) :
    AgreeOn (Beside unequal sources temporary) (fill target temporary contents interruption?)
      (fill target temporary contents interruption?) := by
  unfold fill prepare
  refine .bind ?_ fun _ => .bind (reach_agree _ _) fun _ => putInPlace_agree _
  exact .bind (reach_agree _ _) fun _ =>
    .bind (changeFiles_agree fun _ _ _ same => same.set temporary _) fun _ =>
      .bind (reach_agree _ _) fun _ => .bind (modeFor_agree _) fun mode =>
        .bind (reach_agree _ _) fun _ => changeFiles_agree fun _ _ _ same => same.setMode temporary mode

/-- An entry of the log that is the same in both runs. -/
theorem log_agree (level : LogLevel) (logger text : Text) :
    AgreeOn (Beside unequal sources temporary) (Program.log level logger text)
      (Program.log level logger text) := by
  intro s t beside
  obtain ⟨result, later, kept, kept'⟩ := Agree.log (.inl rfl) s t beside.alike
  refine ⟨result, ⟨later, ?_⟩, kept, kept'⟩
  obtain ⟨⟨⟨endpoint, rehearsal, log, tree, rfl⟩, _, _⟩, apart⟩ := beside
  refine apart.imp (fun equal => ?_) id
  dsimp only at equal
  subst equal
  rfl

theorem makeTemporary_agree (target : Path) (interruption? : Option Interruption) :
    Agree unequal sources (makeTemporary target interruption?) (makeTemporary target interruption?) := by
  unfold makeTemporary
  refine .bind (reach_agree _ _) fun _ => ?_
  intro s t alike
  obtain ⟨place, same⟩ := alike.sameBut
  unfold AgreeAt
  rw [outcome_bind, outcome_bind, outcome_get, outcome_get]
  dsimp only
  rw [alike.directory, same.locateFresh_eq, FileTree.freshPath, FileTree.freshPath, same.freshName_eq]
  cases s.tree.locateFresh s.directory target.parent (temporaryStart target) temporaryEnd with
  | error fault => exact ⟨rfl, alike, Steady.refl s, Steady.refl t⟩
  | ok found =>
    have later : Alike unequal sources { s with tree := s.tree.set found (.file 0o600 []) }
        { t with tree := t.tree.set found (.file 0o600 []) } :=
      alike.changeFiles fun _ _ _ trees => trees.set found _
    rw [alike.directory] at later
    exact ⟨rfl, later, ⟨rfl, rfl⟩, ⟨rfl, rfl⟩⟩

/-- The temporary file is made where nothing was. If the log file is to be there, there is none yet, and
the files are the same. -/
theorem beside_of_makeTemporary {target : Path} {interruption? : Option Interruption}
    {s t s' t' : Session} (alike : Alike unequal sources s t)
    (left : (makeTemporary target interruption?).outcome s = (.ok temporary, s'))
    (right : (makeTemporary target interruption?).outcome t = (.ok temporary, t'))
    (later : Alike unequal sources s' t') : Beside unequal sources temporary s' t' := by
  obtain ⟨left, free, _, _⟩ := makeTemporary_ok left
  obtain ⟨right, _⟩ := makeTemporary_ok right
  refine ⟨later, ?_⟩
  rcases alike.files with equal | ⟨_, file, kept, trees⟩
  · exact .inl (by rw [left, right, equal])
  · rcases trees with equal | ⟨mode, old, new, found, _⟩
    · exact .inl (by rw [left, right, equal])
    · refine .inr fun here => ?_
      rw [left] at here
      have same : file = temporary := Option.some.inj (kept.symm.trans here)
      rw [same, free] at found
      cases found

/-- A page is written in the same way whatever the exchanges and the logs are. -/
theorem writeText_agree (w : OutputWriter) (fileName content : Text) :
    Agree unequal sources (w.writeText fileName content) (w.writeText fileName content) := by
  unfold writeText
  refine .bind nextInterruption_agree fun interruption? => .bind (makeDirectories_agree _) fun _ =>
    .bind_at (makeTemporary_agree _ _) ?_
  intro s t temporary s' t' alike left right later
  have beside := beside_of_makeTemporary alike left right later
  refine AgreeAt.mono (AgreeOn.bind (fill_agree _ temporary _ _).attempt (fun filled => ?_) s' t' beside)
    fun _ _ => Beside.alike
  split
  · exact .bind (changeFiles_agree fun _ _ _ same => same.erase temporary) fun _ => .throw _
  · exact .bind (log_agree _ _ _) fun _ => .pure _

end OutputWriter
end ReferencePages
