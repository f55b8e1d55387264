import ReferencePages.Proofs.Program.Reads
/-!
Two runs side by side. They start from the same files and may differ in what the endpoint will say and in
what the log has said; they agree if these differences show in nothing that they do.
-/

namespace ReferencePages.Program

variable {α β : Type} {R : Session → Session → Prop}

/-- Two programs that come to the same from two states, reach states in a relation, and leave the exchanges
alone. -/
def AgreeAt (R : Session → Session → Prop) (s t : Session) (p q : Program α) : Prop :=
  (p.outcome s).1 = (q.outcome t).1 ∧ R (p.outcome s).2 (q.outcome t).2 ∧
    SameExchanges s (p.outcome s).2 ∧ SameExchanges t (q.outcome t).2

theorem AgreeAt.mono {R' : Session → Session → Prop} {s t : Session} {p q : Program α}
    (agree : AgreeAt R s t p q) (wider : ∀ s t, R s t → R' s t) : AgreeAt R' s t p q :=
  ⟨agree.1, wider _ _ agree.2.1, agree.2.2⟩

/-- Two programs that agree from all states in a relation, and keep the relation. -/
def AgreeOn (R : Session → Session → Prop) (p q : Program α) : Prop :=
  ∀ s t, R s t → AgreeAt R s t p q

namespace AgreeOn

/-- What comes second need only agree where the first part leads. -/
theorem bind_at {p q : Program α} {f g : α → Program β} (first : AgreeOn R p q)
    (next : ∀ s t a s' t', R s t → p.outcome s = (.ok a, s') → q.outcome t = (.ok a, t') → R s' t' →
      AgreeAt R s' t' (f a) (g a)) : AgreeOn R (p >>= f) (q >>= g) := by
  intro s t related
  obtain ⟨result, later, keptLeft, keptRight⟩ := first s t related
  unfold AgreeAt
  rw [outcome_bind, outcome_bind]
  cases left : p.outcome s with
  | mk a s₁ =>
    cases right : q.outcome t with
    | mk b t₁ =>
      rw [left, right] at result later
      rw [left] at keptLeft
      rw [right] at keptRight
      dsimp only at result later keptLeft keptRight
      subst result
      cases a with
      | error failure => exact ⟨rfl, later, keptLeft, keptRight⟩
      | ok a =>
        obtain ⟨result, last, leftLater, rightLater⟩ := next s t a s₁ t₁ related left right later
        exact ⟨result, last, Steady.trans keptLeft leftLater, Steady.trans keptRight rightLater⟩

theorem bind_of {p q : Program α} {f g : α → Program β} (first : AgreeOn R p q)
    (next : ∀ s a t, p.outcome s = (.ok a, t) → AgreeOn R (f a) (g a)) :
    AgreeOn R (p >>= f) (q >>= g) :=
  first.bind_at fun s _ a s' t' _ left _ later => next s a s' left s' t' later

theorem bind {p q : Program α} {f g : α → Program β} (first : AgreeOn R p q)
    (next : ∀ a, AgreeOn R (f a) (g a)) : AgreeOn R (p >>= f) (q >>= g) :=
  first.bind_of fun _ a _ _ => next a

/-- Programs that leave the state as it is agree if their results do. -/
theorem unchanged {p q : Program α} (left : ∀ s, (p.outcome s).2 = s) (right : ∀ t, (q.outcome t).2 = t)
    (results : ∀ s t, R s t → (p.outcome s).1 = (q.outcome t).1) : AgreeOn R p q := by
  intro s t related
  unfold AgreeAt
  rw [left s, right t]
  exact ⟨results s t related, related, Steady.refl s, Steady.refl t⟩

theorem pure (a : α) : AgreeOn R (Pure.pure a : Program α) (Pure.pure a) :=
  unchanged (fun _ => rfl) (fun _ => rfl) fun _ _ _ => rfl

theorem throw (failure : Failure) :
    AgreeOn R (MonadExcept.throw failure : Program α) (MonadExcept.throw failure) :=
  unchanged (fun _ => rfl) (fun _ => rfl) fun _ _ _ => rfl

theorem attempt {p q : Program α} (tried : AgreeOn R p q) :
    AgreeOn R (Program.attempt p) (Program.attempt q) := by
  intro s t related
  obtain ⟨result, later, keptLeft, keptRight⟩ := tried s t related
  unfold AgreeAt
  rw [outcome_attempt, outcome_attempt]
  exact ⟨congrArg Except.ok result, later, keptLeft, keptRight⟩

end AgreeOn

/-! ### Runs that log different things -/

/-- Two states that differ in their exchanges and their logs alone. Where entries in the logs may be
`unequal`, so may be the contents of the log file, which then is at none of the paths that are
`sources`. -/
structure Alike (unequal : Prop) (sources : Path → Prop) (s t : Session) : Prop where
  rest : ∃ endpoint rehearsal log tree, t = { s with endpoint, rehearsal, log, tree }
  files : t.tree = s.tree ∨
    (unequal ∧ ∃ place, s.logFile = some place ∧ s.tree.SameBut place t.tree)
  apart : unequal → ∀ place, s.logFile = some place → ∀ p, sources p →
    FileTree.destination s.directory p ≠ place

variable {unequal : Prop} {sources : Path → Prop} {s t : Session}

/-- The trees are the same but for the contents of one file, if any. -/
theorem Alike.sameBut (alike : Alike unequal sources s t) :
    ∃ place, s.tree.SameBut place t.tree := by
  rcases alike.files with same | ⟨_, place, _, same⟩
  · exact ⟨[], .inl same⟩
  · exact ⟨place, same⟩

theorem Alike.directory (alike : Alike unequal sources s t) : t.directory = s.directory := by
  obtain ⟨_, _, _, _, tEq⟩ := alike.rest
  rw [tEq]

theorem Alike.unreadable (alike : Alike unequal sources s t) : t.unreadable = s.unreadable := by
  obtain ⟨_, _, _, _, tEq⟩ := alike.rest
  rw [tEq]

theorem Alike.mask (alike : Alike unequal sources s t) : t.mask = s.mask := by
  obtain ⟨_, _, _, _, tEq⟩ := alike.rest
  rw [tEq]

theorem Alike.logFile (alike : Alike unequal sources s t) : t.logFile = s.logFile := by
  obtain ⟨_, _, _, _, tEq⟩ := alike.rest
  rw [tEq]

/-- The same change of the files on both sides keeps states alike. -/
theorem Alike.changeFiles (alike : Alike unequal sources s t) {change : FileTree → FileTree}
    (keeps : ∀ place t u, FileTree.SameBut place t u → FileTree.SameBut place (change t) (change u)) :
    Alike unequal sources { s with tree := change s.tree } { t with tree := change t.tree } := by
  refine ⟨?_, ?_, alike.apart⟩
  · obtain ⟨endpoint, rehearsal, log, tree, tEq⟩ := alike.rest
    exact ⟨endpoint, rehearsal, log, change t.tree, by rw [tEq]⟩
  · rcases alike.files with same | ⟨differs, place, kept, same⟩
    · exact .inl (congrArg change same)
    · exact .inr ⟨differs, place, kept, keeps place _ _ same⟩

/-- Two programs that come to the same from states that are alike, and leave the exchanges alone. -/
def Agree (unequal : Prop) (sources : Path → Prop) (p q : Program α) : Prop :=
  AgreeOn (Alike unequal sources) p q

/-- Two states with the same files, as far as they are not the log file. -/
def SameFiles (s t : Session) : Prop :=
  t.logFile = s.logFile ∧ ∀ place, s.logFile ≠ some place → t.tree.lookup place = s.tree.lookup place

theorem Alike.sameFiles (alike : Alike unequal sources s t) : SameFiles s t := by
  refine ⟨alike.logFile, fun place apart => ?_⟩
  rcases alike.files with same | ⟨_, file, kept, same⟩
  · rw [same]
  · refine same.lookup_eq fun here => ?_
    rw [here] at apart
    exact apart kept

/-- From states that differ in their exchanges alone, programs that agree come to the same results and the
same files. -/
theorem Agree.same_files {p q : Program α} (agree : Agree unequal sources p q) {s : Session}
    (apart : unequal → ∀ place, s.logFile = some place → ∀ p, sources p →
      FileTree.destination s.directory p ≠ place)
    (endpoint : Endpoint) (rehearsal : Rehearsal) :
    SameExchanges s (p.outcome s).2 ∧
      SameExchanges { s with endpoint, rehearsal } (q.outcome { s with endpoint, rehearsal }).2 ∧
      (q.outcome { s with endpoint, rehearsal }).1 = (p.outcome s).1 ∧
      SameFiles (p.outcome s).2 (q.outcome { s with endpoint, rehearsal }).2 := by
  obtain ⟨equal, later, kept, kept'⟩ :=
    agree s { s with endpoint, rehearsal } ⟨⟨endpoint, rehearsal, s.log, s.tree, rfl⟩, .inl rfl, apart⟩
  exact ⟨kept, kept', equal.symm, later.sameFiles⟩

/-- Different texts are added to a file whose contents may be different before. -/
theorem sameBut_appendTo {place : Place} {t u : FileTree} (same : t.SameBut place u)
    (text text' : Text) : (appendTo t place text).SameBut place (appendTo u place text') := by
  rcases same with rfl | ⟨mode, old, new, found, rfl⟩
  · unfold appendTo
    split
    · exact .of_set (FileTree.ne_root_of_file ‹_›) u _ _ _
    · exact .refl place u
  · have below := FileTree.ne_root_of_file found
    unfold appendTo
    rw [found, FileTree.lookup_set_self below]
    dsimp only
    rw [FileTree.set_set_self]
    exact .of_set below t mode _ _

/-- Entries in the log agree if they are the same or may be unequal. -/
theorem Agree.log {level : LogLevel} {logger text text' : Text} (same : text' = text ∨ unequal) :
    Agree unequal sources (Program.log level logger text) (Program.log level logger text') := by
  intro s t alike
  unfold AgreeAt
  rw [outcome_log, outcome_log]
  refine ⟨rfl, ?_, SameExchanges.record _ _ _ _, SameExchanges.record _ _ _ _⟩
  obtain ⟨⟨endpoint, rehearsal, log, tree, rfl⟩, files, apart⟩ := alike
  refine ⟨⟨endpoint, rehearsal, _, _, rfl⟩, ?_, apart⟩
  unfold record Program.log
  rw [outcome_modify, outcome_modify]
  dsimp only at files ⊢
  cases kept : s.logFile with
  | none =>
    rcases files with equal | ⟨_, place, there, _⟩
    · exact .inl equal
    · rw [kept] at there
      cases there
  | some file =>
    dsimp only
    split
    · rcases files with equal | ⟨differs, place, there, trees⟩
      · rcases same with rfl | differs
        · exact .inl (by rw [equal])
        · exact .inr ⟨differs, file, rfl, sameBut_appendTo (.inl equal) _ _⟩
      · rw [kept] at there
        cases there
        exact .inr ⟨differs, file, rfl, sameBut_appendTo trees _ _⟩
    · rw [kept] at files
      exact files

/-- Questions about files that are the same but for the log file have the same answers. -/
theorem Agree.asks {question : FileTree → Place → α} (blind : Blind question) :
    Agree unequal sources (Program.asks question) (Program.asks question) := by
  refine AgreeOn.unchanged (fun _ => rfl) (fun _ => rfl) fun s t alike => ?_
  obtain ⟨place, same⟩ := alike.sameBut
  rw [outcome_asks, outcome_asks, alike.directory, blind place _ _ _ same]

/-- A file that is read is not the log file, or else the log files are equal. -/
theorem Agree.contents {p : Path} (source : sources p) :
    Agree unequal sources (Program.asks fun t d => t.read d p)
      (Program.asks fun t d => t.read d p) := by
  refine AgreeOn.unchanged (fun _ => rfl) (fun _ => rfl) fun s t alike => ?_
  rw [outcome_asks, outcome_asks, alike.directory]
  rcases alike.files with same | ⟨differs, place, kept, same⟩
  · rw [same]
  · rw [same.read_eq (alike.apart differs place kept p source)]

/-- A program that reads agrees with itself. -/
theorem Reads.agree {p : Program α} (reads : Reads sources p) : Agree unequal sources p p := by
  induction reads with
  | pure a => exact AgreeOn.pure a
  | throw failure => exact AgreeOn.throw failure
  | log level logger text => exact .log (.inl rfl)
  | asks blind => exact .asks blind
  | isFile p =>
    refine AgreeOn.unchanged (fun s => by rw [isFile_outcome]) (fun t => by rw [isFile_outcome])
      fun s t alike => ?_
    obtain ⟨place, same⟩ := alike.sameBut
    rw [isFile_outcome, isFile_outcome, alike.directory, same.locate_eq, same.isFile_eq]
  | isDirectory p =>
    refine AgreeOn.unchanged (fun s => by rw [isDirectory_outcome])
      (fun t => by rw [isDirectory_outcome]) fun s t alike => ?_
    obtain ⟨place, same⟩ := alike.sameBut
    rw [isDirectory_outcome, isDirectory_outcome, alike.directory, same.locate_eq, same.isDirectory_eq]
  | isReadable p =>
    refine AgreeOn.unchanged (fun s => by rw [isReadable_outcome])
      (fun t => by rw [isReadable_outcome]) fun s t alike => ?_
    obtain ⟨place, same⟩ := alike.sameBut
    rw [isReadable_outcome, isReadable_outcome, alike.directory, alike.unreadable, same.locate_eq]
  | contents source => exact .contents source
  | bind_of _ _ first next => exact first.bind_of next

end ReferencePages.Program
