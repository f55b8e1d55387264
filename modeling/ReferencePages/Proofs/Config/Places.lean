import ReferencePages.Proofs.Config.Layers
import ReferencePages.Proofs.Program.Files
/-!
Where the settings come from and where paths in them lead: what a tilde stands for, what a path is as an
absolute one, and what the configuration file says.
-/

namespace ReferencePages.Config

/-! ### Steps that leave the state as it is -/

/-- A step that leaves the state as it is, with what it comes to. -/
structure Yields {α : Type} (s : Session) (fits : Prop) (good : α → Prop) (p : Program α) : Prop where
  comes : Comes fits good (p.outcome s).1
  stays : (p.outcome s).2 = s

namespace Yields

variable {α β : Type} {s : Session} {fits fits' : Prop} {good : α → Prop} {good' : β → Prop}
  {p : Program α}

theorem pure {a : α} (holds : good a) : Yields s True good (Pure.pure a : Program α) :=
  ⟨.pure holds, rfl⟩

/-- A result that is all that must be there. -/
theorem found {a : α} (holds : good a) : Yields s (∃ a, good a) good (Pure.pure a : Program α) :=
  ⟨.result ⟨a, holds⟩ holds, rfl⟩

theorem throw {failure : Failure} (unfit : ¬fits) (foreign : ∀ fault, failure ≠ .configuration fault) :
    Yields s fits good (MonadExcept.throw failure : Program α) := ⟨.failure unfit foreign, rfl⟩

theorem ofExcept {reading : Except Failure α} (comes : Comes fits good reading) :
    Yields s fits good (Program.ofExcept id reading) := by
  cases comes with
  | result fit holds => exact ⟨.result fit holds, rfl⟩
  | failure unfit foreign => exact ⟨.failure unfit foreign, rfl⟩

theorem congr (same : fits ↔ fits') (yields : Yields s fits good p) : Yields s fits' good p :=
  ⟨yields.comes.congr same, yields.stays⟩

theorem imp {good' : α → Prop} (yields : Yields s fits good p) (holds : ∀ a, good a → good' a) :
    Yields s fits good' p := ⟨yields.comes.imp holds, yields.stays⟩

theorem bind {f : α → Program β} (first : Yields s fits good p)
    (next : ∀ a, good a → Yields s fits' good' (f a)) : Yields s (fits ∧ fits') good' (p >>= f) := by
  obtain ⟨comes, stays⟩ := first
  rcases run : p.outcome s with ⟨result, t⟩
  rw [run] at comes stays
  have stays : t = s := stays
  rw [stays] at run
  cases comes with
  | @failure failure unfit foreign =>
    have failed : (p >>= f).outcome s = (.error failure, s) := by rw [Program.outcome_bind, run]
    exact ⟨failed ▸ .failure (fun both => unfit both.1) foreign, failed ▸ rfl⟩
  | result fit holds =>
    have joined := Program.outcome_bind_ok (f := f) run
    obtain ⟨comes, stays⟩ := next _ holds
    exact ⟨joined ▸ comes.congr ⟨fun fit' => ⟨fit, fit'⟩, And.right⟩, joined ▸ stays⟩

/-- What is known of a result. -/
theorem of_ok (yields : Yields s fits good p) {a : α} {t : Session} (run : p.outcome s = (.ok a, t)) :
    fits ∧ good a ∧ t = s := by
  obtain ⟨comes, stays⟩ := yields
  rw [run] at comes stays
  cases comes with
  | result fit holds => exact ⟨fit, holds, stays⟩

/-- The state at hand. -/
theorem get_bind {f : Session → Program α} (next : Yields s fits good (f s)) :
    Yields s fits good (get >>= f) := ⟨next.comes, next.stays⟩

end Yields

/-- What is true of the one value of a layer. -/
theorem IsSingle.forall_iff {α : Type} {layer : α → Prop} (single : IsSingle layer) {a : α}
    (here : layer a) {P : α → Prop} : (∀ b, layer b → P b) ↔ P a :=
  ⟨fun all => all a here, fun holds b there => single a b here there ▸ holds⟩

/-! ### Paths -/

/-- A path that begins with a tilde. -/
def IsHomeLed (p : Path) : Prop :=
  p.anchor = .relative ∧ ∃ account rest, p.parts = ('~' :: account) :: rest

/-- A text without a null character. -/
def IsClean (s : Text) : Prop := '\x00' ∉ s

/-- The path of a home directory, which may end in slashes. -/
def homePath (home : Text) : Path :=
  let trimmed := Text.trimEndWhile (· == '/') home
  Path.ofText (if trimmed.isEmpty then "/" else trimmed)

/-- What a path is with a home directory in the place of its tilde. The home must be known, and begin with
no tilde itself. -/
inductive Expands (s : Session) : Path → Path → Prop
  | plain {p : Path} (plain : ¬IsHomeLed p) : Expands s p p
  | home {account home : Text} {rest : List Text} (clean : IsClean account)
    (known : Program.homeOf? s ('~' :: account) = some home) (plain : ¬IsHomeLed (homePath home)) :
    Expands s { anchor := .relative, parts := ('~' :: account) :: rest }
      { homePath home with parts := (homePath home).parts ++ rest }

/-- The absolute path that a path leads to. -/
def Resolves (s : Session) (p place : Path) : Prop :=
  ∃ q, Expands s p q ∧ (∀ part ∈ q.parts, IsClean part) ∧ Path.resolve s.directory q = place

/-- The absolute path that a text leads to, as seen from a root. -/
def Leads (s : Session) (root : Path) (text : Text) (place : Path) : Prop :=
  ∃ q, Expands s (Path.ofText text) q ∧ Resolves s (root.join q) place

section
variable {s : Session}

theorem Expands.unique (p : Path) : IsSingle (Expands s p) := by
  intro q r first second
  cases first with
  | plain plain =>
    cases second with
    | plain => rfl
    | home => exact absurd ⟨rfl, _, _, rfl⟩ plain
  | home _ known _ =>
    cases second with
    | plain plain => exact absurd ⟨rfl, _, _, rfl⟩ plain
    | home _ known' _ =>
      cases known.symm.trans known'
      rfl

theorem Resolves.unique (p : Path) : IsSingle (Resolves s p) := by
  rintro place place' ⟨q, expands, _, rfl⟩ ⟨q', expands', _, rfl⟩
  rw [Expands.unique p q q' expands expands']

theorem Leads.unique (root : Path) (text : Text) : IsSingle (Leads s root text) := by
  rintro place place' ⟨q, expands, resolves⟩ ⟨q', expands', resolves'⟩
  cases Expands.unique _ q q' expands expands'
  exact Resolves.unique _ place place' resolves resolves'

theorem isHomeLed_iff {p : Path} :
    (p.anchor = .relative && (p.parts.head?.any (Text.startsWith "~"))) = true ↔ IsHomeLed p := by
  obtain ⟨anchor, parts⟩ := p
  unfold IsHomeLed
  rcases parts with _ | ⟨_ | ⟨c, account⟩, rest⟩
  · simp
  · simp [Text.startsWith, Text.after?]
  · by_cases tilde : c = '~'
    · subst tilde
      simp [Text.startsWith, Text.after?]
    · simp [Text.startsWith, Text.after?, tilde, Ne.symm tilde]

/-- A path with a tilde in front expands only where the home directory can be had. -/
theorem Expands.of_home {account : Text} {rest : List Text} {q : Path}
    (expands : Expands s { anchor := .relative, parts := ('~' :: account) :: rest } q) :
    IsClean account ∧ ∃ home, Program.homeOf? s ('~' :: account) = some home ∧
      ¬IsHomeLed (homePath home) := by
  cases expands with
  | plain plain => exact absurd ⟨rfl, _, _, rfl⟩ plain
  | home clean known plain => exact ⟨clean, _, known, plain⟩

theorem expandHome_yields (p : Path) :
    Yields s (∃ q, Expands s p q) (Expands s p) (Program.expandHome p) := by
  unfold Program.expandHome
  split
  · rename_i account rest relative led
    obtain rfl : p = { anchor := .relative, parts := ('~' :: account) :: rest } := by
      cases p
      cases relative
      cases led
      rfl
    split
    · rename_i null
      refine .throw ?_ fun _ => Failure.noConfusion
      rintro ⟨_, expands⟩
      exact expands.of_home.1 (List.elem_iff.mp null)
    · rename_i clean
      rw [List.elem_iff] at clean
      refine .get_bind ?_
      split
      · rename_i home known
        change Yields s _ _ (if (homePath home).anchor = .relative &&
          ((homePath home).parts.head?.any (Text.startsWith "~")) then _ else _)
        split
        · rename_i led
          refine .throw ?_ fun _ => Failure.noConfusion
          rintro ⟨_, expands⟩
          obtain ⟨_, _, known', plain⟩ := expands.of_home
          cases known.symm.trans known'
          exact plain (isHomeLed_iff.mp led)
        · rename_i unled
          have plain : ¬IsHomeLed (homePath home) := fun led => unled (isHomeLed_iff.mpr led)
          exact .found (Expands.home clean known plain)
      · rename_i unknown
        refine .throw ?_ fun _ => Failure.noConfusion
        rintro ⟨_, expands⟩
        obtain ⟨_, _, known, _⟩ := expands.of_home
        exact nomatch unknown.symm.trans known
  · rename_i unled
    exact .found (.plain fun ⟨relative, account, rest, led⟩ => unled account rest relative led)

theorem resolve_yields (p : Path) :
    Yields s (∃ place, Resolves s p place) (Resolves s p) (Program.resolve p) := by
  have both : Yields s
      ((∃ q, Expands s p q) ∧ ∀ q, Expands s p q → ∀ part ∈ q.parts, IsClean part) (Resolves s p)
      (Program.resolve p) := by
    refine (expandHome_yields p).bind fun q expands =>
      Yields.congr ((Expands.unique p).forall_iff expands).symm ?_
    split
    · rename_i null
      obtain ⟨part, member, null⟩ := List.any_eq_true.mp null
      exact .throw (fun clean => clean part member (List.elem_iff.mp null)) fun _ => Failure.noConfusion
    · rename_i none
      have clean : ∀ part ∈ q.parts, IsClean part := fun part member null =>
        none (List.any_eq_true.mpr ⟨part, member, List.elem_iff.mpr null⟩)
      have resolves : Resolves s p (Path.resolve s.directory q) := ⟨q, expands, clean, rfl⟩
      have found : Yields s True (Resolves s p)
        (do return Path.resolve (← get).directory q : Program Path) := .get_bind (.pure resolves)
      exact found.congr ⟨fun _ => clean, fun _ => trivial⟩
  refine both.congr ⟨?_, ?_⟩
  · rintro ⟨⟨q, expands⟩, clean⟩
    exact ⟨_, q, expands, clean q expands, rfl⟩
  · rintro ⟨_, q, expands, clean, -⟩
    exact ⟨⟨q, expands⟩, ((Expands.unique p).forall_iff expands).mpr clean⟩

theorem resolveAgainst_yields (root : Path) (text : Text) :
    Yields s (∃ place, Leads s root text place) (Leads s root text) (resolveAgainst root text) := by
  have both : Yields s ((∃ q, Expands s (Path.ofText text) q) ∧
      ∀ q, Expands s (Path.ofText text) q → ∃ place, Resolves s (root.join q) place)
      (Leads s root text) (resolveAgainst root text) :=
    (expandHome_yields (Path.ofText text)).bind fun q expands =>
      ((resolve_yields (root.join q)).imp fun _ resolves => ⟨q, expands, resolves⟩).congr
        ((Expands.unique _).forall_iff expands).symm
  refine both.congr ⟨?_, ?_⟩
  · rintro ⟨⟨q, expands⟩, resolves⟩
    obtain ⟨place, resolves⟩ := resolves q expands
    exact ⟨place, q, expands, resolves⟩
  · rintro ⟨place, q, expands, resolves⟩
    exact ⟨⟨q, expands⟩, ((Expands.unique _).forall_iff expands).mpr ⟨place, resolves⟩⟩

end

/-! ### The configuration file -/

/-- The text that a file holds, with unified line endings. -/
def Holds (s : Session) (file : Path) (text : Text) : Prop :=
  ∃ contents written, s.tree.read s.directory file = .ok contents ∧ Utf8.decode contents = .ok written ∧
    Text.unifyNewlines written = text

/-- What a configuration file is read as: a mapping, which is empty if there is no such file, no text in
it, no document in its text or nothing in the document. -/
inductive ReadsAs (s : Session) (file : Path) : Section → Prop
  | missing (absent : s.tree.isFile s.directory file = false) : ReadsAs s file .empty
  | blank {text : Text} (holds : Holds s file text) (blank : Text.isAllBlank text = true) :
    ReadsAs s file .empty
  | nothing {text : Text} (holds : Holds s file text) (read : Yaml.Document.read text = .ok none) :
    ReadsAs s file .empty
  | null {text : Text} {document : Yaml.Document} (holds : Holds s file text)
    (read : Yaml.Document.read text = .ok (some document))
    (root : document.value document.root = .scalar .null) : ReadsAs s file .empty
  | mapping {text : Text} {document : Yaml.Document} {entries : List (Yaml.Scalar × Nat)}
    (holds : Holds s file text) (given : Text.isAllBlank text = false)
    (read : Yaml.Document.read text = .ok (some document))
    (root : document.value document.root = .dictionary entries) : ReadsAs s file { document, entries }

theorem readBytes_eq_ok {file : Path} {s t : Session} {contents : Bytes} :
    (Program.readBytes file).outcome s = (.ok contents, t) ↔
      s.tree.read s.directory file = .ok contents ∧ t = s := by
  rw [Program.readBytes, Program.outcome_bind_ok (Program.outcome_asks _ s),
    Program.outcome_ofExcept_eq_ok]

theorem readText_eq_ok {file : Path} {s t : Session} {text : Text} :
    (Program.readText file).outcome s = (.ok text, t) ↔ Holds s file text ∧ t = s := by
  constructor
  · intro run
    obtain ⟨contents, u, opened, rest⟩ := Program.outcome_bind_eq_ok run
    obtain ⟨read, rfl⟩ := readBytes_eq_ok.mp opened
    obtain ⟨written, v, given, last⟩ := Program.outcome_bind_eq_ok rest
    obtain ⟨decoded, rfl⟩ := Program.outcome_ofExcept_eq_ok.mp given
    cases last
    exact ⟨⟨contents, written, read, decoded, rfl⟩, rfl⟩
  · rintro ⟨⟨contents, written, read, decoded, rfl⟩, rfl⟩
    rw [Program.readText, Program.outcome_bind_ok (readBytes_eq_ok.mpr ⟨read, rfl⟩),
      Program.outcome_bind_ok (Program.outcome_ofExcept_eq_ok.mpr ⟨decoded, rfl⟩)]
    rfl

/-- A file that holds a text is a file, and its path is not too long. -/
theorem Holds.isFile {s : Session} {file : Path} {text : Text} (holds : Holds s file text) :
    s.tree.isFile s.directory file = true ∧ s.tree.locate s.directory file ≠ .error .nameTooLong := by
  obtain ⟨contents, _, read, _⟩ := holds
  unfold FileTree.read at read
  unfold FileTree.isFile FileTree.node?
  split at read
  · cases read
  · rename_i place located
    rw [located]
    split at read
    · rename_i mode contents found
      simp [found]
    · cases read
    · cases read

theorem Holds.unique (s : Session) (file : Path) : IsSingle (Holds s file) := by
  rintro text text' ⟨contents, written, read, decoded, rfl⟩ ⟨contents', written', read', decoded', rfl⟩
  cases read.symm.trans read'
  cases decoded.symm.trans decoded'
  rfl

/-- What the text of a configuration file is read as. -/
theorem readSection_eq_ok {s : Session} {file : Path} {text : Text} {d : Section}
    (holds : Holds s file text) : readSection file text = .ok d ↔ ReadsAs s file d := by
  have same {other : Text} (holds' : Holds s file other) : other = text :=
    Holds.unique s file other text holds' holds
  unfold readSection
  constructor
  · intro read
    split at read
    · rename_i blank
      cases read
      exact .blank holds blank
    · rename_i given
      split at read
      · cases read
      · rename_i nothing
        cases read
        exact .nothing holds nothing
      · rename_i document found
        split at read
        · rename_i entries root
          cases read
          exact .mapping holds (Bool.eq_false_iff.mpr given) found root
        · rename_i root
          cases read
          exact .null holds found root
        · cases read
  · intro reads
    cases reads with
    | missing absent => exact nomatch absent.symm.trans holds.isFile.1
    | blank holds' blank => rw [if_pos (same holds' ▸ blank)]
    | nothing holds' read => simp only [same holds' ▸ read, ite_self]
    | null holds' read root => simp only [same holds' ▸ read, root, ite_self]
    | mapping holds' given read root =>
      cases same holds'
      simp only [given, read, root]
      rfl

theorem ReadsAs.missing_or_holds {s : Session} {file : Path} {d : Section} (reads : ReadsAs s file d) :
    s.tree.isFile s.directory file = false ∧ d = .empty ∨ ∃ text, Holds s file text := by
  cases reads with
  | missing absent => exact .inl ⟨absent, rfl⟩
  | blank holds | nothing holds | null holds | mapping holds => exact .inr ⟨_, holds⟩

theorem readFile_of_holds {s : Session} {file : Path} {text : Text} {d : Section}
    (holds : Holds s file text) (reads : ReadsAs s file d) : (readFile file).outcome s = (.ok d, s) := by
  obtain ⟨there, short⟩ := holds.isFile
  have asked := Program.isFile_eq_ok.mpr ⟨rfl, there.symm, short⟩
  have opened := readText_eq_ok.mpr ⟨holds, rfl⟩
  have mapping := (readSection_eq_ok holds).mpr reads
  rw [readFile, Program.outcome_bind_ok asked]
  refine (Program.outcome_bind_ok opened).trans ?_
  rw [mapping]
  rfl

/-- A configuration file is read as what it is, unless its path is too long. -/
theorem readFile_yields {file : Path} {s : Session} {d : Section} (reads : ReadsAs s file d) :
    Yields s (s.tree.locate s.directory file ≠ .error .nameTooLong) (· = d) (readFile file) := by
  by_cases long : s.tree.locate s.directory file = .error .nameTooLong
  · have failed : (readFile file).outcome s =
        (.error (.file { fault := .nameTooLong, path := file.toText, target := none }), s) := by
      rw [readFile, Program.outcome_bind, Program.isFile_outcome, long]
    exact ⟨failed ▸ .failure (fun short => short long) fun _ => Failure.noConfusion, failed ▸ rfl⟩
  · have found : (readFile file).outcome s = (.ok d, s) := by
      rcases reads.missing_or_holds with ⟨absent, rfl⟩ | ⟨text, holds⟩
      · have asked := Program.isFile_eq_ok.mpr ⟨rfl, absent.symm, long⟩
        rw [readFile, Program.outcome_bind_ok asked]
        rfl
      · exact readFile_of_holds holds reads
    exact ⟨found ▸ .result long rfl, found ▸ rfl⟩

/-- What is read is what a configuration file is read as. -/
theorem readsAs_of_readFile {file : Path} {s t : Session} {d : Section}
    (run : (readFile file).outcome s = (.ok d, t)) : ReadsAs s file d ∧ t = s := by
  obtain ⟨there, u, asked, rest⟩ := Program.outcome_bind_eq_ok run
  obtain ⟨rfl, answer, _⟩ := Program.isFile_eq_ok.mp asked
  split at rest
  · rename_i absent
    cases rest
    exact ⟨.missing (by simpa [answer] using absent), rfl⟩
  · obtain ⟨text, u, opened, given⟩ := Program.outcome_bind_eq_ok rest
    obtain ⟨holds, rfl⟩ := readText_eq_ok.mp opened
    obtain ⟨read, rfl⟩ := Program.outcome_ofExcept_eq_ok.mp given
    exact ⟨(readSection_eq_ok holds).mp read, rfl⟩

end ReferencePages.Config
