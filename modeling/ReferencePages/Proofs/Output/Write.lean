import ReferencePages.Output
import ReferencePages.Proofs.Program.Files
import Mathlib.Data.Nat.Bitwise
/-!
What one write of a page leaves behind. The page is filled beside its place under a fresh name; until it
is put there, only the node under that name changes, and where the write is refused that node is taken
away again.
-/

namespace ReferencePages.OutputWriter

/-- The permission bits of a new file are those that reading and writing need, less the masked ones. -/
theorem newFileMode_eq (mask : Nat) : FileTree.newFileMode mask = Nat.ldiff 0o666 mask := by
  apply Nat.eq_of_testBit_eq
  intro i
  rw [FileTree.newFileMode, Nat.testBit_ldiff]
  simp only [Nat.testBit_and, Nat.testBit_xor]
  by_cases low : i < 9
  · have allowed : Nat.testBit 0o777 i = true := by
      rw [show 0o777 = 2 ^ 9 - 1 from rfl, Nat.testBit_two_pow_sub_one]
      exact decide_eq_true low
    rw [allowed]
    cases Nat.testBit 0o666 i <;> cases mask.testBit i <;> rfl
  · have clear : Nat.testBit 0o666 i = false := by
      apply Nat.testBit_lt_two_pow
      have grow : 2 ^ 9 ≤ 2 ^ i := Nat.pow_le_pow_right (by decide) (by omega)
      omega
    rw [clear]
    rfl

/-- The permission bits that a page at a place is to have: those that it has, else those of a new
file. -/
def pageMode (s : Session) (place : Place) : Nat :=
  match s.tree.lookup place with
  | some (.file mode _) => mode
  | _ => Nat.ldiff 0o666 s.mask

/-- The place of the page with a file name. -/
def placeOf (w : OutputWriter) (directory : Place) (fileName : Text) : Place :=
  FileTree.destination directory (w.directory.child fileName)

/-- A state that differs from an earlier one at one place of the tree. -/
def ChangedAt (place : Place) (s t : Session) : Prop :=
  ∃ tree, t = { s with tree } ∧ ∀ other, other ≠ place → tree.lookup other = s.tree.lookup other

instance (place : Place) : Program.Steady (ChangedAt place) where
  refl s := ⟨s.tree, rfl, fun _ _ => rfl⟩
  trans := by
    rintro s t u ⟨tree, rfl, first⟩ ⟨tree', rfl, second⟩
    exact ⟨tree', rfl, fun other ne => (second other ne).trans (first other ne)⟩

/-- Reading the permission bits leaves the state, with its mask, as it is. -/
theorem modeFor_outcome (target : Path) (s : Session) : ((modeFor target).outcome s).2 = s := by
  unfold modeFor
  rw [Program.outcome_bind, Program.node?_outcome]
  cases s.tree.locate s.directory target with
  | error fault => cases fault <;> rfl
  | ok place =>
    cases found : s.tree.lookup place with
    | none => simp only [found]; rfl
    | some node => cases node <;> simp only [found] <;> rfl

/-- The permission bits that are read for a page are those that it is to have. -/
theorem modeFor_eq {target : Path} {s t : Session} {place : Place} {mode : Nat}
    (located : s.tree.locateNew s.directory target = .ok place)
    (page : s.tree.lookup place ≠ some .directory)
    (run : (modeFor target).outcome s = (.ok mode, t)) : mode = pageMode s place := by
  unfold modeFor at run
  rw [Program.outcome_bind, Program.node?_outcome] at run
  unfold pageMode
  rcases FileTree.locate_of_locateNew located with tooLong | found | ⟨free, missing⟩
  · rw [tooLong] at run
    cases run
  · rw [found] at run
    dsimp only at run
    split at run
    · rename_i there
      rw [there]
      cases run
      rfl
    · exact absurd ‹_› page
    · rename_i nothing
      rw [nothing]
      cases run
      exact newFileMode_eq s.mask
  · rw [missing] at run
    rw [free]
    cases run
    exact newFileMode_eq s.mask

/-- Until the page is put in its place, only the temporary file changes. -/
theorem prepare_moves (target : Path) (temporary : Place) (contents : Bytes)
    (interruption? : Option Interruption) :
    Program.Moves (ChangedAt temporary) (prepare target temporary contents interruption?) := by
  have reached (stage : WriteStage) :
      Program.Moves (ChangedAt temporary) (Program.reach stage interruption?) := by
    intro s
    rw [Program.reach_outcome]
    exact Program.Steady.refl s
  unfold prepare
  refine .bind (reached _) fun _ => .bind ?_ fun _ => .bind (reached _) fun _ => .bind ?_ fun mode =>
    .bind (reached _) fun _ => ?_
  · intro s
    exact ⟨_, rfl, fun other ne => FileTree.lookup_set_of_ne ne s.tree _⟩
  · intro s
    rw [modeFor_outcome]
    exact Program.Steady.refl s
  · intro s
    exact ⟨_, rfl, fun other ne => FileTree.lookup_setMode_of_ne ne s.tree mode⟩

/-- The temporary file is filled and gets the permission bits that are read off the page. -/
theorem prepare_steps {target : Path} {temporary : Place} {contents : Bytes}
    {interruption? : Option Interruption} {s t : Session}
    (run : (prepare target temporary contents interruption?).outcome s = (.ok ⟨⟩, t)) :
    ∃ mode, (modeFor target).outcome { s with tree := s.tree.set temporary (.file 0o600 contents) } =
        (.ok mode, { s with tree := s.tree.set temporary (.file 0o600 contents) }) ∧
      t = { s with tree := (s.tree.set temporary (.file 0o600 contents)).setMode temporary mode } := by
  unfold prepare at run
  obtain ⟨_, s₁, first, rest₁⟩ := Program.outcome_bind_eq_ok run
  obtain ⟨_, s₂, filled, rest₂⟩ := Program.outcome_bind_eq_ok rest₁
  obtain ⟨_, s₃, second, rest₃⟩ := Program.outcome_bind_eq_ok rest₂
  obtain ⟨mode, s₄, read, rest₄⟩ := Program.outcome_bind_eq_ok rest₃
  obtain ⟨_, s₅, third, last⟩ := Program.outcome_bind_eq_ok rest₄
  have same₁ : s₁ = s := by rw [← Program.reach_outcome .opening interruption? s, first]
  have same₃ : s₃ = s₂ := by rw [← Program.reach_outcome .writing interruption? s₂, second]
  have same₄ : s₄ = s₃ := by rw [← modeFor_outcome target s₃, read]
  have same₅ : s₅ = s₄ := by rw [← Program.reach_outcome .permissions interruption? s₄, third]
  rw [same₁] at filled
  rw [same₅, same₄, same₃] at last
  rw [same₄, same₃] at read
  obtain rfl := (Prod.mk.inj filled).2
  obtain rfl := (Prod.mk.inj last).2
  exact ⟨mode, read, rfl⟩

/-- The temporary file holds the page as it is to be. -/
theorem prepare_ok {target : Path} {temporary place : Place} {contents : Bytes}
    {interruption? : Option Interruption} {s t : Session}
    (run : (prepare target temporary contents interruption?).outcome s = (.ok ⟨⟩, t))
    (below : temporary ≠ []) (apart : place ≠ temporary)
    (located : t.tree.locateNew s.directory target = .ok place)
    (page : s.tree.lookup place ≠ some .directory) :
    t.tree.lookup temporary = some (.file (pageMode s place) contents) := by
  obtain ⟨mode, read, rfl⟩ := prepare_steps run
  have there := FileTree.lookup_set_self below s.tree (.file 0o600 contents)
  have shape : FileTree.SameShape ((s.tree.set temporary (.file 0o600 contents)).setMode temporary mode)
      (s.tree.set temporary (.file 0o600 contents)) := by
    intro other
    by_cases same : other = temporary
    · subst same
      rw [FileTree.lookup_setMode_self below there, there]
      simp
    · rw [FileTree.lookup_setMode_of_ne same]
  rw [FileTree.lookup_setMode_self below there]
  have before : (s.tree.set temporary (.file 0o600 contents)).lookup place = s.tree.lookup place :=
    FileTree.lookup_set_of_ne apart s.tree _
  have value := modeFor_eq ((shape.locateNew_eq _ _).symm.trans located) (before ▸ page) read
  rw [value, pageMode, pageMode]
  dsimp only
  rw [before]

/-- The temporary file goes to the place of the page unless a directory stands there. -/
theorem putInPlace_ok {target : Path} {temporary : Place} {s t : Session}
    (run : (putInPlace target temporary).outcome s = (.ok ⟨⟩, t)) :
    ∃ place node, s.tree.locateNew s.directory target = .ok place ∧
      s.tree.lookup place ≠ some .directory ∧ s.tree.lookup temporary = some node ∧
      t = { s with
        tree := (s.tree.erase temporary).set place node
        logFile := if s.logFile = some place then none else s.logFile } := by
  unfold putInPlace at run
  rw [Program.outcome_bind, Program.outcome_get] at run
  dsimp only at run
  cases located : s.tree.locateNew s.directory target with
  | error fault =>
    rw [located] at run
    cases run
  | ok place =>
    rw [located] at run
    dsimp only at run
    unfold replace at run
    cases page : s.tree.lookup place with
    | some node =>
      cases node with
      | directory =>
        rw [page] at run
        dsimp only at run
        split at run <;> cases run
      | file mode old =>
        cases filled : s.tree.lookup temporary with
        | none =>
          rw [page, filled] at run
          cases run
        | some node =>
          rw [page, filled] at run
          cases run
          exact ⟨place, node, rfl, by simp [page], rfl, rfl⟩
    | none =>
      cases filled : s.tree.lookup temporary with
      | none =>
        rw [page, filled] at run
        cases run
      | some node =>
        rw [page, filled] at run
        cases run
        exact ⟨place, node, rfl, by simp [page], rfl, rfl⟩

theorem putInPlace_error {target : Path} {temporary : Place} {failure : Failure} {s t : Session}
    (run : (putInPlace target temporary).outcome s = (.error failure, t)) : t = s := by
  unfold putInPlace at run
  rw [Program.outcome_bind, Program.outcome_get] at run
  dsimp only at run
  split at run
  · exact (Prod.mk.inj run).2.symm
  · rcases Program.outcome_bind_eq_error run with early | ⟨tree, u, _, late⟩
    · cases replaced : replace s.tree temporary _ _ with
      | ok tree =>
        rw [replaced] at early
        cases early
      | error e =>
        rw [replaced] at early
        exact (Prod.mk.inj early).2.symm
    · cases late

/-- The state in which a filled temporary file has taken the place of a page. -/
structure Filled (s : Session) (temporary place : Place) (contents : Bytes) (t : Session) : Prop where
  page : t.tree.lookup place = some (.file (pageMode s place) contents)
  replaced : s.tree.lookup place ≠ some .directory
  gone : t.tree.lookup temporary = none
  others : ∀ other, other ≠ place → other ≠ temporary → t.tree.lookup other = s.tree.lookup other
  rest : ∃ tree, t =
    { s with tree, logFile := if s.logFile = some place then none else s.logFile }

theorem fill_ok {target : Path} {temporary : Place} {contents : Bytes}
    {interruption? : Option Interruption} {s t : Session}
    (run : (fill target temporary contents interruption?).outcome s = (.ok ⟨⟩, t))
    (below : temporary ≠ []) (apart : FileTree.destination s.directory target ≠ temporary) :
    Filled s temporary (FileTree.destination s.directory target) contents t := by
  unfold fill at run
  obtain ⟨_, u, prepared, rest₁⟩ := Program.outcome_bind_eq_ok run
  obtain ⟨_, v, reached, last⟩ := Program.outcome_bind_eq_ok rest₁
  have same : v = u := by rw [← Program.reach_outcome .replacing interruption? u, reached]
  rw [same] at last
  obtain ⟨tree, uEq, kept⟩ := (prepare_moves target temporary contents interruption?).reached prepared
  obtain ⟨place, node, located, page, filled, tEq⟩ := putInPlace_ok last
  have directory : u.directory = s.directory := by rw [uEq]
  rw [directory] at located
  have placeEq := FileTree.locateNew_destination located
  rw [← placeEq] at apart ⊢
  have before : u.tree.lookup place = s.tree.lookup place := by
    rw [uEq]
    exact kept place apart
  have there : place ≠ [] := by
    intro root
    rw [root, FileTree.lookup_root] at page
    exact page rfl
  have contentsEq := prepare_ok prepared below apart located (before ▸ page)
  have nodeEq : node = .file (pageMode s place) contents :=
    Option.some.inj (filled.symm.trans contentsEq)
  refine ⟨?_, before ▸ page, ?_, ?_, ?_⟩
  · rw [tEq, nodeEq]
    exact FileTree.lookup_set_self there _ _
  · rw [tEq]
    exact (FileTree.lookup_set_of_ne apart.symm _ _).trans (FileTree.lookup_erase_self below _)
  · intro other ne neTemporary
    rw [tEq]
    refine (FileTree.lookup_set_of_ne ne _ _).trans ?_
    rw [FileTree.lookup_erase_of_ne neTemporary, uEq]
    exact kept other neTemporary
  · rw [tEq, uEq]
    exact ⟨_, rfl⟩

theorem fill_error {target : Path} {temporary : Place} {contents : Bytes}
    {interruption? : Option Interruption} {failure : Failure} {s t : Session}
    (run : (fill target temporary contents interruption?).outcome s = (.error failure, t)) :
    ChangedAt temporary s t := by
  have moves := prepare_moves target temporary contents interruption?
  unfold fill at run
  rcases Program.outcome_bind_eq_error run with early | ⟨_, u, prepared, later⟩
  · exact moves.reached early
  · rcases Program.outcome_bind_eq_error later with stopped | ⟨_, v, reached, last⟩
    · have same : t = u := by rw [← Program.reach_outcome .replacing interruption? u, stopped]
      rw [same]
      exact moves.reached prepared
    · have same : v = u := by rw [← Program.reach_outcome .replacing interruption? u, reached]
      rw [putInPlace_error last, same]
      exact moves.reached prepared

/-! ### The whole write -/

theorem makeTemporary_error {target : Path} {interruption? : Option Interruption} {failure : Failure}
    {s t : Session} (run : (makeTemporary target interruption?).outcome s = (.error failure, t)) :
    t = s := by
  unfold makeTemporary at run
  rcases Program.outcome_bind_eq_error run with stopped | ⟨_, u, reached, later⟩
  · rw [← Program.reach_outcome .temporary interruption? s, stopped]
  · have same : u = s := by rw [← Program.reach_outcome .temporary interruption? s, reached]
    rw [same, Program.outcome_bind, Program.outcome_get] at later
    dsimp only at later
    split at later
    · exact (Prod.mk.inj later).2.symm
    · cases later

/-- The temporary file is made beside the page, where nothing was, and not in the place of the page. -/
theorem makeTemporary_ok {target : Path} {interruption? : Option Interruption} {temporary : Place}
    {s t : Session} (run : (makeTemporary target interruption?).outcome s = (.ok temporary, t)) :
    t = { s with tree := s.tree.set temporary (.file 0o600 []) } ∧ s.tree.lookup temporary = none ∧
      temporary ≠ [] ∧ FileTree.destination s.directory target ≠ temporary := by
  unfold makeTemporary at run
  obtain ⟨_, u, reached, later⟩ := Program.outcome_bind_eq_ok run
  have same : u = s := by rw [← Program.reach_outcome .temporary interruption? s, reached]
  rw [same, Program.outcome_bind, Program.outcome_get] at later
  dsimp only at later
  split at later
  · cases later
  · rename_i place located
    obtain ⟨rfl, tEq⟩ : place = temporary ∧ _ = t := by
      have parts := Prod.mk.inj later
      exact ⟨Except.ok.inj parts.1, parts.2⟩
    obtain ⟨form, free⟩ := FileTree.locateFresh_eq_ok located
    refine ⟨tEq.symm, free, by rw [form]; simp, ?_⟩
    intro taken
    obtain ⟨n, _, fresh⟩ := s.tree.freshName_form (temporaryStart target) temporaryEnd
    rw [form] at taken
    cases ending : target.parts.getLast? with
    | none =>
      have size := congrArg List.length taken
      simp [FileTree.destination, Path.parent, List.getLast?_eq_none_iff.mp ending,
        FileTree.start, Path.isAbsolute] at size
    | some last =>
      rw [FileTree.destination_of_getLast? ending, FileTree.onward] at taken
      split at taken
      · have size := congrArg List.length taken
        simp only [List.length_dropLast, List.length_append, List.length_singleton] at size
        omega
      · have names : last = s.tree.freshName (temporaryStart target) temporaryEnd := by
          simpa using taken
        have size := congrArg List.length (names.trans fresh)
        simp only [temporaryStart, temporaryEnd, Path.name, ending, Option.getD_some,
          List.length_append, List.length_replicate] at size
        omega

/-- A refused write leaves nothing but directories on the way to the page. -/
theorem writeText_error {w : OutputWriter} {fileName content : Text} {failure : Failure} {s t : Session}
    (run : (w.writeText fileName content).outcome s = (.error failure, t)) :
    ∃ tree interruptions, t = { s with tree, interruptions } ∧
      FileTree.GainsDirectories s.directory (w.directory.child fileName).parent s.tree tree := by
  unfold writeText at run
  obtain ⟨interruption?, interruptions, next⟩ := Program.nextInterruption_outcome s
  dsimp only at run
  rw [Program.outcome_bind_ok next] at run
  rcases Program.outcome_bind_eq_error run with refused | ⟨_, u, made, run₁⟩
  · obtain ⟨tree, madeEq, gains⟩ := Program.makeDirectories_reached refused
    exact ⟨tree, interruptions, madeEq, gains⟩
  · obtain ⟨tree, madeEq, gains⟩ := Program.makeDirectories_reached made
    rcases Program.outcome_bind_eq_error run₁ with refused | ⟨temporary, v, filledUp, run₂⟩
    · rw [makeTemporary_error refused]
      exact ⟨tree, interruptions, madeEq, gains⟩
    · obtain ⟨vEq, free, below, _⟩ := makeTemporary_ok filledUp
      rw [Program.outcome_bind, Program.outcome_attempt] at run₂
      dsimp only at run₂
      cases filling : (fill (w.directory.child fileName) temporary (Utf8.encode content)
          interruption?).outcome v with
      | mk result u' =>
        rw [filling] at run₂
        cases result with
        | ok done => cases run₂
        | error stopped =>
          obtain ⟨tree', uEq', kept⟩ := fill_error filling
          have tEq : t = { u' with tree := u'.tree.erase temporary } := (Prod.mk.inj run₂).2.symm
          refine ⟨tree'.erase temporary, interruptions, ?_, ?_⟩
          · rw [tEq, uEq', vEq, madeEq]
          · -- the temporary file stood where nothing was, so taking it away restores the tree
            have restored : ∀ place, (tree'.erase temporary).lookup place = tree.lookup place := by
              intro place
              have freeBefore : tree.lookup temporary = none := by
                rw [madeEq] at free
                exact free
              by_cases same : place = temporary
              · rw [same, FileTree.lookup_erase_self below, freeBefore]
              · rw [FileTree.lookup_erase_of_ne same, kept place same, vEq, madeEq]
                exact FileTree.lookup_set_of_ne same tree _
            intro place
            rw [restored place]
            exact gains place

/-- The state in which a page has been written. -/
structure Written (s : Session) (target : Path) (contents : Bytes) (t : Session) : Prop where
  page : t.tree.lookup (FileTree.destination s.directory target) =
    some (.file (pageMode s (FileTree.destination s.directory target)) contents)
  replaced : s.tree.lookup (FileTree.destination s.directory target) ≠ some .directory
  others : ∀ place, place ≠ FileTree.destination s.directory target →
    t.tree.lookup place = s.tree.lookup place ∨
      (s.tree.lookup place = none ∧ t.tree.lookup place = some .directory ∧
        FileTree.OnTheWay s.directory target.parent place)
  rest : ∃ tree interruptions, t =
    { s with
      tree, interruptions
      logFile :=
        if s.logFile = some (FileTree.destination s.directory target) then none else s.logFile }

/-- A page that has been written is no log file. -/
theorem Written.logFile_ne {s t : Session} {target : Path} {contents : Bytes}
    (written : Written s target contents t) :
    t.logFile ≠ some (FileTree.destination s.directory target) := by
  obtain ⟨tree, interruptions, tEq⟩ := written.rest
  rw [tEq]
  dsimp only
  split
  · exact nofun
  · assumption

theorem Written.fileAt_eq {s t : Session} {target : Path} {contents : Bytes}
    (written : Written s target contents t) {place : Place}
    (ne : place ≠ FileTree.destination s.directory target) :
    t.tree.fileAt place = s.tree.fileAt place := by
  rcases written.others place ne with kept | ⟨free, made, _⟩
  · exact FileTree.fileAt_congr kept
  · rw [FileTree.fileAt, FileTree.fileAt, free, made]

/-- A page is written once the temporary file has taken its place: the temporary file stood where nothing
was, and the page was there before directories were made for it, or nothing was. -/
theorem written_of_filled {target : Path} {temporary : Place} {contents : Bytes} {s v x : Session}
    {tree : FileTree} {interruptions : List (Option Interruption)}
    (gains : FileTree.GainsDirectories s.directory target.parent s.tree tree)
    (vEq : v = { s with interruptions, tree := tree.set temporary (.file 0o600 []) })
    (free : tree.lookup temporary = none)
    (apart : FileTree.destination s.directory target ≠ temporary)
    (filled : Filled v temporary (FileTree.destination s.directory target) contents x) :
    Written s target contents x := by
  have before (place : Place) (ne : place ≠ temporary) : v.tree.lookup place = tree.lookup place := by
    rw [vEq]
    exact FileTree.lookup_set_of_ne ne tree _
  have page : tree.lookup (FileTree.destination s.directory target) =
      s.tree.lookup (FileTree.destination s.directory target) := by
    rcases gains (FileTree.destination s.directory target) with same | ⟨_, directory, _⟩
    · exact same
    · exact absurd ((before _ apart).trans directory) filled.replaced
  have modeEq : pageMode v (FileTree.destination s.directory target) =
      pageMode s (FileTree.destination s.directory target) := by
    unfold pageMode
    rw [before _ apart, page, vEq]
  refine ⟨?_, ?_, ?_, ?_⟩
  · rw [← modeEq]
    exact filled.page
  · rw [← page, ← before _ apart]
    exact filled.replaced
  · intro place ne
    by_cases same : place = temporary
    · rw [same, filled.gone]
      rcases gains temporary with kept | ⟨_, directory, _⟩
      · exact .inl (free.symm.trans kept)
      · rw [free] at directory
        cases directory
    · rw [filled.others place ne same, before place same]
      exact gains place
  · obtain ⟨tree', xEq⟩ := filled.rest
    exact ⟨tree', interruptions, by rw [xEq, vEq]⟩

/-- A write that succeeds has made directories and a temporary file and has put that in the place of the
page, and then says so in the log. -/
theorem writeText_steps {w : OutputWriter} {fileName content : Text} {p : Path} {s t : Session}
    (run : (w.writeText fileName content).outcome s = (.ok p, t)) :
    p = w.directory.child fileName ∧ ∃ u temporary v x,
      (Program.makeDirectories (w.directory.child fileName).parent).outcome
        { s with interruptions := s.interruptions.tail } = (.ok ⟨⟩, u) ∧
      (makeTemporary (w.directory.child fileName) s.interruptions.head?.join).outcome u =
        (.ok temporary, v) ∧
      (fill (w.directory.child fileName) temporary (Utf8.encode content)
        s.interruptions.head?.join).outcome v = (.ok ⟨⟩, x) ∧
      t = Program.record x .info "output" ("Output: " ++ (w.directory.child fileName).toText) := by
  unfold writeText at run
  generalize w.directory.child fileName = target at run ⊢
  dsimp only at run
  rw [Program.outcome_bind_ok (Program.nextInterruption_eq s)] at run
  obtain ⟨_, u, made, run₁⟩ := Program.outcome_bind_eq_ok run
  obtain ⟨temporary, v, filledUp, run₂⟩ := Program.outcome_bind_eq_ok run₁
  rw [Program.outcome_bind, Program.outcome_attempt] at run₂
  dsimp only at run₂
  cases filling : (fill target temporary (Utf8.encode content) s.interruptions.head?.join).outcome v with
  | mk result x =>
    rw [filling] at run₂
    cases result with
    | error stopped => cases run₂
    | ok done =>
      have ended := Prod.mk.inj run₂
      exact ⟨(Except.ok.inj ended.1).symm, u, temporary, v, x, made, filledUp, filling, ended.2.symm⟩

/-- A write that succeeds has written the page, and then says so in the log. -/
theorem writeText_ok {w : OutputWriter} {fileName content : Text} {p : Path} {s t : Session}
    (run : (w.writeText fileName content).outcome s = (.ok p, t)) :
    p = w.directory.child fileName ∧
      ∃ u, Written s (w.directory.child fileName) (Utf8.encode content) u ∧
        t = Program.record u .info "output" ("Output: " ++ (w.directory.child fileName).toText) := by
  obtain ⟨path, u, temporary, v, x, made, filledUp, filling, tEq⟩ := writeText_steps run
  generalize w.directory.child fileName = target at path made filledUp filling tEq ⊢
  obtain ⟨tree, madeEq, gains⟩ := Program.makeDirectories_reached made
  obtain ⟨vEq, free, below, apart⟩ := makeTemporary_ok filledUp
  rw [madeEq] at vEq free apart
  have directory : v.directory = s.directory := by rw [vEq]
  have filled := fill_ok filling below (directory ▸ apart)
  rw [directory] at filled
  exact ⟨path, x, written_of_filled gains vEq free apart filled, tEq⟩

end ReferencePages.OutputWriter
