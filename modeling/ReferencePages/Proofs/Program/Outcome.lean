import ReferencePages.Session
import ReferencePages.Proofs.FileTree.Lookup
/-!
What the steps of a program come to. A sequence goes on where its first part has a result and ends where
it fails, and in either case the state that has been reached stays.
-/

namespace ReferencePages.Program

variable {α β : Type}

/-- A result of which something is known. -/
theorem exists_ok_of_toOption {ε : Type} {result : Except ε α} {f : α → β} {b : β}
    (known : result.toOption.map f = some b) : ∃ a, result = .ok a ∧ f a = b := by
  cases result with
  | error e => cases known
  | ok a => exact ⟨a, rfl, Option.some.inj known⟩

/-- What a step comes to, if its result is known. -/
theorem outcome_eq_of_fst {p : Program α} {s : Session} {result : Except Failure α}
    (known : (p.outcome s).1 = result) : p.outcome s = (result, (p.outcome s).2) := Prod.ext known rfl

@[simp] theorem outcome_pure (a : α) (s : Session) : (pure a : Program α).outcome s = (.ok a, s) := rfl

@[simp] theorem outcome_get (s : Session) : (get : Program Session).outcome s = (.ok s, s) := rfl

@[simp] theorem outcome_set (s t : Session) : (set t : Program PUnit).outcome s = (.ok ⟨⟩, t) := rfl

@[simp] theorem outcome_modify (f : Session → Session) (s : Session) :
    (modify f : Program PUnit).outcome s = (.ok ⟨⟩, f s) := rfl

theorem outcome_ofExcept_eq_ok {ε : Type} {failure : ε → Failure} {result : Except ε α} {a : α}
    {s t : Session} : (ofExcept failure result).outcome s = (.ok a, t) ↔ result = .ok a ∧ t = s := by
  cases result with
  | error e => exact ⟨nofun, nofun⟩
  | ok b =>
    constructor
    · intro run
      cases run
      exact ⟨rfl, rfl⟩
    · rintro ⟨same, rfl⟩
      cases same
      rfl

@[simp] theorem outcome_attempt (p : Program α) (s : Session) :
    (attempt p).outcome s = (.ok (p.outcome s).1, (p.outcome s).2) := rfl

/-- A sequence in terms of its parts. -/
theorem outcome_bind (p : Program α) (f : α → Program β) (s : Session) :
    (p >>= f).outcome s =
      match p.outcome s with
      | (.ok a, t) => (f a).outcome t
      | (.error failure, t) => (.error failure, t) := by
  unfold outcome
  simp only [bind, ExceptT.bind, ExceptT.run, ExceptT.mk, StateT.bind, StateT.run, ExceptT.bindCont]
  cases run : (p : StateT Session Id (Except Failure α)) s with
  | mk result t => cases result <;> rfl

theorem outcome_bind_ok {p : Program α} {f : α → Program β} {s t : Session} {a : α}
    (first : p.outcome s = (.ok a, t)) : (p >>= f).outcome s = (f a).outcome t := by
  rw [outcome_bind, first]

/-- A sequence that has a result has it from a result of its first part. -/
theorem outcome_bind_eq_ok {p : Program α} {f : α → Program β} {s u : Session} {b : β}
    (run : (p >>= f).outcome s = (.ok b, u)) :
    ∃ a t, p.outcome s = (.ok a, t) ∧ (f a).outcome t = (.ok b, u) := by
  rw [outcome_bind] at run
  split at run
  · exact ⟨_, _, ‹_›, run⟩
  · cases run

/-- A sequence that fails does so in its first part or after it. -/
theorem outcome_bind_eq_error {p : Program α} {f : α → Program β} {s u : Session} {failure : Failure}
    (run : (p >>= f).outcome s = (.error failure, u)) :
    p.outcome s = (.error failure, u) ∨
      ∃ a t, p.outcome s = (.ok a, t) ∧ (f a).outcome t = (.error failure, u) := by
  rw [outcome_bind] at run
  split at run
  · exact .inr ⟨_, _, ‹_›, run⟩
  · cases run
    exact .inl ‹_›

@[simp] theorem outcome_asks (question : FileTree → Place → α) (s : Session) :
    (asks question).outcome s = (.ok (question s.tree s.directory), s) := rfl

/-- The state with one more entry in its log. -/
def record (s : Session) (level : LogLevel) (logger text : Text) : Session :=
  ((log level logger text).outcome s).2

@[simp] theorem outcome_log (level : LogLevel) (logger text : Text) (s : Session) :
    (log level logger text).outcome s = (.ok ⟨⟩, record s level logger text) := rfl

theorem lookup_appendTo_of_ne {place other : Place} (ne : other ≠ place) (t : FileTree) (text : Text) :
    (appendTo t place text).lookup other = t.lookup other := by
  unfold appendTo
  split
  · exact FileTree.lookup_set_of_ne ne t _
  · rfl

/-- An entry changes the log and the log file, and nothing else. -/
theorem record_eq (s : Session) (level : LogLevel) (logger text : Text) :
    ∃ tree log, record s level logger text = { s with tree, log } ∧
      ∀ place, s.logFile ≠ some place → tree.lookup place = s.tree.lookup place := by
  refine ⟨_, _, rfl, ?_⟩
  intro place apart
  split
  · rename_i file kept
    split
    · refine lookup_appendTo_of_ne ?_ s.tree _
      intro same
      exact apart (same ▸ kept)
    · rfl
  · rfl

theorem lookup_record_of_ne {s : Session} {place : Place} (apart : s.logFile ≠ some place)
    (level : LogLevel) (logger text : Text) :
    (record s level logger text).tree.lookup place = s.tree.lookup place := by
  obtain ⟨tree, log, recorded, kept⟩ := record_eq s level logger text
  rw [recorded]
  exact kept place apart

/-- An entry is added to a log file that is there; it makes no file. -/
theorem isSome_fileAt_appendTo (t : FileTree) (appended place : Place) (text : Text) :
    ((appendTo t appended text).fileAt place).isSome = (t.fileAt place).isSome := by
  by_cases same : place = appended
  · subst same
    unfold appendTo
    split
    · rename_i found
      have below : place ≠ [] := by
        intro root
        rw [root, FileTree.lookup_root] at found
        cases found
      rw [FileTree.fileAt, FileTree.fileAt, FileTree.lookup_set_self below, found]
      rfl
    · rfl
  · rw [FileTree.fileAt_congr (lookup_appendTo_of_ne same t text)]

theorem isSome_fileAt_record (s : Session) (level : LogLevel) (logger text : Text) (place : Place) :
    ((record s level logger text).tree.fileAt place).isSome = (s.tree.fileAt place).isSome := by
  unfold record log
  rw [outcome_modify]
  dsimp only
  split
  · split
    · exact isSome_fileAt_appendTo s.tree _ place _
    · rfl
  · rfl

/-! ### Relations between the state before and after -/

/-- A relation between states that holds where nothing happens and over two steps if it holds over
each. -/
class Steady (R : Session → Session → Prop) : Prop where
  refl : ∀ s, R s s
  trans : ∀ {s t u}, R s t → R t u → R s u

/-- A step leaves a state in a relation to the one before, whether it fails or not. -/
def Moves (R : Session → Session → Prop) (p : Program α) : Prop := ∀ s, R s (p.outcome s).2

theorem Moves.reached {R : Session → Session → Prop} {p : Program α} (moves : Moves R p)
    {s t : Session} {result : Except Failure α} (run : p.outcome s = (result, t)) : R s t := by
  have moved := moves s
  rwa [run] at moved

variable {R : Session → Session → Prop} [Steady R]

theorem Moves.pure (a : α) : Moves R (Pure.pure a : Program α) := fun s => Steady.refl s

theorem Moves.throw (failure : Failure) : Moves R (MonadExcept.throw failure : Program α) :=
  fun s => Steady.refl s

/-- What comes second need only be looked at for results that the first part can have. -/
theorem Moves.bind_of {p : Program α} {f : α → Program β} (first : Moves R p)
    (next : ∀ s a t, p.outcome s = (.ok a, t) → Moves R (f a)) : Moves R (p >>= f) := by
  intro s
  have before := first s
  rw [outcome_bind]
  cases run : p.outcome s with
  | mk result t =>
    rw [run] at before
    cases result with
    | error failure => exact before
    | ok a => exact Steady.trans before (next s a t run t)

theorem Moves.bind {p : Program α} {f : α → Program β} (first : Moves R p)
    (next : ∀ a, Moves R (f a)) : Moves R (p >>= f) := first.bind_of fun _ a _ _ => next a

/-- The exchanges to come and those that have been are the same. -/
def SameExchanges (s t : Session) : Prop := t.endpoint = s.endpoint ∧ t.rehearsal = s.rehearsal

instance : Steady SameExchanges where
  refl _ := ⟨rfl, rfl⟩
  trans first second := ⟨second.1.trans first.1, second.2.trans first.2⟩

theorem SameExchanges.record (s : Session) (level : LogLevel) (logger text : Text) :
    SameExchanges s (record s level logger text) := by
  obtain ⟨tree, log, recorded, _⟩ := record_eq s level logger text
  rw [recorded]
  exact ⟨rfl, rfl⟩

end ReferencePages.Program
