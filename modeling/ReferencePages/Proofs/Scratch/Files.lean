import ReferencePages.Proofs.Scratch.Standing
/-!
The files of the scratch directory. What is written to it under a new name is added to what it holds, unless
the name is too long, and neither the log nor an exchange has a part in it.
-/

namespace ReferencePages

/-! ### New files in a directory -/

namespace FileTree

/-- A file that is new to a directory is written unless its name is too long. -/
theorem write_name {t : FileTree} {mask : Nat} {directory place : Place} {p : Path} {name : Text}
    (isName : IsName name) (here : t.locate directory p = .ok place)
    (there : t.lookup place = some .directory) (free : t.lookup (place ++ [name]) = none)
    (contents : Bytes) : t.write mask directory (p.child name) contents =
      if takes p name then .ok (t.set (place ++ [name]) (.file (newFileMode mask) contents))
      else failAt (p.child name) .nameTooLong := by
  unfold write
  rw [locateNew_name isName here there]
  cases takes p name with
  | false => rfl
  | true =>
    rw [if_pos rfl, if_pos rfl]
    dsimp only
    rw [free]

end FileTree

namespace Scratch

open FileTree (takes)

/-! ### The scratch directory and what it holds -/

/-- A state in which a scratch directory can be made at a place and none has been, and in which no number has
been given out. The log file, if there is one, is there. -/
structure Ready (s : Session) (place : Place) : Prop where
  sound : s.tree.IsSound
  unmade : s.scratch.path = none
  unnumbered : s.scratch.counters = []
  room : nextPlace s = .ok place
  logs : ∀ file, s.logFile = some file → (s.tree.lookup file).isSome

/-- Nothing stands where the scratch directory will be. -/
theorem Ready.free {s : Session} {place : Place} (ready : Ready s place) (names : List Text) :
    s.tree.lookup (place ++ names) = none :=
  ready.sound.eq_none_of_append names (FileTree.locateFresh_eq_ok ready.room).2

theorem Ready.apart {s : Session} {place : Place} (ready : Ready s place) (names : List Text) :
    s.logFile ≠ some (place ++ names) := by
  intro logged
  have there := ready.logs _ logged
  rw [ready.free names] at there
  cases there

/-- A state that differs from an earlier one as far as the scratch directory goes: it has been made, and the
files directly below it are those that are `held`. -/
structure Filled (s : Session) (place : Place) (held : Text → Bytes → Prop) (t : Session) : Prop where
  directory : t.directory = s.directory
  mask : t.mask = s.mask
  logFile : t.logFile = s.logFile
  path : t.scratch.path = some (nextPath s)
  located : t.tree.locate s.directory (nextPath s) = .ok place
  there : t.tree.lookup place = some .directory
  files : ∀ name names node, t.tree.lookup (place ++ name :: names) = some node ↔
    names = [] ∧ ∃ contents, held name contents ∧ node = .file (FileTree.newFileMode s.mask) contents

namespace Filled

variable {s t : Session} {place : Place} {held : Text → Bytes → Prop}

theorem congr (filled : Filled s place held t) {more : Text → Bytes → Prop}
    (same : ∀ name contents, held name contents ↔ more name contents) : Filled s place more t := by
  obtain rfl : held = more := funext fun name => funext fun contents => propext (same name contents)
  exact filled

/-- An entry in the log changes nothing in the scratch directory. -/
theorem record (filled : Filled s place held t) (apart : ∀ names, s.logFile ≠ some (place ++ names))
    (level : LogLevel) (logger text : Text) : Filled s place held (Program.record t level logger text) := by
  have keeps := (Program.Logged.record t level logger text).keepsDirectories
  obtain ⟨tree, log, recorded, kept⟩ := Program.record_eq t level logger text
  rw [recorded] at keeps ⊢
  refine ⟨filled.directory, filled.mask, filled.logFile, filled.path,
    keeps.locate_ok filled.located filled.there, keeps place filled.there, fun name names node => ?_⟩
  rw [kept _ (filled.logFile ▸ apart (name :: names))]
  exact filled.files name names node

/-- An exchange changes nothing in the scratch directory. -/
theorem exchange (filled : Filled s place held t) (endpoint : Endpoint) (rehearsal : Rehearsal) :
    Filled s place held { t with endpoint, rehearsal } :=
  ⟨filled.directory, filled.mask, filled.logFile, filled.path, filled.located, filled.there, filled.files⟩

/-- A file under a new name is added. -/
theorem add (filled : Filled s place held t) {name : Text} (contents : Bytes)
    (free : t.tree.lookup (place ++ [name]) = none) :
    Filled s place (fun other bytes => held other bytes ∨ (other = name ∧ bytes = contents))
      { t with tree :=
          t.tree.set (place ++ [name]) (.file (FileTree.newFileMode s.mask) contents) } := by
  have keeps : t.tree.KeepsDirectories
      (t.tree.set (place ++ [name]) (.file (FileTree.newFileMode s.mask) contents)) :=
    .of_set (by simp) (.inr (by simp [free]))
  refine ⟨filled.directory, filled.mask, filled.logFile, filled.path,
    keeps.locate_ok filled.located filled.there, keeps place filled.there, fun other names node => ?_⟩
  by_cases here : other = name ∧ names = []
  · obtain ⟨rfl, rfl⟩ := here
    have unheld (bytes : Bytes) : ¬ held other bytes := by
      intro holds
      have found := (filled.files other [] _).mpr ⟨rfl, bytes, holds, rfl⟩
      rw [free] at found
      cases found
    rw [FileTree.lookup_set_self (by simp)]
    simp [unheld, eq_comm]
  · have ne : place ++ other :: names ≠ place ++ [name] := by
      rw [Ne, List.append_cancel_left_eq, List.cons.injEq]
      exact here
    rw [FileTree.lookup_set_of_ne ne, filled.files other names node]
    constructor
    · rintro ⟨rfl, bytes, holds, rfl⟩
      exact ⟨rfl, bytes, .inl holds, rfl⟩
    · rintro ⟨rfl, bytes, holds | ⟨rfl, rfl⟩, rfl⟩
      · exact ⟨rfl, bytes, holds, rfl⟩
      · exact absurd ⟨rfl, rfl⟩ here

end Filled

/-- The state with other numbers that have been given out. -/
def numbered (s : Session) (counters : Dictionary Nat) : Session :=
  { s with scratch := { s.scratch with counters } }

/-- The state of a run as far as the scratch directory goes: it has not been made, and nothing but numbers has
been given out, or it has been made and holds certain files. -/
def Serves (s : Session) (place : Place) (held : Text → Bytes → Prop) (t : Session) : Prop :=
  (∃ counters, t = numbered s counters ∧ ∀ name contents, ¬ held name contents) ∨
    Filled s place held t

section Serves

variable {s t : Session} {place : Place} {held : Text → Bytes → Prop}

/-- A scratch directory that has just been made is empty. -/
theorem Ready.filled (ready : Ready s place) (counters : Dictionary Nat)
    (none : ∀ name contents, ¬ held name contents) :
    Filled s place held (making (numbered s counters) place) := by
  have below : place ≠ [] := by
    rw [(FileTree.locateFresh_eq_ok ready.room).1]
    simp
  refine ⟨rfl, rfl, rfl, rfl, FileTree.locate_set_fresh ready.room,
    FileTree.lookup_set_self below _ _, fun name names node => ?_⟩
  have free : (making (numbered s counters) place).tree.lookup (place ++ name :: names) = Option.none :=
    (FileTree.lookup_set_of_ne (by simp) s.tree _).trans (ready.free _)
  rw [free]
  constructor
  · intro found
    cases found
  · rintro ⟨_, contents, holds, _⟩
    exact absurd holds (none name contents)

/-- The scratch directory is there when its path is asked for. -/
theorem Serves.ensurePath (ready : Ready s place) (serves : Serves s place held t) :
    ∃ u, ensurePath.outcome t = (.ok (nextPath s), u) ∧ Filled s place held u ∧
      u.scratch.counters = t.scratch.counters := by
  rcases serves with ⟨counters, rfl, none⟩ | filled
  · have unmade : (numbered s counters).scratch.path = Option.none := ready.unmade
    have room : nextPlace (numbered s counters) = .ok place := ready.room
    rw [ensurePath_outcome, room, unmade]
    exact ⟨_, rfl, (ready.filled counters none).record ready.apart _ _ _, rfl⟩
  · rw [ensurePath_outcome, filled.path]
    exact ⟨t, rfl, filled, rfl⟩

/-- The contents of a file that shows a value. -/
def contentsOf (value : Json) : Bytes := Utf8.encode (Json.renderIndented 0 value)

/-- The failure of a file whose name or path is too long. -/
def tooLong (p : Path) : Failure := .file { fault := .nameTooLong, path := p.toText, target := none }

/-- A value is written under a new name, unless the name is too long; then nothing is written. -/
theorem Serves.writeJson (ready : Ready s place) (serves : Serves s place held t) {name : Text}
    (isName : IsName name) (fresh : ∀ contents, ¬ held name contents) (value : Json) :
    ∃ u, (writeJson name value).outcome t =
        (if takes (nextPath s) name then .ok ((nextPath s).child name)
          else .error (tooLong ((nextPath s).child name)), u) ∧
      u.scratch.counters = t.scratch.counters ∧
      Filled s place (fun other bytes => held other bytes ∨
        (takes (nextPath s) name = true ∧ other = name ∧ bytes = contentsOf value)) u := by
  obtain ⟨u, ensured, filled, counters⟩ := serves.ensurePath ready
  have free : u.tree.lookup (place ++ [name]) = none := by
    cases found : u.tree.lookup (place ++ [name]) with
    | none => rfl
    | some node =>
      obtain ⟨_, contents, holds, _⟩ := (filled.files name [] node).mp found
      exact absurd holds (fresh contents)
  have located : u.tree.locate u.directory (nextPath s) = .ok place := by
    rw [filled.directory, filled.located]
  have written : u.tree.write u.mask u.directory ((nextPath s).child name) (contentsOf value) = _ :=
    FileTree.write_name isName located filled.there free _
  unfold Scratch.writeJson
  rw [Program.outcome_bind_ok ensured, Program.outcome_bind]
  unfold Program.write Program.changeFiles
  rw [Program.outcome_bind, Program.outcome_get]
  dsimp only
  rw [← contentsOf, written]
  cases taken : takes (nextPath s) name with
  | false => exact ⟨u, rfl, counters, filled.congr fun other bytes => by simp⟩
  | true =>
    refine ⟨_, rfl, counters, ?_⟩
    have added := filled.add (contentsOf value) free
    rw [← filled.mask] at added
    exact added.congr fun other bytes => by simp

/-- Numbers that are given out have no part in the files. -/
theorem Serves.numbered (serves : Serves s place held t) (counters : Dictionary Nat) :
    Serves s place held (numbered t counters) := by
  rcases serves with ⟨before, rfl, none⟩ | filled
  · exact .inl ⟨counters, rfl, none⟩
  · exact .inr ⟨filled.directory, filled.mask, filled.logFile, filled.path, filled.located, filled.there,
      filled.files⟩

end Serves

end Scratch
end ReferencePages
