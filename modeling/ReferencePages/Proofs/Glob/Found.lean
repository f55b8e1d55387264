import ReferencePages.Proofs.Glob.Select
/-!
Paths that patterns find. They can be followed, and the text of a pattern tells whether it finds them again
in a tree that has grown.
-/

namespace ReferencePages.Glob

open FileTree

variable {hidden : Place → Prop} {t u : FileTree}

/-! ### Paths that are found -/

/-- A path that leads from a place to something that stands in a tree. -/
def Leads (t : FileTree) (place : Place) (names : List Text) : Prop :=
  ∃ last, t.walk place names = .ok last ∧ (t.lookup last).isSome

/-- What is found below some names is followed behind them. -/
theorem leads_below {place next : Place} {first names : List Text} {selection : Selection}
    {found : List (List Text)} (walked : t.walk place first = .ok next)
    (each : ∀ inner, selection = .ok inner → ∀ rest ∈ inner, Leads t next rest)
    (selected : selection.below first = .ok found) (member : names ∈ found) : Leads t place names := by
  cases selection with
  | error path => cases selected
  | ok inner =>
    cases selected
    obtain ⟨rest, within, rfl⟩ := List.mem_map.mp member
    obtain ⟨last, onward, stands⟩ := each inner rfl rest within
    exact ⟨last, (walk_append rest walked).trans onward, stands⟩

/-- What a name finds lies below it, if something has this name that can be what the part stands for. -/
theorem select_name_eq_ok {s : Text} {parts : List GlobPart} {place : Place} {found : List (List Text)}
    (selected : select t (.name s :: parts) place = .ok found) :
    found = [] ∨ ∃ node, t.lookup (place ++ [s]) = some node ∧ (parts ≠ [] → node = .directory) ∧
      (select t parts (place ++ [s])).below [s] = .ok found := by
  rw [select] at selected
  split at selected
  · cases selected
  · split at selected
    · cases selected
      exact .inl rfl
    · rename_i node known
      split at selected
      · rename_i fits
        exact .inr ⟨node, known, fun more => by simpa [more] using fits, selected⟩
      · cases selected
        exact .inl rfl

theorem directories_eq_ok {all : Selection} {found : List (List Text)}
    (selected : all.map List.eraseDups = .ok found) : ∃ paths, all = .ok paths ∧ found = paths.eraseDups := by
  cases all with
  | error path => cases selected
  | ok paths =>
    cases selected
    exact ⟨paths, rfl, rfl⟩

/-- A path that is found begins with names that lead down, unless its part leads up or ends the pattern: with one
name of something that stands there, or with those of a directory. -/
theorem exists_below_of_mem_select (sound : t.IsSound) {part : GlobPart} {parts : List GlobPart} {place : Place}
    {found : List (List Text)} (selected : select t (part :: parts) place = .ok found) {names : List Text}
    (member : names ∈ found) (down : part ≠ .above) (goesOn : part ≠ .endSlash) :
    ∃ first inner, (select t parts (place ++ first)).below first = .ok inner ∧ names ∈ inner ∧
      ((∃ name node, first = [name] ∧ t.lookup (place ++ [name]) = some node ∧
        (parts ≠ [] → node = .directory)) ∨ first ∈ directoriesBelow t (t.entries.length + 1) place) := by
  cases part with
  | endSlash => exact absurd rfl goesOn
  | above => exact absurd rfl down
  | name s =>
    rcases select_name_eq_ok selected with rfl | ⟨node, known, fits, below⟩
    · cases member
    · exact ⟨[s], found, below, member, .inl ⟨s, node, rfl, known, fits⟩⟩
  | pattern form =>
    rw [select_pattern] at selected
    obtain ⟨part, listed, within⟩ := mem_all selected member
    obtain ⟨branch, branches, value⟩ := List.mem_map.mp listed
    obtain ⟨node, known, kind⟩ := sound.lookup_of_mem_branches branches
    split at value
    · rename_i fits
      refine ⟨[branch.1], part, value, within, .inl ⟨branch.1, node, rfl, known, fun more => ?_⟩⟩
      simpa [more, ← kind] using (Bool.and_eq_true_iff.mp fits).1
    · cases value
      cases within
  | directories =>
    rw [select] at selected
    obtain ⟨paths, all, rfl⟩ := directories_eq_ok selected
    obtain ⟨part, listed, within⟩ := mem_all all (List.mem_eraseDups.mp member)
    obtain ⟨first, below, value⟩ := List.mem_map.mp listed
    exact ⟨first, part, value, within, .inr below⟩

/-- Paths that are found can be followed. -/
theorem walk_of_select (sound : t.IsSound) {parts : List GlobPart} {place : Place}
    {found : List (List Text)} (there : (t.lookup place).isSome)
    (directory : parts ≠ [] → t.lookup place = some .directory)
    (selected : select t parts place = .ok found) {names : List Text} (member : names ∈ found) :
    Leads t place names := by
  induction parts generalizing place found names with
  | nil =>
    cases selected
    cases List.mem_singleton.mp member
    exact ⟨place, rfl, there⟩
  | cons part parts ih =>
    have itself := directory (List.cons_ne_nil part parts)
    cases part with
    | endSlash =>
      cases selected
      cases List.mem_singleton.mp member
      exact ⟨place, rfl, there⟩
    | above =>
      have parent := sound.lookup_dropLast there
      rw [select] at selected
      exact leads_below (walk_up t itself)
        (fun _ selected rest member => ih (by rw [parent]; rfl) (fun _ => parent) selected member)
        selected member
    | name | pattern | directories =>
      obtain ⟨first, inner, selected, member, ⟨name, node, rfl, known, fits⟩ | below⟩ :=
        exists_below_of_mem_select sound selected member (by simp) (by simp)
      · have found : (t.lookup (place ++ [name])).isSome := by rw [known]; rfl
        have further (more : parts ≠ []) : t.lookup (place ++ [name]) = some .directory := by rw [known, fits more]
        exact leads_below (sound.walk_name found) (fun _ selected rest member => ih found further selected member)
          selected member
      · obtain ⟨walked, made⟩ := (mem_directoriesBelow sound below).2 itself
        exact leads_below walked
          (fun _ selected rest member => ih (by rw [made]; rfl) (fun _ => made) selected member)
          selected member

/-! ### Texts of patterns -/

/-- A text with parts that lead downwards once they have led upwards, none of which is too long unless it
is the form of a name. -/
def IsOnward (text : Text) : Prop :=
  ∀ part ∈ (Path.partsOf text).dropWhile fun (part : Text) => decide (part = ".."),
    part ≠ ".." ∧ (isPattern part = true ∨ isTooLong part = false)

instance (text : Text) : Decidable (IsOnward text) :=
  inferInstanceAs (Decidable (∀ part ∈ (Path.partsOf text).dropWhile fun (part : Text) =>
    decide (part = ".."), part ≠ ".." ∧ (isPattern part = true ∨ isTooLong part = false)))

theorem partOf_plain {s : Text} {part : GlobPart} (read : partOf s = .ok part) (forward : s ≠ "..")
    (short : isPattern s = true ∨ isTooLong s = false) : part ≠ .above ∧ IsPlain part := by
  unfold partOf at read
  split at read
  · cases read
    exact ⟨nofun, trivial⟩
  · -- the two dots are excluded
    split at read
    · cases read
    · split at read
      · cases read
        exact ⟨nofun, trivial⟩
      · rename_i noPattern
        cases read
        exact ⟨nofun, short.resolve_left noPattern⟩

theorem mapM_cons_eq_ok {s : Text} {texts : List Text} {parts : List GlobPart}
    (read : (s :: texts).mapM partOf = Except.ok parts) :
    ∃ first rest, partOf s = .ok first ∧ texts.mapM partOf = Except.ok rest ∧ parts = first :: rest := by
  rw [List.mapM_cons] at read
  cases first : partOf s with
  | error failure =>
    rw [first] at read
    cases read
  | ok part =>
    rw [first] at read
    cases rest : texts.mapM partOf with
    | error failure =>
      rw [rest] at read
      cases read
    | ok parts =>
      rw [rest] at read
      cases read
      exact ⟨part, parts, rfl, rfl, rfl⟩

theorem mapM_partOf_plain {texts : List Text} {parts : List GlobPart}
    (read : texts.mapM partOf = Except.ok parts)
    (short : ∀ s ∈ texts, s ≠ ".." ∧ (isPattern s = true ∨ isTooLong s = false)) :
    ∀ part ∈ parts, part ≠ .above ∧ IsPlain part := by
  induction texts generalizing parts with
  | nil =>
    cases read
    exact nofun
  | cons s texts ih =>
    obtain ⟨first, rest, readFirst, readRest, rfl⟩ := mapM_cons_eq_ok read
    intro part member
    rcases List.mem_cons.mp member with rfl | later
    · obtain ⟨forward, fits⟩ := short s (List.mem_cons_self ..)
      exact partOf_plain readFirst forward fits
    · exact ih readRest (fun s member => short s (List.mem_cons_of_mem _ member)) part later

theorem mapM_partOf_onward {texts : List Text} {parts ending : List GlobPart}
    (read : texts.mapM partOf = Except.ok parts)
    (short : ∀ s ∈ texts.dropWhile fun (s : Text) => decide (s = ".."),
      s ≠ ".." ∧ (isPattern s = true ∨ isTooLong s = false))
    (last : ∀ part ∈ ending, part ≠ .above ∧ IsPlain part) : LeadOnward (parts ++ ending) := by
  have plain {parts : List GlobPart} (all : ∀ part ∈ parts, part ≠ .above ∧ IsPlain part) :
      LeadOnward parts := fun part member =>
    (all part ((List.dropWhile_sublist _).mem member)).2
  induction texts generalizing parts with
  | nil =>
    cases read
    exact plain last
  | cons s texts ih =>
    by_cases up : s = ".."
    · obtain ⟨first, rest, readFirst, readRest, rfl⟩ := mapM_cons_eq_ok read
      rw [up] at readFirst
      cases readFirst
      rw [List.dropWhile_cons_of_pos (by simpa using up)] at short
      have later := ih readRest short
      unfold LeadOnward at later ⊢
      rwa [List.cons_append, List.dropWhile_cons_of_pos (by simp)]
    · rw [List.dropWhile_cons_of_neg (by simpa using up)] at short
      refine plain fun part member => ?_
      rcases List.mem_append.mp member with here | ending
      · exact mapM_partOf_plain read short part here
      · exact last part ending

/-- A pattern is read part by part, and the slash at its end is a part of its own. -/
theorem ofText_eq_ok {text : Text} {parts : List GlobPart} (read : ofText text = .ok parts) :
    ∃ written, (Path.partsOf text).mapM partOf = Except.ok written ∧
      parts = written ++ if text.getLast? = some '/' then [GlobPart.endSlash] else [] := by
  unfold ofText at read
  split at read
  · cases read
  · split at read
    · cases read
    · cases written : (Path.partsOf text).mapM partOf with
      | error failure =>
        rw [written] at read
        cases read
      | ok some_parts =>
        rw [written] at read
        dsimp only [bind, Except.bind] at read
        generalize (if text.getLast? = some '/' then [GlobPart.endSlash] else []) = ending at read ⊢
        split at read
        · cases read
        · cases read
          exact ⟨some_parts, rfl, rfl⟩

theorem eq_endSlash_of_mem {text : Text} {part : GlobPart}
    (member : part ∈ if text.getLast? = some '/' then [GlobPart.endSlash] else []) : part = .endSlash := by
  split at member
  · exact List.mem_singleton.mp member
  · cases member

theorem IsOnward.parts {text : Text} (leads : IsOnward text) {parts : List GlobPart}
    (read : ofText text = .ok parts) : LeadOnward parts := by
  obtain ⟨written, listed, rfl⟩ := ofText_eq_ok read
  refine mapM_partOf_onward listed leads fun part member => ?_
  rw [eq_endSlash_of_mem member]
  exact ⟨nofun, trivial⟩

/-! ### Searches from a directory -/

/-- A search in a directory selects names below it. -/
theorem paths_eq_ok {directory place : Place} {p : Path} (located : t.locate directory p = .ok place)
    (there : t.lookup place = some .directory) {pattern : Text} {parts : List GlobPart}
    (read : ofText pattern = .ok parts) {found : List Path} :
    paths t directory p pattern = .ok found ↔
      ∃ names, select t parts place = .ok names ∧
        found = names.map fun names => { p with parts := p.parts ++ names } := by
  unfold paths
  rw [read]
  dsimp only [bind, Except.bind]
  rw [located]
  dsimp only
  rw [if_pos (by rw [isDirectoryAt, there]; rfl)]
  cases select t parts place with
  | error names => exact ⟨nofun, nofun⟩
  | ok names =>
    constructor
    · intro search
      exact ⟨names, rfl, (Except.ok.inj search).symm⟩
    · rintro ⟨_, ⟨⟩, rfl⟩
      rfl

/-- What a search finds has been selected below a directory. -/
theorem selected_of_paths {directory : Place} {p q : Path} {pattern : Text} {found : List Path}
    (search : paths t directory p pattern = .ok found) (member : q ∈ found) : ∃ place parts selection,
      t.locate directory p = .ok place ∧ t.lookup place = some .directory ∧ ofText pattern = .ok parts ∧
        select t parts place = .ok selection ∧
        found = selection.map fun names => { p with parts := p.parts ++ names } := by
  cases read : ofText pattern with
  | error failure =>
    unfold paths at search
    rw [read] at search
    cases search
  | ok parts =>
    cases located : t.locate directory p with
    | error fault =>
      unfold paths at search
      rw [read] at search
      dsimp only [bind, Except.bind] at search
      rw [located] at search
      cases fault <;> cases search <;> cases member
    | ok place =>
      by_cases there : t.lookup place = some .directory
      · obtain ⟨selection, selected, rfl⟩ := (paths_eq_ok located there read).mp search
        exact ⟨place, parts, selection, rfl, there, rfl, selected, rfl⟩
      · unfold paths at search
        rw [read] at search
        dsimp only [bind, Except.bind] at search
        rw [located] at search
        dsimp only at search
        rw [if_neg (by simpa [isDirectoryAt] using there)] at search
        cases search
        cases member

/-- What a search finds is where its path leads, below the directory under names as the text of a path can
have them. -/
theorem mem_paths (sound : t.IsSound) {directory : Place} {p q : Path} {pattern : Text}
    {found : List Path} (search : paths t directory p pattern = .ok found) (member : q ∈ found) :
    ∃ names, q = { p with parts := p.parts ++ names } ∧ (∀ part ∈ names, Path.IsPart part) ∧
      t.walk (start directory q) q.parts = .ok (destination directory q) ∧
      (t.lookup (destination directory q)).isSome := by
  obtain ⟨place, parts, selection, located, there, _, selected, rfl⟩ := selected_of_paths search member
  obtain ⟨names, within, rfl⟩ := List.mem_map.mp member
  obtain ⟨last, walked, stands⟩ := walk_of_select sound (by rw [there]; rfl) (fun _ => there) selected within
  have whole : t.walk (start directory p) (p.parts ++ names) = .ok last := by
    rw [walk_append names (walk_of_locate located), walked]
  have leads : last = destination directory { p with parts := p.parts ++ names } := walk_destination whole
  rw [← leads]
  exact ⟨names, rfl, (sound.walk_through (by rw [there]; rfl) walked).2, whole, stands⟩

/-- What a search found is found again in a tree that has grown, besides what is new. -/
theorem paths_extends (grown : Grown hidden t u) (sound : t.IsSound) (sound' : u.IsSound)
    {directory place : Place} {p : Path} (located : t.locate directory p = .ok place)
    (there : t.lookup place = some .directory) {pattern : Text}
    (leads : AddsNoDirectory t u ∨ IsOnward pattern) {found : List Path}
    (search : paths t directory p pattern = .ok found) :
    ∃ more, paths u directory p pattern = .ok more ∧
      more.filter (fun q => (t.lookup (destination directory q)).isSome) = found := by
  cases read : ofText pattern with
  | error failure =>
    unfold paths at search
    rw [read] at search
    cases search
  | ok parts =>
    obtain ⟨names, selected, rfl⟩ := (paths_eq_ok located there read).mp search
    obtain ⟨more, again, kept⟩ := select_extends grown sound sound'
      (leads.imp_right fun leads => leads.parts read) place (by rw [there]; rfl) (fun _ => there) names
      selected
    refine ⟨more.map fun names => { p with parts := p.parts ++ names },
      (paths_eq_ok (grown.locate_ok located) (grown.directory there) read).mpr ⟨more, again, rfl⟩, ?_⟩
    rw [List.filter_map, ← kept]
    refine congrArg _ (List.filter_congr fun names _ => ?_)
    rw [Function.comp_apply, standsAt, locate_destination located]
    exact congrArg (fun place => (t.lookup place).isSome) (List.foldl_append ..)

end ReferencePages.Glob
