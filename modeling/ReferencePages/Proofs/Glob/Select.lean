import ReferencePages.Proofs.Glob.Directories
/-!
Patterns in grown trees. A pattern finds again what it found, in the same order, and besides it paths that
lead to something new, as long as it leads back up nowhere behind a name.
-/

namespace ReferencePages.Glob

open FileTree

variable {hidden : Place → Prop} {t u : FileTree}

/-! ### Selections -/

namespace Selection

theorem all_cons_eq_ok {first : Selection} {rest : List Selection} {found : List (List Text)}
    (all : Selection.all (first :: rest) = .ok found) :
    ∃ here later, first = .ok here ∧ Selection.all rest = .ok later ∧ found = here ++ later := by
  unfold Selection.all at all ⊢
  rw [List.mapM_cons] at all
  cases first with
  | error path => cases all
  | ok here =>
    cases collected : rest.mapM id with
    | error path =>
      rw [collected] at all
      cases all
    | ok parts =>
      rw [collected] at all
      cases all
      exact ⟨here, parts.flatten, rfl, rfl, rfl⟩

theorem all_cons_ok {here later : List (List Text)} {rest : List Selection}
    (all : Selection.all rest = .ok later) :
    Selection.all (.ok here :: rest) = .ok (here ++ later) := by
  unfold Selection.all at all ⊢
  rw [List.mapM_cons]
  cases collected : rest.mapM id with
  | error path =>
    rw [collected] at all
    cases all
  | ok parts =>
    rw [collected] at all
    cases all
    rfl

variable {ι : Type}

/-- Where every selection finds something of a kind, so do all of them. -/
theorem all_ok {f : ι → Selection} {xs : List ι} {P : List Text → Prop}
    (each : ∀ x ∈ xs, ∃ found, f x = .ok found ∧ ∀ names ∈ found, P names) :
    ∃ found, Selection.all (xs.map f) = .ok found ∧ ∀ names ∈ found, P names := by
  induction xs with
  | nil => exact ⟨[], rfl, nofun⟩
  | cons x xs ih =>
    obtain ⟨here, first, holds⟩ := each x (List.mem_cons_self ..)
    obtain ⟨later, rest, holds'⟩ := ih fun y member => each y (List.mem_cons_of_mem _ member)
    refine ⟨here ++ later, ?_, ?_⟩
    · rw [List.map_cons, first, all_cons_ok rest]
    · intro names member
      rcases List.mem_append.mp member with member | member
      · exact holds names member
      · exact holds' names member

/-- Another selection finds what a selection found, in its order, among paths that are not kept. -/
def Extends (keep : List Text → Bool) (before after : Selection) : Prop :=
  ∀ found, before = .ok found → ∃ more, after = .ok more ∧ more.filter keep = found

/-- Selections find again what those of them found that count, if each of these does and the others find
nothing that is kept. -/
theorem extends_all {keep : List Text → Bool} {counts : ι → Bool} {f g : ι → Selection} {xs : List ι}
    (old : ∀ x ∈ xs, counts x = true → Extends keep (f x) (g x))
    (new : ∀ x ∈ xs, counts x = false → ∃ more, g x = .ok more ∧ more.filter keep = []) :
    Extends keep (Selection.all ((xs.filter counts).map f)) (Selection.all (xs.map g)) := by
  induction xs with
  | nil =>
    intro found all
    cases all
    exact ⟨[], rfl, rfl⟩
  | cons x xs ih =>
    have rest := ih (fun y member => old y (List.mem_cons_of_mem _ member))
      (fun y member => new y (List.mem_cons_of_mem _ member))
    intro found all
    cases known : counts x with
    | true =>
      rw [List.filter_cons_of_pos known, List.map_cons] at all
      obtain ⟨here, later, first, following, rfl⟩ := all_cons_eq_ok all
      obtain ⟨more, again, kept⟩ := old x (List.mem_cons_self ..) known here first
      obtain ⟨further, againLater, keptLater⟩ := rest later following
      refine ⟨more ++ further, ?_, by rw [List.filter_append, kept, keptLater]⟩
      rw [List.map_cons, again, all_cons_ok againLater]
    | false =>
      rw [List.filter_cons_of_neg (by simp [known])] at all
      obtain ⟨more, again, kept⟩ := new x (List.mem_cons_self ..) known
      obtain ⟨further, againLater, keptLater⟩ := rest found all
      refine ⟨more ++ further, ?_, by rw [List.filter_append, kept, keptLater, List.nil_append]⟩
      rw [List.map_cons, again, all_cons_ok againLater]

end Selection

/-! ### Parts of patterns -/

/-- A part that leads downwards and asks for no name that is too long. -/
def IsPlain : GlobPart → Prop
  | .above => False
  | .name s => isTooLong s = false
  | _ => True

/-- Parts that lead downwards once they have led upwards. -/
def LeadOnward (parts : List GlobPart) : Prop :=
  ∀ part ∈ parts.dropWhile fun part => decide (part = .above), IsPlain part

theorem LeadOnward.tail {part : GlobPart} {parts : List GlobPart} (onward : LeadOnward (part :: parts)) :
    LeadOnward parts := by
  unfold LeadOnward at onward
  rw [List.dropWhile_cons] at onward
  split at onward
  · exact onward
  · intro other member
    exact onward other (List.mem_cons_of_mem _ ((List.dropWhile_sublist _).mem member))

theorem LeadOnward.plain {part : GlobPart} {parts : List GlobPart} (onward : LeadOnward (part :: parts))
    (forward : part ≠ .above) : ∀ other ∈ parts, IsPlain other := by
  unfold LeadOnward at onward
  rw [List.dropWhile_cons_of_neg (by simpa using forward)] at onward
  exact fun other member => onward other (List.mem_cons_of_mem _ member)

theorem select_pattern (t : FileTree) (form : NamePattern) (parts : List GlobPart) (place : Place) :
    select t (.pattern form :: parts) place =
      Selection.all ((t.branches place).map fun branch =>
        if (parts.isEmpty || branch.2) && form.matchesName branch.1 then
          (select t parts (place ++ [branch.1])).below [branch.1]
        else .ok []) := by
  rw [select, branches, List.map_map]
  rfl

/-- Nothing of what is found stands in a tree. -/
def FindsNew (t : FileTree) (place : Place) (selection : Selection) : Prop :=
  ∃ found, selection = .ok found ∧ ∀ names ∈ found, standsAt t place names = false

theorem FindsNew.below {place : Place} {names : List Text} {selection : Selection}
    (new : FindsNew t (names.foldl onward place) selection) :
    FindsNew t place (selection.below names) := by
  obtain ⟨found, rfl, none⟩ := new
  refine ⟨_, rfl, ?_⟩
  intro path member
  obtain ⟨rest, within, rfl⟩ := List.mem_map.mp member
  rw [standsAt, List.foldl_append]
  exact none rest within

theorem FindsNew.filter_eq {place : Place} {selection : Selection} (new : FindsNew t place selection) :
    ∃ more, selection = .ok more ∧ more.filter (standsAt t place) = [] := by
  obtain ⟨found, selected, none⟩ := new
  exact ⟨found, selected, List.filter_eq_nil_iff.mpr fun names member stands => by
    rw [none names member] at stands
    cases stands⟩

theorem findsNew_here {place : Place} (new : t.lookup place = none) : FindsNew t place (.ok [[]]) :=
  ⟨_, rfl, fun names member => by
    rw [List.mem_singleton.mp member, standsAt, List.foldl_nil, new]
    rfl⟩

theorem findsNew_nothing (t : FileTree) (place : Place) : FindsNew t place (.ok []) := ⟨_, rfl, nofun⟩

/-- From what is new, a pattern that leads downwards finds what is new. -/
theorem select_new (sound : t.IsSound) (sound' : u.IsSound) {parts : List GlobPart}
    (plain : ∀ part ∈ parts, IsPlain part) {place : Place} (new : t.lookup place = none) :
    FindsNew t place (select u parts place) := by
  induction parts generalizing place with
  | nil => exact findsNew_here new
  | cons part parts ih =>
    have next (name : Text) (found : (u.lookup (place ++ [name])).isSome) :
        FindsNew t place ((select u parts (place ++ [name])).below [name]) := by
      apply FindsNew.below
      rw [List.foldl_cons, onward, if_neg (sound'.parent found).2.1.noDots]
      exact ih (fun other member => plain other (List.mem_cons_of_mem _ member))
        (sound.eq_none_of_append [name] new)
    cases part with
    | above => exact absurd (plain _ (List.mem_cons_self ..)) id
    | endSlash => exact findsNew_here new
    | name s =>
      have short : isTooLong s = false := plain _ (List.mem_cons_self ..)
      rw [select, short, if_neg Bool.false_ne_true]
      cases found : u.lookup (place ++ [s]) with
      | none => exact findsNew_nothing t place
      | some node =>
        dsimp only
        split
        · exact next s (by rw [found]; rfl)
        · exact findsNew_nothing t place
    | pattern form =>
      rw [select_pattern]
      refine Selection.all_ok fun branch member => ?_
      obtain ⟨node, found, _⟩ := sound'.lookup_of_mem_branches member
      split
      · exact next branch.1 (by rw [found]; rfl)
      · exact findsNew_nothing t place
    | directories =>
      rw [select]
      have all : FindsNew t place (Selection.all ((directoriesBelow u (u.entries.length + 1) place).map
          fun names => (select u parts (place ++ names)).below names)) :=
        Selection.all_ok fun names member => by
          apply FindsNew.below
          rw [(mem_directoriesBelow sound' member).1]
          exact ih (fun other later => plain other (List.mem_cons_of_mem _ later))
            (sound.eq_none_of_append names new)
      obtain ⟨found, selected, none⟩ := all
      rw [selected]
      exact ⟨found.eraseDups, rfl, fun names member => none names (List.mem_eraseDups.mp member)⟩

theorem eraseDups_filter (keep : List Text → Bool) (found : List (List Text)) :
    found.eraseDups.filter keep = (found.filter keep).eraseDups := by
  induction size : found.length using Nat.strongRecOn generalizing found with
  | ind n ih =>
    cases found with
    | nil => rfl
    | cons names found =>
      have fewer : (found.filter fun other => !other == names).length < n := by
        have le := List.length_filter_le (fun other => !other == names) found
        rw [List.length_cons] at size
        omega
      have rest := ih _ fewer _ rfl
      rw [List.eraseDups_cons]
      have swapped : (found.filter fun other => !other == names).filter keep =
          (found.filter keep).filter fun other => !other == names := by
        rw [List.filter_filter, List.filter_filter]
        exact List.filter_congr fun other _ => Bool.and_comm ..
      cases known : keep names with
      | true =>
        rw [List.filter_cons_of_pos known, List.filter_cons_of_pos known, rest, swapped,
          List.eraseDups_cons]
      | false =>
        have without : (found.filter keep).filter (fun other => !other == names) =
            found.filter keep := by
          rw [List.filter_eq_self]
          intro other member
          have ne : other ≠ names := by
            rintro rfl
            rw [(List.mem_filter.mp member).2] at known
            cases known
          simpa using ne
        rw [List.filter_cons_of_neg (by simp [known]), List.filter_cons_of_neg (by simp [known]), rest,
          swapped, without]

theorem extends_below {place : Place} {names : List Text} {before after : Selection}
    (again : Selection.Extends (standsAt t (names.foldl onward place)) before after) :
    Selection.Extends (standsAt t place) (before.below names) (after.below names) := by
  intro found selected
  cases before with
  | error path => cases selected
  | ok first =>
    cases selected
    obtain ⟨more, rfl, kept⟩ := again first rfl
    exact ⟨_, rfl, by rw [filter_standsAt_append, kept]⟩

theorem extends_here {place : Place} (there : (t.lookup place).isSome) :
    Selection.Extends (standsAt t place) (.ok [[]]) (.ok [[]]) := by
  intro found selected
  cases selected
  exact ⟨_, rfl, List.filter_cons_of_pos there⟩

theorem extends_nothing (keep : List Text → Bool) : Selection.Extends keep (.ok []) (.ok []) := by
  intro found selected
  cases selected
  exact ⟨_, rfl, rfl⟩

theorem FindsNew.extends {place : Place} {selection : Selection} (new : FindsNew t place selection) :
    Selection.Extends (standsAt t place) (.ok []) selection := by
  intro found selected
  cases selected
  exact new.filter_eq

/-! ### Patterns in grown trees -/

/-- Parts of a pattern that find again what they found, besides what is new. -/
def FindAgain (t u : FileTree) (parts : List GlobPart) : Prop :=
  ∀ place, (t.lookup place).isSome → (parts ≠ [] → t.lookup place = some .directory) →
    Selection.Extends (standsAt t place) (select t parts place) (select u parts place)

section FindAgain

variable {part : GlobPart} {parts : List GlobPart}

/-- Below a name that was there, the rest of a pattern finds again what it found. -/
theorem FindAgain.child (again : FindAgain t u parts) (sound : t.IsSound) {place : Place} {name : Text}
    (found : (t.lookup (place ++ [name])).isSome)
    (further : parts ≠ [] → t.lookup (place ++ [name]) = some .directory) :
    Selection.Extends (standsAt t place) ((select t parts (place ++ [name])).below [name])
      ((select u parts (place ++ [name])).below [name]) := by
  apply extends_below
  rw [List.foldl_cons, onward, if_neg (sound.parent found).2.1.noDots]
  exact again _ found further

/-- Behind something new the rest of a pattern leads downwards, if nothing new is a directory or if it leads
onward. -/
theorem plain_behind (leads : AddsNoDirectory t u ∨ LeadOnward (part :: parts)) (forward : part ≠ .above)
    {place : Place} (none : t.lookup place = none) (further : parts ≠ [] → u.lookup place = some .directory) :
    ∀ other ∈ parts, IsPlain other := by
  rcases leads with noDirectory | onward
  · cases parts with
    | nil => simp
    | cons next rest => exact absurd (further (List.cons_ne_nil next rest)) (noDirectory place none)
  · exact onward.plain forward

/-- Below a name that is new, the rest of a pattern finds what is new. -/
theorem findsNew_child (sound : t.IsSound) (sound' : u.IsSound)
    (leads : AddsNoDirectory t u ∨ LeadOnward (part :: parts)) (forward : part ≠ .above) {place : Place}
    {name : Text} (found : (u.lookup (place ++ [name])).isSome) (none : t.lookup (place ++ [name]) = none)
    (further : parts ≠ [] → u.lookup (place ++ [name]) = some .directory) :
    FindsNew t place ((select u parts (place ++ [name])).below [name]) := by
  apply FindsNew.below
  rw [List.foldl_cons, onward, if_neg (sound'.parent found).2.1.noDots]
  exact select_new sound sound' (plain_behind leads forward none further) none

theorem FindAgain.above (again : FindAgain t u parts) (sound : t.IsSound) :
    FindAgain t u (.above :: parts) := by
  intro place there _
  have parent := sound.lookup_dropLast there
  rw [select, select]
  apply extends_below
  rw [List.foldl_cons, onward, if_pos rfl, List.foldl_nil]
  exact again _ (by rw [parent]; rfl) fun _ => parent

theorem FindAgain.name (again : FindAgain t u parts) (grown : Grown hidden t u) (sound : t.IsSound)
    (sound' : u.IsSound) {s : Text} (leads : AddsNoDirectory t u ∨ LeadOnward (.name s :: parts)) :
    FindAgain t u (.name s :: parts) := by
  intro place there _
  rw [select, select]
  split
  · rintro found ⟨⟩
  · cases before : t.lookup (place ++ [s]) with
    | none =>
      cases found : u.lookup (place ++ [s]) with
      | none => exact extends_nothing _
      | some node =>
        dsimp only
        split
        · rename_i fits
          refine (findsNew_child sound sound' leads (by simp) (by rw [found]; rfl) before
            fun more => ?_).extends
          rw [found]
          simpa [more] using fits
        · exact extends_nothing _
    | some node =>
      obtain ⟨node', found⟩ := Option.isSome_iff_exists.mp (grown.isSome (by rw [before]; rfl))
      have kind : decide (node' = .directory) = decide (node = .directory) := by
        rw [decide_eq_decide]
        constructor
        · rintro rfl
          have was := grown.directory_of_isSome found (by rw [before]; rfl)
          exact Option.some.inj (before.symm.trans was)
        · rintro rfl
          exact Option.some.inj (found.symm.trans (grown.directory before))
      rw [found]
      dsimp only
      rw [kind]
      split
      · rename_i fits
        refine again.child sound (by rw [before]; rfl) fun more => ?_
        rw [before]
        simpa [more] using fits
      · exact extends_nothing _

theorem FindAgain.pattern (again : FindAgain t u parts) (grown : Grown hidden t u) (sound : t.IsSound)
    (sound' : u.IsSound) {form : NamePattern}
    (leads : AddsNoDirectory t u ∨ LeadOnward (.pattern form :: parts)) :
    FindAgain t u (.pattern form :: parts) := by
  intro place there _
  rw [select_pattern, select_pattern, ← grown.filter_branches sound sound' place]
  -- a branch that leads on is a directory
  have made {branch : Text × Bool} {node : Node} (kind : branch.2 = decide (node = .directory))
      (fits : ((parts.isEmpty || branch.2) && form.matchesName branch.1) = true) (more : parts ≠ []) :
      node = .directory := by
    simpa [more, kind] using (Bool.and_eq_true_iff.mp fits).1
  refine Selection.extends_all ?_ ?_
  · intro branch member before
    obtain ⟨node, found, kind⟩ := sound'.lookup_of_mem_branches member
    split
    · exact again.child sound before fun more =>
        grown.directory_of_isSome (made kind.symm ‹_› more ▸ found) before
    · exact extends_nothing _
  · intro branch member none
    obtain ⟨node, found, kind⟩ := sound'.lookup_of_mem_branches member
    split
    · exact (findsNew_child sound sound' leads (by simp) (by rw [found]; rfl) (by simpa using none)
        fun more => made kind.symm ‹_› more ▸ found).filter_eq
    · exact ⟨[], rfl, rfl⟩

theorem FindAgain.directories (again : FindAgain t u parts) (grown : Grown hidden t u)
    (sound : t.IsSound) (sound' : u.IsSound)
    (leads : AddsNoDirectory t u ∨ LeadOnward (.directories :: parts)) :
    FindAgain t u (.directories :: parts) := by
  intro place there directory
  have itself := directory (List.cons_ne_nil _ _)
  have fuel : directoriesBelow t (t.entries.length + 1) place =
      directoriesBelow t (u.entries.length + 1) place := by
    have bound := List.length_filter_le
      (fun entry : Place × Node => place.isPrefixOf entry.1 && decide (entry.1 ≠ place)) t.entries
    have size := grown.length_le
    exact (directoriesBelow_of_countBelow (Nat.lt_succ_of_le bound) (by omega)).symm
  have all : Selection.Extends (standsAt t place)
      (Selection.all ((directoriesBelow t (t.entries.length + 1) place).map fun names =>
        (select t parts (place ++ names)).below names))
      (Selection.all ((directoriesBelow u (u.entries.length + 1) place).map fun names =>
        (select u parts (place ++ names)).below names)) := by
    rw [fuel, ← filter_directoriesBelow grown sound sound' _ itself]
    refine Selection.extends_all ?_ ?_
    · intro names member before
      obtain ⟨names_lead, reached⟩ := mem_directoriesBelow sound' member
      have made := (reached (grown.directory itself)).2
      rw [standsAt, names_lead] at before
      apply extends_below
      rw [names_lead]
      exact again _ before fun _ => grown.directory_of_isSome made before
    · intro names member none
      obtain ⟨names_lead, reached⟩ := mem_directoriesBelow sound' member
      have made := (reached (grown.directory itself)).2
      rw [standsAt, names_lead, Option.isSome_eq_false_iff, Option.isNone_iff_eq_none] at none
      refine (FindsNew.below ?_).filter_eq
      rw [names_lead]
      exact select_new sound sound' (plain_behind leads (by simp) none fun _ => made) none
  rw [select, select]
  intro found selected
  cases first : Selection.all ((directoriesBelow t (t.entries.length + 1) place).map fun names =>
      (select t parts (place ++ names)).below names) with
  | error path =>
    rw [first] at selected
    cases selected
  | ok paths =>
    rw [first] at selected
    cases selected
    obtain ⟨more, again, kept⟩ := all paths first
    exact ⟨more.eraseDups, by rw [again]; rfl, by rw [eraseDups_filter, kept]⟩

/-- What a pattern found is found again, besides what is new. -/
theorem select_extends (grown : Grown hidden t u) (sound : t.IsSound) (sound' : u.IsSound)
    (leads : AddsNoDirectory t u ∨ LeadOnward parts) : FindAgain t u parts := by
  induction parts with
  | nil => exact fun place there _ => extends_here there
  | cons part parts ih =>
    have again := ih (leads.imp_right LeadOnward.tail)
    cases part with
    | endSlash => exact fun place there _ => extends_here there
    | above => exact again.above sound
    | name s => exact again.name grown sound sound' leads
    | pattern form => exact again.pattern grown sound sound' leads
    | directories => exact again.directories grown sound sound' leads

end FindAgain
end ReferencePages.Glob
