import ReferencePages.Proofs.Glob.Found
import Mathlib.Data.List.Nodup
/-!
What a pattern finds, it finds once, and different paths that it finds lead to different places, unless it leads
back up behind a part that stands for many names.
-/

namespace ReferencePages

open FileTree (IsSound destination onward)

theorem FileTree.IsSound.nodup_branches {t : FileTree} (sound : t.IsSound) (place : Place) :
    ((t.branches place).map Prod.fst).Nodup := by
  have places : (t.shape.map Prod.fst).Nodup := by
    have same : t.shape.map Prod.fst = t.entries.map Prod.fst := List.map_map ..
    rw [same]
    exact sound.once
  rw [branches_eq]
  generalize t.shape = entries at places
  induction entries with
  | nil => exact List.nodup_nil
  | cons entry entries ih =>
    obtain ⟨fresh, later⟩ := List.nodup_cons.mp places
    cases found : branchOf place entry with
    | none =>
      rw [List.filterMap_cons_none found]
      exact ih later
    | some branch =>
      rw [List.filterMap_cons_some found]
      refine List.nodup_cons.mpr ⟨fun member => ?_, ih later⟩
      obtain ⟨other, listed, same⟩ := List.mem_map.mp member
      obtain ⟨item, within, known⟩ := List.mem_filterMap.mp listed
      -- both have the same name below the place, so they are one entry
      refine fresh (List.mem_map.mpr ⟨item, within, ?_⟩)
      rw [branchOf_eq_some known, branchOf_eq_some found, same]

namespace Glob

variable {t : FileTree}

theorem nodup_eraseDups (found : List (List Text)) : found.eraseDups.Nodup := by
  induction size : found.length using Nat.strongRecOn generalizing found with
  | ind n ih =>
    cases found with
    | nil => exact List.nodup_nil
    | cons names found =>
      have fewer : (found.filter fun other => !other == names).length < n := by
        have le := List.length_filter_le (fun other => !other == names) found
        rw [List.length_cons] at size
        omega
      rw [List.eraseDups_cons]
      refine List.nodup_cons.mpr ⟨fun member => ?_, ih _ fewer _ rfl⟩
      have kept := (List.mem_filter.mp (List.mem_eraseDups.mp member)).2
      simp at kept

/-! ### Selections -/

theorem below_eq_ok {names : List Text} {selection : Selection} {found : List (List Text)}
    (selected : selection.below names = .ok found) :
    ∃ inner, selection = .ok inner ∧ found = inner.map (names ++ ·) := by
  cases selection with
  | error path => cases selected
  | ok inner =>
    cases selected
    exact ⟨inner, rfl, rfl⟩

/-- What is found under different names is different. -/
theorem nodup_all {ι : Type} {f : ι → Selection} {name : ι → Text} {xs : List ι} {found : List (List Text)}
    (once : (xs.map name).Nodup) (each : ∀ x ∈ xs, ∀ part, f x = .ok part →
      part.Nodup ∧ ∀ names ∈ part, names.head? = some (name x))
    (all : Selection.all (xs.map f) = .ok found) : found.Nodup := by
  induction xs generalizing found with
  | nil =>
    cases all
    exact List.nodup_nil
  | cons x xs ih =>
    obtain ⟨fresh, later⟩ := List.nodup_cons.mp once
    obtain ⟨here, others, first, rest, rfl⟩ := Selection.all_cons_eq_ok all
    obtain ⟨whole, heads⟩ := each x (List.mem_cons_self ..) here first
    refine List.nodup_append.mpr
      ⟨whole, ih later (fun y member => each y (List.mem_cons_of_mem _ member)) rest, ?_⟩
    rintro names within _ other rfl
    obtain ⟨part, listed, inside⟩ := mem_all rest other
    obtain ⟨y, member, value⟩ := List.mem_map.mp listed
    have head := (each y (List.mem_cons_of_mem _ member) part value).2 names inside
    rw [heads names within] at head
    exact fresh (List.mem_map.mpr ⟨y, member, (Option.some.inj head).symm⟩)

theorem nodup_map_append {names : List Text} {inner : List (List Text)} (once : inner.Nodup) :
    (inner.map (names ++ ·)).Nodup :=
  once.map fun _ _ => List.append_cancel_left

/-- A pattern finds no path twice. -/
theorem nodup_select (sound : t.IsSound) {parts : List GlobPart} {place : Place} {found : List (List Text)}
    (selected : select t parts place = .ok found) : found.Nodup := by
  induction parts generalizing place found with
  | nil =>
    cases selected
    exact List.nodup_singleton _
  | cons part parts ih =>
    cases part with
    | endSlash =>
      cases selected
      exact List.nodup_singleton _
    | above =>
      rw [select] at selected
      obtain ⟨inner, within, rfl⟩ := below_eq_ok selected
      exact nodup_map_append (ih within)
    | name s =>
      rcases select_name_eq_ok selected with rfl | ⟨_, _, _, selected⟩
      · exact List.nodup_nil
      · obtain ⟨inner, within, rfl⟩ := below_eq_ok selected
        exact nodup_map_append (ih within)
    | pattern form =>
      rw [select_pattern] at selected
      refine nodup_all (sound.nodup_branches place) (fun branch _ part found => ?_) selected
      split at found
      · obtain ⟨inner, within, rfl⟩ := below_eq_ok found
        refine ⟨nodup_map_append (ih within), fun names member => ?_⟩
        obtain ⟨rest, _, rfl⟩ := List.mem_map.mp member
        rfl
      · cases found
        exact ⟨List.nodup_nil, List.forall_mem_nil _⟩
    | directories =>
      rw [select] at selected
      obtain ⟨paths, _, rfl⟩ := directories_eq_ok selected
      exact nodup_eraseDups paths

/-! ### Places -/

/-- Without parts that lead up, all that is found lies below. -/
theorem foldl_onward_of_select (sound : t.IsSound) {parts : List GlobPart} (down : .above ∉ parts) {place : Place}
    {found : List (List Text)} (selected : select t parts place = .ok found) {names : List Text}
    (member : names ∈ found) : names.foldl onward place = place ++ names := by
  induction parts generalizing place found names with
  | nil =>
    cases selected
    cases List.mem_singleton.mp member
    exact (List.append_nil place).symm
  | cons part parts ih =>
    have further : .above ∉ parts := fun later => down (List.mem_cons_of_mem _ later)
    cases part with
    | endSlash =>
      cases selected
      cases List.mem_singleton.mp member
      exact (List.append_nil place).symm
    | above => exact absurd (List.mem_cons_self ..) down
    | name | pattern | directories =>
      obtain ⟨first, inner, selected, member, ends⟩ :=
        exists_below_of_mem_select sound selected member (by simp) (by simp)
      have leads : first.foldl onward place = place ++ first := by
        rcases ends with ⟨name, node, rfl, known, _⟩ | below
        · exact if_neg (sound.parent (by rw [known]; rfl)).2.1.noDots
        · exact (mem_directoriesBelow sound below).1
      obtain ⟨inner, within, rfl⟩ := below_eq_ok selected
      obtain ⟨rest, inside, rfl⟩ := List.mem_map.mp member
      rw [List.foldl_append, leads, ih further within inside, List.append_assoc]

/-- A part that may stand for many names. -/
def standsForMany : GlobPart → Bool
  | .pattern _ => true
  | .directories => true
  | _ => false

/-- Parts that lead up nowhere behind one that stands for many names. -/
def LeadDown (parts : List GlobPart) : Prop := .above ∉ parts.dropWhile fun part => !standsForMany part

theorem map_foldl_onward (place : Place) (first : List Text) (inner : List (List Text)) :
    ((inner.map (first ++ ·)).map fun names => names.foldl onward place) =
      inner.map fun names => names.foldl onward (first.foldl onward place) := by
  rw [List.map_map]
  exact List.map_congr_left fun names _ => List.foldl_append ..

/-- What a pattern finds leads to different places, unless it leads back up behind a part for many names. -/
theorem nodup_places_of_select (sound : t.IsSound) {parts : List GlobPart} (down : LeadDown parts) {place : Place}
    {found : List (List Text)} (selected : select t parts place = .ok found) :
    (found.map fun names => names.foldl onward place).Nodup := by
  -- names in front are the same for all that is found, and behind them everything lies below
  have below {parts : List GlobPart} (forward : .above ∉ parts) {place : Place} {found : List (List Text)}
      (selected : select t parts place = .ok found) : (found.map fun names => names.foldl onward place).Nodup := by
    have leads : (found.map fun names => names.foldl onward place) = found.map (place ++ ·) :=
      List.map_congr_left fun names member => foldl_onward_of_select sound forward selected member
    rw [leads]
    exact nodup_map_append (nodup_select sound selected)
  induction parts generalizing place found with
  | nil =>
    cases selected
    exact List.nodup_singleton _
  | cons part parts ih =>
    unfold LeadDown at down
    cases part with
    | endSlash =>
      cases selected
      exact List.nodup_singleton _
    | above =>
      rw [select] at selected
      obtain ⟨inner, within, rfl⟩ := below_eq_ok selected
      rw [map_foldl_onward]
      exact ih down within
    | name s =>
      rcases select_name_eq_ok selected with rfl | ⟨node, known, _, selected⟩
      · exact List.nodup_nil
      · obtain ⟨inner, within, rfl⟩ := below_eq_ok selected
        have leads : [s].foldl onward place = place ++ [s] := if_neg (sound.parent (by rw [known]; rfl)).2.1.noDots
        rw [map_foldl_onward, leads]
        exact ih down within
    | pattern form => exact below down selected
    | directories => exact below down selected

/-! ### Texts of patterns -/

/-- A text that leads up nowhere behind a part with a sign of a pattern. -/
def ClimbsFirst (text : Text) : Prop :=
  (".." : Text) ∉ (Path.partsOf text).dropWhile fun (part : Text) => !isPattern part

instance (text : Text) : Decidable (ClimbsFirst text) :=
  inferInstanceAs (Decidable ((".." : Text) ∉ (Path.partsOf text).dropWhile fun (part : Text) => !isPattern part))

theorem partOf_kind {s : Text} {part : GlobPart} (read : partOf s = .ok part) :
    standsForMany part = isPattern s ∧ (part = .above → s = "..") := by
  unfold partOf at read
  split at read
  · rename_i stars
    cases read
    rw [stars]
    exact ⟨by decide, nofun⟩
  · split at read
    · rename_i dots
      cases read
      rw [dots]
      exact ⟨by decide, fun _ => rfl⟩
    · split at read
      · cases read
      · split at read
        · rename_i pattern
          cases read
          exact ⟨pattern.symm, nofun⟩
        · rename_i plain
          cases read
          exact ⟨by simpa [standsForMany] using plain, nofun⟩

theorem above_not_mem_of_mapM {texts : List Text} {parts : List GlobPart}
    (read : texts.mapM partOf = Except.ok parts) (down : (".." : Text) ∉ texts) : .above ∉ parts := by
  induction texts generalizing parts with
  | nil =>
    cases read
    exact List.not_mem_nil
  | cons s texts ih =>
    obtain ⟨first, rest, here, later, rfl⟩ := mapM_cons_eq_ok read
    intro member
    rcases List.mem_cons.mp member with same | member
    · exact down (List.mem_cons.mpr (.inl ((partOf_kind here).2 same.symm).symm))
    · exact ih later (fun within => down (List.mem_cons_of_mem _ within)) member

theorem leadDown_of_mapM {texts : List Text} {parts ending : List GlobPart}
    (read : texts.mapM partOf = Except.ok parts)
    (down : (".." : Text) ∉ texts.dropWhile fun (part : Text) => !isPattern part) (last : .above ∉ ending) :
    LeadDown (parts ++ ending) := by
  induction texts generalizing parts with
  | nil =>
    cases read
    exact fun member => last ((List.dropWhile_sublist _).mem member)
  | cons s texts ih =>
    obtain ⟨first, rest, here, later, rfl⟩ := mapM_cons_eq_ok read
    have kind := (partOf_kind here).1
    unfold LeadDown
    rw [List.cons_append]
    by_cases pattern : isPattern s = true
    · rw [List.dropWhile_cons_of_neg (by simp [pattern])] at down
      rw [List.dropWhile_cons_of_neg (by simp [kind, pattern])]
      intro member
      rcases List.mem_append.mp (List.cons_append ▸ member) with whole | final
      · exact above_not_mem_of_mapM read down whole
      · exact last final
    · rw [List.dropWhile_cons_of_pos (by simpa using pattern)] at down
      rw [List.dropWhile_cons_of_pos (by simpa [kind] using pattern)]
      exact ih later down

theorem ClimbsFirst.parts {text : Text} (climbs : ClimbsFirst text) {parts : List GlobPart}
    (read : ofText text = .ok parts) : LeadDown parts := by
  obtain ⟨written, listed, rfl⟩ := ofText_eq_ok read
  exact leadDown_of_mapM listed climbs fun member => nomatch eq_endSlash_of_mem member

/-- Different paths that a pattern finds below a directory lead to different places. -/
theorem nodup_destinations (sound : t.IsSound) {directory : Place} {p : Path} {text : Text}
    (climbs : ClimbsFirst text) {found : List Path} (search : paths t directory p text = .ok found) :
    (found.map (destination directory)).Nodup := by
  cases found with
  | nil => exact List.nodup_nil
  | cons q found =>
    obtain ⟨place, parts, selection, located, _, read, selected, same⟩ :=
      selected_of_paths search (List.mem_cons_self ..)
    have leads : (selection.map fun names => ({ p with parts := p.parts ++ names } : Path)).map
        (destination directory) = selection.map fun names => names.foldl onward place := by
      rw [List.map_map, FileTree.locate_destination located]
      exact List.map_congr_left fun names _ => List.foldl_append ..
    rw [same, leads]
    exact nodup_places_of_select sound (climbs.parts read) selected

end Glob
end ReferencePages
