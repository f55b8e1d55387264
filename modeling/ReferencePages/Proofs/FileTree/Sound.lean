import ReferencePages.Proofs.FileTree.Contents
import ReferencePages.Proofs.Path.Text
import Mathlib.Data.List.Induction
/-!
Sound trees. Each place lies in a directory and has a proper name, so that it can be reached, and whatever a
path leads through stands in the tree.
-/

namespace ReferencePages.FileTree

/-- A tree in which each place is listed once and lies in a directory, under a name that is not too long. -/
structure IsSound (t : FileTree) : Prop where
  once : (t.entries.map Prod.fst).Nodup
  below : ∀ entry ∈ t.entries, ∃ (above : Place) (name : Text), entry.1 = above ++ [name] ∧
    t.lookup above = some .directory ∧ IsName name ∧ isTooLong name = false

/-- Whether a tree is sound is seen from its entries. -/
theorem isSound_iff {t : FileTree} : t.IsSound ↔ (t.entries.map Prod.fst).Nodup ∧
    ∀ entry ∈ t.entries, entry.1 ≠ [] ∧ t.lookup entry.1.dropLast = some .directory ∧
      IsName (entry.1.getLast?.getD []) ∧ isTooLong (entry.1.getLast?.getD []) = false := by
  constructor
  · intro sound
    refine ⟨sound.once, fun entry member => ?_⟩
    obtain ⟨above, name, form, rest⟩ := sound.below entry member
    rw [form, List.dropLast_concat, List.getLast?_concat]
    exact ⟨by simp, rest⟩
  · rintro ⟨once, each⟩
    refine ⟨once, fun entry member => ?_⟩
    obtain ⟨below, rest⟩ := each entry member
    rw [List.getLast?_eq_some_getLast below, Option.getD_some] at rest
    exact ⟨_, _, (List.dropLast_concat_getLast below).symm, rest⟩

instance (t : FileTree) : Decidable t.IsSound := decidable_of_iff' _ isSound_iff

theorem find?_of_mem {entry : Place × Node} {entries : List (Place × Node)}
    (once : (entries.map Prod.fst).Nodup) (member : entry ∈ entries) :
    find? entry.1 entries = some entry.2 := by
  induction entries with
  | nil => cases member
  | cons first rest ih =>
    obtain ⟨p, n⟩ := first
    obtain ⟨fresh, once⟩ := List.nodup_cons.mp once
    rcases List.mem_cons.mp member with rfl | later
    · exact if_pos rfl
    · have ne : p ≠ entry.1 := fun same => fresh (List.mem_map.mpr ⟨entry, later, same.symm⟩)
      rw [find?, if_neg ne]
      exact ih once later

theorem replaceAt_of_find?_eq_none {place : Place} (node : Node) {entries : List (Place × Node)}
    (free : find? place entries = none) : replaceAt place node entries = entries ++ [(place, node)] := by
  induction entries with
  | nil => rfl
  | cons entry rest ih =>
    obtain ⟨p, n⟩ := entry
    rw [find?] at free
    split at free
    · cases free
    · rw [replaceAt, if_neg ‹_›, ih free]
      rfl

theorem mem_of_lookup {t : FileTree} {place : Place} {node : Node} (below : place ≠ [])
    (found : t.lookup place = some node) : (place, node) ∈ t.entries := by
  rw [lookup, if_neg below] at found
  exact find?_mem found

namespace IsSound

variable {t : FileTree}

theorem lookup_of_mem (sound : t.IsSound) {entry : Place × Node} (member : entry ∈ t.entries) :
    t.lookup entry.1 = some entry.2 := by
  obtain ⟨above, name, form, _⟩ := sound.below entry member
  rw [lookup, if_neg (by rw [form]; simp)]
  exact find?_of_mem sound.once member

/-- What stands somewhere stands in a directory. -/
theorem parent (sound : t.IsSound) {above : Place} {name : Text}
    (there : (t.lookup (above ++ [name])).isSome) :
    t.lookup above = some .directory ∧ IsName name ∧ isTooLong name = false := by
  obtain ⟨node, found⟩ := Option.isSome_iff_exists.mp there
  obtain ⟨above', name', form, rest⟩ := sound.below _ (mem_of_lookup (by simp) found)
  obtain ⟨rfl, same⟩ := List.append_inj' form rfl
  cases same
  exact rest

theorem lookup_dropLast (sound : t.IsSound) {place : Place} (there : (t.lookup place).isSome) :
    t.lookup place.dropLast = some .directory := by
  rcases List.eq_nil_or_concat place with rfl | ⟨above, name, rfl⟩
  · exact t.lookup_root
  · rw [List.concat_eq_append] at there ⊢
    rw [List.dropLast_concat]
    exact (sound.parent there).1

theorem isSome_of_append (sound : t.IsSound) {above : Place} (names : List Text)
    (there : (t.lookup (above ++ names)).isSome) : (t.lookup above).isSome := by
  induction names using List.reverseRecOn with
  | nil => rwa [List.append_nil] at there
  | append_singleton names name ih =>
    rw [← List.append_assoc] at there
    exact ih (by rw [(sound.parent there).1]; rfl)

/-- Below what is not there nothing is. -/
theorem eq_none_of_append (sound : t.IsSound) {above : Place} (names : List Text)
    (none : t.lookup above = none) : t.lookup (above ++ names) = Option.none := by
  cases found : t.lookup (above ++ names) with
  | none => rfl
  | some node =>
    have there := sound.isSome_of_append names (by rw [found]; rfl)
    rw [none] at there
    cases there

end IsSound

theorem places_replaceAt (place : Place) (node : Node) (entries : List (Place × Node)) :
    (replaceAt place node entries).map Prod.fst =
      if place ∈ entries.map Prod.fst then entries.map Prod.fst
      else entries.map Prod.fst ++ [place] := by
  induction entries with
  | nil => rfl
  | cons entry rest ih =>
    obtain ⟨p, n⟩ := entry
    by_cases here : p = place
    · subst here
      simp [replaceAt]
    · rw [replaceAt, if_neg here, List.map_cons, List.map_cons, ih]
      by_cases later : place ∈ rest.map Prod.fst
      · rw [if_pos later, if_pos (List.mem_cons_of_mem _ later)]
      · have absent : place ∉ p :: rest.map Prod.fst := by
          rw [List.mem_cons, not_or]
          exact ⟨Ne.symm here, later⟩
        rw [if_neg later, if_neg absent]
        rfl

theorem mem_replaceAt {place : Place} {node : Node} {entry : Place × Node}
    {entries : List (Place × Node)} (member : entry ∈ replaceAt place node entries) :
    entry ∈ entries ∨ entry = (place, node) := by
  induction entries with
  | nil => exact .inr (List.mem_singleton.mp member)
  | cons first rest ih =>
    obtain ⟨p, n⟩ := first
    rw [replaceAt] at member
    split at member
    · rcases List.mem_cons.mp member with same | later
      · exact .inr same
      · exact .inl (List.mem_cons_of_mem _ later)
    · rcases List.mem_cons.mp member with same | later
      · exact .inl (same ▸ List.mem_cons_self ..)
      · exact (ih later).imp_left (List.mem_cons_of_mem _)

/-- A tree stays sound where a node is put into a directory and no directory is lost by it. -/
theorem IsSound.set {t : FileTree} (sound : t.IsSound) {above : Place} {name : Text} {node : Node}
    (directory : t.lookup above = some .directory) (isName : IsName name)
    (short : isTooLong name = false)
    (kept : node = .directory ∨ t.lookup (above ++ [name]) ≠ some .directory) :
    (t.set (above ++ [name]) node).IsSound := by
  have remains (place : Place) (there : t.lookup place = some .directory) :
      (t.set (above ++ [name]) node).lookup place = some .directory :=
    lookup_set_directory (by simp) kept there
  constructor
  · have places := places_replaceAt (above ++ [name]) node t.entries
    rw [FileTree.set, places]
    split
    · exact sound.once
    · rename_i fresh
      exact List.nodup_append.mpr ⟨sound.once, by simp, by
        rintro place listed other member rfl
        exact fresh (List.mem_singleton.mp member ▸ listed)⟩
  · intro entry member
    rcases mem_replaceAt member with before | rfl
    · obtain ⟨above', name', form, there, rest⟩ := sound.below entry before
      exact ⟨above', name', form, remains above' there, rest⟩
    · exact ⟨above, name, rfl, remains above directory, isName, short⟩

theorem SameBut.isSound {place : Place} {t u : FileTree} (same : SameBut place t u)
    (sound : t.IsSound) : u.IsSound := by
  rcases same with rfl | ⟨mode, old, new, found, rfl⟩
  · exact sound
  · rcases List.eq_nil_or_concat place with rfl | ⟨above, name, rfl⟩
    · exact absurd rfl (ne_root_of_file found)
    · rw [List.concat_eq_append] at found ⊢
      obtain ⟨directory, isName, short⟩ := sound.parent (by rw [found]; rfl)
      exact sound.set directory isName short (.inr (by simp [found]))

/-! ### Paths in sound trees -/

theorem walk_up (t : FileTree) {place : Place} (there : t.lookup place = some .directory) :
    t.walk place [".."] = .ok place.dropLast := by
  rw [walk, there]
  rfl

theorem IsSound.walk_name {t : FileTree} (sound : t.IsSound) {place : Place} {name : Text}
    (there : (t.lookup (place ++ [name])).isSome) : t.walk place [name] = .ok (place ++ [name]) := by
  obtain ⟨above, isName, short⟩ := sound.parent there
  have found : ¬ (t.lookup (place ++ [name])).isNone := by
    rwa [Bool.not_eq_true, Option.isNone_eq_false_iff]
  rw [walk, above]
  dsimp only
  rw [if_neg isName.noDots, short, if_neg Bool.false_ne_true, if_neg found, walk]

/-- Whatever a path leads through stands in the tree, so that the path has parts as the text of one has
them. -/
theorem IsSound.walk_through {t : FileTree} (sound : t.IsSound) {here place : Place} {parts : List Text}
    (there : (t.lookup here).isSome) (walked : t.walk here parts = .ok place) :
    (t.lookup place).isSome ∧ ∀ part ∈ parts, Path.IsPart part := by
  induction parts generalizing here with
  | nil =>
    cases walked
    exact ⟨there, nofun⟩
  | cons part parts ih =>
    rw [walk] at walked
    split at walked
    · cases walked
    · cases walked
    · split at walked
      · rename_i up
        obtain ⟨stands, clean⟩ := ih (by rw [sound.lookup_dropLast there]; rfl) walked
        exact ⟨stands, List.forall_mem_cons.mpr ⟨up ▸ Path.isPart_above, clean⟩⟩
      · split at walked
        · cases walked
        · split at walked
          · cases walked
          · rename_i found
            rw [Bool.not_eq_true, Option.isNone_eq_false_iff] at found
            obtain ⟨_, isName, _⟩ := sound.parent found
            obtain ⟨stands, clean⟩ := ih found walked
            exact ⟨stands, List.forall_mem_cons.mpr ⟨isName.isPart, clean⟩⟩

/-- A path with parts that can be followed leads to something. -/
theorem IsSound.walk_stands {t : FileTree} (sound : t.IsSound) {here place : Place} {parts : List Text}
    (walked : t.walk here parts = .ok place) (some : parts ≠ []) : (t.lookup place).isSome := by
  cases parts with
  | nil => exact absurd rfl some
  | cons part parts =>
    have there : (t.lookup here).isSome := by
      rw [walk] at walked
      split at walked
      · cases walked
      · cases walked
      · rename_i found
        rw [found]
        rfl
    exact (sound.walk_through there walked).1

theorem walk_of_locate {t : FileTree} {directory place : Place} {p : Path}
    (located : t.locate directory p = .ok place) : t.walk (start directory p) p.parts = .ok place := by
  unfold locate at located
  split at located
  · cases located
  · exact located

end ReferencePages.FileTree
