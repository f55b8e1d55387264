import ReferencePages.Proofs.FileTree.Destination
/-!
Trees that differ in the contents of one file. Paths lead to the same places in them and what is changed
in both stays the same, so that the difference shows to those alone that read the file.
-/

namespace ReferencePages.FileTree

/-! ### Changes one after the other -/

theorem find?_mem {place : Place} {node : Node} {entries : List (Place × Node)}
    (found : find? place entries = some node) : (place, node) ∈ entries := by
  induction entries with
  | nil => cases found
  | cons entry rest ih =>
    obtain ⟨p, n⟩ := entry
    rw [find?] at found
    split at found
    · rename_i same
      cases same
      cases found
      exact List.mem_cons_self ..
    · exact List.mem_cons_of_mem _ (ih found)

theorem replaceAt_replaceAt_self (place : Place) (first second : Node) (entries : List (Place × Node)) :
    replaceAt place second (replaceAt place first entries) = replaceAt place second entries := by
  induction entries with
  | nil => simp [replaceAt]
  | cons entry rest ih =>
    obtain ⟨p, n⟩ := entry
    by_cases same : p = place
    · simp [replaceAt, same]
    · simp [replaceAt, same, ih]

/-- Nodes at different places are replaced in either order, where one of the places is listed. -/
theorem replaceAt_comm {place other : Place} (ne : other ≠ place) {node : Node}
    {entries : List (Place × Node)} (listed : (place, node) ∈ entries) (first second : Node) :
    replaceAt other second (replaceAt place first entries) =
      replaceAt place first (replaceAt other second entries) := by
  induction entries with
  | nil => cases listed
  | cons entry rest ih =>
    obtain ⟨p, n⟩ := entry
    by_cases here : p = place
    · subst here
      simp [replaceAt, ne.symm]
    · have later : (place, node) ∈ rest := by
        rcases List.mem_cons.mp listed with same | later
        · exact absurd (Prod.mk.inj same).1.symm here
        · exact later
      by_cases there : p = other
      · subst there
        simp [replaceAt, here]
      · simp [replaceAt, here, there, ih later]

theorem filter_replaceAt_of_ne {place other : Place} (ne : other ≠ place) (node : Node)
    (entries : List (Place × Node)) :
    (replaceAt place node entries).filter (·.1 ≠ other) =
      replaceAt place node (entries.filter (·.1 ≠ other)) := by
  induction entries with
  | nil => simp [replaceAt, ne.symm]
  | cons entry rest ih =>
    obtain ⟨p, n⟩ := entry
    by_cases here : p = place
    · subst here
      simp [replaceAt, ne.symm]
    · by_cases there : p = other
      · subst there
        simpa [replaceAt, here] using ih
      · simpa [replaceAt, here, there] using ih

theorem filter_replaceAt_self (place : Place) (node : Node) (entries : List (Place × Node)) :
    (replaceAt place node entries).filter (·.1 ≠ place) = entries.filter (·.1 ≠ place) := by
  induction entries with
  | nil => simp [replaceAt]
  | cons entry rest ih =>
    obtain ⟨p, n⟩ := entry
    by_cases here : p = place
    · subst here
      simp [replaceAt]
    · simpa [replaceAt, here] using ih

/-- What is gathered from the nodes is the same as long as it is the same for the node that is
replaced. -/
theorem filterMap_replaceAt {β : Type} {gather : Place × Node → Option β} {place : Place}
    {old new : Node} {entries : List (Place × Node)} (found : find? place entries = some old)
    (same : gather (place, new) = gather (place, old)) :
    (replaceAt place new entries).filterMap gather = entries.filterMap gather := by
  induction entries with
  | nil => cases found
  | cons entry rest ih =>
    obtain ⟨p, n⟩ := entry
    rw [find?] at found
    by_cases here : p = place
    · rw [if_pos here] at found
      cases found
      subst here
      simp [replaceAt, List.filterMap_cons, same]
    · rw [if_neg here] at found
      simp [replaceAt, here, List.filterMap_cons, ih found]

theorem set_set_self (t : FileTree) (place : Place) (first second : Node) :
    (t.set place first).set place second = t.set place second :=
  congrArg FileTree.mk (replaceAt_replaceAt_self place first second t.entries)

theorem erase_set_self (t : FileTree) (place : Place) (node : Node) :
    (t.set place node).erase place = t.erase place :=
  congrArg FileTree.mk (filter_replaceAt_self place node t.entries)

theorem erase_set_of_ne {place other : Place} (ne : other ≠ place) (t : FileTree) (node : Node) :
    (t.set place node).erase other = (t.erase other).set place node :=
  congrArg FileTree.mk (filter_replaceAt_of_ne ne node t.entries)

theorem ne_root_of_file {t : FileTree} {place : Place} {mode : Nat} {contents : Bytes}
    (found : t.lookup place = some (.file mode contents)) : place ≠ [] := by
  intro root
  rw [root, lookup_root] at found
  cases found

theorem find?_of_file {t : FileTree} {place : Place} {mode : Nat} {contents : Bytes}
    (found : t.lookup place = some (.file mode contents)) :
    find? place t.entries = some (.file mode contents) := by
  rwa [lookup, if_neg (ne_root_of_file found)] at found

theorem set_set_comm {t : FileTree} {place other : Place} (ne : other ≠ place) {mode : Nat}
    {contents : Bytes} (found : t.lookup place = some (.file mode contents)) (first second : Node) :
    (t.set place first).set other second = (t.set other second).set place first :=
  congrArg FileTree.mk (replaceAt_comm ne (find?_mem (find?_of_file found)) first second)

/-! ### Trees that differ in one file -/

/-- Two trees that are the same but for the contents of the file at a place. -/
def SameBut (place : Place) (t u : FileTree) : Prop :=
  u = t ∨ ∃ mode old new, t.lookup place = some (.file mode old) ∧ u = t.set place (.file mode new)

namespace SameBut

variable {place : Place} {t u : FileTree}

theorem refl (place : Place) (t : FileTree) : SameBut place t t := .inl rfl

theorem of_set {place : Place} (below : place ≠ []) (t : FileTree) (mode : Nat) (old new : Bytes) :
    SameBut place (t.set place (.file mode old)) (t.set place (.file mode new)) :=
  .inr ⟨mode, old, new, lookup_set_self below t _, (set_set_self t place _ _).symm⟩

theorem lookup_eq (same : SameBut place t u) {other : Place} (ne : other ≠ place) :
    u.lookup other = t.lookup other := by
  rcases same with rfl | ⟨mode, old, new, _, rfl⟩
  · rfl
  · exact lookup_set_of_ne ne t _

/-- At every place stands the same, or else there are files with the same permission bits. -/
theorem lookup_cases (same : SameBut place t u) (other : Place) :
    u.lookup other = t.lookup other ∨
      ∃ mode old new, t.lookup other = some (.file mode old) ∧
        u.lookup other = some (.file mode new) := by
  rcases same with rfl | ⟨mode, old, new, found, rfl⟩
  · exact .inl rfl
  · by_cases here : other = place
    · subst here
      exact .inr ⟨mode, old, new, found, lookup_set_self (ne_root_of_file found) t _⟩
    · exact .inl (lookup_set_of_ne here t _)

theorem sameShape (same : SameBut place t u) : SameShape u t := by
  intro other
  rcases same.lookup_cases other with equal | ⟨mode, old, new, before, after⟩
  · rw [equal]
  · simp [before, after]

theorem filterMap_eq (same : SameBut place t u) {β : Type} {gather : Place × Node → Option β}
    (blind : ∀ p mode old new, gather (p, .file mode new) = gather (p, .file mode old)) :
    u.entries.filterMap gather = t.entries.filterMap gather := by
  rcases same with rfl | ⟨mode, old, new, found, rfl⟩
  · rfl
  · exact filterMap_replaceAt (find?_of_file found) (blind place mode old new)

theorem map_eq (same : SameBut place t u) {β : Type} (f : Place → β) :
    (u.entries.map fun (p, _) => f p) = t.entries.map fun (p, _) => f p := by
  have gathered : (u.entries.filterMap fun (p, _) => some (f p)) =
      t.entries.filterMap fun (p, _) => some (f p) := same.filterMap_eq fun _ _ _ _ => rfl
  simpa only [List.filterMap_eq_map'] using gathered

/-! Changes keep trees the same but for the one file. -/

theorem set (same : SameBut place t u) (other : Place) (node : Node) :
    SameBut place (t.set other node) (u.set other node) := by
  rcases same with rfl | ⟨mode, old, new, found, rfl⟩
  · exact .inl rfl
  · by_cases here : other = place
    · subst here
      exact .inl (set_set_self t _ _ node)
    · exact .inr ⟨mode, old, new, (lookup_set_of_ne (Ne.symm here) t node).trans found,
        set_set_comm here found _ node⟩

/-- The difference is gone where the file is replaced in both trees. -/
theorem set_self (same : SameBut place t u) (node : Node) : u.set place node = t.set place node := by
  rcases same with rfl | ⟨mode, old, new, _, rfl⟩
  · rfl
  · exact set_set_self t place _ node

theorem erase (same : SameBut place t u) (other : Place) :
    SameBut place (t.erase other) (u.erase other) := by
  rcases same with rfl | ⟨mode, old, new, found, rfl⟩
  · exact .inl rfl
  · by_cases here : other = place
    · subst here
      exact .inl (erase_set_self t _ _)
    · exact .inr ⟨mode, old, new, (lookup_erase_of_ne (Ne.symm here) t).trans found,
        erase_set_of_ne here t _⟩

theorem setMode (same : SameBut place t u) (other : Place) (mode : Nat) :
    SameBut place (t.setMode other mode) (u.setMode other mode) := by
  rcases same with rfl | ⟨mode', old, new, found, rfl⟩
  · exact .inl rfl
  · have below := ne_root_of_file found
    by_cases here : other = place
    · subst here
      have before : t.setMode other mode = t.set other (.file mode old) := by rw [FileTree.setMode, found]
      have after : (t.set other (.file mode' new)).setMode other mode = t.set other (.file mode new) := by
        rw [FileTree.setMode, lookup_set_self below]
        exact set_set_self t other _ _
      rw [before, after]
      exact of_set below t mode old new
    · have kept := lookup_set_of_ne here t (.file mode' new)
      rw [FileTree.setMode, FileTree.setMode, kept]
      split
      · exact SameBut.set (.inr ⟨mode', old, new, found, rfl⟩) other _
      · exact .inr ⟨mode', old, new, found, rfl⟩

end SameBut

/-! ### Paths and names in such trees -/

namespace SameBut

variable {place : Place} {t u : FileTree}

theorem locate_eq (same : SameBut place t u) (directory : Place) (p : Path) :
    u.locate directory p = t.locate directory p := by
  unfold locate
  rw [same.sameShape.walk_eq]

theorem locateNew_eq (same : SameBut place t u) (directory : Place) (p : Path) :
    u.locateNew directory p = t.locateNew directory p := same.sameShape.locateNew_eq directory p

/-- What is at the end of a path is the same, or there are files with the same permission bits. -/
theorem node?_cases (same : SameBut place t u) (directory : Place) (p : Path) :
    u.node? directory p = t.node? directory p ∨
      ∃ mode old new, t.node? directory p = some (.file mode old) ∧
        u.node? directory p = some (.file mode new) := by
  unfold node?
  rw [same.locate_eq]
  cases t.locate directory p with
  | ok found => exact same.lookup_cases found
  | error fault => exact .inl rfl

theorem isFile_eq (same : SameBut place t u) (directory : Place) (p : Path) :
    u.isFile directory p = t.isFile directory p := by
  unfold isFile
  rcases same.node?_cases directory p with equal | ⟨mode, old, new, before, after⟩
  · rw [equal]
  · rw [before, after]

theorem isDirectory_eq (same : SameBut place t u) (directory : Place) (p : Path) :
    u.isDirectory directory p = t.isDirectory directory p := by
  unfold isDirectory
  rcases same.node?_cases directory p with equal | ⟨mode, old, new, before, after⟩
  · rw [equal]
  · rw [before, after]
    rfl

/-- A path that does not lead to the file is read in both trees alike. -/
theorem read_eq (same : SameBut place t u) {directory : Place} {p : Path}
    (apart : destination directory p ≠ place) : u.read directory p = t.read directory p := by
  unfold read
  rw [same.locate_eq]
  cases located : t.locate directory p with
  | error fault => rfl
  | ok found =>
    have ne : found ≠ place := by
      rw [locate_destination located]
      exact apart
    dsimp only
    rw [same.lookup_eq ne]

theorem longestName_eq (same : SameBut place t u) : u.longestName = t.longestName := by
  unfold longestName
  rw [same.map_eq fun p => (p.getLast?.getD []).length]

theorem freshName_eq (same : SameBut place t u) (first last : Text) :
    u.freshName first last = t.freshName first last := by
  have taken : (u.entries.any fun (p, _) => p.getLast? = some (first ++ freshPart ++ last)) =
      t.entries.any fun (p, _) => p.getLast? = some (first ++ freshPart ++ last) := by
    have names := same.map_eq fun p => decide (p.getLast? = some (first ++ freshPart ++ last))
    simpa only [List.any_map, Function.id_comp] using congrArg (List.any · id) names
  unfold freshName
  rw [same.longestName_eq]
  dsimp only
  rw [taken]

theorem locateFresh_eq (same : SameBut place t u) (directory : Place) (above : Path)
    (first last : Text) :
    u.locateFresh directory above first last = t.locateFresh directory above first last := by
  unfold locateFresh freshPath
  rw [same.freshName_eq, same.locate_eq]
  split
  · rfl
  · split
    · rfl
    · rename_i found _
      rcases same.lookup_cases found with equal | ⟨mode, old, new, before, after⟩
      · rw [equal]
      · rw [before, after]

/-- A directory is made in both trees alike. -/
theorem makeDirectory_cases (same : SameBut place t u) (directory : Place) (p : Path) :
    (∃ fault, t.makeDirectory directory p = .error fault ∧ u.makeDirectory directory p = .error fault) ∨
      ∃ made made', t.makeDirectory directory p = .ok made ∧ u.makeDirectory directory p = .ok made' ∧
        SameBut place made made' := by
  unfold makeDirectory
  rw [same.locateNew_eq]
  cases t.locateNew directory p with
  | error fault => exact .inl ⟨fault, rfl, rfl⟩
  | ok found =>
    have there : (u.lookup found).isSome = (t.lookup found).isSome := by
      rcases same.lookup_cases found with equal | ⟨mode, old, new, before, after⟩
      · rw [equal]
      · rw [before, after]
        rfl
    dsimp only
    rw [there]
    split
    · exact .inl ⟨_, rfl, rfl⟩
    · exact .inr ⟨_, _, rfl, rfl, same.set found .directory⟩

theorem unlessDirectory_eq (same : SameBut place t u) (directory : Place) (p : Path)
    (fault : FileFault) : u.unlessDirectory directory p fault = t.unlessDirectory directory p fault := by
  unfold unlessDirectory
  rw [same.isDirectory_eq]

theorem makeAll (same : SameBut place t u) (directory : Place) (anchor : Anchor)
    (reversed : List Text) :
    (FileTree.makeAll directory anchor u reversed).2 = (FileTree.makeAll directory anchor t reversed).2 ∧
      SameBut place (FileTree.makeAll directory anchor t reversed).1
        (FileTree.makeAll directory anchor u reversed).1 := by
  induction reversed generalizing t u with
  | nil => exact ⟨same.unlessDirectory_eq _ _ _, same⟩
  | cons last above ih =>
    rw [FileTree.makeAll, FileTree.makeAll]
    rcases same.makeDirectory_cases directory { anchor, parts := (last :: above).reverse } with
      ⟨fault, before, after⟩ | ⟨made, made', before, after, later⟩
    · rw [before, after]
      cases fault with
      | notFound =>
        dsimp only
        obtain ⟨faults, trees⟩ := ih same
        cases first : FileTree.makeAll directory anchor t above with
        | mk tree fault? =>
          cases second : FileTree.makeAll directory anchor u above with
          | mk tree' fault?' =>
            rw [first, second] at faults trees
            dsimp only at faults trees
            subst faults
            cases fault?' with
            | some e => exact ⟨rfl, trees⟩
            | none =>
              dsimp only
              rcases trees.makeDirectory_cases directory { anchor, parts := (last :: above).reverse } with
                ⟨fault, before, after⟩ | ⟨made, made', before, after, later⟩
              · rw [before, after]
                cases fault with
                | notFound => exact ⟨rfl, trees⟩
                | _ => exact ⟨trees.unlessDirectory_eq _ _ _, trees⟩
              · rw [before, after]
                exact ⟨rfl, later⟩
      | _ => exact ⟨same.unlessDirectory_eq _ _ _, same⟩
    · rw [before, after]
      exact ⟨rfl, later⟩

theorem makeDirectories (same : SameBut place t u) (directory : Place) (p : Path) :
    (u.makeDirectories directory p).2 = (t.makeDirectories directory p).2 ∧
      SameBut place (t.makeDirectories directory p).1 (u.makeDirectories directory p).1 :=
  same.makeAll directory p.anchor p.parts.reverse

end SameBut
end ReferencePages.FileTree
