import ReferencePages.Toml.Reader
import Mathlib.Data.List.Nodup
/-!
Keys of a document. No table of a document that is read has a key twice, however the table has come about: from
sections, from dotted keys or in braces.
-/

namespace ReferencePages

/-! ### Dictionaries -/

namespace Dictionary

variable {α : Type} {key : Text} {value : α}

theorem mem_of_get? {d : Dictionary α} (found : get? key d = some value) : (key, value) ∈ d := by
  induction d with
  | nil => cases found
  | cons entry rest ih =>
    obtain ⟨k, v⟩ := entry
    rw [get?] at found
    by_cases here : k = key
    · rw [if_pos here] at found
      cases found
      rw [here]
      exact List.mem_cons_self ..
    · rw [if_neg here] at found
      exact List.mem_cons_of_mem _ (ih found)

theorem mem_set {entry : Text × α} {d : Dictionary α} (member : entry ∈ set key value d) :
    entry = (key, value) ∨ entry ∈ d := by
  induction d with
  | nil => exact .inl (List.mem_singleton.mp member)
  | cons first rest ih =>
    obtain ⟨k, v⟩ := first
    rw [set] at member
    by_cases here : k = key
    · rw [if_pos here] at member
      exact (List.mem_cons.mp member).imp_right (List.mem_cons_of_mem _)
    · rw [if_neg here] at member
      rcases List.mem_cons.mp member with same | later
      · exact .inr (same ▸ List.mem_cons_self ..)
      · exact (ih later).imp_right (List.mem_cons_of_mem _)

/-- To set a key makes no key stand twice. -/
theorem nodup_keys_set {d : Dictionary α} (once : (d.map Prod.fst).Nodup) :
    ((set key value d).map Prod.fst).Nodup := by
  induction d with
  | nil => exact List.nodup_singleton key
  | cons first rest ih =>
    obtain ⟨k, v⟩ := first
    obtain ⟨fresh, later⟩ := List.nodup_cons.mp once
    rw [set]
    by_cases here : k = key
    · rw [if_pos here, ← here]
      exact once
    · rw [if_neg here]
      refine List.nodup_cons.mpr ⟨fun member => ?_, ih later⟩
      obtain ⟨entry, listed, same⟩ := List.mem_map.mp member
      rcases mem_set listed with rfl | before
      · exact here same.symm
      · exact fresh (List.mem_map.mpr ⟨entry, before, same⟩)

end Dictionary

namespace Toml

/-! ### Values -/

/-- A value in which no table has a key twice. -/
inductive Keyed : Toml → Prop
  | scalar {value : Toml} (plain : value.isClosed = false) : Keyed value
  | array {items : List Toml} (each : ∀ item ∈ items, Keyed item) : Keyed (.array items)
  | table {members : List (Text × Toml)} (once : (members.map Prod.fst).Nodup)
      (each : ∀ entry ∈ members, Keyed entry.2) : Keyed (.table members)

namespace Keyed

variable {members : Dictionary Toml} {key : Text} {value : Toml}

theorem nodup_keys (keyed : Keyed (.table members)) : (members.map Prod.fst).Nodup := by
  cases keyed with
  | scalar plain => cases plain
  | table once _ => exact once

theorem value_of_mem (keyed : Keyed (.table members)) {entry : Text × Toml} (member : entry ∈ members) :
    Keyed entry.2 := by
  cases keyed with
  | scalar plain => cases plain
  | table _ each => exact each entry member

theorem item_of_mem {items : List Toml} (keyed : Keyed (.array items)) {item : Toml} (member : item ∈ items) :
    Keyed item := by
  cases keyed with
  | scalar plain => cases plain
  | array each => exact each item member

theorem of_get? (keyed : Keyed (.table members)) (found : Dictionary.get? key members = some value) : Keyed value :=
  keyed.value_of_mem (Dictionary.mem_of_get? found)

theorem empty : Keyed (.table []) := .table List.nodup_nil nofun

theorem set (keyed : Keyed (.table members)) (whole : Keyed value) :
    Keyed (.table (Dictionary.set key value members)) := by
  refine .table (Dictionary.nodup_keys_set keyed.nodup_keys) fun entry member => ?_
  rcases Dictionary.mem_set member with rfl | before
  · exact whole
  · exact keyed.value_of_mem before

theorem setNew (keyed : Keyed (.table members)) (whole : Keyed value) {after : Dictionary Toml}
    (done : Toml.setNew key value members = some after) : Keyed (.table after) := by
  unfold Toml.setNew at done
  split at done
  · cases done
    exact keyed.set whole
  · cases done

theorem addTable (keyed : Keyed (.table members)) {after : Dictionary Toml}
    (done : Toml.addTable key members = some after) : Keyed (.table after) := by
  unfold Toml.addTable at done
  split at done
  · cases done
    exact keyed.set (.array fun item member => List.mem_singleton.mp member ▸ empty)
  · rename_i items found
    cases done
    refine keyed.set (.array fun item member => ?_)
    rcases List.mem_append.mp member with before | last
    · exact (keyed.of_get? found).item_of_mem before
    · exact List.mem_singleton.mp last ▸ empty
  · cases done

/-- A change that keeps keys apart keeps them apart at every path. -/
theorem changeAt {inArrays : Bool} {change : Dictionary Toml → Option (Dictionary Toml)}
    (keeps : ∀ members after, Keyed (.table members) → change members = some after → Keyed (.table after))
    {path : List Text} {after : Dictionary Toml} (keyed : Keyed (.table members))
    (done : Toml.changeAt inArrays change path members = some after) : Keyed (.table after) := by
  induction path generalizing members after with
  | nil => exact keeps members after keyed done
  | cons key path ih =>
    rw [Toml.changeAt] at done
    split at done
    · obtain ⟨inner, changed, rfl⟩ := Option.map_eq_some_iff.mp done
      exact keyed.set (ih empty changed)
    · rename_i table found
      obtain ⟨inner, changed, rfl⟩ := Option.map_eq_some_iff.mp done
      exact keyed.set (ih (keyed.of_get? found) changed)
    · rename_i items found
      have each : ∀ item ∈ items, Keyed item := fun _ => (keyed.of_get? found).item_of_mem
      split at done
      · split at done
        · rename_i last before reversed
          obtain ⟨inner, changed, rfl⟩ := Option.map_eq_some_iff.mp done
          have listed : ∀ item ∈ .table last :: before, item ∈ items := fun item member => by
            rw [← reversed] at member
            exact List.mem_reverse.mp member
          refine keyed.set (.array fun item member => ?_)
          rcases List.mem_append.mp member with earlier | final
          · exact each item (listed item (List.mem_cons_of_mem _ (List.mem_reverse.mp earlier)))
          · rw [List.mem_singleton.mp final]
            exact ih (each _ (listed _ (List.mem_cons_self ..))) changed
        · cases done
      · cases done
    · cases done

end Keyed
/-! ### Values that are read -/

theorem bind_eq_ok {α β : Type} {first : Except ReadError α} {next : α → Except ReadError β} {b : β}
    (done : first >>= next = .ok b) : ∃ a, first = .ok a ∧ next a = .ok b := by
  cases first with
  | error e => cases done
  | ok a => exact ⟨a, rfl, done⟩

theorem required_eq_ok {α : Type} {value : Option α} {a : α} (done : required value = .ok a) : value = some a := by
  cases value with
  | none => cases done
  | some b =>
    cases done
    rfl

theorem isClosed_of_readDate? {s rest : Text} {value : Toml} (done : readDate? s = some (.ok (value, rest))) :
    value.isClosed = false := by
  unfold readDate? at done
  obtain ⟨⟨year, s⟩, _, done⟩ := Option.bind_eq_some_iff.mp done
  obtain ⟨t, _, done⟩ := Option.bind_eq_some_iff.mp done
  obtain ⟨⟨month, s⟩, _, done⟩ := Option.bind_eq_some_iff.mp done
  obtain ⟨t, _, done⟩ := Option.bind_eq_some_iff.mp done
  obtain ⟨⟨day, s⟩, _, done⟩ := Option.bind_eq_some_iff.mp done
  dsimp only at done
  split at done
  · cases done
  · -- what follows the day decides between a day and a point in time
    have judged {found : Toml × Text} {bad : Bool} (plain : found.1.isClosed = false)
        (done : (some (if bad = true then .error .malformed else .ok (found.1, found.2)) :
          Option (Except ReadError (Toml × Text))) = some (.ok (value, rest))) : value.isClosed = false := by
      cases bad with
      | true => cases done
      | false =>
        cases done
        exact plain
    refine judged ?_ done
    split
    · split
      · split <;> rfl
      · rfl
    · rfl

theorem isClosed_of_readBased? {s rest : Text} {value : Toml} (done : readBased? s = some (value, rest)) :
    value.isClosed = false := by
  have each {mark : Text} {base : Nat} {isDigit : Char → Bool} (found : (Text.after? mark s).bind (fun t =>
      (readGroup? isDigit t).bind fun group => some (Toml.int (valueInBase base group.1), group.2)) =
        some (value, rest)) : value.isClosed = false := by
    obtain ⟨t, _, found⟩ := Option.bind_eq_some_iff.mp found
    obtain ⟨group, _, found⟩ := Option.bind_eq_some_iff.mp found
    cases found
    rfl
  unfold readBased? at done
  rcases Option.or_eq_some_iff.mp done with found | ⟨_, found⟩
  · rcases Option.or_eq_some_iff.mp found with found | ⟨_, found⟩
    · exact each found
    · exact each found
  · exact each found

theorem isClosed_of_readDecimal {s rest : Text} {value : Toml} (done : readDecimal s = .ok (value, rest)) :
    value.isClosed = false := by
  unfold readDecimal at done
  dsimp only at done
  split at done
  · cases done
  · split at done
    · split at done
      · cases done
      · cases done
        rfl
    · cases done
      rfl

/-- What is no string, array or table holds nothing. -/
theorem isClosed_of_readScalar {s rest : Text} {value : Toml} (done : readScalar s = .ok (value, rest)) :
    value.isClosed = false := by
  unfold readScalar at done
  split at done
  · rename_i found known
    cases done
    obtain ⟨⟨word, meaning⟩, listed, value⟩ := List.exists_of_findSome?_eq_some known
    obtain ⟨rest, _, same⟩ := Option.map_eq_some_iff.mp value
    cases same
    have plain : ∀ entry ∈ words, entry.2.isClosed = false := by decide
    exact plain _ listed
  · split at done
    · rename_i reading dated
      subst done
      exact isClosed_of_readDate? dated
    · split at done
      · cases done
        rfl
      · split at done
        · rename_i found based
          cases done
          exact isClosed_of_readBased? based
        · exact isClosed_of_readDecimal done

theorem Keyed.assignInline {members after : Dictionary Toml} {closed closed' : List (List Text)} {key : List Text}
    {value : Toml} (keyed : Keyed (.table members)) (whole : Keyed value)
    (done : Toml.assignInline members closed key value = some (after, closed')) : Keyed (.table after) := by
  unfold Toml.assignInline at done
  split at done
  · cases done
  · obtain ⟨last, _, done⟩ := Option.bind_eq_some_iff.mp done
    obtain ⟨members', changed, done⟩ := Option.bind_eq_some_iff.mp done
    cases done
    exact keyed.changeAt (fun _ _ keyed done => keyed.setNew whole done) changed

/-- The readers with a fuel give values in which no table has a key twice. -/
structure ReadKeyed (fuel : Nat) : Prop where
  value : ∀ room s value rest, readValue fuel room s = .ok (value, rest) → Keyed value
  items : ∀ room s items rest, readItems fuel room s = .ok (items, rest) → ∀ item ∈ items, Keyed item
  inline : ∀ room members closed s value rest, Keyed (.table members) →
    readInline fuel room members closed s = .ok (value, rest) → Keyed value

section Readers

variable {fuel room : Nat} {s rest : Text} {value : Toml}

theorem ReadKeyed.readValue (readers : ReadKeyed fuel) (done : Toml.readValue (fuel + 1) room s = .ok (value, rest)) :
    Keyed value := by
  unfold Toml.readValue at done
  split at done
  · cases done
    exact .scalar rfl
  · cases done
  · split at done
    · cases done
    · obtain ⟨t, _, done⟩ := bind_eq_ok done
      obtain ⟨⟨items, left⟩, listed, done⟩ := bind_eq_ok done
      cases done
      exact .array (readers.items _ _ _ _ listed)
  · split at done
    · cases done
    · split at done
      · cases done
        exact .empty
      · exact readers.inline _ _ _ _ _ _ .empty done
  · exact .scalar (isClosed_of_readScalar done)

theorem ReadKeyed.readItems (readers : ReadKeyed fuel) {items : List Toml}
    (done : Toml.readItems (fuel + 1) room s = .ok (items, rest)) : ∀ item ∈ items, Keyed item := by
  unfold Toml.readItems at done
  split at done
  · cases done
    exact List.forall_mem_nil _
  · obtain ⟨⟨first, left⟩, here, done⟩ := bind_eq_ok done
    have whole := readers.value _ _ _ _ here
    obtain ⟨t, _, done⟩ := bind_eq_ok done
    split at done
    · cases done
      exact List.forall_mem_singleton.mpr whole
    · obtain ⟨t, _, done⟩ := bind_eq_ok done
      obtain ⟨⟨others, left⟩, later, done⟩ := bind_eq_ok done
      cases done
      exact List.forall_mem_cons.mpr ⟨whole, readers.items _ _ _ _ later⟩
    · cases done

theorem ReadKeyed.readInline (readers : ReadKeyed fuel) {members : Dictionary Toml} {closed : List (List Text)}
    (keyed : Keyed (.table members)) (done : Toml.readInline (fuel + 1) room members closed s = .ok (value, rest)) :
    Keyed value := by
  unfold Toml.readInline at done
  split at done
  · obtain ⟨⟨first, left⟩, here, done⟩ := bind_eq_ok done
    have whole := readers.value _ _ _ _ here
    dsimp only at done
    split at done
    · cases done
    · rename_i after closed' assigned
      have further := keyed.assignInline whole assigned
      split at done
      · cases done
        exact further
      · exact readers.inline _ _ _ _ _ _ further done
      · cases done
  · cases done

end Readers

theorem readKeyed (fuel : Nat) : ReadKeyed fuel := by
  induction fuel with
  | zero =>
    refine ⟨fun room s value rest done => ?_, fun room s items rest done => ?_,
      fun room members closed s value rest _ done => ?_⟩
    · rw [readValue] at done
      cases done
    · rw [readItems] at done
      cases done
    · rw [readInline] at done
      cases done
  | succ fuel ih =>
    exact ⟨fun _ _ _ _ => ih.readValue, fun _ _ _ _ => ih.readItems, fun _ _ _ _ _ _ => ih.readInline⟩

/-! ### Documents -/

namespace Draft

variable {d e : Draft}

theorem keyed_openTable {path : List Text} (keyed : Keyed (.table d.members)) (done : d.openTable path = some e) :
    Keyed (.table e.members) := by
  unfold openTable at done
  dsimp only at done
  split at done
  · cases done
  · obtain ⟨members, changed, done⟩ := Option.bind_eq_some_iff.mp done
    cases done
    exact keyed.changeAt (fun _ _ keyed done => Option.some.inj done ▸ keyed) changed

theorem keyed_openArrayTable {path : List Text} (keyed : Keyed (.table d.members))
    (done : d.openArrayTable path = some e) : Keyed (.table e.members) := by
  unfold openArrayTable at done
  dsimp only at done
  split at done
  · cases done
  · obtain ⟨last, _, done⟩ := Option.bind_eq_some_iff.mp done
    obtain ⟨members, changed, done⟩ := Option.bind_eq_some_iff.mp done
    cases done
    exact keyed.changeAt (fun _ _ keyed done => keyed.addTable done) changed

theorem keyed_assign {header key : List Text} {value : Toml} (keyed : Keyed (.table d.members))
    (whole : Keyed value) (done : d.assign header key value = some e) : Keyed (.table e.members) := by
  unfold assign at done
  dsimp only at done
  split at done
  · cases done
  · obtain ⟨last, _, done⟩ := Option.bind_eq_some_iff.mp done
    obtain ⟨members, changed, done⟩ := Option.bind_eq_some_iff.mp done
    cases done
    exact keyed.changeAt (fun _ _ keyed done => keyed.setNew whole done) changed

end Draft

/-- A statement keeps keys apart. -/
theorem keyed_readStatement {draft after : Draft} {header header' : List Text} {s rest : Text}
    (keyed : Keyed (.table draft.members)) (done : readStatement draft header s = .ok (after, header', rest)) :
    Keyed (.table after.members) := by
  unfold readStatement at done
  split at done
  · obtain ⟨⟨path, left⟩, _, done⟩ := bind_eq_ok done
    obtain ⟨opened, known, done⟩ := bind_eq_ok done
    obtain ⟨left, _, done⟩ := bind_eq_ok done
    cases done
    exact Draft.keyed_openArrayTable keyed (required_eq_ok known)
  · obtain ⟨⟨path, left⟩, _, done⟩ := bind_eq_ok done
    obtain ⟨opened, known, done⟩ := bind_eq_ok done
    obtain ⟨left, _, done⟩ := bind_eq_ok done
    cases done
    exact Draft.keyed_openTable keyed (required_eq_ok known)
  · cases done
    exact keyed
  · obtain ⟨⟨key, left⟩, _, done⟩ := bind_eq_ok done
    obtain ⟨left, _, done⟩ := bind_eq_ok done
    obtain ⟨⟨value, left⟩, here, done⟩ := bind_eq_ok done
    obtain ⟨assigned, known, done⟩ := bind_eq_ok done
    cases done
    exact Draft.keyed_assign keyed ((readKeyed _).value _ _ _ _ here) (required_eq_ok known)

theorem keyed_readStatements {fuel : Nat} {draft : Draft} {header : List Text} {s : Text}
    {members : Dictionary Toml} (keyed : Keyed (.table draft.members))
    (done : readStatements fuel draft header s = .ok members) : Keyed (.table members) := by
  induction fuel generalizing draft header s with
  | zero => cases done
  | succ fuel ih =>
    unfold readStatements at done
    split at done
    · cases done
      exact keyed
    · exact ih keyed done
    · obtain ⟨⟨after, header', left⟩, here, done⟩ := bind_eq_ok done
      obtain ⟨left, _, done⟩ := bind_eq_ok done
      exact ih (keyed_readStatement keyed here) done

/-- No table of a document that is read has a key twice. -/
theorem keyed_of_read {s : Text} {members : Dictionary Toml} (done : read s = .ok members) :
    Keyed (.table members) := keyed_readStatements .empty done

end Toml
end ReferencePages
