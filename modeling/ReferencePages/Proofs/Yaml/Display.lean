import ReferencePages.Yaml
/-!
When a value has a text. A value is shown with all that it holds, so two things can stop it: a whole number
with more digits than may be written, and a depth beyond the limit.
-/

namespace ReferencePages

/-- A reading that does not fail. -/
def HasResult {ε α : Type} (reading : Except ε α) : Prop := ∃ a, reading = .ok a

namespace HasResult

variable {ε α β γ : Type}

@[simp] theorem ok (a : α) : HasResult (.ok a : Except ε α) := ⟨a, rfl⟩

@[simp] theorem not_error (e : ε) : ¬HasResult (.error e : Except ε α) := nofun

@[simp] theorem map_iff {f : α → β} {reading : Except ε α} :
    HasResult (reading.map f) ↔ HasResult reading := by
  cases reading <;> simp [Except.map]

/-- Two readings one after the other, of which the second does not depend on the first. -/
theorem both_iff {first : Except ε α} {second : Except ε β} {f : α → β → γ} :
    HasResult (first >>= fun a => f a <$> second) ↔ HasResult first ∧ HasResult second := by
  cases first <;> cases second <;> simp [bind, Except.bind, Functor.map, Except.map]

theorem mapM_iff {f : α → Except ε β} {as : List α} :
    HasResult (as.mapM f) ↔ ∀ a ∈ as, HasResult (f a) := by
  induction as with
  | nil => exact ⟨fun _ => nofun, fun _ => ⟨[], rfl⟩⟩
  | cons a as ih => simp only [List.mapM_cons, bind_pure_comp, both_iff, ih, List.forall_mem_cons]

end HasResult

namespace Yaml

/-- A whole number that is not too long to be written. -/
def IsWritable (n : Int) : Prop := (Text.ofNat n.natAbs).length ≤ Json.digitLimit

theorem integerText_eq_ok {n : Int} {s : Text} :
    integerText n = .ok s ↔ IsWritable n ∧ Text.ofInt n = s := by
  unfold integerText IsWritable
  dsimp only
  split
  · simp only [reduceCtorEq, false_iff]
    omega
  · simp only [Except.ok.injEq, iff_and_self]
    omega

theorem hasResult_integerText {n : Int} : HasResult (integerText n) ↔ IsWritable n := by
  simp [HasResult, integerText_eq_ok]

/-- A scalar that can be written; whole numbers alone may be too long. -/
def Scalar.IsWritable (s : Scalar) : Prop := ∀ n, s = .integer n → Yaml.IsWritable n

theorem Scalar.hasResult_display (s : Scalar) : HasResult s.display ↔ s.IsWritable := by
  cases s <;> simp [Scalar.display, Scalar.IsWritable, hasResult_integerText]

theorem Scalar.hasResult_toText (s : Scalar) : HasResult s.toText ↔ s.IsWritable := by
  cases s <;> simp [Scalar.toText, Scalar.display, Scalar.IsWritable, hasResult_integerText]

/-! ### The members of a set -/

namespace MemberOrder

theorem map_placed (count : Nat) (members : List (Int × Scalar)) :
    (placed count members).map (·.2) = (members.map (·.2)).reverse := by
  have gathered {place : List (Nat × Scalar) → Int × Scalar → List (Nat × Scalar)}
      (adds : ∀ table m, (place table m).map (·.2) = m.2 :: table.map (·.2)) (table : List (Nat × Scalar)) :
      (members.foldl place table).map (·.2) = (members.map (·.2)).reverse ++ table.map (·.2) := by
    induction members generalizing table with
    | nil => rfl
    | cons m ms ih => rw [List.foldl_cons, ih, adds, List.map_cons, List.reverse_cons, List.append_assoc]; rfl
  exact (gathered (fun _ _ => rfl) []).trans (List.append_nil _)

/-- A set is shown with the members that it has. -/
theorem mem_shown {members : List Scalar} {s : Scalar} : s ∈ shown members ↔ s ∈ members := by
  unfold shown
  split
  · rfl
  · rename_i numbers counted
    have same : numbers.map (·.2) = members := by
      clear s
      induction members generalizing numbers with
      | nil =>
        cases counted
        rfl
      | cons m ms ih =>
        rw [List.mapM_cons] at counted
        obtain ⟨number, numbered, rest⟩ := Option.bind_eq_some_iff.mp counted
        obtain ⟨later, laterCounted, here⟩ := Option.bind_eq_some_iff.mp rest
        obtain ⟨r, _, rfl⟩ := Option.map_eq_some_iff.mp numbered
        cases here
        rw [List.map_cons, ih later laterCounted]
    rw [((List.mergeSort_perm _ _).map _).mem_iff, map_placed, List.mem_reverse, same]

end MemberOrder

/-! ### What stops a value from being shown -/

/-- The scalars that a collection holds itself: the keys of a mapping and the members of a set. -/
def Value.scalars : Value → List Scalar
  | .dictionary entries => entries.map (·.1)
  | .set entries => entries
  | _ => []

/-- The numbers of the values that a collection holds. -/
def Value.parts : Value → List Nat
  | .list items => items
  | .dictionary entries => entries.map (·.2)
  | .pairs entries => entries.flatMap fun (k, v) => [k, v]
  | _ => []

namespace Document

/-- Something that stops a value from being shown: there is no room left for it, it is or holds a scalar
that cannot be written, or one of its parts is stopped. A collection inside itself is shown by dots. -/
inductive IsStopped (d : Document) : (room : Nat) → (around : List Nat) → (number : Nat) → Prop
  | deep {around : List Nat} {number : Nat} : IsStopped d 0 around number
  | scalar {room : Nat} {around : List Nat} {number : Nat} {s : Scalar}
    (here : d.value number = .scalar s) (long : ¬s.IsWritable) : IsStopped d (room + 1) around number
  | own {room : Nat} {around : List Nat} {number : Nat} {s : Scalar} (outside : number ∉ around)
    (holds : s ∈ (d.value number).scalars) (long : ¬s.IsWritable) :
    IsStopped d (room + 1) around number
  | part {room : Nat} {around : List Nat} {number part : Nat} (outside : number ∉ around)
    (holds : part ∈ (d.value number).parts) (stopped : IsStopped d room (number :: around) part) :
    IsStopped d (room + 1) around number

/-- One level of a value: it is not stopped if its scalars can be written and its parts are not. -/
theorem not_isStopped_succ {d : Document} {room : Nat} {around : List Nat} {number : Nat} :
    ¬d.IsStopped (room + 1) around number ↔
      (∀ s, d.value number = .scalar s → s.IsWritable) ∧
        (number ∉ around → (∀ s ∈ (d.value number).scalars, s.IsWritable) ∧
          ∀ part ∈ (d.value number).parts, ¬d.IsStopped room (number :: around) part) := by
  constructor
  · intro free
    refine ⟨fun s here => ?_, fun outside => ⟨fun s holds => ?_, fun part holds stopped => ?_⟩⟩
    · exact Classical.byContradiction fun long => free (.scalar here long)
    · exact Classical.byContradiction fun long => free (.own outside holds long)
    · exact free (.part outside holds stopped)
  · rintro ⟨alone, inside⟩ stopped
    cases stopped with
    | scalar here long => exact long (alone _ here)
    | own outside holds long => exact long ((inside outside).1 _ holds)
    | part outside holds stopped => exact (inside outside).2 _ holds stopped

/-- A value is shown where nothing stops it. -/
theorem hasResult_display {d : Document} {room : Nat} {around : List Nat} {number : Nat} :
    HasResult (d.display room around number) ↔ ¬d.IsStopped room around number := by
  -- The induction is on the room that is left; the collections around grow with each level.
  induction room generalizing around number with
  | zero => exact ⟨fun shown => absurd shown (HasResult.not_error _), fun free => absurd .deep free⟩
  | succ room ih =>
    rw [not_isStopped_succ]
    unfold display
    by_cases inside : number ∈ around
    · rcases d.value number with s | items | entries | (_ | ⟨s, entries⟩) | entries
      all_goals simp [inside, Scalar.hasResult_display]
    · rcases d.value number with s | items | entries | (_ | ⟨s, entries⟩) | entries
      · simp [Value.scalars, Value.parts, Scalar.hasResult_display]
      · simp [inside, Value.scalars, Value.parts, HasResult.mapM_iff, ih]
      · simp [inside, Value.scalars, Value.parts, HasResult.mapM_iff, HasResult.both_iff, ih,
          Scalar.hasResult_display]
        grind
      · simp [Value.scalars, Value.parts]
      · simp [inside, Value.scalars, Value.parts, HasResult.mapM_iff, MemberOrder.mem_shown,
          Scalar.hasResult_display]
      · simp [inside, Value.scalars, Value.parts, HasResult.mapM_iff, HasResult.both_iff, ih]
        grind

/-- A value has a text of its own where nothing stops it from being shown. -/
theorem hasResult_toText {d : Document} {number : Nat} :
    HasResult (d.toText number) ↔ ¬d.IsStopped displayLimit [] number := by
  unfold toText
  split
  · rename_i s here
    rw [displayLimit, not_isStopped_succ, here, Scalar.hasResult_toText]
    simp [Value.scalars, Value.parts]
  · exact hasResult_display

end Document
end Yaml
end ReferencePages
