import ReferencePages.Url
import ReferencePages.Proofs.Text.Search
import ReferencePages.Proofs.Text.Trim
/-!
The last name of an address. Whether an address can be requested is decided by what stands in front of the
last slash, so that two addresses which differ in their last names can both be requested or none.
-/

namespace ReferencePages.Url

/-- Small letters, which have no meaning of their own anywhere in an address. -/
def isNameChar (c : Char) : Bool := 'a'.toNat ≤ c.toNat && c.toNat ≤ 'z'.toNat

/-- A name that may stand behind the last slash of an address. -/
def IsLastName (p : Text) : Prop := p ≠ [] ∧ ∀ c ∈ p, isNameChar c = true

instance : DecidablePred IsLastName := fun p =>
  inferInstanceAs (Decidable (p ≠ [] ∧ ∀ c ∈ p, isNameChar c = true))

namespace IsLastName

variable {p : Text} (name : IsLastName p)

include name in
theorem not_mem {c : Char} (other : isNameChar c = false) : c ∉ p := by
  intro member
  rw [name.2 c member] at other
  cases other

theorem isBlank_of_isNameChar {c : Char} (letter : isNameChar c = true) : Text.isBlank c = false := by
  have lower : 97 ≤ c.toNat ∧ c.toNat ≤ 122 := by simpa [isNameChar] using letter
  simp only [Text.isBlank, Bool.or_eq_false_iff, Bool.and_eq_false_iff, decide_eq_false_iff_not,
    beq_eq_false_iff_ne]
  omega

include name in
theorem trim_append (b : Text) : Text.trim (b ++ '/' :: p) = Text.trimStart b ++ '/' :: p := by
  obtain ⟨q, z, split⟩ : ∃ q z, p = q ++ [z] :=
    ⟨_, _, (List.dropLast_concat_getLast name.1).symm⟩
  have last : Text.isBlank z = false := isBlank_of_isNameChar (name.2 z (by simp [split]))
  have kept : Text.trimEndWhile Text.isBlank ('/' :: p) = '/' :: p := by
    rw [split, ← List.cons_append, Text.trimEndWhile_concat _ last]
  have start : Text.trimStart (b ++ '/' :: p) = Text.trimStart b ++ '/' :: p := by
    by_cases blank : Text.trimStart b = []
    · rw [Text.trimStart_append (List.dropWhile_eq_nil_iff.mp blank), blank]
      exact Text.trimStart_cons p rfl
    · exact Text.trimStart_append_of_filled blank _
  have trimmed : Text.trim (b ++ '/' :: p) =
      Text.trimEndWhile Text.isBlank (Text.trimStart (b ++ '/' :: p)) := rfl
  rw [trimmed, start, Text.trimEndWhile_append (by rw [kept]; exact List.cons_ne_nil _ _), kept]

end IsLastName

theorem after?_append_slash {word : Text} (noSlash : '/' ∉ word) (s p : Text) :
    Text.after? word (s ++ '/' :: p) = (Text.after? word s).map (· ++ '/' :: p) := by
  induction word generalizing s with
  | nil => rfl
  | cons a word ih =>
    rw [List.mem_cons, not_or] at noSlash
    cases s with
    | nil => exact if_neg (Ne.symm noSlash.1)
    | cons c s =>
      rw [List.cons_append, Text.after?, Text.after?, ih noSlash.2]
      split <;> rfl

/-- What stands in front of the last slash, without blanks and without a label. -/
def unlabelledStart (b : Text) : Text :=
  match Text.after? "URL:" (Text.trimStart b) with
  | some rest => Text.trimStart rest
  | none => Text.trimStart b

theorem unlabelled_append {p : Text} (name : IsLastName p) (b : Text) :
    unlabelled (b ++ '/' :: p) = unlabelledStart b ++ '/' :: p := by
  unfold unlabelled unlabelledStart
  dsimp only
  rw [name.trim_append, after?_append_slash (by decide)]
  cases Text.after? "URL:" (Text.trimStart b) with
  | none => rfl
  | some rest => exact name.trim_append rest

theorem withoutFragment_append (c : Text) :
    (∃ before, ∀ p, IsLastName p → withoutFragment (c ++ '/' :: p) = before) ∨
      ∀ p, IsLastName p → withoutFragment (c ++ '/' :: p) = c ++ '/' :: p := by
  have reversed {p : Text} (name : IsLastName p) : (c ++ '/' :: p).reverse.span (· != '#') =
      (p.reverse ++ '/' :: (c.reverse.span (· != '#')).1, (c.reverse.span (· != '#')).2) := by
    have kept : ∀ d ∈ p.reverse ++ ['/'], (d != '#') = true := by
      intro d member
      refine bne_iff_ne.mpr fun same => ?_
      rcases List.mem_append.mp member with inside | slash
      · exact name.not_mem rfl (same ▸ List.mem_reverse.mp inside)
      · rw [List.mem_singleton.mp slash] at same
        cases same
    have order : (c ++ '/' :: p).reverse = (p.reverse ++ ['/']) ++ c.reverse := by simp
    rw [order, List.span_eq_takeWhile_dropWhile, List.span_eq_takeWhile_dropWhile,
      List.takeWhile_append_of_pos kept, List.dropWhile_append_of_pos kept, List.append_assoc,
      List.singleton_append]
  cases rest : (c.reverse.span (· != '#')).2 with
  | nil =>
    refine .inr fun p name => ?_
    rw [withoutFragment, Text.cutAtLast?, reversed name, rest]
  | cons hash before =>
    refine .inl ⟨before.reverse, fun p name => ?_⟩
    rw [withoutFragment, Text.cutAtLast?, reversed name, rest]

/-- Whether a colon ends a name in front of the first slash. -/
def namesScheme (s : Text) : Bool :=
  s.head?.all (fun c => c != ':' && c != '/') &&
    s.find? (fun c => !(c != ':' && c != '/')) == some ':'

theorem namesScheme_append (c p : Text) : namesScheme (c ++ '/' :: p) = namesScheme c := by
  unfold namesScheme
  rw [List.find?_append]
  cases c with
  | nil => rfl
  | cons d c => cases (d :: c).find? fun c => !(c != ':' && c != '/') <;> rfl

theorem requested_isOk (s : Text) : (requested s).isOk =
    (namesScheme (withoutFragment (unlabelled s)) && (checkAuthority (authority (unlabelled s))).isOk) := by
  unfold requested namesScheme
  dsimp only
  generalize withoutFragment (unlabelled s) = start
  rw [List.span_eq_takeWhile_dropWhile, List.find?_not_eq_head?_dropWhile]
  cases start with
  | nil => rfl
  | cons c start =>
    by_cases scheme : (c != ':' && c != '/') = true
    · have taken : (c :: start).takeWhile (fun c => c != ':' && c != '/') =
          c :: start.takeWhile fun c => c != ':' && c != '/' := List.takeWhile_cons_of_pos scheme
      rw [taken, List.head?_cons, Option.all_some, scheme, Bool.true_and]
      cases List.dropWhile (fun c => c != ':' && c != '/') (c :: start) with
      | nil => rfl
      | cons d rest =>
        by_cases colon : d = ':'
        · subst colon
          cases checkAuthority (authority (unlabelled s)) <;> rfl
        · have other : (some d == some ':') = false := by simpa using colon
          rw [List.head?_cons, other]
          split
          · rename_i same
            exact absurd (List.cons.inj (Prod.mk.inj same).2).1 colon
          · rfl
    · have taken : (c :: start).takeWhile (fun c => c != ':' && c != '/') = [] :=
        List.takeWhile_cons_of_neg scheme
      rw [taken, List.head?_cons, Option.all_some, Bool.eq_false_iff.mpr scheme]
      rfl

theorem cleaned_append {p : Text} (name : IsLastName p) (b : Text) :
    cleaned (b ++ '/' :: p) = cleaned b ++ '/' :: p := by
  have kept : ('/' :: p).filter (fun c => c != '\t' && c != '\r' && c != '\n') = '/' :: p := by
    rw [List.filter_eq_self]
    intro c member
    rcases List.mem_cons.mp member with rfl | inside
    · rfl
    · have tab : c ≠ '\t' := fun same => name.not_mem rfl (same ▸ inside)
      have carriage : c ≠ '\r' := fun same => name.not_mem rfl (same ▸ inside)
      have feed : c ≠ '\n' := fun same => name.not_mem rfl (same ▸ inside)
      simp [tab, carriage, feed]
  have start : (b ++ '/' :: p).dropWhile (·.toNat ≤ 32) = b.dropWhile (·.toNat ≤ 32) ++ '/' :: p := by
    rw [List.dropWhile_append]
    split
    · rename_i none
      rw [List.isEmpty_iff.mp none]
      rfl
    · rfl
  rw [cleaned, start, List.filter_append, kept]
  rfl

theorem withoutScheme_append {p : Text} (name : IsLastName p) (b : Text) :
    withoutScheme (b ++ '/' :: p) = withoutScheme b ++ '/' :: p := by
  unfold withoutScheme
  by_cases colon : ':' ∈ b
  · obtain ⟨scheme, rest, split, absent⟩ := List.eq_append_cons_of_mem colon
    rw [split, List.append_assoc, List.cons_append, Text.cutAt_append _ absent, Text.cutAt_append _ absent]
    dsimp only
    split
    · rfl
    · rw [List.append_assoc, List.cons_append]
  · have later : ':' ∉ b ++ '/' :: p := by
      rw [List.mem_append, List.mem_cons, not_or, not_or]
      exact ⟨colon, by decide, name.not_mem rfl⟩
    rw [Text.cutAt_of_not_mem colon, Text.cutAt_of_not_mem later]

theorem takeWhile_append_slash (s p : Text) :
    (s ++ '/' :: p).takeWhile (fun c => c != '/' && c != '?' && c != '#') =
      s.takeWhile fun c => c != '/' && c != '?' && c != '#' := by
  induction s with
  | nil => rfl
  | cons c s ih => rw [List.cons_append, List.takeWhile_cons, List.takeWhile_cons, ih]

/-- The authority ends in front of the last slash, or the last name is all of it. -/
theorem authority_append (b : Text) :
    (∃ a, ∀ p, IsLastName p → authority (b ++ '/' :: p) = a) ∨
      ∀ p, IsLastName p → authority (b ++ '/' :: p) = p := by
  have slashes {p : Text} (name : IsLastName p) : authority (b ++ '/' :: p) =
      ((Text.after? "//" (withoutScheme (cleaned b) ++ '/' :: p)).map fun rest =>
        rest.takeWhile fun c => c != '/' && c != '?' && c != '#').getD [] := by
    have kept : withoutScheme (cleaned (b ++ '/' :: p)) = withoutScheme (cleaned b) ++ '/' :: p := by
      rw [cleaned_append name, withoutScheme_append name]
    rw [← kept, authority]
    cases Text.after? "//" (withoutScheme (cleaned (b ++ '/' :: p))) <;> rfl
  cases front : withoutScheme (cleaned b) with
  | nil =>
    refine .inl ⟨[], fun p name => ?_⟩
    have none : Text.after? "//" ('/' :: p) = none := by
      obtain ⟨first, rest, split⟩ := List.exists_cons_of_ne_nil name.1
      have other : first ≠ '/' := fun same => name.not_mem (c := '/') rfl (by simp [split, same])
      rw [split]
      exact if_neg (Ne.symm other)
    rw [slashes name, front, List.nil_append, none, Option.map_none, Option.getD_none]
  | cons c front' =>
    by_cases slash : c = '/'
    · cases front' with
      | nil =>
        refine .inr fun p name => ?_
        have all : ∀ d ∈ p, (d != '/' && d != '?' && d != '#') = true := by
          intro d member
          have slash : d ≠ '/' := fun same => name.not_mem rfl (same ▸ member)
          have question : d ≠ '?' := fun same => name.not_mem rfl (same ▸ member)
          have hash : d ≠ '#' := fun same => name.not_mem rfl (same ▸ member)
          simp [slash, question, hash]
        rw [slashes name, front, slash]
        exact List.takeWhile_eq_self_iff.mpr all
      | cons d front' =>
        by_cases second : d = '/'
        · refine .inl ⟨front'.takeWhile fun c => c != '/' && c != '?' && c != '#', fun p name => ?_⟩
          rw [slashes name, front, slash, second]
          exact takeWhile_append_slash front' p
        · refine .inl ⟨[], fun p name => ?_⟩
          have none : Text.after? "//" (c :: d :: front' ++ '/' :: p) = none := by
            rw [slash]
            exact if_neg (Ne.symm second)
          rw [slashes name, front, none, Option.map_none, Option.getD_none]
    · refine .inl ⟨[], fun p name => ?_⟩
      have none : Text.after? "//" (c :: front' ++ '/' :: p) = none := if_neg (Ne.symm slash)
      rw [slashes name, front, none, Option.map_none, Option.getD_none]

theorem checkAuthority_lastName {p : Text} (name : IsLastName p) : checkAuthority p = .ok () := by
  have noBracket (c : Char) (other : isNameChar c = false) : p.elem c = false := by
    rw [Bool.eq_false_iff, ne_eq, List.elem_iff]
    exact name.not_mem other
  have noneExpands : p.any (fun c => expandingChars.contains c.toNat) = false := by
    rw [List.any_eq_false]
    intro c member expands
    have lower : 97 ≤ c.toNat ∧ c.toNat ≤ 122 := by simpa [isNameChar] using name.2 c member
    have large : ∀ n ∈ expandingChars, 122 < n := by decide
    have listed := large c.toNat (List.contains_iff_mem.mp expands)
    omega
  rw [checkAuthority, noBracket '[' rfl, noBracket ']' rfl, noneExpands]
  rfl

/-- Addresses that differ in their last names alone can both be requested, or none. -/
theorem requested_isOk_append {p q : Text} (first : IsLastName p) (second : IsLastName q) (b : Text) :
    (requested (b ++ '/' :: p)).isOk = (requested (b ++ '/' :: q)).isOk := by
  rw [requested_isOk, requested_isOk, unlabelled_append first, unlabelled_append second]
  have scheme : namesScheme (withoutFragment (unlabelledStart b ++ '/' :: p)) =
      namesScheme (withoutFragment (unlabelledStart b ++ '/' :: q)) := by
    rcases withoutFragment_append (unlabelledStart b) with ⟨before, cut⟩ | whole
    · rw [cut p first, cut q second]
    · rw [whole p first, whole q second, namesScheme_append, namesScheme_append]
  have host : (checkAuthority (authority (unlabelledStart b ++ '/' :: p))).isOk =
      (checkAuthority (authority (unlabelledStart b ++ '/' :: q))).isOk := by
    rcases authority_append (unlabelledStart b) with ⟨a, ends⟩ | last
    · rw [ends p first, ends q second]
    · rw [last p first, last q second, checkAuthority_lastName first, checkAuthority_lastName second]
  rw [scheme, host]

end ReferencePages.Url
