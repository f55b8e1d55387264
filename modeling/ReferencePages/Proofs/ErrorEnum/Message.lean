import ReferencePages.Proofs.ErrorEnum.Exchange
/-!
What a message can do to the enumerations around it. A message that opens as many more braces than it closes as
another does changes its own variant and nothing else. Where all else is balanced, any other message is heard
around it: it ends its enumeration, or it keeps it open to the end of the text.
-/

namespace ReferencePages

/-! ### One message for another -/

/-- A place for the message of a variant in a list of written enumerations. Of the enumeration around it the
variants above the place are in `shell`, and those below it are in `below`. -/
structure MessagePlace where
  before : List (List Text × WrittenEnum)
  gap : List Text
  shell : WrittenEnum
  name : Text
  payload : Text
  below : List WrittenVariant
  after : List (List Text × WrittenEnum)

namespace MessagePlace

variable (p : MessagePlace)

/-- The variant with a message in the place. -/
def variant (message : Text) : WrittenVariant := { message, name := p.name, payload := p.payload }

/-- The enumeration with a message in the place. -/
def around (message : Text) : WrittenEnum :=
  { p.shell with variants := p.shell.variants ++ p.variant message :: p.below }

/-- The list with a message in the place. -/
def fill (message : Text) : List (List Text × WrittenEnum) :=
  p.before ++ (p.gap, p.around message) :: p.after

/-- The lines above the place. -/
def front : List Text :=
  ErrorEnum.writtenLines p.before
    (p.gap ++ (p.shell.heading ++ p.shell.declaration :: p.shell.variants.flatMap (·.lines)))

/-- The lines below the line of the variant. -/
def back (rest : List Text) : List Text :=
  p.below.flatMap (·.lines) ++ ("\x7d" : Text) :: ErrorEnum.writtenLines p.after rest

/-- All that stands below the declaration of the enumeration around the place. -/
def under (message : Text) (rest : List Text) : List Text :=
  (p.around message).body ++ ErrorEnum.writtenLines p.after rest

theorem under_eq (message : Text) (rest : List Text) :
    p.under message rest = p.shell.variants.flatMap (·.lines) ++
      WrittenVariant.attributeLine message :: (p.variant []).declaration :: p.back rest := by
  have variants : (p.around message).variants.flatMap (·.lines) = p.shell.variants.flatMap (·.lines) ++
      WrittenVariant.attributeLine message :: (p.variant []).declaration :: p.below.flatMap (·.lines) := by
    have here : (p.variant message).lines =
        [WrittenVariant.attributeLine message, (p.variant []).declaration] := rfl
    have split : (p.around message).variants = p.shell.variants ++ p.variant message :: p.below := rfl
    rw [split, List.flatMap_append, List.flatMap_cons, here]
    rfl
  unfold under WrittenEnum.body back
  rw [variants]
  simp only [List.append_assoc, List.cons_append, List.nil_append]

/-- The lines by the enumeration around the place. -/
theorem writtenLines_fill_around (message : Text) (rest : List Text) :
    ErrorEnum.writtenLines (p.fill message) rest =
      ErrorEnum.writtenLines p.before (p.gap ++ (p.shell.heading ++ p.shell.declaration :: p.under message rest)) := by
  have lines : (p.around message).lines =
      p.shell.heading ++ p.shell.declaration :: (p.around message).body := rfl
  unfold ErrorEnum.writtenLines fill under
  rw [List.flatMap_append, List.flatMap_cons]
  dsimp only
  rw [lines]
  unfold ErrorEnum.writtenLines
  simp only [List.append_assoc, List.cons_append]

/-- The lines by the line of the message. -/
theorem writtenLines_fill (message : Text) (rest : List Text) :
    ErrorEnum.writtenLines (p.fill message) rest =
      p.front ++ WrittenVariant.attributeLine message :: (p.variant []).declaration :: p.back rest := by
  rw [writtenLines_fill_around, under_eq]
  unfold front ErrorEnum.writtenLines
  simp only [List.append_assoc, List.cons_append]

variable {p}

/-- What holds of the list with one message and of the enumeration around another holds of the list with the
other. -/
theorem forall_mem_fill {property : List Text × WrittenEnum → Prop} {message message' : Text}
    (holds : ∀ item ∈ p.fill message, property item) (around : property (p.gap, p.around message')) :
    ∀ item ∈ p.fill message', property item := by
  intro item member
  rcases List.mem_append.mp member with before | later
  · exact holds item (List.mem_append_left _ before)
  · rcases List.mem_cons.mp later with rfl | after
    · exact around
    · exact holds item (List.mem_append_right _ (List.mem_cons_of_mem _ after))

theorem mem_fill_around (p : MessagePlace) (message : Text) : (p.gap, p.around message) ∈ p.fill message :=
  List.mem_append_right _ (List.mem_cons_self ..)

theorem wellFormed_variant {message : Text} (wellFormed : ∀ item ∈ p.fill message, item.2.WellFormed) :
    (p.variant message).WellFormed :=
  (wellFormed _ (p.mem_fill_around message)).variants _ (List.mem_append_right _ (List.mem_cons_self ..))

/-- With another message the enumerations are well formed as well. -/
theorem wellFormed_fill {message message' : Text} (wellFormed : ∀ item ∈ p.fill message, item.2.WellFormed)
    (isMessage : IsMessage message') : ∀ item ∈ p.fill message', item.2.WellFormed := by
  refine forall_mem_fill wellFormed ⟨(wellFormed _ (p.mem_fill_around message)).name, fun v member => ?_⟩
  have same := (wellFormed _ (p.mem_fill_around message)).variants
  rcases List.mem_append.mp member with above | later
  · exact same v (List.mem_append_left _ above)
  · rcases List.mem_cons.mp later with rfl | below
    · exact { wellFormed_variant wellFormed with message := isMessage }
    · exact same v (List.mem_append_right _ (List.mem_cons_of_mem _ below))

end MessagePlace

namespace ErrorEnum

/-! ### Messages of the same balance -/

theorem opens_of_declared_front {p : MessagePlace} {message line : Text}
    (gaps : ∀ item ∈ p.fill message, ∀ line ∈ item.1, Text.isAllBlank line = true) (member : line ∈ p.front)
    (declared : (declared? line).isSome = true) : '{' ∈ line := by
  have blank {item : List Text × WrittenEnum} (there : item ∈ p.fill message) (within : line ∈ item.1) :
      '{' ∈ line := by
    rw [declared?_of_blank (gaps item there line within)] at declared
    cases declared
  rcases List.mem_append.mp member with before | here
  · obtain ⟨⟨gap, e⟩, there, inside⟩ := List.mem_flatMap.mp before
    rcases List.mem_append.mp inside with between | own
    · exact blank (List.mem_append_left _ there) between
    · have split : e.lines = (e.heading ++ e.declaration :: e.variants.flatMap (·.lines)) ++ [("\x7d" : Text)] := by
        rw [WrittenEnum.lines, WrittenEnum.body, List.append_assoc, List.cons_append]
      rw [split] at own
      rcases List.mem_append.mp own with upper | last
      · exact opens_of_declared upper declared
      · obtain rfl := List.mem_singleton.mp last
        cases declared
  · rcases List.mem_append.mp here with between | upper
    · exact blank (p.mem_fill_around message) between
    · exact opens_of_declared upper declared

/-- The variants of an enumeration that has the line of a message, and of one that has another there. -/
theorem variants_exchange {v : WrittenVariant} {message : Text} {above below rest : List Text}
    (wellFormed : v.WellFormed) (isMessage : IsMessage message) (start : below <+: v.declaration :: rest) :
    Variant.ofLines none (above ++ WrittenVariant.attributeLine v.message :: below) =
        Variant.ofLines none (above ++ WrittenVariant.attributeLine message :: below) ∨
      ∃ a b,
        Variant.ofLines none (above ++ WrittenVariant.attributeLine v.message :: below) =
          a ++ ⟨v.name, v.message⟩ :: b ∧
        Variant.ofLines none (above ++ WrittenVariant.attributeLine message :: below) =
          a ++ ⟨v.name, message⟩ :: b := by
  obtain ⟨found, reads⟩ := Variant.ofLines_announced none above
  rw [reads _ _ below (Variant.announced?_attributeLine wellFormed.message),
    reads _ _ below (Variant.announced?_attributeLine isMessage)]
  rcases List.prefix_cons_iff.mp start with rfl | ⟨below, rfl, _⟩
  · exact .inl rfl
  · have unannounced := Variant.announced?_declaration wellFormed
    have name := Variant.declared?_declaration wellFormed
    have read (pending : Text) : Variant.ofLines (some pending) (v.declaration :: below) =
        ⟨v.name, pending⟩ :: Variant.ofLines none below := by
      simp only [Variant.ofLines, unannounced, name]
    exact .inr ⟨found, Variant.ofLines none below, by rw [read], by rw [read]⟩

variable {p : MessagePlace} {boundary text text' message message' : Text} {rest : List Text}

/-- A message of the same balance changes nothing but its own variant and the text around it. -/
theorem reworded_of_balance (written : Text.lines text = writtenLines (p.fill message) rest)
    (written' : Text.lines text' = writtenLines (p.fill message') rest)
    (wellFormed : ∀ item ∈ p.fill message, item.2.WellFormed) (isMessage : IsMessage message')
    (gaps : ∀ item ∈ p.fill message, ∀ line ∈ item.1, Text.isAllBlank line = true)
    (free : boundary ≠ [] →
      ¬ boundary <+: WrittenVariant.attributeLine message ∧ ¬ boundary <+: WrittenVariant.attributeLine message')
    (balance : braceBalance message = braceBalance message') :
    Reworded p.name message message' (extract boundary text) (extract boundary text') := by
  have variant := MessagePlace.wellFormed_variant wellFormed
  have single : ∀ line ∈ writtenLines (p.fill message) rest, Text.IsLine line := fun line member =>
    Text.isLine_of_mem_lines (written ▸ member)
  have single' : ∀ line ∈ writtenLines (p.fill message') rest, Text.IsLine line := fun line member =>
    Text.isLine_of_mem_lines (written' ▸ member)
  have lineBalance : braceBalance (WrittenVariant.attributeLine message) =
      braceBalance (WrittenVariant.attributeLine message') := by
    rw [braceBalance_attributeLine, braceBalance_attributeLine, balance]
  rw [MessagePlace.writtenLines_fill] at written written' single single'
  rw [extract, extract, written, written']
  rcases beforeBoundary_exchange (fun there => (free there).1) (fun there => (free there).2) p.front
    ((p.variant []).declaration :: p.back rest) with same | ⟨part, start, cut, cut'⟩
  · exact .inl (by rw [same])
  · rw [cut, cut']
    rcases ofLines_exchange lineBalance (step_attributeLine message) (step_attributeLine message') part
      (fun line member => opens_of_declared_front gaps member) [] with
      same | ⟨first, last, name, docs, opening, above, below, within, part', found, found'⟩
    · exact .inl same
    · have near := part'.trans start
      have inside (line : Text) : above ++ line :: below <:+:
          p.front ++ line :: (p.variant []).declaration :: p.back rest := by
        obtain ⟨x, up⟩ := within
        obtain ⟨y, down⟩ := near
        exact ⟨x, y, by rw [← up, ← down]; simp⟩
      refine .inr ⟨first, last, _, _, found, found', rfl, rfl, ?_⟩
      simp only [Unfinished.closedAfter, Unfinished.finish, Unfinished.start, List.nil_append]
      rw [Variant.extract_unlines fun line member => single line ((inside _).subset member),
        Variant.extract_unlines fun line member => single' line ((inside _).subset member)]
      exact variants_exchange variant isMessage near

/-! ### Messages of another balance -/

section Found

variable (written : Text.lines text = writtenLines (p.fill message) rest)
  (wellFormed : ∀ item ∈ p.fill message, item.2.WellFormed)
  (above : ∀ item ∈ p.before, ∀ v ∈ item.2.variants, v.IsBalanced)
  (shell : ∀ v ∈ p.shell.variants, v.IsBalanced)
  (gaps : ∀ item ∈ p.fill message, ∀ line ∈ item.1, Text.isAllBlank line = true)
  (free : boundary ≠ [] → ∀ line ∈ writtenLines (p.fill message) rest, ¬ boundary <+: line)

include written wellFormed above gaps free in
/-- What is found if all that stands above the enumeration with the message is balanced. -/
theorem extract_fill {taken : List Text}
    (own : (p.under message rest).take (bodyLength 1 (p.under message rest)) = taken) :
    extract boundary text = p.before.map (·.2.toEnum) ++ p.shell.entity taken (Variant.ofLines none taken) ::
      ofLines (.outside []) ((p.under message rest).drop (bodyLength 1 (p.under message rest))) := by
  have single : ∀ line ∈ writtenLines (p.fill message) rest, Text.IsLine line := fun line member =>
    Text.isLine_of_mem_lines (written ▸ member)
  have gap : ∀ line ∈ p.gap, Text.isAllBlank line = true := gaps _ (p.mem_fill_around message)
  have word : Text.IsWord p.shell.name := (wellFormed _ (p.mem_fill_around message)).name
  have upper {item : List Text × WrittenEnum} (member : item ∈ p.before) : item ∈ p.fill message :=
    List.mem_append_left _ member
  rw [extract, written, beforeBoundary_of_free free]
  rw [MessagePlace.writtenLines_fill_around] at single ⊢
  have under : ∀ line ∈ p.under message rest, Text.IsLine line := fun line member =>
    single line (List.mem_append_right _ (List.mem_append_right _ (List.mem_append_right _
      (List.mem_cons_of_mem _ member))))
  rw [ofLines_writtenLines (fun item member => gaps item (upper member))
    (fun item member => wellFormed item (upper member)) above single,
    ofLines_written gap word under, own]

include written wellFormed above shell gaps free in
/-- A message that closes more braces than it opens ends its enumeration. -/
theorem extract_ended (closes : braceBalance message < 0) :
    ∃ below last, extract boundary text = p.before.map (·.2.toEnum) ++
      p.shell.entity below (p.shell.variants.map (·.variant)) :: last := by
  have isMessage : IsMessage message := (MessagePlace.wellFormed_variant wellFormed).message
  have upper : ∀ v ∈ p.shell.variants, v.WellFormed := fun v member =>
    (wellFormed _ (p.mem_fill_around message)).variants v (List.mem_append_left _ member)
  have level := isLevel_variants (fun v member => (upper v member).name) shell
  have length : bodyLength 1 (p.under message rest) = (p.shell.variants.flatMap (·.lines)).length + 1 := by
    rw [MessagePlace.under_eq, bodyLength_append (level.staysOpen (by decide)), level.flatten, bodyLength_of_closing]
    rw [braceBalance_attributeLine]
    omega
  have taken : (p.under message rest).take (bodyLength 1 (p.under message rest)) =
      p.shell.variants.flatMap (·.lines) ++ [WrittenVariant.attributeLine message] := by
    rw [length, MessagePlace.under_eq, List.take_length_add_append, List.take_succ_cons, List.take_zero]
  have variants : Variant.ofLines none (p.shell.variants.flatMap (·.lines) ++ [WrittenVariant.attributeLine message]) =
      p.shell.variants.map (·.variant) := by
    have unused : Variant.ofLines none [WrittenVariant.attributeLine message] = [] := by
      simp only [Variant.ofLines, Variant.announced?_attributeLine isMessage]
    rw [Variant.ofLines_variants upper, unused, List.append_nil]
  rw [extract_fill written wellFormed above gaps free taken, variants]
  exact ⟨_, _, rfl⟩

include written wellFormed above shell gaps free in
/-- Among enumerations that are balanced, a message that opens more braces than it closes keeps its own open to
the end. -/
theorem extract_unended (payload : braceBalance p.payload = 0) (below : ∀ v ∈ p.below, v.IsBalanced)
    (after : ∀ item ∈ p.after, ∀ v ∈ item.2.variants, v.IsBalanced)
    (headings : ∀ item ∈ p.after, IsLevel item.2.heading) (level : IsLevel rest) (opens : 0 < braceBalance message) :
    extract boundary text = p.before.map (·.2.toEnum) ++
      [p.shell.entity (p.under message rest) (Variant.ofLines none (p.under message rest))] := by
  have words := (wellFormed _ (p.mem_fill_around message)).variants
  have later {item : List Text × WrittenEnum} (member : item ∈ p.after) : item ∈ p.fill message :=
    List.mem_append_right _ (List.mem_cons_of_mem _ member)
  have upper : IsLevel (p.shell.variants.flatMap (·.lines)) :=
    isLevel_variants (fun v member => (words v (List.mem_append_left _ member)).name) shell
  have lower : IsLevel (p.below.flatMap (·.lines)) :=
    isLevel_variants (fun v member => (words v (List.mem_append_right _ (List.mem_cons_of_mem _ member))).name) below
  have declaration : braceBalance (p.variant []).declaration = 0 :=
    (braceBalance_variantDeclaration (MessagePlace.wellFormed_variant wellFormed).name).trans payload
  have closed := lower.append (staysOpen_closing (staysOpen_writtenLines opens
    (fun item member => wellFormed item (later member)) after (fun item member => gaps item (later member)) headings
    level))
  have stays : StaysOpen 1 (p.under message rest) := by
    rw [MessagePlace.under_eq]
    refine upper.append ⟨by decide, ?_⟩
    rw [braceBalance_attributeLine, Int.add_comm]
    refine ⟨closed.pos, ?_⟩
    rw [declaration, Int.add_zero]
    exact closed
  have taken : (p.under message rest).take (bodyLength 1 (p.under message rest)) = p.under message rest := by
    rw [bodyLength_of_staysOpen stays, List.take_length]
  rw [extract_fill written wellFormed above gaps free taken, bodyLength_of_staysOpen stays, List.drop_length]
  rfl

end Found

/-- Whether a message is inert hangs on its braces. One of the same balance as the message that it replaces
changes no more than its variant and the text of the enumeration. Among enumerations that are balanced there are
no others, except that the last enumeration may be left open. -/
theorem extract_reworded (p : MessagePlace) (boundary text text' message message' : Text) (rest : List Text)
    (written : Text.lines text = writtenLines (p.fill message) rest)
    (written' : Text.lines text' = writtenLines (p.fill message') rest)
    (wellFormed : ∀ item ∈ p.fill message, item.2.WellFormed) (isMessage : IsMessage message')
    (gaps : ∀ item ∈ p.fill message, ∀ line ∈ item.1, Text.isAllBlank line = true)
    (free : boundary ≠ [] →
      ¬ boundary <+: WrittenVariant.attributeLine message ∧ ¬ boundary <+: WrittenVariant.attributeLine message') :
    (braceBalance message = braceBalance message' →
      Reworded p.name message message' (extract boundary text) (extract boundary text')) ∧
    ((∀ item ∈ p.fill message, ∀ v ∈ item.2.variants, v.IsBalanced) →
      (∀ item ∈ p.after, IsLevel item.2.heading) → (∀ line ∈ rest, Text.isAllBlank line = true) →
      (boundary ≠ [] → ∀ line ∈ writtenLines (p.fill message) rest, ¬ boundary <+: line) →
      (Reworded p.name message message' (extract boundary text) (extract boundary text') ↔
        braceBalance message' = 0 ∨ 0 < braceBalance message' ∧ p.after = [])) := by
  have inert := reworded_of_balance written written' wellFormed isMessage gaps free
  refine ⟨inert, fun balanced headings blank outside => ?_⟩
  have wellFormed' := MessagePlace.wellFormed_fill wellFormed isMessage
  have gaps' : ∀ item ∈ p.fill message', ∀ line ∈ item.1, Text.isAllBlank line = true :=
    MessagePlace.forall_mem_fill gaps (gaps (p.gap, p.around message) (p.mem_fill_around message))
  have outside' : boundary ≠ [] → ∀ line ∈ writtenLines (p.fill message') rest, ¬ boundary <+: line := by
    intro there line member
    have others := outside there
    rw [MessagePlace.writtenLines_fill] at member others
    rcases List.mem_append.mp member with front | later
    · exact others line (List.mem_append_left _ front)
    · rcases List.mem_cons.mp later with rfl | back
      · exact (free there).2
      · exact others line (List.mem_append_right _ (List.mem_cons_of_mem _ back))
  have around := balanced _ (p.mem_fill_around message)
  have above : ∀ item ∈ p.before, ∀ v ∈ item.2.variants, v.IsBalanced := fun item member =>
    balanced item (List.mem_append_left _ member)
  have shell : ∀ v ∈ p.shell.variants, v.IsBalanced := fun v member => around v (List.mem_append_left _ member)
  have own : (p.variant message).IsBalanced := around _ (List.mem_append_right _ (List.mem_cons_self ..))
  have found : extract boundary text = (p.fill message).map (·.2.toEnum) := by
    have single : ∀ line ∈ writtenLines (p.fill message) rest, Text.IsLine line := fun line member =>
      Text.isLine_of_mem_lines (written ▸ member)
    rw [extract, written, beforeBoundary_of_free outside, ofLines_writtenLines gaps wellFormed balanced single,
      ofLines_of_blank blank, List.append_nil]
  rcases Int.lt_trichotomy (braceBalance message') 0 with closes | level | opens
  · -- The variant and all below it are lost, whatever is found behind them.
    obtain ⟨below, last, found'⟩ := extract_ended written' wellFormed' above shell gaps' outside' closes
    refine iff_of_false (fun reworded => ?_) (by omega)
    have counts := reworded.counts
    rw [found, found', MessagePlace.fill, List.map_append, List.map_append, List.map_append] at counts
    have first := (List.cons.inj (List.append_cancel_left counts)).1
    simp [WrittenEnum.toEnum, WrittenEnum.entity, MessagePlace.around] at first
  · exact iff_of_true (inert (Eq.trans own.1 level.symm)) (.inl level)
  · have found' := extract_unended written' wellFormed' above shell gaps' outside' own.2
      (fun v member => around v (List.mem_append_right _ (List.mem_cons_of_mem _ member)))
      (fun item member => balanced item (List.mem_append_right _ (List.mem_cons_of_mem _ member))) headings
      (isLevel_of_blank blank) opens
    constructor
    · intro reworded
      have counts := congrArg List.length reworded.counts
      rw [found, found'] at counts
      have last : p.after = [] := by simpa [MessagePlace.fill] using counts
      exact .inr ⟨opens, last⟩
    · rintro (level | ⟨_, last⟩)
      · omega
      · have variants : Variant.ofLines none (p.under message' rest) =
            (p.around message').variants.map (·.variant) := by
          have body := Variant.ofLines_body (wellFormed' _ (p.mem_fill_around message'))
          rw [MessagePlace.under, last]
          exact (Variant.ofLines_append_blank blank none _).trans body
        rw [found, found', MessagePlace.fill, last, List.map_append, variants]
        have split (m : Text) : (p.around m).variants.map (·.variant) =
            p.shell.variants.map (·.variant) ++ ⟨p.name, m⟩ :: p.below.map (·.variant) := by
          rw [MessagePlace.around, List.map_append]
          rfl
        have same : SameButMessage p.name message message' (p.around message).toEnum
            (p.shell.entity (p.under message' rest) ((p.around message').variants.map (·.variant))) :=
          ⟨rfl, rfl, .inr ⟨_, _, split message, split message'⟩⟩
        exact .inr ⟨p.before.map (·.2.toEnum), [], _, _, rfl, rfl, same⟩

/-- The message of the middle one of three variants, in the first of two enumerations. -/
def middleMessage : MessagePlace where
  before := []
  gap := []
  shell := { docs := [], tag := none, name := "Fault", variants := [⟨"no key \x7b0\x7d", "Missing", []⟩] }
  name := "Closed"
  payload := []
  below := [⟨"too long", "Long", []⟩]
  after := [([[]], { docs := [], tag := none, name := "Defect", variants := [⟨"bad byte", "Byte", []⟩] })]

def middleText (message : Text) : Text := (writtenLines (middleMessage.fill message) []).flatMap (· ++ ['\n'])

theorem extract_reworded_middle :
    Reworded "Closed" "closed" "closed by \x7bname\x7d" (extract [] (middleText "closed"))
        (extract [] (middleText "closed by \x7bname\x7d")) ∧
      ¬ Reworded "Closed" "closed" "\x7d\x7d" (extract [] (middleText "closed"))
        (extract [] (middleText "\x7d\x7d")) := by
  have wellFormed : ∀ item ∈ middleMessage.fill "closed", item.2.WellFormed := by
    refine List.forall_mem_cons.mpr ⟨⟨by decide +kernel, by decide +kernel⟩, List.forall_mem_singleton.mpr ?_⟩
    exact ⟨by decide +kernel, by decide +kernel⟩
  have gaps : ∀ item ∈ middleMessage.fill "closed", ∀ line ∈ item.1, Text.isAllBlank line = true := by
    decide +kernel
  have inert := (extract_reworded middleMessage [] _ _ "closed" "closed by \x7bname\x7d" []
    (@Text.lines_terminated (writtenLines (middleMessage.fill "closed") []) (by decide +kernel))
    (@Text.lines_terminated (writtenLines (middleMessage.fill "closed by \x7bname\x7d") []) (by decide +kernel))
    wellFormed (by decide +kernel) gaps fun some => absurd rfl some).1 (by decide +kernel)
  have heard := (extract_reworded middleMessage [] _ _ "closed" "\x7d\x7d" []
    (@Text.lines_terminated (writtenLines (middleMessage.fill "closed") []) (by decide +kernel))
    (@Text.lines_terminated (writtenLines (middleMessage.fill "\x7d\x7d") []) (by decide +kernel))
    wellFormed (by decide +kernel) gaps fun some => absurd rfl some).2 (by decide +kernel)
    (by intro item member line here; rw [List.mem_singleton.mp member] at here; cases here) (by decide)
    fun some => absurd rfl some
  refine ⟨inert, fun reworded => ?_⟩
  have balance := heard.mp reworded
  revert balance
  decide +kernel

/-- Braces in a message that stand for themselves are heard around it. Two that close end the enumeration in front
of its variant, and two that open take the enumeration below into it. -/
theorem escaped_braces_heard :
    ¬ Reworded "Closed" "closed" "\x7d\x7d" (extract [] (middleText "closed")) (extract [] (middleText "\x7d\x7d")) ∧
      ¬ Reworded "Closed" "closed" "\x7b\x7b" (extract [] (middleText "closed"))
        (extract [] (middleText "\x7b\x7b")) := by
  have ended : (extract [] (middleText "closed")).map (·.variants.length) ≠
      (extract [] (middleText "\x7d\x7d")).map (·.variants.length) := by decide +kernel
  have joined : (extract [] (middleText "closed")).map (·.variants.length) ≠
      (extract [] (middleText "\x7b\x7b")).map (·.variants.length) := by decide +kernel
  exact ⟨fun reworded => ended reworded.counts, fun reworded => joined reworded.counts⟩

end ErrorEnum
end ReferencePages
