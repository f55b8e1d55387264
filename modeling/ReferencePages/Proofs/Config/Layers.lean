import ReferencePages.Config.Loader
import ReferencePages.Proofs.Yaml.Display
/-!
How one setting is decided. Each layer says a value or says nothing; the first one that says something
decides, and where none does the standard value holds. A value of the configuration file says something of
a setting if it is of a kind that the setting can be read from.
-/

namespace ReferencePages.Config

/-! ### Layers -/

/-- A setting is decided by the first layer that says something of it, and is the standard one where no
layer does. A layer is given by the values that it says. -/
inductive Decides {α : Type} : (layers : List (α → Prop)) → (standard : α) → α → Prop
  | standard (a : α) : Decides [] a a
  | here {layer : α → Prop} {layers : List (α → Prop)} {standard a : α} (told : layer a) :
    Decides (layer :: layers) standard a
  | lower {layer : α → Prop} {layers : List (α → Prop)} {standard a : α} (silent : ∀ b, ¬layer b)
    (decides : Decides layers standard a) : Decides (layer :: layers) standard a

/-- A layer that says one value at most. -/
def IsSingle {α : Type} (layer : α → Prop) : Prop := ∀ a b, layer a → layer b → a = b

namespace Decides

variable {α : Type} {layer : α → Prop} {layers : List (α → Prop)} {standard : α}

/-- Layers that say one value each decide on one. -/
theorem unique (single : ∀ layer ∈ layers, IsSingle layer) : IsSingle (Decides layers standard) := by
  intro a b first second
  induction first with
  | standard =>
    cases second
    rfl
  | here told =>
    cases second with
    | here told' => exact single _ (List.mem_cons_self ..) _ _ told told'
    | lower silent => exact absurd told (silent _)
  | lower silent _ ih =>
    cases second with
    | here told => exact absurd told (silent _)
    | lower _ decides => exact ih (fun layer member => single layer (List.mem_cons_of_mem _ member)) decides

/-- A value that is looked for in one layer and, if there is none, below it. -/
theorem or {first below : Option α} (tells : ∀ a, first = some a ↔ layer a)
    (rest : Decides layers standard (below.getD standard)) :
    Decides (layer :: layers) standard ((first.or below).getD standard) := by
  cases first with
  | some a => exact .here ((tells a).mp rfl)
  | none => exact .lower (fun b said => nomatch (tells b).mpr said) rest

/-- A value that is looked for in one layer alone. -/
theorem getD {found : Option α} (tells : ∀ a, found = some a ↔ layer a) :
    Decides [layer] standard (found.getD standard) := by
  rw [← Option.or_none (o := found)]
  exact .or tells (.standard _)

/-- A value that is looked for in one layer, where it is standard that there is none. -/
theorem option {found : Option α} (tells : ∀ a, found = some a ↔ layer a) :
    Decides [fun a? => ∃ a, a? = some a ∧ layer a] none found := by
  cases found with
  | some a => exact .here ⟨a, rfl, (tells a).mp rfl⟩
  | none => exact .lower (fun _ ⟨a, _, said⟩ => nomatch (tells a).mpr said) (.standard _)

end Decides

/-! ### Readings that fail where something does not fit -/

/-- What a reading comes to: where what it reads fits it has a result, of which `good` holds, and
elsewhere it fails, with a failure that is no fault of the configuration. -/
inductive Comes {α : Type} (fits : Prop) (good : α → Prop) : Except Failure α → Prop
  | result {a : α} (fit : fits) (holds : good a) : Comes fits good (.ok a)
  | failure {failure : Failure} (unfit : ¬fits) (foreign : ∀ fault, failure ≠ .configuration fault) :
    Comes fits good (.error failure)

namespace Comes

variable {α β : Type} {fits fits' : Prop} {good : α → Prop} {good' : β → Prop}
  {reading : Except Failure α}

theorem pure {a : α} (holds : good a) : Comes True good (.ok a) := .result trivial holds

theorem congr (same : fits ↔ fits') (comes : Comes fits good reading) : Comes fits' good reading := by
  cases comes with
  | result fit holds => exact .result (same.mp fit) holds
  | failure unfit foreign => exact .failure (fun fit => unfit (same.mpr fit)) foreign

theorem imp {good' : α → Prop} (comes : Comes fits good reading) (holds : ∀ a, good a → good' a) :
    Comes fits good' reading := by
  cases comes with
  | result fit here => exact .result fit (holds _ here)
  | failure unfit foreign => exact .failure unfit foreign

theorem map {f : α → β} (comes : Comes fits good reading) (holds : ∀ a, good a → good' (f a)) :
    Comes fits good' (reading.map f) := by
  cases comes with
  | result fit here => exact .result fit (holds _ here)
  | failure unfit foreign => exact .failure unfit foreign

/-- Two readings one after the other fit where both do. -/
theorem bind {f : α → Except Failure β} (first : Comes fits good reading)
    (next : ∀ a, good a → Comes fits' good' (f a)) : Comes (fits ∧ fits') good' (reading >>= f) := by
  cases first with
  | failure unfit foreign => exact .failure (fun both => unfit both.1) foreign
  | result fit holds => exact (next _ holds).congr ⟨fun fit' => ⟨fit, fit'⟩, And.right⟩

/-- A text that is shown has one where what it is made of fits. -/
theorem shown {text : Except Yaml.Fault α} (same : HasResult text ↔ fits) :
    Comes fits (fun a => text = .ok a) (Config.shown text) := by
  cases text with
  | ok a => exact .result (same.mp ⟨a, rfl⟩) rfl
  | error e => exact .failure (fun fit => HasResult.not_error e (same.mpr fit)) fun _ => Failure.noConfusion

end Comes

/-- What is picked from a list: what stands for each member, for which something does. -/
inductive Picks {α β : Type} (stands : α → β → Prop) : List α → List β → Prop
  | nil : Picks stands [] []
  | keep {a : α} {b : β} {as : List α} {bs : List β} (here : stands a b) (rest : Picks stands as bs) :
    Picks stands (a :: as) (b :: bs)
  | leave {a : α} {as : List α} {bs : List β} (none : ∀ b, ¬stands a b) (rest : Picks stands as bs) :
    Picks stands (a :: as) bs

theorem Picks.unique {α β : Type} {stands : α → β → Prop} (single : ∀ a, IsSingle (stands a))
    {as : List α} {bs bs' : List β} (first : Picks stands as bs) (second : Picks stands as bs') :
    bs = bs' := by
  induction first generalizing bs' with
  | nil =>
    cases second
    rfl
  | keep here _ ih =>
    cases second with
    | keep here' rest => rw [single _ _ _ here here', ih rest]
    | leave none _ => exact absurd here (none _)
  | leave none _ ih =>
    cases second with
    | keep here _ => exact absurd here (none _)
    | leave _ rest => exact ih rest

/-- A list is read member by member, and what stands for its members is gathered. -/
theorem Comes.mapM {α β : Type} {f : α → Except Failure (Option β)} {fits : α → Prop}
    {stands : α → β → Prop} {as : List α}
    (each : ∀ a, Comes (fits a) (fun b? => ∀ b, b? = some b ↔ stands a b) (f a)) :
    Comes (∀ a ∈ as, fits a) (fun found => Picks stands as (found.filterMap id)) (as.mapM f) := by
  induction as with
  | nil => exact .result nofun .nil
  | cons a as ih =>
    rw [List.mapM_cons]
    refine ((each a).bind fun b? tells => ih.bind fun found picks => .pure ?_).congr
      ⟨fun ⟨here, rest, _⟩ => List.forall_mem_cons.mpr ⟨here, rest⟩,
        fun all => ⟨(List.forall_mem_cons.mp all).1, (List.forall_mem_cons.mp all).2, trivial⟩⟩
    cases b? with
    | none => exact .leave (fun b said => nomatch (tells b).mpr said) picks
    | some b => exact .keep ((tells b).mp rfl) picks

/-! ### What the values of the configuration file say -/

/-- What a variable of the environment says: a text that is not empty. -/
def Named (environment : Dictionary Text) (name : Text) : Text → Prop :=
  fun s => environment.get? name = some s ∧ s ≠ []

/-- The text that a value stands for: a text that is not empty, or a number as it is written. -/
inductive HasText : Yaml.Value → Text → Prop
  | string {s : Text} (nonempty : s ≠ []) : HasText (.scalar (.string s)) s
  | integer (n : Int) : HasText (.scalar (.integer n)) (Text.ofInt n)
  | float (x : Binary64) : HasText (.scalar (.float x)) x.toText

/-- The number that a value stands for. -/
inductive HasNumber : Yaml.Value → Binary64 → Prop
  | integer (n : Int) : HasNumber (.scalar (.integer n)) (Binary64.ofInt n)
  | float (x : Binary64) : HasNumber (.scalar (.float x)) x
  | string {s : Text} {x : Binary64} (denotes : Binary64.ofText? s = some x) :
    HasNumber (.scalar (.string s)) x

/-- The words for a truth value. -/
def truthWords : Bool → List Text
  | true => ["1", "true", "yes", "on"]
  | false => ["0", "false", "no", "off", ""]

/-- A text means a truth value if it is one of its words; blanks around it and its case do not count. -/
def Means (s : Text) (b : Bool) : Prop := Text.lowerCase (Text.trim s) ∈ truthWords b

/-- The truth value that a variable of the environment says: its text may be empty. -/
def NamedTruth (environment : Dictionary Text) (name : Text) : Bool → Prop :=
  fun b => ∃ s, environment.get? name = some s ∧ Means s b

/-- The truth value that a value stands for. -/
inductive HasTruth : Yaml.Value → Bool → Prop
  | boolean (b : Bool) : HasTruth (.scalar (.boolean b)) b
  | word {s : Text} {b : Bool} (means : Means s b) : HasTruth (.scalar (.string s)) b

/-- The text that a value stands for as an item of a list. -/
inductive HasItem : Yaml.Value → Text → Prop
  | string (s : Text) : HasItem (.scalar (.string s)) s
  | integer (n : Int) : HasItem (.scalar (.integer n)) (Text.ofInt n)
  | float (x : Binary64) : HasItem (.scalar (.float x)) x.toText
  | boolean (b : Bool) : HasItem (.scalar (.boolean b)) (if b then "True" else "False")

/-- The texts that a value stands for: one text, the items of a list, or the numbers of bytes. -/
inductive HasTexts (document : Yaml.Document) : Yaml.Value → List Text → Prop
  | string (s : Text) : HasTexts document (.scalar (.string s)) [s]
  | list {items : List Nat} {texts : List Text}
    (picks : Picks (fun n => HasItem (document.value n)) items texts) :
    HasTexts document (.list items) texts
  | binary (bytes : Bytes) :
    HasTexts document (.scalar (.binary bytes)) (bytes.map fun b => Text.ofNat b.toNat)

/-- The texts of a key and of its value, which is not null. -/
structure HasDescription (document : Yaml.Document) (entry : Yaml.Scalar × Nat)
    (description : Text × Text) : Prop where
  given : document.value entry.2 ≠ .scalar .null
  key : entry.1.toText = .ok description.1
  value : document.toText entry.2 = .ok description.2

@[simp] theorem hasText_string {s t : Text} : HasText (.scalar (.string s)) t ↔ s = t ∧ t ≠ [] :=
  ⟨fun | .string nonempty => ⟨rfl, nonempty⟩, fun ⟨same, nonempty⟩ => same ▸ .string (same ▸ nonempty)⟩

@[simp] theorem hasText_integer {n : Int} {t : Text} :
    HasText (.scalar (.integer n)) t ↔ Text.ofInt n = t :=
  ⟨fun | .integer _ => rfl, fun same => same ▸ .integer n⟩

@[simp] theorem hasText_float {x : Binary64} {t : Text} :
    HasText (.scalar (.float x)) t ↔ x.toText = t :=
  ⟨fun | .float _ => rfl, fun same => same ▸ .float x⟩

@[simp] theorem hasNumber_integer {n : Int} {x : Binary64} :
    HasNumber (.scalar (.integer n)) x ↔ Binary64.ofInt n = x :=
  ⟨fun | .integer _ => rfl, fun same => same ▸ .integer n⟩

@[simp] theorem hasNumber_float {x y : Binary64} : HasNumber (.scalar (.float x)) y ↔ x = y :=
  ⟨fun | .float _ => rfl, fun same => same ▸ .float x⟩

@[simp] theorem hasNumber_string {s : Text} {x : Binary64} :
    HasNumber (.scalar (.string s)) x ↔ Binary64.ofText? s = some x :=
  ⟨fun | .string denotes => denotes, .string⟩

@[simp] theorem hasTruth_boolean {b c : Bool} : HasTruth (.scalar (.boolean b)) c ↔ b = c :=
  ⟨fun | .boolean _ => rfl, fun same => same ▸ .boolean b⟩

@[simp] theorem hasTruth_string {s : Text} {b : Bool} :
    HasTruth (.scalar (.string s)) b ↔ Means s b := ⟨fun | .word means => means, .word⟩

@[simp] theorem hasItem_string {s t : Text} : HasItem (.scalar (.string s)) t ↔ s = t :=
  ⟨fun | .string _ => rfl, fun same => same ▸ .string s⟩

@[simp] theorem hasItem_integer {n : Int} {t : Text} :
    HasItem (.scalar (.integer n)) t ↔ Text.ofInt n = t :=
  ⟨fun | .integer _ => rfl, fun same => same ▸ .integer n⟩

@[simp] theorem hasItem_float {x : Binary64} {t : Text} :
    HasItem (.scalar (.float x)) t ↔ x.toText = t :=
  ⟨fun | .float _ => rfl, fun same => same ▸ .float x⟩

@[simp] theorem hasItem_boolean {b : Bool} {t : Text} :
    HasItem (.scalar (.boolean b)) t ↔ (if b then "True" else "False" : Text) = t :=
  ⟨fun | .boolean _ => rfl, fun same => same ▸ .boolean b⟩

theorem HasText.unique (v : Yaml.Value) : IsSingle (HasText v) := by
  intro s t first second
  cases first <;> cases second <;> rfl

theorem Named.unique (environment : Dictionary Text) (name : Text) :
    IsSingle (Named environment name) :=
  fun _ _ first second => Option.some.inj (first.1.symm.trans second.1)

theorem HasItem.unique (v : Yaml.Value) : IsSingle (HasItem v) := by
  intro s t first second
  cases first <;> cases second <;> rfl

section
variable {document : Yaml.Document} {texts : List Text}

@[simp] theorem hasTexts_string {s : Text} :
    HasTexts document (.scalar (.string s)) texts ↔ [s] = texts :=
  ⟨fun | .string _ => rfl, fun same => same ▸ .string s⟩

@[simp] theorem hasTexts_list {items : List Nat} : HasTexts document (.list items) texts ↔
    Picks (fun n => HasItem (document.value n)) items texts :=
  ⟨fun | .list picks => picks, .list⟩

@[simp] theorem hasTexts_binary {bytes : Bytes} : HasTexts document (.scalar (.binary bytes)) texts ↔
    (bytes.map fun b => Text.ofNat b.toNat) = texts :=
  ⟨fun | .binary _ => rfl, fun same => same ▸ .binary bytes⟩

end

namespace Section

/-- What a key says in a section, where a value says what it stands for. -/
def Says {α : Type} (stands : Yaml.Value → α → Prop) (d : Section) (key : Text) : α → Prop :=
  fun a => ∃ v, d.value? key = some v ∧ stands v a

theorem Says.unique {α : Type} {stands : Yaml.Value → α → Prop} (single : ∀ v, IsSingle (stands v))
    (d : Section) (key : Text) : IsSingle (d.Says stands key) := by
  rintro a b ⟨v, found, here⟩ ⟨w, found', there⟩
  cases found.symm.trans found'
  exact single v a b here there

/-- A key whose value can be written: it is no whole number that is too long. -/
def IsLegible (d : Section) (key : Text) : Prop :=
  ∀ n, d.value? key = some (.scalar (.integer n)) → Yaml.IsWritable n

/-- A key whose value is no whole number that is too large for a floating-point number. -/
def IsConvertible (d : Section) (key : Text) : Prop :=
  ∀ n, d.value? key = some (.scalar (.integer n)) → ∀ negative, Binary64.ofInt n ≠ .infinite negative

/-- A key whose value, if it is a list, has no whole number among its items that is too long. -/
def AreLegible (d : Section) (key : Text) : Prop :=
  ∀ items, d.value? key = some (.list items) →
    ∀ item ∈ items, ∀ n, d.document.value item = .scalar (.integer n) → Yaml.IsWritable n

/-- An entry that can be shown, if its value is not null. -/
def IsShowable (document : Yaml.Document) (entry : Yaml.Scalar × Nat) : Prop :=
  document.value entry.2 ≠ .scalar .null →
    entry.1.IsWritable ∧ ¬document.IsStopped Yaml.Document.displayLimit [] entry.2

variable (d : Section) (key : Text)

theorem integerText_comes (n : Int) : Comes (Yaml.IsWritable n) (fun s => Text.ofInt n = s)
    (shown (Yaml.integerText n)) :=
  (Comes.shown Yaml.hasResult_integerText).imp fun _ written => (Yaml.integerText_eq_ok.mp written).2

theorem text?_comes :
    Comes (d.IsLegible key) (fun s? => ∀ s, s? = some s ↔ d.Says HasText key s) (d.text? key) := by
  unfold text? IsLegible Says
  generalize d.value? key = v?
  split
  · refine .result nofun fun s => ?_
    simp [nonempty]
  · refine ((integerText_comes _).map fun s written t => ?_).congr (by simp)
    simp [written]
  · refine .result nofun fun s => ?_
    simp
  · rename_i noText noInteger noFloat
    refine .result (fun n here => absurd here (noInteger n)) fun s => ⟨nofun, ?_⟩
    rintro ⟨v, here, stands⟩
    cases stands with
    | string => exact absurd here (noText _)
    | integer => exact absurd here (noInteger _)
    | float => exact absurd here (noFloat _)

theorem textOr_comes (standard : Text) :
    Comes (d.IsLegible key) (Decides [d.Says HasText key] standard) (d.textOr key standard) :=
  (text?_comes d key).map fun _ tells => .getD tells

theorem float?_comes :
    Comes (d.IsConvertible key) (fun x? => ∀ x, x? = some x ↔ d.Says HasNumber key x)
      (d.float? key) := by
  unfold float? IsConvertible Says
  generalize d.value? key = v?
  split
  · rename_i n
    split
    · rename_i negative large
      exact .failure (fun small => small n rfl negative large) fun _ => Failure.noConfusion
    · rename_i x small
      refine .result (fun m same negative => ?_) fun y => ?_
      · cases same
        exact small negative
      · simp
  · refine .result nofun fun y => ?_
    simp
  · refine .result nofun fun y => ?_
    simp
  · rename_i noInteger noFloat noText
    refine .result (fun n here => absurd here (noInteger n)) fun s => ⟨nofun, ?_⟩
    rintro ⟨v, here, stands⟩
    cases stands with
    | string => exact absurd here (noText _)
    | integer => exact absurd here (noInteger _)
    | float => exact absurd here (noFloat _)

theorem truthOf?_eq_some {s : Text} {b : Bool} : truthOf? s = some b ↔ Means s b := by
  -- No word means both, so it does not matter which words are looked for first.
  have apart {word : Text} (yes : word ∈ truthWords true) : word ∉ truthWords false := by
    revert word
    decide
  have spelled : truthOf? s =
      if Text.lowerCase (Text.trim s) ∈ truthWords true then some true
      else if Text.lowerCase (Text.trim s) ∈ truthWords false then some false else none := by
    simp [truthOf?, truthWords]
  rw [spelled]
  unfold Means
  by_cases yes : Text.lowerCase (Text.trim s) ∈ truthWords true
  · cases b <;> simp [yes, apart yes]
  · cases b <;> simp [yes]

theorem truth?_eq_some {b : Bool} : d.truth? key = some b ↔ d.Says HasTruth key b := by
  unfold truth? Says
  generalize d.value? key = v?
  split
  · simp
  · simp [truthOf?_eq_some]
  · rename_i noBoolean noText
    refine ⟨nofun, ?_⟩
    rintro ⟨v, here, stands⟩
    cases stands with
    | boolean => exact absurd here (noBoolean _)
    | word => exact absurd here (noText _)

theorem itemText?_comes (v : Yaml.Value) :
    Comes (∀ n, v = .scalar (.integer n) → Yaml.IsWritable n)
      (fun s? => ∀ s, s? = some s ↔ HasItem v s) (itemText? v) := by
  unfold itemText?
  split
  · exact .result nofun fun s => by simp
  · exact ((integerText_comes _).map fun s written t => by simp [written]).congr (by simp)
  · exact .result nofun fun s => by simp
  · exact .result nofun fun s => by simp
  · rename_i noText noInteger noFloat noBoolean
    refine .result (fun n here => absurd here (noInteger n)) fun s => ⟨nofun, fun stands => ?_⟩
    cases stands with
    | string => exact absurd rfl (noText _)
    | integer => exact absurd rfl (noInteger _)
    | float => exact absurd rfl (noFloat _)
    | boolean => exact absurd rfl (noBoolean _)

/-- What the texts of a key come to: none where its value stands for none. -/
theorem texts_comes :
    Comes (d.AreLegible key)
      (fun found => ∀ texts, texts ≠ [] → (found = texts ↔ d.Says (HasTexts d.document) key texts))
      (d.texts key) := by
  unfold texts AreLegible Says
  generalize d.value? key = v?
  split
  · exact .result nofun fun texts _ => by simp
  · rename_i items
    refine ((Comes.mapM fun item => itemText?_comes (d.document.value item)).map
      fun found picks texts _ => ?_).congr (by simp)
    simp only [Option.some.injEq, exists_eq_left', hasTexts_list]
    exact ⟨fun same => same ▸ picks, picks.unique fun _ => HasItem.unique _⟩
  · exact .result nofun fun texts _ => by simp
  · rename_i noText noList noBytes
    refine .result (fun n here => absurd here (noList n)) fun texts some =>
      ⟨fun same => absurd same.symm some, ?_⟩
    rintro ⟨v, here, stands⟩
    cases stands with
    | string => exact absurd here (noText _)
    | list => exact absurd here (noList _)
    | binary => exact absurd here (noBytes _)

/-- The texts that a key says, of which there must be some. -/
def SaysTexts (d : Section) (key : Text) : List Text → Prop :=
  fun texts => d.Says (HasTexts d.document) key texts ∧ texts ≠ []

theorem textsOr_comes (standard : List Text) :
    Comes (d.AreLegible key) (Decides [d.SaysTexts key] standard) (d.textsOr key standard) := by
  refine (texts_comes d key).map fun found tells => ?_
  split
  · refine .lower (fun texts said => said.2 ?_) (.standard _)
    exact ((tells texts said.2).mpr said.1).symm
  · rename_i some
    exact .here ⟨(tells found some).mp rfl, some⟩

theorem description?_comes (entry : Yaml.Scalar × Nat) :
    Comes (IsShowable d.document entry)
      (fun found => ∀ description, found = some description ↔
        HasDescription d.document entry description) (d.description? entry) := by
  unfold description? IsShowable
  split
  · rename_i null
    refine .result (fun given => absurd null given) fun description => ⟨nofun, ?_⟩
    exact fun stands => absurd null stands.given
  · rename_i given
    refine ((Comes.shown (Yaml.Scalar.hasResult_toText _)).bind fun k key =>
      (Comes.shown Yaml.Document.hasResult_toText).bind fun t value => .pure fun description =>
        ?_).congr ?_
    · constructor
      · intro same
        cases same
        exact ⟨given, key, value⟩
      · intro stands
        rw [Except.ok.inj (key.symm.trans stands.key), Except.ok.inj (value.symm.trans stands.value)]
    · exact ⟨fun ⟨writable, free, _⟩ _ => ⟨writable, free⟩,
        fun showable => ⟨(showable given).1, (showable given).2, trivial⟩⟩

theorem descriptions_comes :
    Comes (∀ entry ∈ d.entries, IsShowable d.document entry)
      (fun found => ∃ pairs, Picks (HasDescription d.document) d.entries pairs ∧
        found = Dictionary.ofList pairs) d.descriptions :=
  (Comes.mapM d.description?_comes).map fun _ picks => ⟨_, picks, rfl⟩

/-! ### The environment above the configuration file -/

theorem truthOf?_bind_eq_some {environment : Dictionary Text} {name : Text} {b : Bool} :
    (environment.get? name).bind truthOf? = some b ↔ NamedTruth environment name b := by
  simp [Option.bind_eq_some_iff, truthOf?_eq_some, NamedTruth]

theorem nonempty_eq_some {environment : Dictionary Text} {name s : Text} :
    nonempty (environment.get? name) = some s ↔ Named environment name s := by
  simp [nonempty, Named]

/-- A key is looked at, and must be legible, only where the variable above it says nothing. -/
theorem variableOr_comes (environment : Dictionary Text) (name standard : Text) :
    Comes ((∀ s, ¬Named environment name s) → d.IsLegible key)
      (Decides [Named environment name, d.Says HasText key] standard)
      (variableOr environment d name key standard) := by
  unfold variableOr
  split
  · rename_i s found
    have told := nonempty_eq_some.mp found
    exact .result (fun silent => absurd told (silent s)) (.here told)
  · rename_i missing
    have silent (s : Text) : ¬Named environment name s := fun told =>
      nomatch missing.symm.trans (nonempty_eq_some.mpr told)
    refine ((textOr_comes d key standard).imp fun s decides => .lower silent decides).congr ?_
    exact ⟨fun legible _ => legible, fun legible => legible silent⟩

end Section
end ReferencePages.Config
