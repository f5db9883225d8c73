import Mathlib.Data.List.Induction
import Retrace.CommandLine

/-!
# What a command line says

A command line is a row of items: options with their values, switches, and words. A free `--` may
come after them, with any arguments behind it. It is accepted if it can be read so and has a word;
what it asks for is told by the items of each kind in their order, wherever the others stand.
-/

namespace Retrace.CommandLine

-- ---------------------------------------------------------------------------
-- Items
-- ---------------------------------------------------------------------------

/-- The ways to write an option that has a value. -/
def Valued.flags : Valued → List String
  | .path => ["--path"]
  | .classPath => ["--classpath", "-cp"]
  | .stdin => ["--stdin"]

/-- The way to write a switch. -/
def Switch.flag : Switch → String
  | .vars => "--vars"
  | .unique => "--unique"
  | .json => "--json"

/-- The argument is the name of an option. -/
def Known (arg : String) : Prop :=
  (∃ option : Valued, arg ∈ option.flags) ∨ ∃ option : Switch, arg = option.flag

/-- The argument begins as the names of options do. -/
def Dashed (arg : String) : Prop :=
  "--".toList <+: arg.toList

/-- An argument that is no option and could not be one. -/
structure IsWord (arg : String) : Prop where
  unknown : ¬ Known arg
  undashed : ¬ Dashed arg

/-- An item of a command line. -/
inductive Item where
  /-- An option and its value, which may be any argument. -/
  | value (option : Valued) (flag text : String) (spelled : flag ∈ option.flags)
  | switch (option : Switch)
  | word (text : String) (plain : IsWord text)

namespace Item

/-- The arguments that an item is written as. -/
def args : Item → List String
  | value _ flag text _ => [flag, text]
  | switch option => [option.flag]
  | word text _ => [text]

/-- The text of a word. -/
def word? : Item → Option String
  | word text _ => some text
  | _ => none

/-- The value of an option. -/
def value? (option : Valued) : Item → Option String
  | value other _ text _ => if other = option then some text else none
  | _ => none

def isSwitch (option : Switch) : Item → Bool
  | switch other => other = option
  | _ => false

/-- What an item is: one of the options, or a word. -/
inductive Kind where
  | value (option : Valued)
  | switch (option : Switch)
  | word
  deriving DecidableEq

def kind : Item → Kind
  | value option .. => .value option
  | switch option => .switch option
  | word .. => .word

end Item

/-- A command line: items, and what stands behind a free `--` if there is one. -/
def line (items : List Item) (behind : Option (List String)) : List String :=
  items.flatMap Item.args ++ behind.elim [] ("--" :: ·)

/-- The words among the items. -/
def words (items : List Item) : List String :=
  items.filterMap Item.word?

/-- The values that an option has, one after another. -/
def values (option : Valued) (items : List Item) : List String :=
  items.filterMap (Item.value? option)

/-- The switch is there. -/
def sets (option : Switch) (items : List Item) : Bool :=
  items.any (Item.isSwitch option)

/-- What these items ask for, with what stands behind them. -/
structure Means (items : List Item) (behind : Option (List String)) (o : Options) : Prop where
  /-- The first word is the class; the others are arguments, and so is what stands behind. -/
  words_eq : ∃ later, words items = o.request.className :: later ∧
    o.request.args = later ++ behind.getD []
  path_eq : o.request.path = (values .path items).getLast?
  classPath_eq : o.request.classPath = (values .classPath items).getLast?.map .joined
  stdin_eq : o.request.stdin = (values .stdin items).getLast?
  vars_eq : o.vars = sets .vars items
  unique_eq : o.unique = sets .unique items
  json_eq : o.json = sets .json items

/-- The items of each kind come in the same order; items of different kinds may have changed
places. -/
def Rearranged (items items' : List Item) : Prop :=
  ∀ kind, items.filter (·.kind = kind) = items'.filter (·.kind = kind)

-- ---------------------------------------------------------------------------
-- The first argument
-- ---------------------------------------------------------------------------

variable {arg flag : String} {d : Draft} {items items' : List Item} {args rest : List String}

theorem Valued.ofFlag?_eq_some_iff {option : Valued} :
    Valued.ofFlag? flag = some option ↔ flag ∈ option.flags := by
  unfold Valued.ofFlag?
  split
  · next path => subst path; cases option <;> decide
  split
  · next path classPath => rcases classPath with rfl | rfl <;> cases option <;> decide
  split
  · next path classPath stdin => subst stdin; cases option <;> decide
  · next path classPath stdin => cases option <;> simp_all [flags]

theorem Switch.ofFlag?_eq_some_iff {option : Switch} :
    Switch.ofFlag? flag = some option ↔ flag = option.flag := by
  unfold Switch.ofFlag?
  split
  · next vars => subst vars; cases option <;> decide
  split
  · next vars unique => subst unique; cases option <;> decide
  split
  · next vars unique json => subst json; cases option <;> decide
  · next vars unique json => cases option <;> simp_all [Switch.flag]

theorem known_iff :
    Known flag ↔ (Valued.ofFlag? flag).isSome = true ∨ (Switch.ofFlag? flag).isSome = true := by
  simp only [Known, Option.isSome_iff_exists, Valued.ofFlag?_eq_some_iff,
    Switch.ofFlag?_eq_some_iff]

theorem ofFlag?_eq_none (unknown : ¬ Known flag) :
    Valued.ofFlag? flag = none ∧ Switch.ofFlag? flag = none := by
  simpa [known_iff, not_or] using unknown

/-- A switch is no option with a value. -/
theorem Switch.valued_flag (option : Switch) : Valued.ofFlag? option.flag = none := by
  cases option <;> rfl

instance : Decidable (Known flag) :=
  decidable_of_iff' _ known_iff

instance : Decidable (Dashed arg) :=
  inferInstanceAs (Decidable (_ <+: _))

instance : Decidable (IsWord arg) :=
  decidable_of_iff (¬ Known arg ∧ ¬ Dashed arg) ⟨fun h => ⟨h.1, h.2⟩, fun h => ⟨h.1, h.2⟩⟩

theorem not_known_free : ¬ Known "--" := by
  decide

theorem Valued.ne_free {option : Valued} (spelled : flag ∈ option.flags) : flag ≠ "--" := by
  rintro rfl
  exact not_known_free (.inl ⟨option, spelled⟩)

theorem Switch.ne_free (option : Switch) : option.flag ≠ "--" := fun same =>
  not_known_free (.inr ⟨option, same.symm⟩)

theorem isPrefixOf_iff_dashed : "--".toList.isPrefixOf arg.toList = true ↔ Dashed arg :=
  List.isPrefixOf_iff_prefix

theorem IsWord.ne_free (plain : IsWord arg) : arg ≠ "--" := by
  rintro rfl
  exact plain.undashed List.prefix_rfl

-- ---------------------------------------------------------------------------
-- Reading
-- ---------------------------------------------------------------------------

/-- A draft after one item. -/
def Draft.take (d : Draft) : Item → Draft
  | .value option _ text _ => d.setValue text option
  | .switch option => d.setSwitch option
  | .word text _ => d.addWord text

/-- An item is read from its arguments, whatever comes after it. -/
theorem read_item (d : Draft) (item : Item) (rest : List String) :
    d.read (item.args ++ rest) = (d.take item).read rest := by
  cases item with
  | value option flag text spelled =>
    have named := Valued.ofFlag?_eq_some_iff.2 spelled
    simp [Item.args, Draft.read, Valued.ne_free spelled, named, Draft.take]
  | switch option =>
    have named : Switch.ofFlag? option.flag = some option := Switch.ofFlag?_eq_some_iff.2 rfl
    simp [Item.args, Draft.read, option.ne_free, option.valued_flag, named, Draft.take]
  | word text plain =>
    have undashed := mt isPrefixOf_iff_dashed.1 plain.undashed
    obtain ⟨valueless, switchless⟩ := ofFlag?_eq_none plain.unknown
    simp only [Item.args, List.singleton_append, Draft.read, plain.ne_free, if_false, valueless,
      switchless]
    rw [if_neg undashed, Draft.take]

theorem read_items (d : Draft) (items : List Item) (rest : List String) :
    d.read (items.flatMap Item.args ++ rest) = (items.foldl Draft.take d).read rest := by
  induction items generalizing d with
  | nil => rfl
  | cons item items ih =>
    rw [List.flatMap_cons, List.append_assoc, read_item, ih, List.foldl_cons]

/-- Everything behind a free `--` is an argument of the program. -/
theorem read_behind (d : Draft) (behind : Option (List String)) :
    d.read (behind.elim [] ("--" :: ·)) = .ok { d with args := d.args ++ behind.getD [] } := by
  cases behind with
  | none => simp [Draft.read]
  | some later => simp [Draft.read]

theorem read_unknown (dashed : Dashed flag) (unknown : ¬ Known flag) (bound : flag ≠ "--")
    (d : Draft) (rest : List String) : d.read (flag :: rest) = .error (.unknownOption flag) := by
  obtain ⟨valueless, switchless⟩ := ofFlag?_eq_none unknown
  simp only [Draft.read, bound, if_false, valueless, switchless]
  rw [if_pos (isPrefixOf_iff_dashed.2 dashed)]

theorem read_missing {option : Valued} (spelled : flag ∈ option.flags) (d : Draft) :
    d.read [flag] = .error (.missingValue flag) := by
  have named := Valued.ofFlag?_eq_some_iff.2 spelled
  simp [Draft.read, Valued.ne_free spelled, named]

/-- How far a command line can be read: to its end, to an option that is not known, or to one whose
value is missing. -/
inductive Reading : List String → Prop where
  | whole (items : List Item) (behind : Option (List String)) : Reading (line items behind)
  | unknown (items : List Item) {flag : String} (rest : List String) (dashed : Dashed flag)
      (unknown : ¬ Known flag) (bound : flag ≠ "--") :
    Reading (items.flatMap Item.args ++ flag :: rest)
  | missing (items : List Item) {option : Valued} {flag : String} (spelled : flag ∈ option.flags) :
    Reading (items.flatMap Item.args ++ [flag])

theorem Reading.cons (item : Item) (h : Reading rest) : Reading (item.args ++ rest) := by
  cases h with
  | whole items behind =>
    rw [line, ← List.append_assoc, ← List.flatMap_cons]
    exact whole (item :: items) behind
  | unknown items rest dashed unfamiliar bound =>
    rw [← List.append_assoc, ← List.flatMap_cons]
    exact unknown (item :: items) rest dashed unfamiliar bound
  | missing items spelled =>
    rw [← List.append_assoc, ← List.flatMap_cons]
    exact missing (item :: items) spelled

/-- Every command line can be read in one of these ways. An option takes the next argument with it,
so the induction goes by one argument or by two. -/
theorem reading (args : List String) : Reading args := by
  induction length : args.length using Nat.strongRecOn generalizing args with
  | ind n ih =>
    cases args with
    | nil => exact .whole [] none
    | cons arg rest =>
      have later (rest' : List String) (shorter : rest'.length ≤ rest.length) : Reading rest' :=
        ih _ (by rw [← length, List.length_cons]; omega) rest' rfl
      by_cases free : arg = "--"
      · subst free
        exact .whole [] (some rest)
      by_cases known : Known arg
      · rcases known with ⟨option, spelled⟩ | ⟨option, rfl⟩
        · cases rest with
          | nil => exact .missing [] spelled
          | cons text rest => exact (later rest (by simp)).cons (.value option arg text spelled)
        · exact (later rest Nat.le.refl).cons (.switch option)
      by_cases dashed : Dashed arg
      · exact .unknown [] rest dashed known free
      · exact (later rest Nat.le.refl).cons (.word arg ⟨known, dashed⟩)

-- ---------------------------------------------------------------------------
-- What was read
-- ---------------------------------------------------------------------------

/-- The draft that items make. -/
def draftOf (items : List Item) : Draft where
  className := (words items).head?
  path := (values .path items).getLast?
  classPath := (values .classPath items).getLast?
  stdin := (values .stdin items).getLast?
  args := (words items).tail
  vars := sets .vars items
  unique := sets .unique items
  json := sets .json items

theorem words_concat (items : List Item) (item : Item) :
    words (items ++ [item]) = words items ++ item.word?.toList := by
  rw [words, List.filterMap_append, ← words]
  cases item <;> rfl

theorem values_concat (option : Valued) (items : List Item) (item : Item) :
    values option (items ++ [item]) = values option items ++ (item.value? option).toList := by
  rw [values, List.filterMap_append, ← values]
  cases found : item.value? option <;> simp [found]

theorem sets_concat (option : Switch) (items : List Item) (item : Item) :
    sets option (items ++ [item]) = (sets option items || item.isSwitch option) := by
  simp [sets]

theorem draftOf_concat (items : List Item) (item : Item) :
    draftOf (items ++ [item]) = (draftOf items).take item := by
  simp only [draftOf, words_concat, values_concat, sets_concat]
  cases item with
  | value option flag text spelled =>
    cases option <;> simp [Item.word?, Item.value?, Item.isSwitch, Draft.take, Draft.setValue]
  | switch option =>
    cases option <;> simp [Item.word?, Item.value?, Item.isSwitch, Draft.take, Draft.setSwitch]
  | word text plain =>
    -- The words before decide whether this one is the class.
    cases words items <;>
      simp [Item.word?, Item.value?, Item.isSwitch, Draft.take, Draft.addWord]

theorem foldl_take (items : List Item) : items.foldl Draft.take {} = draftOf items := by
  induction items using List.reverseRecOn with
  | nil => rfl
  | append_singleton items item ih =>
    rw [List.foldl_append, ih, draftOf_concat, List.foldl_cons, List.foldl_nil]

theorem parse_line (items : List Item) (behind : Option (List String)) :
    parse (line items behind) =
      { draftOf items with args := (draftOf items).args ++ behind.getD [] : Draft }.finish := by
  rw [parse, line, read_items, foldl_take, read_behind]

theorem parse_line_eq_ok_iff {behind : Option (List String)} {o : Options} :
    parse (line items behind) = .ok o ↔ Means items behind o := by
  rw [parse_line]
  cases present : words items with
  | nil =>
    constructor
    · intro finished
      simp [Draft.finish, draftOf, present] at finished
    · intro means
      obtain ⟨later, words_eq, -⟩ := means.words_eq
      simp [present] at words_eq
  | cons first later =>
    simp only [Draft.finish, draftOf, present, List.head?_cons, List.tail_cons, Except.ok.injEq]
    constructor
    · rintro rfl
      exact ⟨⟨later, present, rfl⟩, rfl, rfl, rfl, rfl, rfl, rfl⟩
    · rintro ⟨⟨later', words_eq, args_eq⟩, path, classPath, stdin, vars, unique, json⟩
      obtain ⟨rfl, rfl⟩ := List.cons.inj (present.symm.trans words_eq)
      obtain ⟨⟨⟩⟩ := o
      simp_all

/-- A command line that is accepted can be read to its end. -/
theorem exists_line_of_parse {o : Options} (accepted : parse args = .ok o) :
    ∃ items behind, args = line items behind := by
  cases reading args with
  | whole items behind => exact ⟨items, behind, rfl⟩
  | unknown items rest dashed unknown bound =>
    rw [parse, read_items, read_unknown dashed unknown bound] at accepted
    cases accepted
  | missing items spelled =>
    rw [parse, read_items, read_missing spelled] at accepted
    cases accepted

-- ---------------------------------------------------------------------------
-- Order
-- ---------------------------------------------------------------------------

theorem filterMap_congr_of_filter {α β : Type} {f : α → Option β} {p : α → Bool}
    (only : ∀ a, p a = false → f a = none) {l l' : List α} (same : l.filter p = l'.filter p) :
    l.filterMap f = l'.filterMap f := by
  have restrict (l : List α) : l.filterMap f = (l.filter p).filterMap f := by
    rw [List.filterMap_filter]
    congr 1
    funext a
    cases kept : p a with
    | false => simp [only a kept]
    | true => simp
  rw [restrict l, restrict l', same]

theorem Rearranged.words_eq (h : Rearranged items items') : words items = words items' :=
  filterMap_congr_of_filter (fun item other => by cases item <;> simp_all [Item.kind, Item.word?])
    (h .word)

theorem Rearranged.values_eq (h : Rearranged items items') (option : Valued) :
    values option items = values option items' :=
  filterMap_congr_of_filter (fun item other => by cases item <;> simp_all [Item.kind, Item.value?])
    (h (.value option))

theorem Rearranged.sets_eq (h : Rearranged items items') (option : Switch) :
    sets option items = sets option items' := by
  have restrict (items : List Item) :
      sets option items = (items.filter (·.kind = .switch option)).any (Item.isSwitch option) := by
    rw [List.any_filter, sets]
    congr 1
    funext item
    cases item <;> simp [Item.isSwitch, Item.kind]
  rw [restrict, restrict items', h]

theorem Rearranged.draftOf_eq (h : Rearranged items items') : draftOf items = draftOf items' := by
  simp only [draftOf, h.words_eq, h.values_eq, h.sets_eq]

/-- A command line is accepted if it can be read to its end, as items with a word among them and
what stands behind a free `--`. However it is read so, it asks for what the items and that mean; and
it asks for the same if items of different kinds change places. -/
theorem parse_iff_line (args : List String) :
    ((∃ o, parse args = .ok o) ↔ ∃ items behind, args = line items behind ∧ words items ≠ []) ∧
    ∀ items behind, args = line items behind →
      (∀ o, parse args = .ok o ↔ Means items behind o) ∧
      ∀ items', Rearranged items items' → parse (line items' behind) = parse args := by
  refine ⟨⟨?_, ?_⟩, ?_⟩
  · rintro ⟨o, accepted⟩
    obtain ⟨items, behind, rfl⟩ := exists_line_of_parse accepted
    obtain ⟨later, words_eq, -⟩ := (parse_line_eq_ok_iff.1 accepted).words_eq
    exact ⟨items, behind, rfl, by simp [words_eq]⟩
  · rintro ⟨items, behind, rfl, worded⟩
    obtain ⟨first, later, words_eq⟩ := List.exists_cons_of_ne_nil worded
    rw [parse_line, Draft.finish, draftOf, words_eq]
    exact ⟨_, rfl⟩
  · rintro items behind rfl
    refine ⟨fun o => parse_line_eq_ok_iff, fun items' same => ?_⟩
    rw [parse_line, parse_line, same.draftOf_eq]

/-- Items of all kinds. Two values look like something else. -/
def mixed : List Item :=
  [.value .stdin "--stdin" "--" (by decide), .word "Main" (by decide),
    .value .classPath "-cp" "--vars" (by decide), .value .classPath "--classpath" "lib" (by decide),
    .switch .unique, .word "-x" (by decide)]

/-- The same items in another order. The two class paths and the two words have kept theirs. -/
def mixed' : List Item :=
  [.value .classPath "-cp" "--vars" (by decide), .word "Main" (by decide), .switch .unique,
    .word "-x" (by decide), .value .stdin "--stdin" "--" (by decide),
    .value .classPath "--classpath" "lib" (by decide)]

/-- An option takes the argument after it, also a `--`; and behind a free `--` nothing is an
option. -/
theorem parse_mixed :
    line mixed (some ["--json", "--"]) = ["--stdin", "--", "Main", "-cp", "--vars", "--classpath",
      "lib", "--unique", "-x", "--", "--json", "--"] ∧
    Rearranged mixed mixed' ∧
    parse (line mixed' (some ["--json", "--"])) = parse (line mixed (some ["--json", "--"])) ∧
    parse (line mixed (some ["--json", "--"])) = .ok {
      request := {
        className := "Main"
        classPath := some (.joined "lib")
        args := ["-x", "--json", "--"]
        stdin := some "--" }
      unique := true } := by
  have rearranged : Rearranged mixed mixed' := by
    rintro (option | option | _)
    · cases option <;> rfl
    · cases option <;> rfl
    · rfl
  obtain ⟨meaning, order⟩ := (parse_iff_line (line mixed (some ["--json", "--"]))).2 _ _ rfl
  refine ⟨rfl, rearranged, order mixed' rearranged, (meaning _).2 ?_⟩
  exact ⟨⟨["-x"], rfl, rfl⟩, rfl, rfl, rfl, rfl, rfl, rfl⟩

end Retrace.CommandLine
