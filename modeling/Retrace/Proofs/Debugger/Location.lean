import Retrace.Proofs.Debugger.Printed
import Retrace.Proofs.Number.Numeral
import Retrace.Proofs.Pattern.First
import Retrace.Proofs.Text.Lines

/-!
# Reading a place

The pattern for the place in a header finds the thread, the class and method, and
the two numbers that were printed, and the pattern for a source line finds its
number and its text. A value that is returned is found if it has no comma.
-/

namespace Retrace

open Message

-- ---------------------------------------------------------------------------
-- Numbers
-- ---------------------------------------------------------------------------

namespace Printed

/-- A number as it is written, with any zeros in front. -/
structure Digits where
  text : List Char
  nonempty : text ≠ []
  digit : ∀ c ∈ text, c.isDigit = true

theorem Digits.notMem (d : Digits) {c : Char} (hc : c.isDigit = false) : c ∉ d.text := by
  intro h
  simp [d.digit c h] at hc

theorem digits_eq (n : UInt32) : Stop.digits n = Nat.toDigits 10 n.toNat := by
  simp [Stop.digits]

theorem digits_ne (n : UInt32) : Stop.digits n ≠ [] := by
  rw [digits_eq]
  exact Nat.toDigits_ne_nil

theorem isDigit_of_mem_digits {n : UInt32} {c : Char} (h : c ∈ Stop.digits n) :
    c.isDigit = true := by
  rw [digits_eq] at h
  exact Numeral.isDigit_of_mem_toDigits h

/-- The digits of a number of a stop. -/
def Stop.number (n : UInt32) : Digits :=
  ⟨Stop.digits n, digits_ne n, fun _ => isDigit_of_mem_digits⟩

/-- The number that digits denote. -/
def Digits.value (d : Digits) : Nat :=
  Nat.ofDigitChars 10 d.text 0

/-- A number of 32 bits; none if the digits denote a larger one. -/
def Digits.fit? (d : Digits) : Option Nat :=
  if d.value < 2 ^ 32 then some d.value else none

theorem number?_text (d : Digits) : StepEvent.number? d.text = d.fit? :=
  Numeral.natBelow?_of_digits d.nonempty d.digit (twoTo 32)

/-- A number that was printed is read back. -/
theorem number?_digits (n : UInt32) : StepEvent.number? (Stop.digits n) = some n.toNat := by
  have text : (Stop.number n).text = Nat.toDigits 10 n.toNat := digits_eq n
  have value : (Stop.number n).value = n.toNat := by
    rw [Digits.value, text, Nat.ofDigitChars_ten_toDigits]
  have read := number?_text (Stop.number n)
  rw [Digits.fit?, value, if_pos n.toNat_lt] at read
  exact read

end Printed

-- ---------------------------------------------------------------------------
-- The class and method
-- ---------------------------------------------------------------------------

namespace Message

open Retrace.Expr

/-- The part of the pattern for places that stands for the class and method. -/
def labelExpr : Expr :=
  .group 4 (many1 (but ['.']) ++ .plus (.group 5 (lit "." ++ many1 (but ['.']))) ++ lit "()")

theorem labelExpr_groups : labelExpr.groups = [4, 5] :=
  rfl

/-- The part of the pattern for places that stands for the title. -/
def titleExpr : Expr :=
  .group 1 (.alt (lit "Step completed:") (.alt (lit "Method entered:")
    (lit "Method exited: return value = " ++ .group 2 (many1 (but [','])) ++ lit ",")))

theorem stepLocation_expr :
    stepLocation.expr =
      titleExpr ++ lit " \"thread=" ++ .group 3 (.many (but ['"'])) ++ lit "\", " ++ labelExpr ++
        lit ", line=" ++ .group 6 (many1 Char.isDigit) ++ lit " bci=" ++
        .group 7 (many1 Char.isDigit) :=
  rfl

/-- What is read as class and method ends with a point, a method without points, and parentheses. -/
theorem exists_label {previous : Option Char} {t : List Char} {x : Way}
    (h : x ∈ labelExpr.ways previous t) :
    ∃ className method, x.text = className ++ '.' :: method ++ "()".toList ∧ method ≠ [] ∧
      '.' ∉ method ∧ x.group? 4 = some x.text ∧ x.group? 5 = some ('.' :: method) := by
  have four := group?_of_mem_group h
  obtain ⟨y, hy, rfl⟩ := List.mem_map.1 h
  obtain ⟨z, hz, e, he, rfl⟩ := exists_of_mem_ways_seq hy
  obtain ⟨u, -, v, hv, rfl⟩ := exists_of_mem_ways_seq hz
  obtain ⟨front, earlier, previous', s', w, hw, v_text, v_captures⟩ := plus_last hv
  obtain ⟨e_text, e_captures⟩ : e.text = "()".toList ∧ e.captures = [] := by
    obtain ⟨-, rfl⟩ := by simpa [lit, ways] using he
    exact ⟨rfl, rfl⟩
  -- The last repetition is a point and a piece without points.
  have covered : (group 5 (lit "." ++ many1 (but ['.']))).Covers previous' w.text :=
    covers_of_mem_ways rfl hw
  rw [covers_group, covers_seq] at covered
  obtain ⟨_, method, w_text, rfl, hmethod⟩ := covered
  obtain ⟨method_ne, method_free⟩ := covers_many1.1 hmethod
  refine ⟨u.text ++ front, method, ?_, method_ne, ?_, four, ?_⟩
  · simp [Way.andThen, v_text, w_text, e_text]
  · exact fun point => absurd (method_free _ point) (by decide)
  · have last := group?_of_mem_group hw
    simp only [Way.group?] at last
    simp [Way.group?, Way.andThen, e_captures, v_captures, Captures.text?_append, last, w_text]

/-- The point before a method is dropped. -/
theorem dropWhile_method {method : List Char} (free : '.' ∉ method) :
    ('.' :: method).dropWhile (· = '.') = method := by
  have here : method.dropWhile (· = '.') = method := by
    cases method with
    | nil => rfl
    | cons c method =>
      have : c ≠ '.' := fun h => free (by simp [h])
      simp [this]
  simpa using here

/-- The class and method are read up to the only opening parenthesis, and their last group is what
follows the last point. -/
theorem group?_label {previous : Option Char} {className method rest : List Char} {x : Way}
    (h : x ∈ labelExpr.ways previous (className ++ '.' :: method ++ '(' :: ')' :: rest))
    (class_free : '(' ∉ className) (method_free : '(' ∉ method ∧ '.' ∉ method)
    (rest_free : '(' ∉ rest) :
    x.rest = rest ∧ x.group? 4 = some (className ++ '.' :: method ++ "()".toList) ∧
      x.group? 5 = some ('.' :: method) ∧ ∀ n, n ≠ 4 → n ≠ 5 → x.group? n = none := by
  obtain ⟨front, last, text_eq, -, last_free, four, five⟩ := exists_label h
  have whole := ways_append h
  rw [text_eq] at whole
  have cut : (front ++ '.' :: last) ++ '(' :: (')' :: x.rest) =
      (className ++ '.' :: method) ++ '(' :: (')' :: rest) := by simpa using whole
  have before_free : '(' ∉ className ++ '.' :: method := by
    simp [class_free, method_free.1]
  obtain ⟨label_eq, rest_eq⟩ : className ++ '.' :: method = front ++ '.' :: last ∧
      ')' :: rest = ')' :: x.rest := by
    obtain ⟨h₁, -, h₂⟩ := (List.append_cons_inj_of_notMem before_free (by simp [rest_free])).1 cut.symm
    exact ⟨h₁, h₂⟩
  obtain ⟨-, rfl⟩ := Text.last_cut method_free.2 last_free label_eq
  refine ⟨(List.cons.inj rest_eq).2.symm, ?_, five, fun n n_four n_five => ?_⟩
  · rw [four, text_eq, label_eq]
  · exact group?_eq_none h (by simp [labelExpr_groups, n_four, n_five])

/-- A class whose parts are not empty, with a method, is read. -/
theorem exists_label_way {className method : List Char} (previous : Option Char)
    (rest : List Char) (class_pieces : ∀ piece ∈ Text.splitOn '.' className, piece ≠ [])
    (method_ne : method ≠ []) (method_free : '.' ∉ method) :
    ∃ x, x ∈ labelExpr.ways previous (className ++ '.' :: method ++ '(' :: ')' :: rest) := by
  obtain ⟨first, others, cut⟩ := List.exists_cons_of_ne_nil (Text.splitOn_ne_nil '.' className)
  have free : ∀ piece ∈ first :: others, '.' ∉ piece := fun piece hp =>
    Text.notMem_of_mem_splitOn (cut ▸ hp)
  have nonempty : ∀ piece ∈ first :: others, piece ≠ [] := fun piece hp =>
    class_pieces piece (cut ▸ hp)
  have covers : ∀ previous piece, piece ≠ [] → '.' ∉ piece →
      (many1 (but ['.'])).Covers previous piece := by
    intro previous piece hne hf
    refine covers_many1.2 ⟨hne, fun c hc => ?_⟩
    have : c ≠ '.' := fun h => hf (h ▸ hc)
    simp [but, this]
  have parts : ∀ w ∈ (others ++ [method]).map ('.' :: ·),
      w ≠ [] ∧ ∀ previous, (group 5 (lit "." ++ many1 (but ['.']))).Covers previous w := by
    intro w hw
    obtain ⟨piece, hp, rfl⟩ := List.mem_map.1 hw
    refine ⟨by simp, fun previous => covers_group.2 (covers_seq.2 ⟨['.'], piece, rfl, rfl, ?_⟩)⟩
    rcases List.mem_append.1 hp with hp | hp
    · exact covers _ _ (nonempty _ (.tail _ hp)) (free _ (.tail _ hp))
    · rw [List.mem_singleton.1 hp]
      exact covers _ _ method_ne method_free
  have text_eq : className ++ '.' :: method ++ '(' :: ')' :: rest =
      first ++ (((others ++ [method]).map ('.' :: ·)).flatten ++ ("()".toList ++ rest)) := by
    simp [← Text.splitOn_flatten cut]
  rw [text_eq]
  obtain ⟨u, hu, rfl⟩ := exists_way_of_covers
    (covers previous first (nonempty _ (.head _)) (free _ (.head _)))
    (((others ++ [method]).map ('.' :: ·)).flatten ++ ("()".toList ++ rest))
  have u_rest := List.append_cancel_left (ways_append hu)
  obtain ⟨v, hv, v_text⟩ := exists_plus_of_pieces (by simp) parts (lastOf previous u.text)
    ("()".toList ++ rest)
  rw [← u_rest] at hv
  have v_rest : v.rest = "()".toList ++ rest := by
    have := ways_append hv
    rw [u_rest, v_text] at this
    exact List.append_cancel_left this
  have e_first := first?_lit "()" (lastOf previous (u.text ++ v.text)) rest
  have he := List.mem_of_mem_head? e_first
  rw [← v_rest] at he
  exact ⟨_, List.mem_map.2 ⟨_, mem_ways_seq (mem_ways_seq hu hv) he, rfl⟩⟩

end Message

-- ---------------------------------------------------------------------------
-- The place
-- ---------------------------------------------------------------------------

namespace Printed

open Retrace.Expr

/-- What a header says about the place: the thread, the class and method, and the two numbers. -/
structure Location where
  thread : List Char
  className : List Char
  method : List Char
  line : Digits
  bci : Digits
  thread_free : '"' ∉ thread
  class_free : '(' ∉ className
  class_pieces : ∀ piece ∈ Text.splitOn '.' className, piece ≠ []
  method_ne : method ≠ []
  method_free : '(' ∉ method ∧ '.' ∉ method

/-- Class and method, with parentheses. -/
def Location.label (l : Location) : List Char :=
  l.className ++ '.' :: l.method ++ "()".toList

variable (l : Location)

/-- Digits are read up to the next other character. -/
theorem first?_digits (d : Digits) (previous : Option Char) (rest : List Char)
    (stops : ∀ c, rest.head? = some c → c.isDigit = false) :
    (many1 Char.isDigit).first? previous (d.text ++ rest) = some ⟨d.text, rest, []⟩ :=
  first?_many1 _ d.nonempty d.digit stops

/-- Two numbers after fixed texts are read up to what follows them. The texts are variables here, so
that no step looks into them. -/
theorem first?_numbers (t u : String) (n k : Digits) (previous : Option Char) (rest : List Char)
    (between : ∀ s, ∀ c, (u.toList ++ s).head? = some c → c.isDigit = false)
    (stops : ∀ c, rest.head? = some c → c.isDigit = false) :
    ∃ x, (lit t ++ (.group 6 (many1 Char.isDigit) ++
        (lit u ++ .group 7 (many1 Char.isDigit)))).first? previous
        (t.toList ++ (n.text ++ (u.toList ++ (k.text ++ rest)))) = some x ∧
      x.rest = rest ∧ x.group? 6 = some (n.text) ∧
      x.group? 7 = some (k.text) ∧ ∀ m < 6, x.group? m = none := by
  have seven (previous : Option Char) :=
    first?_group 7 (first?_digits k previous rest stops)
  have blank (previous : Option Char) :=
    first?_seq (first?_lit u previous (k.text ++ rest)) (seven _)
  have six (previous : Option Char) :=
    first?_seq (first?_group 6 (first?_digits n previous _ (between (k.text ++ rest))))
      (blank _)
  refine ⟨_, first?_seq (first?_lit t previous _) (six _), rfl, ?_, ?_, ?_⟩
  · simp
  · simp
  · intro m small
    have others : 6 ≠ m ∧ 7 ≠ m := by omega
    simp [others]

/-- Every way of reading the class and method leaves the numbers. -/
theorem first?_label (v w : String) (rest : List Char) (previous : Option Char)
    (no_call : '(' ∉ v.toList ∧ '(' ∉ w.toList ∧ '(' ∉ rest)
    (between : ∀ s, ∀ c, (w.toList ++ s).head? = some c → c.isDigit = false)
    (stops : ∀ c, rest.head? = some c → c.isDigit = false) :
    ∃ x : Way, (labelExpr ++ (lit v ++ (.group 6 (many1 Char.isDigit) ++
        (lit w ++ .group 7 (many1 Char.isDigit))))).first? previous
        (l.className ++ '.' :: l.method ++ '(' :: ')' :: (v.toList ++
          (l.line.text ++ (w.toList ++ (l.bci.text ++ rest))))) = some x ∧
      x.rest = rest ∧ x.group? 4 = some l.label ∧
      x.group? 5 = some ('.' :: l.method) ∧ x.group? 6 = some (l.line.text) ∧
      x.group? 7 = some (l.bci.text) ∧ ∀ n < 4, x.group? n = none := by
  have numbers (previous : Option Char) :=
    first?_numbers v w l.line l.bci previous rest between stops
  have free : '(' ∉ v.toList ++ (l.line.text ++ (w.toList ++
      (l.bci.text ++ rest))) := by
    have digits_free (n : Digits) : '(' ∉ n.text := n.notMem (by decide)
    simp [digits_free, no_call]
  obtain ⟨x, hx⟩ := exists_label_way previous (v.toList ++ (l.line.text ++ (w.toList ++
    (l.bci.text ++ rest)))) l.class_pieces l.method_ne l.method_free.2
  obtain ⟨x_rest, -⟩ := group?_label hx l.class_free l.method_free free
  obtain ⟨z₀, hz₀, -⟩ := numbers (lastOf previous x.text)
  rw [← x_rest] at hz₀
  obtain ⟨y, hy, z, hz, first⟩ := exists_first?_seq hx hz₀
  obtain ⟨y_rest, y_four, y_five, y_others⟩ := group?_label hy l.class_free l.method_free free
  rw [y_rest] at hz
  obtain ⟨z', hz', z_rest, z_six, z_seven, z_others⟩ := numbers (lastOf previous y.text)
  obtain rfl : z = z' := Option.some.inj (hz.symm.trans hz')
  refine ⟨_, first, z_rest, ?_, ?_, ?_, ?_, fun n small => ?_⟩
  · simp [z_others, y_four, Location.label]
  · simp [z_others, y_five]
  · simp [z_six]
  · simp [z_seven]
  · simp [z_others n (by omega), y_others n (by omega) (by omega)]

/-- A place after a title, with variables for the fixed texts again. -/
theorem first?_place {title : Expr} {head : List Char} {returned : Option (List Char)}
    {previous : Option Char} (t u v w : String) (rest : List Char)
    (name_ends : ∀ s, ∀ c, (u.toList ++ s).head? = some c → but ['"'] c = false)
    (no_call : '(' ∉ v.toList ∧ '(' ∉ w.toList ∧ '(' ∉ rest)
    (between : ∀ s, ∀ c, (w.toList ++ s).head? = some c → c.isDigit = false)
    (stops : ∀ c, rest.head? = some c → c.isDigit = false)
    (titled : ∀ text, ∃ caps : Captures, caps.text? 2 = returned ∧
      title.first? previous (head ++ (t.toList ++ text)) = some ⟨head, t.toList ++ text, caps⟩) :
    ∃ x : Way, (title ++ (lit t ++ (.group 3 (.many (but ['"'])) ++ (lit u ++ (labelExpr ++ (lit v ++
        (.group 6 (many1 Char.isDigit) ++ (lit w ++ .group 7 (many1 Char.isDigit))))))))).first?
        previous (head ++ (t.toList ++ (l.thread ++ (u.toList ++ (l.className ++
          '.' :: l.method ++ '(' :: ')' :: (v.toList ++ (l.line.text ++
            (w.toList ++ (l.bci.text ++ rest))))))))) = some x ∧
      x.rest = rest ∧ x.group? 2 = returned ∧ x.group? 3 = some l.thread ∧
      x.group? 4 = some l.label ∧ x.group? 5 = some ('.' :: l.method) ∧
      x.group? 6 = some (l.line.text) ∧ x.group? 7 = some (l.bci.text) := by
  have thread_free : ∀ c ∈ l.thread, but ['"'] c = true := by
    intro c hc
    have : c ≠ '"' := fun h => l.thread_free (h ▸ hc)
    simp [but, this]
  obtain ⟨x, hx, x_rest, four, five, six, seven, others⟩ := first?_label l v w rest
    (lastOf (lastOf (lastOf (lastOf previous head) t.toList) l.thread) u.toList)
    no_call between stops
  have after_name := first?_seq (first?_lit u _ _) hx
  have name := first?_seq (first?_group 3 (first?_many _ thread_free (name_ends _))) after_name
  obtain ⟨caps, hcaps, titled⟩ := titled _
  refine ⟨_, first?_seq titled (first?_seq (first?_lit t _ _) name), x_rest, ?_⟩
  simp [hcaps, four, five, six, seven, others]

-- ---------------------------------------------------------------------------
-- Titles
-- ---------------------------------------------------------------------------

/-- The value that is returned has no comma. -/
def Title.Plain (t : Title) : Prop :=
  ∀ value, t.returned? = some value → ',' ∉ value.toList

/-- The title is read, with the value that is returned. -/
theorem first?_title {t : Title} (plain : t.Plain) (previous : Option Char) (rest : List Char) :
    ∃ caps : Captures, caps.text? 2 = t.returned?.map String.toList ∧
      titleExpr.first? previous (t.head ++ rest) = some ⟨t.head, rest, caps⟩ := by
  cases t with
  | completed =>
    exact ⟨_, rfl, first?_group 1 (first?_alt_left (first?_lit ..))⟩
  | enteredBefore blank =>
    exact ⟨_, rfl, first?_group 1 (first?_alt_left (first?_lit ..))⟩
  | entered =>
    refine ⟨_, rfl, first?_group 1 ((first?_alt_right ?_).trans
      (first?_alt_left (first?_lit "Method entered:" previous rest)))⟩
    exact ways_lit_eq_nil (by decide +kernel) previous rest
  | exited value nonempty line =>
    have free : ',' ∉ value.toList := plain value rfl
    have found : ∀ c ∈ value.toList, but [','] c = true := by
      intro c hc
      have : c ≠ ',' := fun h => free (h ▸ hc)
      simp [but, this]
    have comma (s : List Char) : ∀ c, (",".toList ++ s).head? = some c → but [','] c = false := by
      simp [but]
    have value_ne : value.toList ≠ [] := by simpa using nonempty
    have third := first?_seq (first?_seq (first?_lit "Method exited: return value = " previous _)
      (first?_group 2 (first?_many1 _ value_ne found (comma rest)))) (first?_lit "," _ rest)
    have text_eq : (Title.exited value nonempty line).head ++ rest =
        "Method exited: return value = ".toList ++ (value.toList ++ (",".toList ++ rest)) := by
      simp only [Title.head_exited, List.append_assoc]
    have others : ∀ t : String, t = "Step completed:" ∨ t = "Method entered:" →
        (lit t).ways previous ((Title.exited value nonempty line).head ++ rest) = [] := by
      rintro _ (rfl | rfl) <;> rw [text_eq] <;>
        exact ways_lit_eq_nil (by decide +kernel) previous _
    rw [← text_eq] at third
    have titled := first?_group 1 ((first?_alt_right (others _ (.inl rfl))).trans
      ((first?_alt_right (others _ (.inr rfl))).trans third))
    simp only [Way.andThen, List.append_assoc, ← Title.head_exited value nonempty line] at titled
    exact ⟨_, by simp [Title.returned?], titled⟩

/-- What the part of the pattern for the title covers. -/
theorem text_of_mem_title {previous : Option Char} {t : List Char} {x : Way}
    (h : x ∈ titleExpr.ways previous t) :
    x.text = "Step completed:".toList ∨ x.text = "Method entered:".toList ∨
      ∃ v, x.text = "Method exited: return value = ".toList ++ v ++ ",".toList ∧ ',' ∉ v := by
  have covered : titleExpr.Covers previous x.text := covers_of_mem_ways rfl h
  rw [titleExpr, covers_group, covers_alt, covers_alt, covers_seq] at covered
  rcases covered with h | h | ⟨u, _, text_eq, ⟨_, v, rfl, rfl, hv⟩, rfl⟩
  · exact .inl h
  · exact .inr (.inl h)
  · rw [covers_group, covers_many1] at hv
    exact .inr (.inr ⟨v, text_eq, fun hc => absurd (hv.2 _ hc) (by decide)⟩)

/-- A place needs a title, and the name of a thread right after it. -/
theorem ways_stepLocation_eq_nil {previous : Option Char} {t : List Char}
    (h : ∀ x ∈ titleExpr.ways previous t, ¬ " \"thread=".toList <+: x.rest) :
    stepLocation.expr.ways previous t = [] := by
  simp only [stepLocation_expr, ways_assoc]
  exact ways_seq_eq_nil fun x hx => ways_lit_seq_eq_nil (h x hx)

/-- No place is read on the line that announces a method entry. -/
theorem misses_front (t : Title) (rest : List Char) :
    stepLocation.expr.Misses none t.front rest := by
  cases t with
  | enteredBefore blank =>
    intro a c b h
    refine ways_stepLocation_eq_nil fun x hx within => ?_
    have covered := ways_append hx
    have starts : c = 'S' ∨ c = 'M' := by
      have first := congrArg List.head? covered
      rcases text_of_mem_title hx with h | h | ⟨v, h, -⟩ <;> simp [h] at first <;> simp [← first]
    cases a with
    | cons d a =>
      -- Behind its first character the line has none that starts a title.
      have later : c ∈ (Title.enteredBefore blank).front.tail := by simp [h]
      have free : ∀ c ∈ (Title.enteredBefore blank).front.tail, c ≠ 'S' ∧ c ≠ 'M' := by
        cases blank <;> decide
      rcases starts with rfl | rfl
      · exact (free _ later).1 rfl
      · exact (free _ later).2 rfl
    | nil =>
      have whole : x.text ++ x.rest = (Title.enteredBefore blank).front ++ rest := by
        rw [covered, h]
        rfl
      have front_eq : (Title.enteredBefore true).front = "Method entered: \r\n".toList ∧
          (Title.enteredBefore false).front = "Method entered:\r\n".toList := by decide
      obtain ⟨u, hu⟩ := within
      rw [← hu] at whole
      cases blank <;> rcases text_of_mem_title hx with h | h | ⟨v, h, -⟩ <;>
        simp [h, front_eq] at whole
  | completed => exact misses_nil
  | entered => exact misses_nil
  | exited => exact misses_nil

/-- The header with a title and a place. -/
def Location.header (l : Location) (title : Title) : List Char :=
  title.front ++ (title.head ++ (" \"thread=".toList ++ (l.thread ++ ("\", ".toList ++ (l.label ++
    (", line=".toList ++ (l.line.text ++ (" bci=".toList ++ (l.bci.text ++ "\r\n".toList)))))))))

/-- The pattern for places finds what was printed. -/
theorem Location.find?_header {title : Title} (plain : title.Plain) :
    ∃ m, stepLocation.find? (l.header title) = some m ∧
      m.group? 2 = title.returned?.map String.toList ∧ m.group? 3 = some l.thread ∧
      m.group? 4 = some l.label ∧ m.group? 5 = some ('.' :: l.method) ∧
      m.group? 6 = some l.line.text ∧ m.group? 7 = some l.bci.text := by
  obtain ⟨x, hx, -, groups⟩ := first?_place l " \"thread=" "\", " ", line=" " bci=" "\r\n".toList
    (by simp [but]) (by decide) (by simp) (by simp)
    (fun text => first?_title plain title.front.getLast? (" \"thread=".toList ++ text))
  have covered := ways_append (List.mem_of_mem_head? hx)
  have picks : stepLocation.expr.Picks (l.header title) title.front x := by
    refine ⟨?_, ?_, misses_front _ _⟩
    · rw [covered]
      simp [Location.header, Location.label]
    · rw [covered, stepLocation_expr]
      simp only [first?_assoc]
      exact hx
  exact ⟨_, Pattern.find?_of_picks picks, groups⟩

-- ---------------------------------------------------------------------------
-- Stops
-- ---------------------------------------------------------------------------

theorem notMem_of_but {cs : List Char} {t : List Char} (h : ∀ c ∈ t, but cs c = true) {c : Char}
    (hc : c ∈ cs) : c ∉ t := by
  intro ht
  have := h c ht
  simp [but, hc] at this

theorem notMem_digits {n : UInt32} {c : Char} (hc : c.isDigit = false) : c ∉ Stop.digits n :=
  (Stop.number n).notMem hc

variable (s : Stop)

/-- The place of a stop. -/
def Stop.location : Location where
  thread := s.thread.toList
  className := s.className.toList
  method := s.method.toList
  line := Stop.number s.line
  bci := Stop.number s.bci
  thread_free := notMem_of_but s.thread_free (by decide)
  class_free := notMem_of_but s.class_free (by decide)
  class_pieces := s.class_pieces
  method_ne := by simpa using s.method_ne
  method_free := ⟨notMem_of_but s.method_free (by decide), notMem_of_but s.method_free (by decide)⟩

theorem label_toList :
    s.label.toList = s.className.toList ++ '.' :: s.method.toList ++ "()".toList := by
  simp [Stop.label]

theorem header_eq : s.header = s.location.header s.title := by
  have label : s.location.label = s.label.toList := (label_toList s).symm
  rw [Location.header, label]
  rfl

/-- The place of a stop is found in its header. -/
theorem find?_stepLocation (plain : s.title.Plain) :
    ∃ m, stepLocation.find? s.header = some m ∧
      m.group? 2 = s.title.returned?.map String.toList ∧ m.group? 3 = some s.thread.toList ∧
      m.group? 4 = some s.label.toList ∧ m.group? 5 = some ('.' :: s.method.toList) ∧
      m.group? 6 = some (Stop.digits s.line) ∧ m.group? 7 = some (Stop.digits s.bci) := by
  rw [header_eq, label_toList]
  exact s.location.find?_header plain

end Printed

end Retrace
