import Retrace.Proofs.Debugger.Event
import Retrace.Proofs.Debugger.Stop
import Retrace.Proofs.Pattern.Later

/-!
# Headers and listings in one text

A header and the listing behind it are read in two parts or as one text. The two
readings give the same event as long as the listing does not look like a part of
a header. The source on it may: it can contain the announcement of an exception
or of a method entry, and the class and method in a header, which may have any
characters, can seem to go on in it.
-/

namespace Retrace.StepEvent

open Message Retrace.Expr Printed

variable {h l before before₀ : List Char} {x y : Way}

-- ---------------------------------------------------------------------------
-- The lines of a header
-- ---------------------------------------------------------------------------

theorem isHeader_of_whole (whole : (stepHeader.find? h).map Match.text = some h) : IsHeader h := by
  obtain ⟨m, found, rfl⟩ := Option.map_eq_some_iff.1 whole
  obtain ⟨before, x, picks, rfl⟩ := Pattern.exists_picks_of_find? found
  exact covers_stepHeader.1 (covers_of_mem_ways rfl (List.mem_of_mem_head? picks.first_eq))

theorem exists_headerLines (header : IsHeader h) :
    ∃ lines, h = feedLines lines ∧ ∀ line ∈ lines, HeaderLine line := by
  obtain ⟨main, plain, rfl | ⟨first, -, announced, rfl⟩⟩ := header_cases header
  · exact ⟨[main], by simp [feedLines], by simp [plain]⟩
  · exact ⟨[first ++ ['\r'], main], by simp [feedLines], by simp [plain, announced]⟩

/-- Behind a line feed in a header there is nothing, or before it there is no quote. -/
theorem feed_cases {u v : List Char} (header : IsHeader h) (cut : h = u ++ '\n' :: v) :
    v = [] ∨ '"' ∉ u := by
  obtain ⟨main, plain, rfl | ⟨first, hf, -, rfl⟩⟩ := header_cases header
  · exact .inl ((List.append_cons_inj_of_notMem plain.no_feed (by simp)).1 cut).2.2.symm
  · have quote_free : '"' ∉ first ++ ['\r'] := by
      obtain ⟨blank, rfl | rfl, rfl⟩ := hf <;> decide
    rcases List.append_eq_append_iff.1 cut with ⟨t, rfl, ht⟩ | ⟨t, ht, -⟩
    · cases t with
      | nil => exact .inr (by simpa using quote_free)
      | cons d t =>
        obtain ⟨rfl, later⟩ := List.cons.inj ht
        exact .inl ((List.append_cons_inj_of_notMem plain.no_feed (by simp)).1 later).2.2.symm
    · exact .inr fun quote => quote_free (ht ▸ List.mem_append_left t quote)

/-- A text that is followed by more, and that a quote precedes, is on one line of the header. -/
theorem no_feed_between {u v w : List Char} (header : IsHeader h) (cut : h = u ++ (w ++ v))
    (quote : '"' ∈ u) (more : v ≠ []) : '\n' ∉ w := by
  intro feed
  obtain ⟨a, b, rfl, -⟩ := List.eq_append_cons_of_mem feed
  have here : h = (u ++ a) ++ '\n' :: (b ++ v) := by simp [cut]
  rcases feed_cases header here with nothing | unquoted
  · exact more (List.append_eq_nil_iff.1 nothing).2
  · exact unquoted (List.mem_append_left a quote)

/-- A header ends with a line feed. -/
theorem exists_body (header : IsHeader h) : ∃ body, h = body ++ ['\n'] := by
  obtain ⟨main, -, rfl | ⟨first, -, -, rfl⟩⟩ := header_cases header
  · exact ⟨main, rfl⟩
  · exact ⟨first ++ ['\r'] ++ '\n' :: main, by simp⟩

/-- A phrase on one line occurs in the header or in what follows it. -/
theorem infix_append_iff (header : IsHeader h) {phrase : List Char} (free : '\n' ∉ phrase) :
    phrase <:+: h ++ l ↔ phrase <:+: h ∨ phrase <:+: l := by
  obtain ⟨body, rfl⟩ := exists_body header
  constructor
  · intro within
    rw [List.append_assoc] at within
    exact (Text.infix_append_cons free within).imp_left (·.trans (List.prefix_append ..).isInfix)
  · rintro (within | within)
    · exact within.trans (List.prefix_append ..).isInfix
    · exact within.trans (List.suffix_append ..).isInfix

theorem occursIn_append (header : IsHeader h) {phrase : List Char} (free : '\n' ∉ phrase) :
    Text.occursIn phrase (h ++ l) = (Text.occursIn phrase h || Text.occursIn phrase l) := by
  rw [Bool.eq_iff_iff, Bool.or_eq_true, Text.occursIn_iff, Text.occursIn_iff, Text.occursIn_iff,
    infix_append_iff header free]

-- ---------------------------------------------------------------------------
-- Source lines
-- ---------------------------------------------------------------------------

theorem find?_sourceListing_of_isHeader (header : IsHeader h) : sourceListing.find? h = none := by
  obtain ⟨lines, rfl, plain⟩ := exists_headerLines header
  exact find?_sourceListing_headerLines plain

/-- Behind a header the source line is found that the listing alone has. -/
theorem find?_sourceListing_append (header : IsHeader h) (l : List Char) :
    (sourceListing.find? (h ++ l)).map Match.group? = (sourceListing.find? l).map Match.group? := by
  have ended : h.getLast? = some '\n' := by
    obtain ⟨body, rfl⟩ := exists_body header
    simp
  obtain ⟨lines, rfl, plain⟩ := exists_headerLines header
  refine Pattern.find?_behind_lines rfl ended fun rest => misses_sourceListing (fun line hl => ?_) _ _
  exact ⟨(plain line hl).no_feed, isListed_of_start (plain line hl).no_digit⟩

-- ---------------------------------------------------------------------------
-- Places
-- ---------------------------------------------------------------------------

/-- A place that is read in the text of header and listing ends in the header. -/
def PlaceWithin (h l : List Char) : Prop :=
  ∀ m, stepLocation.find? (h ++ l) = some m → m.start + m.text.length ≤ h.length

theorem stepLocation_asksEnd : stepLocation.expr.asksEnd = false :=
  rfl

/-- A place that ends in the header is the place in the header alone. -/
theorem find?_stepLocation_append (within : PlaceWithin h l) :
    (stepLocation.find? (h ++ l)).map Match.group? = (stepLocation.find? h).map Match.group? :=
  Pattern.find?_append_of_within stepLocation_asksEnd within

/-- The thread and the label of the place in a header are on one line. -/
theorem no_feed_of_picks (header : IsHeader h) (picks : stepLocation.expr.Picks h before x) :
    ∃ thread label, x.group? 3 = some thread ∧ x.group? 4 = some label ∧
      '\n' ∉ thread ∧ '\n' ∉ label := by
  obtain ⟨title, -, thread, label, numbers, text_eq, -, three, four, -⟩ :=
    exists_place (List.mem_of_mem_head? picks.first_eq)
  have whole := picks.text_eq
  rw [text_eq] at whole
  have at_thread : h = (before ++ (title.text ++ " \"thread=".toList)) ++ (thread ++
      ("\", ".toList ++ (label ++ (", line=".toList ++ (numbers ++ x.rest))))) := by
    simp only [← whole, List.append_assoc]
  have at_label : h = (before ++ (title.text ++ (" \"thread=".toList ++ (thread ++ "\", ".toList)))) ++
      (label ++ (", line=".toList ++ (numbers ++ x.rest))) := by
    simp only [← whole, List.append_assoc]
  exact ⟨thread, label, three, four, no_feed_between header at_thread (by simp) (by simp),
    no_feed_between header at_label (by simp) (by simp)⟩

/-- A title has a comma at its end only. -/
theorem title_comma {previous : Option Char} {t a b : List Char}
    (title : x ∈ titleExpr.ways previous t) (cut : x.text = a ++ ',' :: b) : b = [] := by
  have comma : ',' ∈ x.text := by simp [cut]
  rcases text_of_mem_title title with same | same | ⟨v, same, free⟩
  · rw [same] at comma
    exact absurd comma (by decide)
  · rw [same] at comma
    exact absurd comma (by decide)
  · have front_free : ',' ∉ "Method exited: return value = ".toList ++ v := by
      rw [List.mem_append]
      exact not_or.2 ⟨by decide, free⟩
    have ends : ("Method exited: return value = ".toList ++ v) ++ ',' :: [] = a ++ ',' :: b :=
      same.symm.trans cut
    exact ((List.append_cons_inj_of_notMem front_free (by simp)).1 ends).2.2.symm

/-- A place that goes on behind the header takes the end of the header in, and a comma before it, if
the header has a place of its own. -/
theorem exists_taken (header : IsHeader h) (picks : stepLocation.expr.Picks (h ++ l) before x)
    (reaches : h.length < before.length + x.text.length)
    (part : stepLocation.expr.Picks h before₀ y) :
    ∃ taken used, x.text = taken ++ '\n' :: used ∧ ',' ∈ taken := by
  obtain ⟨used, covered, -⟩ := picks.exists_used reaches
  have early : before <+: before₀ := by
    refine List.prefix_of_prefix_length_le ⟨x.text, covered⟩ ?_
      (picks.le_of_append stepLocation_asksEnd part)
    rw [← part.text_eq, List.append_assoc]
    exact List.prefix_append ..
  obtain ⟨skipped, rfl⟩ := early
  have comma : ',' ∈ y.text := by
    obtain ⟨title, -, thread, label, numbers, text_eq, -⟩ :=
      exists_place (List.mem_of_mem_head? part.first_eq)
    simp [text_eq]
  obtain ⟨body, rfl⟩ := exists_body header
  have behind : before ++ (skipped ++ (y.text ++ y.rest)) = body ++ ['\n'] := by
    rw [← List.append_assoc]
    exact part.text_eq
  rcases List.eq_nil_or_concat' (skipped ++ (y.text ++ y.rest)) with nothing | ⟨taken, c, ends⟩
  · simp_all
  · rw [ends, ← List.append_assoc] at behind
    obtain ⟨rfl, feed⟩ := List.append_inj' behind rfl
    obtain rfl := (List.cons.inj feed).1
    refine ⟨taken, used, ?_, ?_⟩
    · simpa using covered
    · have listed : ',' ∈ taken ++ ['\n'] := by
        rw [← ends]
        simp [comma]
      simpa using listed

/-- A place that goes on behind the header has a line feed in its thread or in its label, if the
header has a place of its own. -/
theorem feed_of_reaching (header : IsHeader h) (picks : stepLocation.expr.Picks (h ++ l) before x)
    (reaches : h.length < before.length + x.text.length)
    (part : stepLocation.expr.Picks h before₀ y) :
    ∃ thread label, x.group? 3 = some thread ∧ x.group? 4 = some label ∧
      ('\n' ∈ thread ∨ '\n' ∈ label) := by
  obtain ⟨taken, used, x_text, comma⟩ := exists_taken header picks reaches part
  obtain ⟨title, htitle, thread, label, numbers, text_eq, numbers_free, three, four, -⟩ :=
    exists_place (List.mem_of_mem_head? picks.first_eq)
  refine ⟨thread, label, three, four, ?_⟩
  by_contra free
  obtain ⟨thread_free, label_free⟩ := not_or.1 free
  have behind_free : '\n' ∉ " \"thread=".toList ++ (thread ++ ("\", ".toList ++
      (label ++ (", line=".toList ++ numbers)))) := by
    simp [thread_free, label_free, numbers_free]
  generalize " \"thread=".toList ++ (thread ++ ("\", ".toList ++
    (label ++ (", line=".toList ++ numbers)))) = behind at text_eq behind_free
  -- So the line feed is in the title, behind the comma that is at its end.
  rcases List.append_eq_append_iff.1 (x_text.symm.trans text_eq) with
    ⟨t, title_eq, feed⟩ | ⟨t, -, feed⟩
  · cases t with
    | nil =>
      obtain rfl : '\n' :: used = behind := feed
      exact behind_free (.head _)
    | cons d t =>
      obtain ⟨rfl, -⟩ := List.cons.inj feed
      obtain ⟨a, b, rfl, -⟩ := List.eq_append_cons_of_mem comma
      rw [List.append_assoc, List.cons_append] at title_eq
      simpa using title_comma htitle title_eq
  · exact behind_free (by simp [feed])

/-- What ends a place and is on one line stands in the listing, if the place goes on there. -/
theorem infix_of_reaching (header : IsHeader h) (picks : stepLocation.expr.Picks (h ++ l) before x)
    (reaches : h.length < before.length + x.text.length) : "(), line=".toList <:+: l := by
  obtain ⟨used, covered, rfl⟩ := picks.exists_used reaches
  obtain ⟨title, -, thread, label, numbers, text_eq, numbers_free, -, -, className, method, rfl, -⟩ :=
    exists_place (List.mem_of_mem_head? picks.first_eq)
  have ending : "(), line=".toList = "()".toList ++ ", line=".toList := by decide
  have ends : "(), line=".toList ++ numbers <:+ before ++ x.text := by
    refine List.IsSuffix.trans ?_ (List.suffix_append before x.text)
    rw [text_eq, ending]
    exact ⟨title.text ++ (" \"thread=".toList ++ (thread ++ ("\", ".toList ++
      (className ++ '.' :: method)))), by simp only [List.append_assoc, List.cons_append]⟩
  have free : '\n' ∉ "(), line=".toList ++ numbers := by
    rw [List.mem_append]
    exact not_or.2 ⟨by decide, numbers_free⟩
  obtain ⟨body, rfl⟩ := exists_body header
  rw [covered, List.append_assoc] at ends
  have behind : '\n' :: used <:+ body ++ (['\n'] ++ used) := List.suffix_append body _
  rcases List.suffix_or_suffix_of_suffix ends behind with within | around
  · rcases List.suffix_cons_iff.1 within with same | within
    · exact absurd (same ▸ .head _) free
    · exact ((List.prefix_append ..).isInfix.trans within.isInfix).trans (List.prefix_append ..).isInfix
  · exact absurd (around.subset (.head _)) free

-- ---------------------------------------------------------------------------
-- Events
-- ---------------------------------------------------------------------------

variable {e : StepEvent} {t u : List Char} {m : Match}

/-- The event at a place with these groups. -/
def atPlace (groups : Nat → Option (List Char)) (entered : Bool) : StepEvent where
  kind := if (groups 2).isSome then .methodExit else if entered then .methodEntry else .step
  returned := (groups 2).map Value.read
  thread := (groups 3).map String.ofList
  label := (groups 4).map String.ofList
  method := (groups 5).map fun s => String.ofList (s.dropWhile (· = '.'))
  line := (groups 6).bind number?
  bci := (groups 7).bind number?

theorem ofHeader_of_some (found : stepLocation.find? t = some m) :
    ofHeader t false = atPlace m.group? (Text.occursIn methodEnteredMarker.toList t) := by
  simp [ofHeader, found, atPlace]

theorem ofHeader_of_none (absent : stepLocation.find? t = none) : ofHeader t false = {} := by
  simp [ofHeader, absent]

/-- A method entry counts unless a value is returned. -/
theorem atPlace_kind_iff {groups : Nat → Option (List Char)} {entered entered' : Bool} :
    (atPlace groups entered).kind = (atPlace groups entered').kind ↔
      (groups 2).isSome = true ∨ entered = entered' := by
  simp only [atPlace]
  cases (groups 2).isSome <;> cases entered <;> cases entered' <;> simp

theorem atPlace_congr {groups : Nat → Option (List Char)} {entered entered' : Bool}
    (same : (groups 2).isSome = true ∨ entered = entered') :
    atPlace groups entered = atPlace groups entered' := by
  have kind := atPlace_kind_iff.2 same
  simp only [atPlace] at kind ⊢
  rw [kind]

/-- Texts with the same source line change an event alike. -/
theorem withListing_congr (e : StepEvent)
    (same : (sourceListing.find? t).map Match.group? = (sourceListing.find? u).map Match.group?) :
    e.withListing t = e.withListing u := by
  cases ht : sourceListing.find? t <;> cases hu : sourceListing.find? u <;>
    simp only [ht, hu, Option.map_none, Option.map_some, reduceCtorEq, Option.some.injEq] at same
  · rw [withListing_of_none ht, withListing_of_none hu]
  · simp only [withListing, ht, hu, same]

theorem ofHeader?_append (header : IsHeader h) (l : List Char) :
    ofHeader? (h ++ l) =
      if Text.occursIn exceptionMarker.toList h || Text.occursIn exceptionMarker.toList l then none
      else some ((ofHeader (h ++ l) false).withListing l) := by
  rw [ofHeader?, ofOutput?, withListing_of_none find?_sourceListing_nil,
    withListing_congr _ (find?_sourceListing_append header l), occursIn_append header (by decide)]

theorem ofOutput?_of_isHeader (header : IsHeader h) (l : List Char) :
    ofOutput? h l false =
      if Text.occursIn exceptionMarker.toList h then none
      else some ((ofHeader h false).withListing l) := by
  rw [ofOutput?, withListing_of_none (find?_sourceListing_of_isHeader header)]

/-- A place that goes on behind the header is another one than the place in the header. -/
theorem placeWithin_of_eq (header : IsHeader h)
    (thread : (ofHeader (h ++ l) false).thread = (ofHeader h false).thread)
    (label : (ofHeader (h ++ l) false).label = (ofHeader h false).label) : PlaceWithin h l := by
  intro m joined
  by_contra reaches
  obtain ⟨before, x, picks, rfl⟩ := Pattern.exists_picks_of_find? joined
  rw [ofHeader_of_some joined] at thread label
  cases alone : stepLocation.find? h with
  | none =>
    obtain ⟨_, _, _, -, four, -⟩ := groups_of_find?_stepLocation joined
    rw [ofHeader_of_none alone] at label
    simp [atPlace, four] at label
  | some m₀ =>
    obtain ⟨before₀, y, part, rfl⟩ := Pattern.exists_picks_of_find? alone
    obtain ⟨thread₁, label₁, three, four, feed⟩ :=
      feed_of_reaching header picks (Nat.lt_of_not_le reaches) part
    obtain ⟨thread₀, label₀, three₀, four₀, thread_free, label_free⟩ := no_feed_of_picks header part
    rw [ofHeader_of_some alone] at thread label
    have same_thread : x.group? 3 = y.group? 3 :=
      Option.map_injective (fun _ _ => String.ofList_injective) thread
    have same_label : x.group? 4 = y.group? 4 :=
      Option.map_injective (fun _ _ => String.ofList_injective) label
    rw [three, three₀] at same_thread
    rw [four, four₀] at same_label
    obtain rfl := Option.some.inj same_thread
    obtain rfl := Option.some.inj same_label
    exact feed.elim thread_free label_free

/-- What the listing may say about a method entry: nothing that the header does not say, unless the
header has no place or returns a value. -/
def EntryWithin (h l : List Char) : Prop :=
  methodEnteredMarker.toList <:+: l → methodEnteredMarker.toList <:+: h ∨
    ∀ m, stepLocation.find? h = some m → (m.group? 2).isSome = true

theorem occursIn_append_eq_iff (header : IsHeader h) :
    Text.occursIn methodEnteredMarker.toList (h ++ l) = Text.occursIn methodEnteredMarker.toList h ↔
      (methodEnteredMarker.toList <:+: l → methodEnteredMarker.toList <:+: h) := by
  rw [occursIn_append header (by decide), ← Text.occursIn_iff, ← Text.occursIn_iff]
  cases Text.occursIn methodEnteredMarker.toList h <;> simp

/-- The place of a header and that of header and listing are read alike. -/
theorem ofHeader_append_iff (header : IsHeader h) :
    (ofHeader (h ++ l) false).withListing l = (ofHeader h false).withListing l ↔
      PlaceWithin h l ∧ EntryWithin h l := by
  constructor
  · intro same
    have thread := congrArg StepEvent.thread same
    have label := congrArg StepEvent.label same
    have kind := congrArg StepEvent.kind same
    simp only [withListing_thread, withListing_label, withListing_kind] at thread label kind
    have within := placeWithin_of_eq header thread label
    have places := find?_stepLocation_append within
    refine ⟨within, fun entered => or_iff_not_imp_left.2 fun absent m alone => ?_⟩
    rw [alone] at places
    obtain ⟨m', joined, groups⟩ := Option.map_eq_some_iff.1 places
    rw [ofHeader_of_some joined, ofHeader_of_some alone, groups, atPlace_kind_iff,
      occursIn_append_eq_iff header] at kind
    exact kind.resolve_right fun only => absent (only entered)
  · rintro ⟨within, entry⟩
    have places := find?_stepLocation_append within
    cases alone : stepLocation.find? h with
    | none =>
      rw [alone, Option.map_none, Option.map_eq_none_iff] at places
      rw [ofHeader_of_none places, ofHeader_of_none alone]
    | some m =>
      rw [alone] at places
      obtain ⟨m', joined, groups⟩ := Option.map_eq_some_iff.1 places
      rw [ofHeader_of_some joined, ofHeader_of_some alone, groups]
      refine congrArg (withListing · l) (atPlace_congr ?_)
      rw [occursIn_append_eq_iff header]
      exact or_iff_not_imp_left.2 fun valueless entered =>
        (entry entered).resolve_right fun value => valueless (value m alone)

-- ---------------------------------------------------------------------------
-- Both readings
-- ---------------------------------------------------------------------------

/-- A header and a listing are read alike in one text and in two parts exactly if the header
announces an exception, or the listing announces none, the place read in the text ends in the header,
and the listing does not make a step a method entry. So they are if the listing has neither
announcement and nothing that could end a place. -/
theorem ofHeader?_append_eq_iff (whole : (stepHeader.find? h).map Match.text = some h)
    (l : List Char) :
    (ofHeader? (h ++ l) = ofOutput? h l false ↔
      exceptionMarker.toList <:+: h ∨
        (¬ exceptionMarker.toList <:+: l ∧ PlaceWithin h l ∧ EntryWithin h l)) ∧
    ((∀ phrase ∈ [exceptionMarker, methodEnteredMarker, "(), line="], ¬ phrase.toList <:+: l) →
      ofHeader? (h ++ l) = ofOutput? h l false) := by
  have header := isHeader_of_whole whole
  have exactly : ofHeader? (h ++ l) = ofOutput? h l false ↔
      exceptionMarker.toList <:+: h ∨
        (¬ exceptionMarker.toList <:+: l ∧ PlaceWithin h l ∧ EntryWithin h l) := by
    rw [ofHeader?_append header, ofOutput?_of_isHeader header, ← ofHeader_append_iff header,
      ← Text.occursIn_iff, ← Text.occursIn_iff]
    cases Text.occursIn exceptionMarker.toList h <;>
      cases Text.occursIn exceptionMarker.toList l <;> simp
  refine ⟨exactly, fun free => exactly.2 (.inr ⟨free _ (by simp), ?_, ?_⟩)⟩
  · intro m joined
    by_contra reaches
    obtain ⟨before, x, picks, rfl⟩ := Pattern.exists_picks_of_find? joined
    exact free _ (by simp) (infix_of_reaching header picks (Nat.lt_of_not_le reaches))
  · exact fun entered => absurd entered (free _ (by simp))

/-- A source line with parentheses, an equals sign and a point. -/
theorem read_joined_source :
    let h := "Step completed: \"thread=main\", A.f(), line=3 bci=0\r\n".toList
    let l := "3    \t  int line= B.g(), i = 0;\r\n".toList
    (stepHeader.find? h).map Match.text = some h ∧
      (∀ phrase ∈ [exceptionMarker, methodEnteredMarker, "(), line="], ¬ phrase.toList <:+: l) ∧
      ofHeader? (h ++ l) = ofOutput? h l false := by
  intro h l
  have whole : (stepHeader.find? h).map Match.text = some h := by decide +kernel
  have free : ∀ phrase ∈ [exceptionMarker, methodEnteredMarker, "(), line="],
      ¬ phrase.toList <:+: l := by decide +kernel
  exact ⟨whole, free, (ofHeader?_append_eq_iff whole l).2 free⟩

/-- Three source lines that print parts of a header: in one text with the header the first one makes
the event an exception, the second one makes it a method entry, and the third one moves its label. -/
theorem misread_joined_source :
    let h := "Step completed: \"thread=main\", A.f(), line=3 bci=0\r\n".toList
    let raised := "3    \t  log(\"Exception occurred:\");\r\n".toList
    let entered := "3    \t  log(\"Method entered:\");\r\n".toList
    let placed := "3    \t  log(\"a.b(), line=4 bci=5\");\r\n".toList
    (stepHeader.find? h).map Match.text = some h ∧
      ((ofHeader? (h ++ raised)).isSome = false ∧
        (ofOutput? h raised false).map StepEvent.kind = some .step) ∧
      ((ofHeader? (h ++ entered)).map StepEvent.kind = some .methodEntry ∧
        (ofOutput? h entered false).map StepEvent.kind = some .step) ∧
      ((ofHeader? (h ++ placed)).map StepEvent.label =
          some (some "A.f(), line=3 bci=0\r\n3    \t  log(\"a.b()") ∧
        (ofOutput? h placed false).map StepEvent.label = some (some "A.f()")) := by
  decide +kernel

end Retrace.StepEvent
