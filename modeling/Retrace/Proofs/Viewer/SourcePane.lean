import Retrace.Proofs.Viewer.Navigation

/-!
# The source pane of several files

All files share one window, which a drawing moves only if the current line is in the file that is
drawn. So the pane of a file without the current line is blank exactly if the last drawing that moved
the window left it behind the end of this file, in a longer one.
-/

namespace Retrace.Viewer

variable {v : Viewer} {source : String} {events : List Event} {height : Nat}

-- ---------------------------------------------------------------------------
-- What the pane shows
-- ---------------------------------------------------------------------------

/-- The lines inside the border of a box of some height. -/
def Box.inside (box : Box) (height : Nat) : List StyledLine :=
  (box.lines ++ List.replicate (height - 2) []).take (height - 2)

/-- What stands inside the border of the source pane on a screen of some height. -/
def sourcePane (v : Viewer) (height : Nat) : List StyledLine :=
  (v.sourceBox (height - 1)).1.inside (height - 1)

/-- The pane shows some line of the source. -/
def ShowsLine (v : Viewer) (source : String) (height : Nat) : Prop :=
  ∃ n text, (Text.lines source.toList)[n]? = some text ∧
    (v.listing (some source)).numbered (n + 1) text ∈ v.sourcePane height

/-- The current line is in the source, so that the window is moved to it. -/
def Follows (v : Viewer) : Prop :=
  ∃ source line, v.currentSource.1 = some source ∧
    v.current?.bind (·.event.line) = some line ∧
    1 ≤ line ∧ line ≤ (Text.lines source.toList).length

theorem Listing.numbered_ne_nil (listing : Listing) (n : Nat) (text : List Char) :
    listing.numbered n text ≠ [] := by
  unfold Listing.numbered
  split <;> simp

theorem Box.mem_inside_iff {box : Box} {line : StyledLine} (h : line ≠ [])
    (fits : box.lines.length ≤ height - 2) : line ∈ box.inside height ↔ line ∈ box.lines := by
  rw [Box.inside, List.take_append, List.take_of_length_le fits, List.mem_append]
  constructor
  · rintro (found | blank)
    · exact found
    · exact absurd (List.eq_of_mem_replicate (List.mem_of_mem_take blank)) h
  · exact .inl

theorem Box.length_inside (box : Box) (height : Nat) : (box.inside height).length = height - 2 := by
  simp [Box.inside]

theorem Box.length_rows (box : Box) (width : Nat) (room : 2 ≤ height) :
    (box.rows width height).length = height := by
  have inside := box.length_inside height
  unfold Box.inside at inside
  simp only [Box.rows, List.length_map, List.length_take, List.length_append, List.length_cons,
    inside, List.length_nil]
  omega

/-- The row of a box that shows a line between its borders. -/
def Box.row (box : Box) (width : Nat) (line : StyledLine) : Row :=
  let side : Cell := { text := ['│'], style := box.border }
  (side :: Row.ofLine {} (width - 2) .left line ++ [side]).take width

/-- The lines inside a box are its rows below the upper border. -/
theorem Box.getElem?_rows {box : Box} {line : StyledLine} {n : Nat} (width : Nat)
    (shown : (box.inside height)[n]? = some line) :
    (box.rows width height)[n + 1]? = some (box.row width line) := by
  have below : n < height - 2 := by
    obtain ⟨inside, -⟩ := List.getElem?_eq_some_iff.1 shown
    rwa [box.length_inside] at inside
  have rows : (box.rows width height)[n + 1]? = (box.inside height)[n]?.map (box.row width) := by
    unfold Box.rows Box.row
    dsimp only
    rw [List.getElem?_map, List.getElem?_take_of_lt (by omega), List.cons_append,
      List.getElem?_cons_succ, List.getElem?_append_left, List.getElem?_map, Option.map_map]
    · rfl
    · rw [List.length_map]
      exact (box.length_inside height).symm ▸ below
  rw [rows, shown]
  rfl

/-- The rows of the screen begin with those of the source pane. -/
theorem draw_row (v : Viewer) (width : Nat) {n : Nat} {line : StyledLine}
    (shown : (v.sourcePane height)[n]? = some line) :
    ∃ right, (v.draw width height).1[n + 1]? =
      some (Row.shown ((v.sourceBox (height - 1)).1.row (width * 6 / 10) line ++ right)) := by
  have below : n < height - 1 - 2 := by
    obtain ⟨inside, -⟩ := List.getElem?_eq_some_iff.1 shown
    rwa [sourcePane, Box.length_inside] at inside
  have left := Box.getElem?_rows (width * 6 / 10) shown
  have left_long : ((v.sourceBox (height - 1)).1.rows (width * 6 / 10) (height - 1)).length =
      height - 1 :=
    Box.length_rows _ _ (by omega)
  generalize beside : ((v.sourceBox (height - 1)).2.frameBox (height - 1)).1.rows
    (width - width * 6 / 10) (height - 1) = frame
  have frame_long : frame.length = height - 1 := by
    rw [← beside, Box.length_rows _ _ (by omega)]
  have whole : 1 - height = 0 := by omega
  have inside : n + 1 < frame.length := by omega
  refine ⟨frame[n + 1], ?_⟩
  unfold draw
  dsimp only
  rw [beside, whole, List.drop_zero, List.getElem?_map, List.getElem?_append_left,
    List.getElem?_zipWith, left, List.getElem?_eq_getElem inside]
  · rfl
  · rw [List.length_zipWith, left_long, frame_long]
    omega

theorem visibleLines_of_room (room : 4 ≤ height) : visibleLines (height - 1) = height - 3 := by
  unfold visibleLines
  omega

/-- Where the window stands when a source is drawn. -/
def windowOffset (v : Viewer) (height : Nat) : Nat :=
  (v.sourceBox (height - 1)).2.scroll.offset

/-- The pane begins with the first line behind the offset of the window, if there is one, and is blank
otherwise. -/
theorem sourcePane_of_offset (room : 4 ≤ height) (found : v.currentSource.1 = some source) :
    (v.windowOffset height < (Text.lines source.toList).length → v.ShowsLine source height) ∧
      ((Text.lines source.toList).length ≤ v.windowOffset height →
        ∀ line ∈ v.sourcePane height, line = []) := by
  obtain ⟨lines, scroll⟩ := v.sourceBox_eq (height - 1)
  rw [found] at lines scroll
  have visible := visibleLines_of_room room
  have offset : v.windowOffset height =
      ((v.listing (some source)).lines (height - 1) v.scroll).2.offset := by
    rw [windowOffset, scroll]
  have count : (v.sourceBox (height - 1)).1.lines.length =
      min (height - 3) ((Text.lines source.toList).length - v.windowOffset height) := by
    rw [lines, Listing.length_lines rfl, visible, offset]
  have fits : (v.sourceBox (height - 1)).1.lines.length ≤ height - 1 - 2 := by omega
  constructor
  · intro inside
    have listed : (v.listing (some source)).source = some (Text.lines source.toList) := rfl
    have top : 0 < visibleLines (height - 1) := visibleLines_pos _
    have first := Listing.getElem?_lines listed (height - 1) v.scroll top
    simp only [← lines, ← offset, Nat.add_zero, List.getElem?_eq_getElem inside,
      Option.map_some] at first
    refine ⟨_, _, List.getElem?_eq_getElem inside, ?_⟩
    exact (Box.mem_inside_iff (Listing.numbered_ne_nil _ _ _) fits).2 (List.mem_of_getElem? first)
  · intro beyond line shown
    by_contra nonempty
    have drawn := (Box.mem_inside_iff nonempty fits).1 shown
    have empty : (v.sourceBox (height - 1)).1.lines = [] :=
      List.eq_nil_of_length_eq_zero (by omega)
    simp [empty] at drawn

-- ---------------------------------------------------------------------------
-- What moves the window
-- ---------------------------------------------------------------------------

theorem windowOffset_eq (v : Viewer) (width height : Nat) :
    (v.draw width height).2.scroll.offset = v.windowOffset height :=
  rfl

/-- A drawing moves the window to a line of the file, and does not move it without one. -/
theorem windowOffset_of_follows (follows : v.Follows) (height : Nat) :
    ∃ source, v.currentSource.1 = some source ∧
      v.windowOffset height < (Text.lines source.toList).length := by
  obtain ⟨source, line, found, current, inside⟩ := follows
  refine ⟨source, found, ?_⟩
  obtain ⟨-, scroll⟩ := v.sourceBox_eq (height - 1)
  have listed : (v.listing (some source)).source = some (Text.lines source.toList) := rfl
  obtain ⟨shows, -⟩ := Listing.lines_show listed current inside (height - 1) v.scroll
  rw [windowOffset, scroll, found]
  exact Nat.lt_of_lt_of_le shows.after_start inside.2

@[inherit_doc windowOffset_of_follows]
theorem windowOffset_of_not_follows (h : ¬ v.Follows) (height : Nat) :
    v.windowOffset height = v.scroll.offset := by
  obtain ⟨-, scroll⟩ := v.sourceBox_eq (height - 1)
  rw [windowOffset, scroll]
  cases found : v.currentSource.1 with
  | none => rfl
  | some source =>
    rw [Listing.lines_snd rfl]
    refine if_neg fun inside => h ?_
    cases current : v.current?.bind (·.event.line) with
    | none => simp [listing, current] at inside
    | some line => exact ⟨source, line, found, current, by simpa [listing, current] using inside⟩

theorem Pressed.offset {w : Viewer} (h : Pressed v w) : w.scroll.offset = v.scroll.offset := by
  cases h with
  | goes => rfl
  | stays _ _ offset => exact offset

/-- No drawing among the events moves the window. -/
def NeverFollows (v : Viewer) (events : List Event) : Prop :=
  ∀ earlier width height later, events = earlier ++ .draw width height :: later →
    ¬ (v.after earlier).Follows

/-- Among the events, the drawing behind the earlier ones is the last that moves the window. -/
def LastFollows (v : Viewer) (events earlier : List Event) (width height : Nat) : Prop :=
  ∃ later, events = earlier ++ .draw width height :: later ∧ (v.after earlier).Follows ∧
    NeverFollows ((v.after earlier).draw width height).2 later

theorem neverFollows_cons {event : Event} (first : ∀ width height, event = .draw width height →
    ¬ v.Follows) (later : NeverFollows (v.happen event) events) :
    NeverFollows v (event :: events) := by
  intro earlier width height rest cut
  cases earlier with
  | nil => exact first width height (List.cons.inj cut).1
  | cons event' earlier =>
    obtain ⟨rfl, others⟩ := List.cons.inj cut
    exact later earlier width height rest others

theorem NeverFollows.tail {event : Event} (h : NeverFollows v (event :: events)) :
    NeverFollows (v.happen event) events := by
  intro earlier width height rest cut
  exact h (event :: earlier) width height rest (by rw [cut, List.cons_append])

/-- Without such a drawing the window stays where it is. -/
theorem NeverFollows.offset (h : NeverFollows v events) :
    (v.after events).scroll.offset = v.scroll.offset := by
  induction events generalizing v with
  | nil => rfl
  | cons event events ih =>
    rw [after_cons, ih h.tail]
    cases event with
    | press now key => exact (v.pressed_press now key).offset
    | draw width height =>
      rw [happen_draw, windowOffset_eq]
      exact windowOffset_of_not_follows (h [] width height events rfl) height

/-- Either no drawing moves the window, or one of them is the last that does. -/
theorem never_or_last (v : Viewer) (events : List Event) :
    NeverFollows v events ∨ ∃ earlier width height, LastFollows v events earlier width height := by
  induction events generalizing v with
  | nil => exact .inl fun earlier width height later cut => by simp at cut
  | cons event events ih =>
    rcases ih (v.happen event) with never | ⟨earlier, width, height, later, cut, follows, never⟩
    · by_cases first : ∃ width height, event = .draw width height ∧ v.Follows
      · obtain ⟨width, height, rfl, follows⟩ := first
        exact .inr ⟨[], width, height, events, rfl, follows, never⟩
      · refine .inl (neverFollows_cons (fun width height drawn follows => ?_) never)
        exact first ⟨width, height, drawn, follows⟩
    · refine .inr ⟨event :: earlier, width, height, later, ?_, follows, never⟩
      rw [cut, List.cons_append]

/-- The window stands where the last drawing that moved it has left it. -/
theorem LastFollows.offset {earlier : List Event} {width height : Nat}
    (h : LastFollows v events earlier width height) :
    (v.after events).scroll.offset = (v.after earlier).windowOffset height := by
  obtain ⟨later, rfl, -, never⟩ := h
  rw [after_append, after_cons, ← windowOffset_eq _ width]
  exact never.offset

-- ---------------------------------------------------------------------------
-- Blank panes
-- ---------------------------------------------------------------------------

/-- The last drawing that moved the window left it behind the end of a file of `total` lines, in another
file, which is longer. -/
def LeftBehind (v : Viewer) (events : List Event) (total : Nat) : Prop :=
  ∃ earlier width height longer, LastFollows v events earlier width height ∧
    (v.after earlier).currentSource.1 = some longer ∧
    total < (Text.lines longer.toList).length ∧ total ≤ (v.after earlier).windowOffset height

theorem leftBehind_iff (start : v.scroll.offset = 0) {total : Nat} (positive : 0 < total) :
    LeftBehind v events total ↔ total ≤ (v.after events).scroll.offset := by
  constructor
  · rintro ⟨earlier, width, height, longer, last, -, -, beyond⟩
    rwa [last.offset]
  · intro beyond
    rcases never_or_last v events with never | ⟨earlier, width, height, last⟩
    · rw [never.offset, start] at beyond
      omega
    · rw [last.offset] at beyond
      obtain ⟨later, -, follows, -⟩ := id last
      obtain ⟨longer, found, inside⟩ := windowOffset_of_follows follows height
      exact ⟨earlier, width, height, longer, last, found, by omega, beyond⟩

/-- After any keys and drawings, the pane of a source with a line is blank exactly if the step on the
screen has no line in it and the window was left behind its end; otherwise it shows a line of it. -/
theorem source_pane_blank_iff (trace : ProgramTrace) (sources : Sources) (events : List Event)
    (height : Nat) {source : String} (room : 4 ≤ height)
    (found : ((ofTrace trace sources).after events).currentSource.1 = some source)
    (nonempty : Text.lines source.toList ≠ []) :
    let v := (ofTrace trace sources).after events
    let behind := ¬ v.Follows ∧
      LeftBehind (ofTrace trace sources) events (Text.lines source.toList).length
    ((∀ line ∈ v.sourcePane height, line = []) ↔ behind) ∧
      (v.ShowsLine source height ↔ ¬ behind) := by
  intro v behind
  have positive := List.length_pos_iff.2 nonempty
  obtain ⟨shows, blank⟩ := sourcePane_of_offset room found
  have offset : (Text.lines source.toList).length ≤ v.windowOffset height ↔ behind := by
    by_cases follows : v.Follows
    · obtain ⟨source', found', inside⟩ := windowOffset_of_follows follows height
      obtain rfl : source' = source := Option.some.inj (found'.symm.trans found)
      exact ⟨fun beyond => absurd inside (Nat.not_lt.2 beyond), fun h => absurd follows h.1⟩
    · rw [windowOffset_of_not_follows follows height]
      have left : LeftBehind (ofTrace trace sources) events (Text.lines source.toList).length ↔
          (Text.lines source.toList).length ≤ v.scroll.offset := leftBehind_iff rfl positive
      exact ⟨fun beyond => ⟨follows, left.2 beyond⟩, fun h => left.1 h.2⟩
  have apart : ¬ (v.ShowsLine source height ∧ ∀ line ∈ v.sourcePane height, line = []) := by
    rintro ⟨⟨n, text, -, shown⟩, blank⟩
    exact Listing.numbered_ne_nil _ _ _ (blank _ shown)
  by_cases beyond : (Text.lines source.toList).length ≤ v.windowOffset height
  · have empty := blank beyond
    have left := offset.1 beyond
    exact ⟨⟨fun _ => left, fun _ => empty⟩,
      ⟨fun shown => absurd ⟨shown, empty⟩ apart, fun h => absurd left h⟩⟩
  · have shown := shows (Nat.lt_of_not_le beyond)
    have here : ¬ behind := fun h => beyond (offset.2 h)
    exact ⟨⟨fun empty => absurd ⟨shown, empty⟩ apart, fun h => absurd h here⟩,
      ⟨fun _ => here, fun _ => shown⟩⟩

/-- A step at the end of a file of nine lines, and one without a line in a file of one line. -/
def nineThenOne : ProgramTrace where
  steps := [{ event := { label := some "Long.main()", line := some 9 } },
    { event := { label := some "Short.main()" } }]

def nineAndOne : Sources :=
  (Sources.provide {} "Long" "a\nb\nc\nd\ne\nf\ng\nh\ni\n").provide "Short" "x\n"

/-- The first step is drawn, and the second one is next. -/
def overTheEnd : List Event :=
  [.draw 40 6, .press 0 .right]

/-- The window stays behind six lines, and the only line of the file is not shown. -/
theorem source_pane_blank_nineThenOne :
    let v := (ofTrace nineThenOne nineAndOne).after overTheEnd
    v.currentSource.1 = some "x\n" ∧ (v.draw 40 6).2.scroll.offset = 6 ∧
      (∀ line ∈ v.sourcePane 6, line = []) ∧ ¬ v.ShowsLine "x\n" 6 ∧ ¬ v.Follows ∧
      LeftBehind (ofTrace nineThenOne nineAndOne) overTheEnd 1 := by
  intro v
  have found : v.currentSource.1 = some "x\n" := by decide +kernel
  have one : (Text.lines "x\n".toList).length = 1 := by decide
  obtain ⟨blank, shows⟩ := source_pane_blank_iff nineThenOne nineAndOne overTheEnd 6 (by decide)
    found (by decide)
  rw [one] at blank shows
  have empty : ∀ line ∈ v.sourcePane 6, line = [] := by decide +kernel
  have behind := blank.1 empty
  exact ⟨found, by decide +kernel, empty, fun shown => shows.1 shown behind, behind.1, behind.2⟩

end Retrace.Viewer
