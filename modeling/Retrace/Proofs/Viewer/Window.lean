import Retrace.Viewer.Drawing

/-!
# The window on the source

Keys may ask for any row and the screen may change its size: once the source is drawn, its window
holds the current line, does not reach beyond the end of the file, and remembers a row that it has.
-/

namespace Retrace.Viewer

-- ---------------------------------------------------------------------------
-- The window
-- ---------------------------------------------------------------------------

/-- A window of `visible` lines on a file of `total` lines holds a line of it, counted from one. -/
structure Scroll.Shows (scroll : Scroll) (visible total line : Nat) : Prop where
  after_start : scroll.offset < line
  before_end : line ≤ scroll.offset + visible
  /-- A window that is smaller than the file ends in it. -/
  inside : visible < total → scroll.offset + visible ≤ total
  /-- A window that is not begins with it. -/
  whole : total ≤ visible → scroll.offset = 0
  row_lt : ∃ row, scroll.row = some row ∧ row < visible

theorem visibleLines_pos (height : Nat) : 0 < visibleLines height := by
  unfold visibleLines
  omega

theorem Scroll.rowIn_lt (scroll : Scroll) {visible : Nat} (positive : 0 < visible) :
    scroll.rowIn visible < visible := by
  unfold rowIn
  omega

/-- Wherever it stood before, a window that follows a line of the file holds it. -/
theorem Scroll.shows_follow (scroll : Scroll) {visible total line : Nat} (positive : 0 < visible)
    (inside : 1 ≤ line ∧ line ≤ total) :
    (scroll.follow visible total line).Shows visible total line := by
  have row := scroll.rowIn_lt positive
  by_cases fits : visible < total
  · have offset : (scroll.follow visible total line).offset =
        min (line - 1 - scroll.rowIn visible) (total - visible) := by
      rw [follow, if_pos inside, if_pos fits]
    exact ⟨by omega, by omega, fun _ => by omega, fun _ => by omega, _, rfl, row⟩
  · have offset : (scroll.follow visible total line).offset = 0 := by
      rw [follow, if_pos inside, if_neg fits]
    exact ⟨by omega, by omega, fun _ => by omega, fun _ => offset, _, rfl, row⟩

-- ---------------------------------------------------------------------------
-- The lines
-- ---------------------------------------------------------------------------

namespace Listing

variable {listing : Listing} {source : List (List Char)} {line : Nat}

theorem lines_snd (found : listing.source = some source) (height : Nat) (scroll : Scroll) :
    (listing.lines height scroll).2 =
      scroll.follow (visibleLines height) source.length (listing.line.getD 0) := by
  simp only [lines, found]

theorem getElem?_lines (found : listing.source = some source) (height : Nat) (scroll : Scroll)
    {row : Nat} (visible : row < visibleLines height) :
    (listing.lines height scroll).1[row]? =
      source[(listing.lines height scroll).2.offset + row]?.map
        (listing.numbered ((listing.lines height scroll).2.offset + row + 1)) := by
  simp only [lines, found, List.getElem?_map, List.getElem?_take_of_lt visible, List.getElem?_drop,
    List.getElem?_zipIdx, Option.map_map]
  congr 1
  funext text
  simp [Nat.add_comm 1]

theorem length_lines (found : listing.source = some source) (height : Nat) (scroll : Scroll) :
    (listing.lines height scroll).1.length =
      min (visibleLines height) (source.length - (listing.lines height scroll).2.offset) := by
  simp [lines, found]

/-- The listing holds the current line, and has no blank line before the end of the file. -/
theorem lines_show (found : listing.source = some source) (current : listing.line = some line)
    (inside : 1 ≤ line ∧ line ≤ source.length) (height : Nat) (scroll : Scroll) :
    let drawn := listing.lines height scroll
    drawn.2.Shows (visibleLines height) source.length line ∧
      drawn.1.length = min (visibleLines height) source.length ∧
      ∃ text, source[line - 1]? = some text ∧
        drawn.1[line - 1 - drawn.2.offset]? = some (listing.numbered line text) := by
  intro drawn
  have shows : drawn.2.Shows (visibleLines height) source.length line := by
    rw [lines_snd found, current]
    exact scroll.shows_follow (visibleLines_pos height) inside
  have ⟨start, finish, ends, whole, _⟩ := shows
  refine ⟨shows, ?_, source[line - 1], List.getElem?_eq_getElem _, ?_⟩
  · have length : drawn.1.length = min (visibleLines height) (source.length - drawn.2.offset) :=
      length_lines found height scroll
    omega
  · have place : drawn.2.offset + (line - 1 - drawn.2.offset) = line - 1 := by omega
    rw [getElem?_lines found height scroll (by omega), place, List.getElem?_eq_getElem (by omega),
      Nat.sub_add_cancel inside.1]
    rfl

end Listing

-- ---------------------------------------------------------------------------
-- The viewer
-- ---------------------------------------------------------------------------

/-- What happens to a viewer: a key is pressed at some time, or the screen is drawn in some size. -/
inductive Event where
  | press (now : Nat) (key : Key)
  | draw (width height : Nat)

/-- The viewer after what happens to it. Keys count with an arithmetic. -/
def happenIn {m : Type → Type} [Monad m] (arith : Arithmetic m) (v : Viewer) : Event → m Viewer
  | .press now key => v.pressIn arith now key
  | .draw width height => return (v.draw width height).2

/-- The viewer after what happens to it, with numbers of any size. -/
def happen (v : Viewer) (event : Event) : Viewer :=
  (v.happenIn .exact event).run

@[simp] theorem happen_press (v : Viewer) (now : Nat) (key : Key) :
    v.happen (.press now key) = v.press now key :=
  rfl

@[simp] theorem happen_draw (v : Viewer) (width height : Nat) :
    v.happen (.draw width height) = (v.draw width height).2 :=
  rfl

/-- The viewer after one event and then another. -/
def after (v : Viewer) (events : List Event) : Viewer :=
  events.foldl happen v

/-- Looking for the source changes what is known of the sources only. -/
theorem exists_currentSource (v : Viewer) :
    ∃ sources, v.currentSource.2 = { v with sources } := by
  unfold currentSource
  split
  · exact ⟨_, rfl⟩
  · exact ⟨v.sources, rfl⟩

/-- The source pane draws the listing of the current source, and keeps where its window stands. -/
theorem sourceBox_eq (v : Viewer) (height : Nat) :
    (v.sourceBox height).1.lines = ((v.listing v.currentSource.1).lines height v.scroll).1 ∧
      (v.sourceBox height).2.scroll =
        ((v.listing v.currentSource.1).lines height v.scroll).2 := by
  obtain ⟨sources, looked⟩ := v.exists_currentSource
  unfold sourceBox
  dsimp only
  rw [looked]
  exact ⟨rfl, rfl⟩

theorem draw_scroll (v : Viewer) (width height : Nat) :
    (v.draw width height).2.scroll = (v.sourceBox (height - 1)).2.scroll :=
  rfl

/-- Whatever keys were pressed and however the screen was drawn before, the source pane is drawn with
the current line in its window. -/
theorem current_line_drawn (v : Viewer) (events : List Event) (width height : Nat) {source : String}
    {line : Nat} (found : (v.after events).currentSource.1 = some source)
    (current : (v.after events).current?.bind (·.event.line) = some line)
    (inside : 1 ≤ line ∧ line ≤ (Text.lines source.toList).length) :
    let scroll := ((v.after events).draw width height).2.scroll
    let shown := ((v.after events).sourceBox (height - 1)).1.lines
    let total := (Text.lines source.toList).length
    let visible := visibleLines (height - 1)
    scroll.Shows visible total line ∧ shown.length = min visible total ∧
      ∃ text, (Text.lines source.toList)[line - 1]? = some text ∧
        shown[line - 1 - scroll.offset]? =
          some (((v.after events).listing (some source)).numbered line text) := by
  obtain ⟨lines, scroll⟩ := (v.after events).sourceBox_eq (height - 1)
  rw [draw_scroll, lines, scroll, found]
  exact Listing.lines_show rfl current inside (height - 1) (v.after events).scroll

/-- A viewer of two steps in a file of five lines. -/
def twoSteps : Viewer :=
  ofTrace { steps := [{ event := { label := some "Loop.main()", line := some 1 } },
      { event := { label := some "Loop.main()", line := some 4 } }] }
    (Sources.provide {} "Loop" "a\nb\nc\nd\ne")

/-- Two keys push the row to the end of a large window. -/
def pushed : List Event :=
  [.draw 20 9, .press 0 .up, .press 0 .up, .press 0 .right]

/-- In a small window the row does not exist any more. The current line is in the last row. -/
theorem current_line_drawn_pushed :
    (twoSteps.after pushed).scroll = ⟨0, some 5⟩ ∧
    ((twoSteps.after pushed).draw 20 5).2.scroll = ⟨2, some 1⟩ ∧
    ((twoSteps.after pushed).draw 20 5).2.scroll.Shows 2 5 4 := by
  have found : (twoSteps.after pushed).currentSource.1 = some "a\nb\nc\nd\ne" := by
    decide +kernel
  have current : (twoSteps.after pushed).current?.bind (·.event.line) = some 4 := by
    decide +kernel
  have five : (Text.lines "a\nb\nc\nd\ne".toList).length = 5 := by decide
  obtain ⟨shows, -⟩ := current_line_drawn twoSteps pushed 20 5 found current (by rw [five]; decide)
  rw [five] at shows
  exact ⟨by decide +kernel, by decide +kernel, shows⟩

end Retrace.Viewer
