import Stepwise.Viewer.Pane

/-!
# The program text in view

The pane of the program text has room for some of its lines, and an offset says how many lines are passed
over before the first of them. Whatever the offset was, drawing the pane brings the marked line to the
middle, and then moves as little as it takes to leave no row empty at the end. Both are about numbers of
rows only; what is left to see is that the rows in between are the lines with the numbers in between.

## Main results

* `SourcePane.getElem?_taken`: which line stands in which row.
* `SourcePane.length_taken`: no row is left empty while there are lines for it.
* `SourcePane.screen_draw`: the lines that are taken are what is drawn.
* `SourcePane.draw_keeps_line_in_view`: the marked line is in view after drawing, whatever the offset was.
-/

namespace Stepwise

/-! ## Section 1: The rows of a pane -/

namespace Pane

variable {α : Type} (content : List α) (offset visible : Nat)

theorem length_window : (window content offset visible).length = min visible (content.length - offset) := by
  simp [window]

theorem getElem?_window {row : Nat} (h : row < visible) :
    (window content offset visible)[row]? = content[offset + row]? := by
  simp [window, h]

end Pane

namespace SourcePane

section

variable (source : String) {offset height row : Nat}

/-- Which line stands in which row. -/
theorem getElem?_taken (h : row < Scroll.visibleRows height) :
    (taken source offset height)[row]? =
      (Text.lines source)[offset + row]?.map fun line => (offset + row + 1, line) := by
  rw [taken, Pane.getElem?_window _ _ _ h, Text.numberedLines, Text.getElem?_numberFrom]
  simp only [Nat.add_comm 1]

/-- An offset that is not too far down leaves no row empty while there are lines for it. -/
theorem length_taken (h : offset ≤ (Text.lines source).length - Scroll.visibleRows height) :
    (taken source offset height).length =
      min (Scroll.visibleRows height) (Text.lines source).length := by
  rw [taken, Pane.length_window, Text.numberedLines, Text.length_numberFrom]
  omega

end

/-! ## Section 2: The pane after drawing -/

section

variable (source : String) (screen : Screen) (area : Area) (marking : Marking) (scroll : Nat)

/-- What drawing leaves behind is the offset that follows the marked line. -/
theorem scroll_draw : (draw screen area source marking scroll).scroll =
    Scroll.follow scroll marking.line (Text.lines source).length (Scroll.visibleRows area.height) := by
  have hlength : (Text.numberedLines source).length = (Text.lines source).length :=
    Text.length_numberFrom 1 _
  rw [← hlength]
  rfl

/-- The lines that are taken at that offset are drawn inside a frame. -/
theorem screen_draw : (draw screen area source marking scroll).screen =
    (screen.drawFrame (area.clip screen.area) " Source Code " Theme.border).drawText
      (area.clip screen.area).inner .left
      ((taken source (draw screen area source marking scroll).scroll area.height).map
        fun (number, line) => lineSpans marking number line) :=
  rfl

end

/-- The pane of the program text always shows the marked line. Whatever the offset was, after drawing it
leaves no row empty that there is a line for; if there is a marked line, it is in one of the rows, which
are the lines taken for display; and drawing once more, on any screen, leaves the offset as it is. -/
theorem draw_keeps_line_in_view (source : String) (screen : Screen) (area : Area) (marking : Marking)
    (scroll : Nat) :
    let drawn := draw screen area source marking scroll
    let total := (Text.lines source).length
    let visible := max 1 (area.height - 2)
    drawn.scroll ≤ total - visible ∧
      (taken source drawn.scroll area.height).length = min visible total ∧
      (1 ≤ marking.line → marking.line ≤ total →
        drawn.scroll ≤ marking.line - 1 ∧ marking.line - 1 < drawn.scroll + visible ∧
          ∃ line, (Text.lines source)[marking.line - 1]? = some line ∧
            (taken source drawn.scroll area.height)[marking.line - 1 - drawn.scroll]? =
              some (marking.line, line)) ∧
      ∀ screen', (draw screen' area source marking drawn.scroll).scroll = drawn.scroll := by
  intro drawn total visible
  have hscroll : drawn.scroll = Scroll.follow scroll marking.line total visible :=
    scroll_draw source screen area marking scroll
  have hle : drawn.scroll ≤ total - visible := by
    rw [hscroll]
    apply Scroll.clamp_le
  refine ⟨hle, length_taken source hle, ?_, ?_⟩
  · intro hfirst hlast
    have habove : drawn.scroll ≤ marking.line - 1 := by
      rw [hscroll]
      exact Scroll.follow_le scroll hfirst hlast
    have hbelow : marking.line - 1 < drawn.scroll + visible := by
      rw [hscroll]
      exact Scroll.lt_follow_add scroll hfirst hlast (Nat.le_max_left 1 _)
    obtain ⟨line, hline⟩ : ∃ line, (Text.lines source)[marking.line - 1]? = some line :=
      ⟨_, List.getElem?_eq_getElem (by omega)⟩
    -- The line is as many rows below the first one as its number is beyond the offset.
    refine ⟨habove, hbelow, line, hline, ?_⟩
    have hrow : marking.line - 1 - drawn.scroll < Scroll.visibleRows area.height := by
      apply Nat.sub_lt_left_of_lt_add habove hbelow
    have hnumber : drawn.scroll + (marking.line - 1 - drawn.scroll) = marking.line - 1 :=
      Nat.add_sub_cancel' habove
    rw [getElem?_taken source hrow, hnumber, hline, Option.map_some, Nat.sub_add_cancel hfirst]
  · intro screen'
    rw [scroll_draw, hscroll]
    exact Scroll.follow_follow scroll marking.line total visible

/-- A text of three lines. -/
def threeLines : String :=
  "int f()\nint main()\nint g()\n"

/-- A pane with room for one line, scrolled down as far as can be, shows the last of three lines when that
one is marked. -/
theorem draw_keeps_line_in_view_threeLines :
    let drawn := draw (Screen.blank 10 5) ⟨0, 0, 10, 3⟩ threeLines ⟨3, false⟩ Scroll.farthest
    drawn.scroll = 2 ∧ (taken threeLines drawn.scroll 3).length = 1 ∧
      (∃ line, (taken threeLines drawn.scroll 3)[0]? = some (3, line)) ∧
      (draw (Screen.blank 4 4) ⟨0, 0, 10, 3⟩ threeLines ⟨3, false⟩ drawn.scroll).scroll =
        drawn.scroll := by
  intro drawn
  have htotal : (Text.lines threeLines).length = 3 := by decide
  obtain ⟨hle, hlength, hmarked, hagain⟩ := draw_keeps_line_in_view threeLines (Screen.blank 10 5)
    ⟨0, 0, 10, 3⟩ ⟨3, false⟩ Scroll.farthest
  rw [htotal] at hle hlength hmarked
  obtain ⟨-, hbelow, line, -, hrow⟩ := hmarked (by decide) (by decide)
  have hscroll : drawn.scroll = 2 := by
    apply Nat.le_antisymm hle
    exact Nat.le_of_lt_succ hbelow
  refine ⟨hscroll, hlength, ⟨line, ?_⟩, hagain _⟩
  have hzero : (3 : Nat) - 1 - drawn.scroll = 0 := by omega
  rw [← hzero]
  exact hrow

end SourcePane

end Stepwise
