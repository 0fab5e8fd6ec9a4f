/-!
# Scrolling

An offset says how many rows of a pane's content are passed over. Main statements: a clamped
offset leaves no room at the end unused (`clamp_le`), following a line brings it into view
(`follow_le`, `lt_follow_add`), and then there is nothing left to follow (`follow_follow`).
-/

namespace Stepwise.Scroll

/-- The number of rows that a framed pane of this height shows, taken as one at least. -/
def visibleRows (height : Nat) : Nat :=
  max 1 (height - 2)

/-- The greatest offset there is; it stands for the end of any content. -/
def farthest : Nat :=
  Nat.pow 2 64 - 1

/-- One row further up. -/
def up (offset : Nat) : Nat :=
  offset - 1

/-- One row further down. -/
def down (offset : Nat) : Nat :=
  min (offset + 1) farthest

/-- The offset brought back so that the last rows of the content stay at the bottom. -/
def clamp (offset total visible : Nat) : Nat :=
  if visible < total then min offset (total - visible) else 0

/-- The offset that puts a line, counted from one, in the middle, if there is such a line. -/
def center (offset line total visible : Nat) : Nat :=
  if 1 ≤ line ∧ line ≤ total then (line - 1) - visible / 2 else offset

/-- The offset that follows a line, counted from one. -/
def follow (offset line total visible : Nat) : Nat :=
  clamp (center offset line total visible) total visible

theorem clamp_le (offset total visible : Nat) : clamp offset total visible ≤ total - visible := by
  unfold clamp
  split <;> omega

@[simp] theorem clamp_clamp (offset total visible : Nat) :
    clamp (clamp offset total visible) total visible = clamp offset total visible := by
  unfold clamp
  split <;> omega

theorem center_of_le {line total : Nat} (offset visible : Nat) (first : 1 ≤ line)
    (last : line ≤ total) : center offset line total visible = (line - 1) - visible / 2 :=
  if_pos ⟨first, last⟩

theorem follow_le {line total visible : Nat} (offset : Nat) (first : 1 ≤ line)
    (last : line ≤ total) : follow offset line total visible ≤ line - 1 := by
  rw [follow, center_of_le offset visible first last, clamp]
  split <;> omega

theorem lt_follow_add {line total visible : Nat} (offset : Nat) (first : 1 ≤ line)
    (last : line ≤ total) (some_row : 1 ≤ visible) :
    line - 1 < follow offset line total visible + visible := by
  rw [follow, center_of_le offset visible first last, clamp]
  split <;> omega

@[simp] theorem follow_follow (offset line total visible : Nat) :
    follow (follow offset line total visible) line total visible =
      follow offset line total visible := by
  by_cases h : 1 ≤ line ∧ line ≤ total
  · -- The middle does not depend on where the line was followed from.
    simp only [follow, center, if_pos h]
  · simp only [follow, center, if_neg h, clamp_clamp]

end Stepwise.Scroll
