import GuestFlow.Value.Text

/-!
# Numbers have a text

Whatever a number is, its text is not empty.  So a value that is shown in the place of a
name shows something, unless it is the empty text itself.
-/

set_option autoImplicit false

namespace GuestFlow

/-- Digits laid out with a point are some text. -/
theorem Binary64.place_ne_empty (layout : Layout) (digits : List Char) (point : Int) :
    layout.place digits point ≠ "" := by
  unfold Layout.place
  split
  · split
    · simp [String.append_eq_empty_iff]
    · split
      · simp [String.append_eq_empty_iff]
      · simp [String.append_eq_empty_iff]
  · simp [String.append_eq_empty_iff]

theorem Binary64.text_ne_empty (number : Binary64) : number.text ≠ "" := by
  unfold text render
  split
  · decide
  · simp [String.append_eq_empty_iff, Layout.value]
  · simp only [ne_eq, String.append_eq_empty_iff, not_and]
    intro _
    split
    · decide
    · exact place_ne_empty _ _ _

theorem Value.int_text_ne_empty (number : Int) : toString number ≠ "" := by
  cases number with
  | ofNat magnitude => exact Nat.repr_ne_empty
  | negSucc magnitude => simp [toString, Int.repr, String.append_eq_empty_iff]

end GuestFlow
