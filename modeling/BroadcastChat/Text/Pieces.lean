/-
# Pieces between separators

Key definition: `Text.pieces`.
Key theorem: `Text.pieces_of_forall`.
-/

namespace BroadcastChat.Text

/-- The pieces of a list between separators: one more than there are separators. -/
def pieces {α : Type} (isSeparator : α → Bool) : List α → List (List α)
  | [] => [[]]
  | a :: rest =>
    if isSeparator a then [] :: pieces isSeparator rest
    else
      match pieces isSeparator rest with
      | [] => [[a]]
      | piece :: more => (a :: piece) :: more

theorem pieces_of_forall {α : Type} {isSeparator : α → Bool} {as : List α}
    (h : ∀ a ∈ as, isSeparator a = false) : pieces isSeparator as = [as] := by
  induction as with
  | nil => rfl
  | cons a as ih =>
    rw [pieces, h a (by simp), ih fun b hb => h b (by simp [hb])]
    rfl

end BroadcastChat.Text
