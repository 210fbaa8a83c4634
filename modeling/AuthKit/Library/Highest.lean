import Mathlib.Order.Defs.LinearOrder

/-!
# The highest item of a sequence

A register that takes an item only if it is higher than the one it holds.
-/
namespace Highest

variable {α : Type*} [LT α] [DecidableLT α]

/-- What the register holds after the items. -/
def highest (floor : α) (items : List α) : α :=
  items.foldl (fun top x => if top < x then x else top) floor

theorem highest_concat (floor x : α) (items : List α) :
    highest floor (items ++ [x]) = if highest floor items < x then x else highest floor items := by
  rw [highest, List.foldl_append]
  rfl

/-- The register is below an item iff the floor and all earlier items are. -/
theorem highest_lt_iff [LE α] [Std.IsLinearOrder α] [Std.LawfulOrderLT α] (floor x : α)
    (items : List α) : highest floor items < x ↔ floor < x ∧ ∀ y ∈ items, y < x := by
  induction items generalizing floor with
  | nil => simp [highest]
  | cons y rest ih =>
    rw [highest, List.foldl_cons, ← highest, ih, List.forall_mem_cons]
    split
    next above =>
      -- the floor is below the item that replaces it
      constructor
      · rintro ⟨first, later⟩
        exact ⟨Std.lt_trans above first, first, later⟩
      · rintro ⟨_, first, later⟩
        exact ⟨first, later⟩
    next below =>
      constructor
      · rintro ⟨low, later⟩
        exact ⟨low, Std.lt_of_le_of_lt (Std.not_lt.mp below) low, later⟩
      · rintro ⟨low, _, later⟩
        exact ⟨low, later⟩

end Highest
