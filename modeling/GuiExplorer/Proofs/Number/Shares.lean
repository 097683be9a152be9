import GuiExplorer.Number.Share
import Mathlib.Algebra.Order.Field.Basic
import Mathlib.Data.Rat.Cast.Order
import Mathlib.Tactic.FieldSimp

/-!
# Shares as exact fractions

The exact value of a share lies between zero and one, and is one only if there is something and all
of it has the property.  The mean of the shares of groups, each weighted by the size of its group,
is the share of all items together.
-/

namespace GuiExplorer

namespace Share

/-- Where there is nothing, a quotient is zero as well. -/
theorem exact_eq_div (share : Share) : share.exact = (share.part : ℚ) / share.whole := by
  unfold exact
  split
  case isTrue empty => rw [empty, Nat.cast_zero, div_zero]
  case isFalse => rfl

theorem exact_le {share more : Share} (whole : more.whole = share.whole)
    (grows : share.part ≤ more.part) : share.exact ≤ more.exact := by
  rw [exact_eq_div, exact_eq_div, whole]
  exact div_le_div_of_nonneg_right (Nat.cast_le.mpr grows) (Nat.cast_nonneg _)

theorem exact_nonneg (share : Share) : 0 ≤ share.exact := by
  rw [exact_eq_div]
  exact div_nonneg (Nat.cast_nonneg _) (Nat.cast_nonneg _)

theorem exact_eq_one_iff {share : Share} : share.exact = 1 ↔ share.isFull = true := by
  by_cases empty : share.whole = 0
  · simp [exact, isFull, empty]
  · have nonzero : (share.whole : ℚ) ≠ 0 := Nat.cast_ne_zero.mpr empty
    simp [exact, isFull, empty, div_eq_one_iff_eq nonzero]

section

variable {α : Type} {property : α → Bool}

theorem exact_count_le_one (property : α → Bool) (items : List α) :
    (count property items).exact ≤ 1 := by
  have within : (items.countP property : ℚ) ≤ items.length :=
    Nat.cast_le.mpr List.countP_le_length
  rw [exact_eq_div]
  exact div_le_one_of_le₀ within (Nat.cast_nonneg _)

theorem isFull_count_iff {items : List α} :
    (count property items).isFull = true ↔ items ≠ [] ∧ ∀ item ∈ items, property item = true := by
  simp [isFull, count, List.countP_eq_length]

theorem total_count (groups : List (List α)) :
    total (groups.map (count property)) = groups.flatten.length := by
  induction groups with
  | nil => rfl
  | cons group rest ih =>
      rw [List.flatten_cons, List.length_append, ← ih]
      rfl

/-- Weighted by its size, the share of a group is its part of the whole; an empty group has none. -/
theorem exact_count_mul_weight (items : List α) (whole : ℚ) :
    (count property items).exact * ((count property items).whole / whole) =
      items.countP property / whole := by
  unfold exact count
  cases items with
  | nil => simp
  | cons item rest =>
      have nonzero : ((item :: rest).length : ℚ) ≠ 0 := Nat.cast_ne_zero.mpr (by simp)
      rw [if_neg (by simp)]
      field_simp

theorem exactMean_count (property : α → Bool) (groups : List (List α)) :
    exactMean (groups.map (count property)) = (count property groups.flatten).exact := by
  have sum (whole : ℚ) :
      (groups.map (count property)).foldr
          (fun share sum => share.exact * ((share.whole : ℚ) / whole) + sum) 0 =
        groups.flatten.countP property / whole := by
    induction groups with
    | nil => simp
    | cons group rest ih =>
        rw [List.map_cons, List.foldr_cons, ih, exact_count_mul_weight, List.flatten_cons,
          List.countP_append, Nat.cast_add, add_div]
  rw [exactMean, total_count, sum]
  rfl

end

end Share

end GuiExplorer
