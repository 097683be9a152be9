import GuiExplorer.Strategy.Context

/-!
# Termination criteria

A criterion tells when a run must end, and why.
-/

namespace GuiExplorer

/-- Condition that ends a run. -/
structure Criterion where
  isMet : Context → Bool
  /-- Why the run ends. -/
  reason : Context → String

namespace Criterion

/-- Met once `limit` actions were issued. -/
def actionBudget (limit : Nat) : Criterion where
  isMet context := limit ≤ context.actionCount
  reason context :=
    "action budget of " ++ toString limit ++ " reached after " ++ toString context.actionCount ++
      " actions"

/-- Met once the run has lasted `limit`. -/
def timeBudget (limit : Duration) : Criterion where
  isMet context := limit.nanoseconds ≤ context.elapsed.nanoseconds
  reason context :=
    "time budget of " ++ limit.text ++ " reached after " ++ context.elapsed.text

end Criterion

end GuiExplorer
