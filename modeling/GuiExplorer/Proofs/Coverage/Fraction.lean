import GuiExplorer.Proofs.Coverage.FirstSeen
import GuiExplorer.Proofs.Number.Shares
import Mathlib.Algebra.Order.Field.Basic
import Mathlib.Data.Finset.Card
import Mathlib.Data.Rat.Cast.Order
import Mathlib.Tactic.NormNum

/-!
# What the coverage is a fraction of

The coverage divides the number of all executed statements by the number of instrumented
ones.  Executed statements that the instrumentation does not know are counted like the
others, so that the coverage is the covered part of the instrumented statements only where
there are no such strays, and exceeds one where they are too many.
-/

namespace GuiExplorer

namespace Instrumentation

/-- The ids of the instrumented statements. -/
def ids (instrumentation : Instrumentation) : Finset String :=
  (instrumentation.statements.map Prod.fst).toFinset

theorem mem_keys_insert {statements : List (String × String)} {id method other : String} :
    other ∈ (insert statements id method).map Prod.fst ↔
      other = id ∨ other ∈ statements.map Prod.fst := by
  induction statements with
  | nil => simp [insert]
  | cons first rest ih =>
      rw [insert]
      split
      case isTrue same => simp [same]
      case isFalse =>
        rw [List.map_cons, List.mem_cons, ih, List.map_cons, List.mem_cons, or_left_comm]

theorem nodup_insert {statements : List (String × String)}
    (distinct : (statements.map Prod.fst).Nodup) (id method : String) :
    ((insert statements id method).map Prod.fst).Nodup := by
  induction statements with
  | nil => exact List.nodup_singleton _
  | cons first rest ih =>
      obtain ⟨absent, others⟩ := List.nodup_cons.mp distinct
      rw [insert]
      split
      case isTrue same =>
        rw [List.map_cons, List.nodup_cons]
        exact ⟨same ▸ absent, others⟩
      case isFalse different =>
        rw [List.map_cons, List.nodup_cons, mem_keys_insert]
        refine ⟨?_, ih others⟩
        rintro (same | present)
        · exact different same
        · exact absent present

/-- What is collected from methods has one method for each id. -/
theorem nodup_ofMethods (methods : List String) :
    ((ofMethods methods).statements.map Prod.fst).Nodup := by
  unfold ofMethods
  induction methods using List.reverseRecOn with
  | nil => exact List.nodup_nil
  | append_singleton methods method ih =>
      rw [List.foldl_append, List.foldl_cons, List.foldl_nil]
      split
      · exact nodup_insert ih _ _
      · exact ih

theorem size_eq_card {instrumentation : Instrumentation}
    (distinct : (instrumentation.statements.map Prod.fst).Nodup) :
    instrumentation.size = instrumentation.ids.card := by
  rw [ids, List.toFinset_card_of_nodup distinct, List.length_map, size]

end Instrumentation

namespace CoverageMonitor

/-- The ids of the statements that have a valid record. -/
def executedIds (records : List StatementRecord) : Finset String :=
  ((records.filter fun entry => entry.IsValid).map StatementRecord.id).toFinset

theorem mem_executedIds_iff {records : List StatementRecord} {id : String} :
    id ∈ executedIds records ↔ ∃ entry ∈ records, entry.Tells id := by
  simp only [executedIds, List.mem_toFinset, List.mem_map, List.mem_filter, decide_eq_true_eq,
    StatementRecord.Tells]
  constructor
  · rintro ⟨entry, ⟨member, valid⟩, same⟩
    exact ⟨entry, member, same, valid⟩
  · rintro ⟨entry, member, same, valid⟩
    exact ⟨entry, ⟨member, valid⟩, same⟩

theorem Keeps.executedCount_eq {records : List StatementRecord} {monitor : CoverageMonitor}
    (keeps : Keeps records monitor) : monitor.executedCount = (executedIds records).card := by
  have same : executedIds records = (monitor.executed.map Execution.id).toFinset := by
    ext id
    rw [mem_executedIds_iff, ← keeps.known_iff, List.mem_toFinset, List.mem_map]
  rw [same, List.toFinset_card_of_nodup keeps.once, List.length_map, executedCount]

theorem instrumentation_updateAll (monitor : CoverageMonitor)
    (batches : List (List StatementRecord)) :
    (monitor.updateAll batches).instrumentation = monitor.instrumentation := by
  rw [updateAll_eq]
  rfl

theorem coverage_le_updateAll (monitor : CoverageMonitor) (more : List (List StatementRecord)) :
    monitor.coverage.exact ≤ (monitor.updateAll more).coverage.exact := by
  unfold coverage
  rw [instrumentation_updateAll, updateAll_eq, executedCount_update]
  exact Share.exact_le rfl (Nat.le_add_right _ _)

/-- With a map of instrumented statements that is not empty, the coverage after any batches of
records counts the instrumented statements that have a valid record and, besides them, the
statements with a valid record that are not instrumented.  It is the covered fraction exactly if
there are no such strays, and at most one exactly if no more statements were executed than are
instrumented.  It is never negative and never decreases. -/
theorem coverage_counts_strays (instrumentation : Instrumentation)
    (distinct : (instrumentation.statements.map Prod.fst).Nodup)
    (measured : instrumentation.statements ≠ []) (batches : List (List StatementRecord)) :
    let monitor := (ofInstrumentation instrumentation).updateAll batches
    let executed := executedIds batches.flatten
    let covered := instrumentation.ids ∩ executed
    let strays := executed \ instrumentation.ids
    monitor.coverage.exact = (covered.card + strays.card : ℚ) / instrumentation.ids.card ∧
    (monitor.coverage.exact = (covered.card : ℚ) / instrumentation.ids.card ↔ strays = ∅) ∧
    0 ≤ monitor.coverage.exact ∧
    (monitor.coverage.exact ≤ 1 ↔ executed.card ≤ instrumentation.ids.card) ∧
    ∀ more, monitor.coverage.exact ≤ (monitor.updateAll more).coverage.exact := by
  intro monitor executed covered strays
  have count : monitor.executedCount = executed.card :=
    (keeps_updateAll instrumentation batches).executedCount_eq
  have size : monitor.instrumentation.size = instrumentation.ids.card := by
    rw [instrumentation_updateAll]
    exact Instrumentation.size_eq_card distinct
  have positive : (0 : ℚ) < instrumentation.ids.card := by
    rw [← Instrumentation.size_eq_card distinct]
    exact_mod_cast List.length_pos_of_ne_nil measured
  have value : monitor.coverage.exact = (executed.card : ℚ) / instrumentation.ids.card := by
    have nonempty : instrumentation.ids.card ≠ 0 := by exact_mod_cast positive.ne'
    rw [coverage, count, size, Share.exact, if_neg nonempty]
  have parts : executed.card = covered.card + strays.card := by
    rw [← Finset.card_inter_add_card_sdiff executed instrumentation.ids, Finset.inter_comm]
  refine ⟨?_, ?_, ?_, ?_, coverage_le_updateAll monitor⟩
  · rw [value, parts, Nat.cast_add]
  · rw [value, div_left_inj' positive.ne', Nat.cast_inj, parts, Nat.add_eq_left,
      Finset.card_eq_zero]
  · rw [value]
    exact div_nonneg (Nat.cast_nonneg _) positive.le
  · rw [value, div_le_one positive, Nat.cast_le]

/-- Of one instrumented statement the coverage is one when it was executed. -/
theorem coverage_counts_no_strays :
    let instrumentation := Instrumentation.ofMethods ["void open() dmid=1"]
    let batches : List (List StatementRecord) := [[⟨"2024-01-01 10:00:00.100", "1"⟩]]
    (instrumentation.statements.map Prod.fst).Nodup ∧ instrumentation.statements ≠ [] ∧
      ((ofInstrumentation instrumentation).updateAll batches).coverage.exact = 1 := by
  intro instrumentation batches
  have distinct := Instrumentation.nodup_ofMethods ["void open() dmid=1"]
  have measured : instrumentation.statements ≠ [] := by decide +kernel
  obtain ⟨value, -⟩ := coverage_counts_strays instrumentation distinct measured batches
  refine ⟨distinct, measured, value.trans ?_⟩
  have covered : (instrumentation.ids ∩ executedIds batches.flatten).card = 1 := by decide +kernel
  have strays : (executedIds batches.flatten \ instrumentation.ids).card = 0 := by decide +kernel
  have size : instrumentation.ids.card = 1 := by decide +kernel
  rw [covered, strays, size]
  norm_num

/-- One statement is instrumented and was executed, and so was another one: the coverage is two,
though the covered fraction is one. -/
theorem coverage_above_one :
    let instrumentation := Instrumentation.ofMethods ["void open() dmid=1"]
    let batches : List (List StatementRecord) :=
      [[⟨"2024-01-01 10:00:00.100", "1"⟩, ⟨"2024-01-01 10:00:00.200", "2"⟩]]
    let monitor := (ofInstrumentation instrumentation).updateAll batches
    let covered := instrumentation.ids ∩ executedIds batches.flatten
    monitor.coverage.exact = 2 ∧ (covered.card : ℚ) / instrumentation.ids.card = 1 := by
  intro instrumentation batches monitor covered
  have shown : monitor.coverage = ⟨2, 1⟩ := by decide +kernel
  have covers : covered.card = 1 := by decide +kernel
  have size : instrumentation.ids.card = 1 := by decide +kernel
  rw [shown, covers, size, Share.exact]
  norm_num

end CoverageMonitor

end GuiExplorer
