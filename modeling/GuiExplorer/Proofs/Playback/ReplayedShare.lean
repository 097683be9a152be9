import GuiExplorer.Proofs.Number.Shares
import GuiExplorer.Proofs.Playback.Accounting

/-!
# The progress of a replay

The progress of a replay is computed trace by trace, as a mean of the explored shares that is
weighted by the sizes of the traces.  It is the explored share of all steps, however they are spread
over traces, and no request for an action lets it fall.
-/

namespace GuiExplorer

/-- A step and the same step later: a mark once set stays. -/
structure TraceEntry.Becomes (entry later : TraceEntry) : Prop where
  action : later.action = entry.action
  explored : entry.explored = true → later.explored = true

namespace TraceEntry.Becomes

theorem refl (entry : TraceEntry) : entry.Becomes entry :=
  ⟨rfl, id⟩

theorem replayed (entry : TraceEntry) : entry.Becomes entry.replayed :=
  ⟨rfl, fun _ => rfl⟩

theorem targets_eq {entry later : TraceEntry} (becomes : entry.Becomes later)
    (widget : Option Widget) : later.targets widget = entry.targets widget := by
  unfold targets
  rw [becomes.action]

theorem forall₂_refl (entries : List TraceEntry) : List.Forall₂ Becomes entries entries :=
  List.forall₂_same.mpr fun entry _ => refl entry

theorem forall₂_modify (entries : List TraceEntry) (position : Nat) :
    List.Forall₂ Becomes entries (entries.modify position TraceEntry.replayed) := by
  induction entries generalizing position with
  | nil => rw [List.modify_nil]; exact .nil
  | cons entry rest ih =>
      cases position with
      | zero => exact .cons (replayed entry) (forall₂_refl rest)
      | succ position => exact .cons (refl entry) (ih position)

end TraceEntry.Becomes

namespace Playback

open TraceEntry.Becomes

theorem becomes_explore (trace : PlaybackTrace) :
    List.Forall₂ TraceEntry.Becomes trace.entries trace.explore.entries := by
  unfold PlaybackTrace.explore
  split
  · exact forall₂_refl _
  · exact forall₂_modify _ _

/-- A search marks steps at most, wherever the cursors stand and however it ends. -/
theorem becomes_seek (context : Context) (maxSkips skipped : Nat) (traces : List PlaybackTrace) :
    List.Forall₂ TraceEntry.Becomes (stepsOf traces)
      (stepsOf (seek context maxSkips skipped traces).2) := by
  induction traces generalizing skipped with
  | nil => exact .nil
  | cons trace rest ih =>
      rcases scanned : scan context maxSkips skipped trace.pending with ⟨passed, ending⟩
      cases ending with
      | found action =>
          simp only [seek, scanned, stepsOf_cons]
          exact List.rel_append (becomes_explore (trace.advance passed)) (forall₂_refl _)
      | tooMany count =>
          simp only [seek, scanned, stepsOf_cons]
          exact forall₂_refl (trace.entries ++ stepsOf rest)
      | exhausted count =>
          -- Only the cursor of this trace has moved; the search goes on in the others.
          simp only [seek, scanned, stepsOf_cons]
          exact List.rel_append (forall₂_refl trace.entries) (ih count)

/-- The explored share of all steps that act on the widget, if one is given. -/
def overallShare (steps : List TraceEntry) (widget : Option Widget) : Share :=
  Share.count TraceEntry.explored (steps.filter (·.targets widget))

theorem countP_explored_le
    {steps later : List TraceEntry} (becomes : List.Forall₂ TraceEntry.Becomes steps later) :
    steps.countP TraceEntry.explored ≤ later.countP TraceEntry.explored := by
  induction becomes with
  | nil => exact Nat.le_refl _
  | @cons entry same steps later becomes _ ih =>
      rw [List.countP_cons, List.countP_cons]
      refine Nat.add_le_add ih ?_
      cases marked : entry.explored with
      | false => exact Nat.zero_le _
      | true => simp [becomes.explored marked]

/-- As many steps act on the widget as before, and no fewer of them are explored. -/
theorem overallShare_of_becomes
    {steps later : List TraceEntry} (becomes : List.Forall₂ TraceEntry.Becomes steps later)
    (widget : Option Widget) :
    (overallShare later widget).whole = (overallShare steps widget).whole ∧
      (overallShare steps widget).part ≤ (overallShare later widget).part := by
  have targeted : List.Forall₂ TraceEntry.Becomes (steps.filter (·.targets widget))
      (later.filter (·.targets widget)) :=
    List.rel_filter (fun _ _ same => Bool.eq_iff_iff.mp (same.targets_eq widget).symm) becomes
  exact ⟨targeted.length_eq.symm, countP_explored_le targeted⟩

theorem exactRatio_eq (playback : Playback) (widget : Option Widget) :
    playback.exactRatio widget = (overallShare (stepsOf playback.traces) widget).exact := by
  have groups : playback.shares widget =
      (playback.traces.map (·.targeting widget)).map (Share.count TraceEntry.explored) := by
    rw [List.map_map]
    rfl
  have together : (playback.traces.map (·.targeting widget)).flatten =
      (stepsOf playback.traces).filter (·.targets widget) := by
    rw [stepsOf, List.filter_flatMap, List.flatMap_def]
    rfl
  rw [exactRatio, groups, Share.exactMean_count, together]
  rfl

theorem exactRatio_le_next (playback : Playback) (context : Context) (widget : Option Widget) :
    playback.exactRatio widget ≤ (playback.next context).2.exactRatio widget := by
  have becomes : List.Forall₂ TraceEntry.Becomes (stepsOf playback.traces)
      (stepsOf (playback.next context).2.traces) :=
    becomes_seek context playback.maxSkips 0 playback.traces
  obtain ⟨whole, part⟩ := overallShare_of_becomes becomes widget
  rw [exactRatio_eq, exactRatio_eq]
  exact Share.exact_le whole part

theorem exactRatio_le_afterCalls (playback : Playback) (contexts : List Context)
    (widget : Option Widget) :
    playback.exactRatio widget ≤ (playback.afterCalls contexts).exactRatio widget := by
  induction contexts generalizing playback with
  | nil => exact le_refl _
  | cons context later ih =>
      exact (exactRatio_le_next playback context widget).trans (ih (playback.next context).2)

/-- The progress of a replay is the number of explored steps that act on the widget, if one is
given, out of all steps that do, and zero if there are none.  So it lies between zero and one, is
one exactly if there is such a step and all of them are explored, and no requests let it fall. -/
theorem exactRatio_is_overall (playback : Playback) (widget : Option Widget) :
    let targeted := (stepsOf playback.traces).filter (·.targets widget)
    let progress := playback.exactRatio widget
    (progress = if targeted = [] then 0
      else ((targeted.filter TraceEntry.explored).length : ℚ) / targeted.length) ∧
    0 ≤ progress ∧ progress ≤ 1 ∧
    (progress = 1 ↔ targeted ≠ [] ∧ ∀ entry ∈ targeted, entry.explored = true) ∧
    ∀ contexts, progress ≤ (playback.afterCalls contexts).exactRatio widget := by
  intro targeted progress
  have overall : progress = (Share.count TraceEntry.explored targeted).exact :=
    exactRatio_eq playback widget
  refine ⟨?_, ?_, ?_, ?_, fun contexts => exactRatio_le_afterCalls playback contexts widget⟩
  · rw [overall, Share.exact, Share.count, List.countP_eq_length_filter]
    simp only [List.length_eq_zero_iff]
  · rw [overall]
    exact Share.exact_nonneg _
  · rw [overall]
    exact Share.exact_count_le_one _ _
  · rw [overall, Share.exact_eq_one_iff, Share.isFull_count_iff]

end Playback

end GuiExplorer
