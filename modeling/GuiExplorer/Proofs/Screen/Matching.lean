import GuiExplorer.Proofs.Identity.Region
import GuiExplorer.Proofs.Number.Shares
import GuiExplorer.Screen
import Mathlib.Logic.Relation

/-!
# Structural matches and similar screens

Two widgets match at whatever position if they look the same, and match exactly if they lie in the
same bounds besides.  Both are therefore equivalences, and what a widget matches does not depend on
the widget that stands for it.

The similarity of one screen to another counts the widgets that have an exact match there.  It sees
neither the order of the widgets nor how often the other screen shows one of them.
-/

namespace GuiExplorer

namespace WidgetData

/-- The record of a widget with everything left at its default that a match does not look at.  Of
the check mark only its presence is kept. -/
def look (data : WidgetData) : WidgetData where
  text := data.text
  description := data.description
  resourceId := data.resourceId
  className := data.className
  packageName := data.packageName
  clickable := data.clickable
  longClickable := data.longClickable
  scrollable := data.scrollable
  checked := data.checked.map fun _ => false
  isPassword := data.isPassword

theorem isCheckable_eq_iff {data other : WidgetData} :
    data.isCheckable = other.isCheckable ↔
      (data.checked.map fun _ => false) = other.checked.map fun _ => false := by
  unfold isCheckable
  cases data.checked <;> cases other.checked <;> simp

theorem matchesAnywhere_iff {data other : WidgetData} :
    data.matchesAnywhere other = true ↔ data.look = other.look := by
  simp [matchesAnywhere, look, isCheckable_eq_iff, and_assoc]

theorem matchesExactly_iff {data other : WidgetData} :
    data.matchesExactly other = true ↔ data.bounds = other.bounds ∧ data.look = other.look := by
  rw [matchesExactly, Bool.and_eq_true, beq_iff_eq, matchesAnywhere_iff]

end WidgetData

namespace Widget

theorem matchesAnywhere_equivalence :
    Equivalence fun left right : Widget => left.matchesAnywhere right = true := by
  simp only [matchesAnywhere, WidgetData.matchesAnywhere_iff]
  exact eq_equivalence.comap fun widget : Widget => widget.data.look

theorem matchesExactly_equivalence :
    Equivalence fun left right : Widget => left.matchesExactly right = true := by
  simp only [matchesExactly, WidgetData.matchesExactly_iff, ← Prod.mk_inj]
  exact eq_equivalence.comap fun widget : Widget => (widget.data.bounds, widget.data.look)

@[simp]
theorem matchesExactly_refl (widget : Widget) : widget.matchesExactly widget = true :=
  matchesExactly_equivalence.refl widget

variable {left right : Widget}

theorem bounds_eq_of_matchesExactly (same : left.matchesExactly right = true) :
    left.data.bounds = right.data.bounds :=
  (WidgetData.matchesExactly_iff.mp same).1

theorem matchesAnywhere_of_matchesExactly (same : left.matchesExactly right = true) :
    left.matchesAnywhere right = true :=
  WidgetData.matchesAnywhere_iff.mpr (WidgetData.matchesExactly_iff.mp same).2

end Widget

/-- Widgets with content that match at whatever position are identified alike, wherever and on
whatever screens they were captured. -/
theorem Identity.ofSnapshot_eq_of_matchesAnywhere {data other : WidgetData}
    (same : data.matchesAnywhere other = true) (content : data.hasContent = true)
    (image otherImage : Option Raster) :
    ofSnapshot data image = ofSnapshot other otherImage := by
  have looks : data.look = other.look := WidgetData.matchesAnywhere_iff.mp same
  have text : data.text = other.text := by
    injection looks
  have description : data.description = other.description := by
    injection looks
  have filled : data.text ≠ "" ∨ data.description ≠ "" := by
    simpa [WidgetData.hasContent] using content
  have otherFilled : other.text ≠ "" ∨ other.description ≠ "" := by
    rwa [← text, ← description]
  rw [ofSnapshot, ofSnapshot, Source.ofSnapshot_content filled,
    Source.ofSnapshot_content otherFilled, text, description]

namespace Screen

variable {screen other more : Screen}

theorem isSome_findExact_iff {widget : Widget} :
    (screen.findExact widget).isSome = true ↔
      ∃ live ∈ screen.widgets, widget.matchesExactly live = true := by
  rw [findExact, List.find?_isSome]
  constructor
  · rintro ⟨live, shown, same⟩
    exact ⟨live, shown, Widget.matchesExactly_equivalence.symm same⟩
  · rintro ⟨live, shown, same⟩
    exact ⟨live, shown, Widget.matchesExactly_equivalence.symm same⟩

theorem isSome_findExact_of_subset (added : other.widgets ⊆ more.widgets) {widget : Widget}
    (found : (other.findExact widget).isSome = true) : (more.findExact widget).isSome = true := by
  obtain ⟨live, shown, same⟩ := isSome_findExact_iff.mp found
  exact isSome_findExact_iff.mpr ⟨live, added shown, same⟩

theorem similarity_le_of_subset (added : other.widgets ⊆ more.widgets) :
    (screen.similarity other).exact ≤ (screen.similarity more).exact := by
  apply Share.exact_le
  · rfl
  · apply List.countP_mono_left
    intro widget _
    exact isSome_findExact_of_subset added

theorem similarity_perm {reordered otherReordered : Screen}
    (order : screen.widgets.Perm reordered.widgets)
    (otherOrder : other.widgets.Perm otherReordered.widgets) :
    screen.similarity other = reordered.similarity otherReordered := by
  have found : (fun widget => (other.findExact widget).isSome) =
      fun widget => (otherReordered.findExact widget).isSome := by
    funext widget
    apply Bool.eq_iff_iff.mpr
    constructor
    · exact isSome_findExact_of_subset otherOrder.subset
    · exact isSome_findExact_of_subset otherOrder.symm.subset
  rw [similarity, similarity, found, Share.count, Share.count, order.countP_eq, order.length_eq]

theorem isFull_similarity_iff :
    (screen.similarity other).isFull = true ↔
      screen.widgets ≠ [] ∧
        ∀ widget ∈ screen.widgets, ∃ live ∈ other.widgets, widget.matchesExactly live = true := by
  simp only [similarity, Share.isFull_count_iff, isSome_findExact_iff]

theorem isFull_similarity_self (shows : screen.widgets ≠ []) :
    (screen.similarity screen).isFull = true := by
  refine isFull_similarity_iff.mpr ⟨shows, ?_⟩
  intro widget shown
  exact ⟨widget, shown, widget.matchesExactly_refl⟩

theorem isFull_similarity_trans (first : (screen.similarity other).isFull = true)
    (second : (other.similarity more).isFull = true) :
    (screen.similarity more).isFull = true := by
  obtain ⟨shows, matched⟩ := isFull_similarity_iff.mp first
  obtain ⟨-, matchedAgain⟩ := isFull_similarity_iff.mp second
  refine isFull_similarity_iff.mpr ⟨shows, ?_⟩
  intro widget shown
  obtain ⟨between, betweenShown, same⟩ := matched widget shown
  obtain ⟨live, liveShown, sameAgain⟩ := matchedAgain between betweenShown
  exact ⟨live, liveShown, Widget.matchesExactly_equivalence.trans same sameAgain⟩

/-- Both ways to match are equivalences, and an exact match is one at whatever position; widgets
with content that match are identified alike.  The similarity of screens, as an exact fraction,
lies between zero and one; it is the same in whatever order the widgets come, and does not fall
when the other screen shows more of them.  It is one exactly if there are widgets and each of them
has an exact match.  So it is one of every screen with widgets to itself, and one to a third screen
if it is one to the other screen and that one's is one to the third. -/
theorem matching_and_similarity_laws :
    (Equivalence fun left right : Widget => left.matchesExactly right = true) ∧
    (Equivalence fun left right : Widget => left.matchesAnywhere right = true) ∧
    (∀ left right : Widget, left.matchesExactly right = true → left.matchesAnywhere right = true) ∧
    (∀ left right : Widget, left.matchesAnywhere right = true → left.data.hasContent = true →
      ∀ image otherImage,
        Identity.ofSnapshot left.data image = Identity.ofSnapshot right.data otherImage) ∧
    ∀ screen other : Screen,
      (0 ≤ (screen.similarity other).exact ∧ (screen.similarity other).exact ≤ 1) ∧
      (∀ reordered : Screen, screen.widgets.Perm reordered.widgets →
        (reordered.similarity other).exact = (screen.similarity other).exact) ∧
      (∀ reordered : Screen, other.widgets.Perm reordered.widgets →
        (screen.similarity reordered).exact = (screen.similarity other).exact) ∧
      (∀ more : Screen, other.widgets ⊆ more.widgets →
        (screen.similarity other).exact ≤ (screen.similarity more).exact) ∧
      ((screen.similarity other).exact = 1 ↔ screen.widgets ≠ [] ∧
        ∀ widget ∈ screen.widgets, ∃ live ∈ other.widgets, widget.matchesExactly live = true) ∧
      (screen.widgets ≠ [] → (screen.similarity screen).exact = 1) ∧
      ∀ third : Screen, (screen.similarity other).exact = 1 → (other.similarity third).exact = 1 →
        (screen.similarity third).exact = 1 := by
  refine ⟨Widget.matchesExactly_equivalence, Widget.matchesAnywhere_equivalence,
    fun left right => Widget.matchesAnywhere_of_matchesExactly, ?_, ?_⟩
  · intro left right same content
    exact Identity.ofSnapshot_eq_of_matchesAnywhere same content
  · intro screen other
    refine ⟨⟨Share.exact_nonneg _, Share.exact_count_le_one _ _⟩, ?_, ?_, ?_, ?_, ?_, ?_⟩
    · intro reordered order
      rw [similarity_perm order.symm (.refl other.widgets)]
    · intro reordered order
      rw [similarity_perm (.refl screen.widgets) order.symm]
    · intro more added
      exact similarity_le_of_subset added
    · rw [Share.exact_eq_one_iff, isFull_similarity_iff]
    · intro shows
      exact Share.exact_eq_one_iff.mpr (isFull_similarity_self shows)
    · intro third first second
      simp only [Share.exact_eq_one_iff] at *
      exact isFull_similarity_trans first second

/-- A button is seen alone, beside another one that was there already, and after both were moved
around: the look decides who it is, and the place whether it is where it was. -/
theorem matching_and_similarity_of_moved_buttons :
    let button (text : String) (x : Int32) : Widget :=
      ⟨{ text, bounds := ⟨x, 0, 10, 10⟩, clickable := true }, default, default⟩
    let alone : Screen := ⟨default, [button "OK" 0]⟩
    let both : Screen := ⟨default, [button "OK" 0, button "Cancel" 20]⟩
    let turned : Screen := ⟨default, [button "Cancel" 20, button "OK" 0]⟩
    let moved : Screen := ⟨default, [button "OK" 20, button "Cancel" 20]⟩
    (button "OK" 0).matchesAnywhere (button "OK" 20) = true ∧
      (button "OK" 0).matchesAnywhere (button "OK" 0) = true ∧
      Identity.ofSnapshot (button "OK" 0).data none =
        Identity.ofSnapshot (button "OK" 20).data none ∧
      (alone.similarity both).exact = 1 ∧ (both.similarity turned).exact = 1 ∧
      (alone.similarity turned).exact = 1 ∧ (both.similarity both).exact = 1 ∧
      (both.similarity moved).exact ≠ 1 ∧
      (turned.similarity moved).exact = (both.similarity moved).exact ∧
      (moved.similarity turned).exact = (moved.similarity both).exact ∧
      (both.similarity alone).exact ≤ (both.similarity turned).exact := by
  intro button alone both turned moved
  obtain ⟨-, -, weaker, alike, laws⟩ := matching_and_similarity_laws
  have order : both.widgets.Perm turned.widgets := .swap _ _ _
  have same : (button "OK" 0).matchesAnywhere (button "OK" 20) = true := by decide +kernel
  obtain ⟨-, -, -, -, fromAlone, -, further⟩ := laws alone both
  obtain ⟨-, -, -, -, toTurned, self, -⟩ := laws both turned
  obtain ⟨-, reordered, -, -, toMoved, -, -⟩ := laws both moved
  obtain ⟨-, -, otherReordered, -, -, -, -⟩ := laws moved both
  obtain ⟨-, -, -, grows, -, -, -⟩ := laws both alone
  have first : (alone.similarity both).exact = 1 := fromAlone.mpr (by decide +kernel)
  have second : (both.similarity turned).exact = 1 := toTurned.mpr (by decide +kernel)
  refine ⟨same, weaker _ _ (by decide +kernel), alike _ _ same (by decide +kernel) none none, first,
    second, further turned first second, self (by simp [both]), ?_, reordered turned order,
    otherReordered turned order, grows turned ?_⟩
  · rw [Ne, toMoved]
    decide +kernel
  · simp [alone, turned]

end Screen

end GuiExplorer
