import GuiExplorer.Proofs.Engine.DecisionRule

/-!
# The button that grants a permission

A permission is granted where any widget on the screen belongs to a permission dialog, by the first
of the actionable widgets with the surest sign.  Signs are looked for on the widgets of every
package, so that on a screen that shows an app beside the dialog a button of the app may be
pressed.  The button is the one that the dialog itself would be searched for exactly if it belongs
to the dialog.
-/

namespace GuiExplorer

namespace Widget

/-- Whether the widget belongs to a permission dialog. -/
def isOfDialog (widget : Widget) : Bool :=
  Screen.permissionPackages.contains widget.data.packageName

/-- The place of the first sign that the widget carries; all signs are before it if there is none. -/
def tier (signs : List (Widget → Bool)) (widget : Widget) : Nat :=
  signs.findIdx (· widget)

/-- The button carries a sign, and of the candidates with the best tier it is the first. -/
structure FirstOfBest (signs : List (Widget → Bool)) (candidates : List Widget) (button : Widget) :
    Prop where
  signed : button.tier signs < signs.length
  split : ∃ before after, candidates = before ++ button :: after ∧
    (∀ other ∈ before, button.tier signs < other.tier signs) ∧
    ∀ other ∈ after, button.tier signs ≤ other.tier signs

theorem tier_cons (sign : Widget → Bool) (signs : List (Widget → Bool)) (widget : Widget) :
    widget.tier (sign :: signs) = if sign widget then 0 else widget.tier signs + 1 := by
  rw [tier, List.findIdx_cons]
  cases sign widget <;> rfl

namespace FirstOfBest

variable {signs : List (Widget → Bool)} {candidates : List Widget} {button : Widget}

theorem mem (best : FirstOfBest signs candidates button) : button ∈ candidates := by
  obtain ⟨before, after, rfl, -⟩ := best.split
  simp

/-- A search for one sign after another, each through all candidates, finds the first of the best
tier. -/
theorem of_findSome? (found : signs.findSome? candidates.find? = some button) :
    FirstOfBest signs candidates button := by
  induction signs with
  | nil => cases found
  | cons sign signs ih =>
      cases first : candidates.find? sign with
      | some other =>
          rw [List.findSome?_cons, first] at found
          cases found
          obtain ⟨carries, before, after, split, without⟩ := List.find?_eq_some_iff_append.mp first
          have best : button.tier (sign :: signs) = 0 := by rw [tier_cons, if_pos carries]
          refine ⟨by simp [best], before, after, split, ?_, fun other _ => by simp [best]⟩
          intro other member
          have lacks : ¬ sign other = true := by simpa using without other member
          rw [best, tier_cons, if_neg lacks]
          exact Nat.succ_pos _
      | none =>
          -- No candidate carries the first sign, which moves all tiers down alike.
          rw [List.findSome?_cons, first] at found
          have lower : ∀ other ∈ candidates, other.tier (sign :: signs) = other.tier signs + 1 := by
            intro other member
            rw [tier_cons, if_neg (List.find?_eq_none.mp first other member)]
          have best := ih found
          have here := lower button best.mem
          obtain ⟨before, after, rfl, worse, notBetter⟩ := best.split
          refine ⟨by simpa [here] using best.signed, before, after, rfl, ?_, ?_⟩
          · intro other member
            rw [here, lower other (by simp [member])]
            exact Nat.succ_lt_succ (worse other member)
          · intro other member
            rw [here, lower other (by simp [member])]
            exact Nat.succ_le_succ (notBetter other member)

/-- A button that is the first of all candidates is the first of those with a property, if it has
the property itself. -/
theorem filter_iff (best : FirstOfBest signs candidates button) (property : Widget → Bool) :
    FirstOfBest signs (candidates.filter property) button ↔ property button = true := by
  constructor
  · exact fun filtered => (List.mem_filter.mp filtered.mem).2
  · intro kept
    obtain ⟨before, after, rfl, worse, notBetter⟩ := best.split
    refine ⟨best.signed, before.filter property, after.filter property, ?_, ?_, ?_⟩
    · rw [List.filter_append, List.filter_cons_of_pos kept]
    · exact fun other member => worse other (List.mem_of_mem_filter member)
    · exact fun other member => notBetter other (List.mem_of_mem_filter member)

end FirstOfBest

end Widget

namespace Strategy

theorem firstOfBest_of_allowButton
    {context : Context} {button : Widget} (chosen : allowButton context = some button) :
    Widget.FirstOfBest Context.grantSigns (context.actionable.map WidgetInfo.widget) button :=
  .of_findSome? ((allowButton_eq context).symm.trans chosen)

/-- The button of a willing strategy is the one that it presses. -/
theorem allowButton_of_willing
    {context : Context} (willing : allowPermission.fitness context = .specificWidget) :
    ∃ button, allowButton context = some button ∧
      allowPermission.decide context = (.ok (.click button), .allowPermission) := by
  simp only [fitness, ite_eq_left_iff, reduceCtorEq, imp_false, not_not, Bool.and_eq_true] at willing
  obtain ⟨button, chosen⟩ := Option.isSome_iff_exists.mp willing.2
  exact ⟨button, chosen, by simp only [decide, chosen]⟩

/-- Whenever a permission is to be granted, an actionable widget is clicked that is the first of
the best tier among all actionable widgets, of whatever package.  Among those of the permission
dialog it is the first of the best tier exactly if it belongs to the dialog, which it does if no
other widgets carry signs. -/
theorem grants_among_all_packages
    {context : Context} (willing : allowPermission.fitness context = .specificWidget) :
    let candidates := context.actionable.map WidgetInfo.widget
    let ofDialog := candidates.filter Widget.isOfDialog
    ∃ button, allowPermission.decide context = (.ok (.click button), .allowPermission) ∧
      button.isActionable = true ∧
      Widget.FirstOfBest Context.grantSigns candidates button ∧
      (Widget.FirstOfBest Context.grantSigns ofDialog button ↔ button.isOfDialog = true) ∧
      ((∀ widget ∈ candidates, widget.tier Context.grantSigns < Context.grantSigns.length →
          widget.isOfDialog = true) → button.isOfDialog = true) := by
  intro candidates ofDialog
  obtain ⟨button, chosen, decided⟩ := allowButton_of_willing willing
  have best := firstOfBest_of_allowButton chosen
  obtain ⟨info, member, same⟩ := List.mem_map.mp best.mem
  refine ⟨button, decided, ?_, best, best.filter_iff Widget.isOfDialog,
    fun only => only button best.mem best.signed⟩
  exact same ▸ (List.mem_filter.mp member).2

/-- Beside a button of the app with the label, the one of the dialog with the resource id is
clicked. -/
theorem grants_among_all_packages_by_id :
    let shown : WidgetData := { clickable := true, enabled := true, visible := true }
    let app : Widget := ⟨{ shown with text := "Allow", packageName := "app" }, .nil, .nil⟩
    let grant : Widget :=
      ⟨{ shown with
          resourceId := "id/permission_allow_button"
          packageName := "com.android.permissioncontroller" }, ⟨.replicate 16 1, rfl⟩, .nil⟩
    let context := Context.ofScreen ⟨.nil, [app, grant]⟩ "app"
    let ofDialog := (context.actionable.map WidgetInfo.widget).filter Widget.isOfDialog
    allowPermission.fitness context = .specificWidget ∧
      allowPermission.decide context = (.ok (.click grant), .allowPermission) ∧
      Widget.FirstOfBest Context.grantSigns ofDialog grant := by
  intro shown app grant context ofDialog
  have willing : allowPermission.fitness context = .specificWidget := by decide +kernel
  have answer : (allowPermission.decide context).1 = .ok (.click grant) := by decide +kernel
  obtain ⟨button, decided, -, -, filtered, -⟩ := grants_among_all_packages willing
  rw [decided] at answer
  obtain rfl : button = grant := by simpa [Action.click] using answer
  exact ⟨willing, decided, filtered.mpr (by decide +kernel)⟩

/-- A button of the app with the label stands before the one of the dialog, which alone grants the
permission, and is clicked. -/
theorem presses_button_of_app :
    let shown : WidgetData := { clickable := true, enabled := true, visible := true }
    let app : Widget := ⟨{ shown with text := "OK", packageName := "app" }, .nil, .nil⟩
    let grant : Widget :=
      ⟨{ shown with text := "ok", packageName := "com.android.permissioncontroller" },
        ⟨.replicate 16 1, rfl⟩, .nil⟩
    let context := Context.ofScreen ⟨.nil, [app, grant]⟩ "app"
    let ofDialog := (context.actionable.map WidgetInfo.widget).filter Widget.isOfDialog
    allowPermission.fitness context = .specificWidget ∧
      (allowPermission.decide context).1 = .ok (.click app) ∧
      app.isOfDialog = false ∧ ofDialog = [grant] ∧
      Widget.FirstOfBest Context.grantSigns ofDialog grant := by
  intro shown app grant context ofDialog
  have alone : ofDialog = [grant] := by decide +kernel
  refine ⟨by decide +kernel, by decide +kernel, by decide +kernel, alone, ?_⟩
  rw [alone]
  exact ⟨by decide +kernel, [], [], rfl, by simp, by simp⟩

end Strategy

end GuiExplorer
