import GuiExplorer.Proofs.Engine.Fairness
import GuiExplorer.Proofs.Engine.Finality

/-!
# The rule of an exploration

Strategies are written one by one, each with its own priority.  Where there is no recording to
replay, the strategies that the settings configure amount to one rule, which is stated here without
them: `Settings.rule`.  It gives an action in every situation, and a run that has not ended always
decides that action.
-/

namespace GuiExplorer

namespace Context

/-- Whether there is no widget of the app, and none of a permission dialog. -/
def isAway (context : Context) : Bool :=
  context.screen.widgets.all fun widget =>
    widget.data.packageName ≠ context.appPackage &&
      !Screen.permissionPackages.contains widget.data.packageName

/-- What tells the button that grants a permission, the safest sign first. -/
def grantSigns : List (Widget → Bool) :=
  [fun widget => Text.endsWith widget.data.resourceId "permission_allow_button",
   fun widget => Text.sameIgnoringCase widget.data.text "allow",
   fun widget => Text.sameIgnoringCase widget.data.text "ok"]

/-- The button that grants the permission a dialog asks for: the first actionable widget with the
safest sign that any of them has. -/
def grantButton? (context : Context) : Option Widget :=
  if context.screen.isPermissionDialog then
    grantSigns.findSome? (context.actionable.map WidgetInfo.widget).find?
  else none

/-- The first of the actionable widgets that were acted upon least. -/
def firstLeast? (context : Context) : Option WidgetInfo :=
  context.actionable.find? fun info =>
    context.actionable.all (info.actedCount ≤ ·.actedCount)

end Context

namespace Settings

/-- Whether a limit of the run was reached; a limit of zero is none. -/
def isSpent (settings : Settings) (context : Context) : Bool :=
  (settings.actionLimit ≠ 0 && settings.actionLimit.toNat ≤ context.actionCount) ||
    (settings.timeLimitSecs ≠ 0 &&
      settings.timeLimitSecs.toNat * 1000000000 ≤ context.elapsed.nanoseconds)

/-- What an exploring run does: end at its limits; else restart the app at the start and when the
app was left; else grant a permission; else go back if all widgets are exhausted; and else
act on a widget that was acted upon least. -/
def rule (settings : Settings) (context : Context) : Option Action :=
  if settings.isSpent context then some .terminate
  else if context.actionCount = 0 || context.isAway then some .reset
  else
    match context.grantButton? with
    | some button => some (.click button)
    | none =>
        if context.actionable.all (settings.exhaustionThreshold < ·.actedCount) then
          some .pressBack
        else context.firstLeast?.map (.interact ·.widget)

end Settings

/-! ## What each strategy contributes -/

theorem Context.isAway_eq (context : Context) : context.isAway = Strategy.leftApp context := by
  rw [Bool.eq_iff_iff]
  simp only [isAway, Strategy.leftApp, Screen.belongsTo, Screen.isPermissionDialog,
    List.all_eq_true, Bool.and_eq_true, Bool.not_eq_true', List.any_eq_false, decide_eq_true_eq,
    beq_iff_eq, Bool.not_eq_true]
  exact ⟨fun away => ⟨fun widget member => (away widget member).1,
      fun widget member => (away widget member).2⟩,
    fun ⟨notApp, noDialog⟩ widget member => ⟨notApp widget member, noDialog widget member⟩⟩

namespace Strategy

theorem actionBudget_willing_iff {limit : Nat} {context : Context} :
    (actionBudget limit).fitness context ≠ .none ↔ limit ≤ context.actionCount := by
  simp [actionBudget, fitness, Criterion.actionBudget]

theorem timeBudget_willing_iff {limit : Duration} {context : Context} :
    (timeBudget limit).fitness context ≠ .none ↔
      limit.nanoseconds ≤ context.elapsed.nanoseconds := by
  simp [timeBudget, fitness, Criterion.timeBudget]

theorem allowButton_eq (context : Context) :
    allowButton context =
      Context.grantSigns.findSome? (context.actionable.map WidgetInfo.widget).find? := by
  simp only [allowButton, Context.grantSigns, allowButtonId, List.findSome?_cons,
    List.findSome?_nil]
  cases (context.actionable.map WidgetInfo.widget).find?
      fun widget => Text.endsWith widget.data.resourceId "permission_allow_button" with
  | some button => rfl
  | none =>
      cases (context.actionable.map WidgetInfo.widget).find?
          fun widget => Text.sameIgnoringCase widget.data.text "allow" with
      | some button => rfl
      | none =>
          cases (context.actionable.map WidgetInfo.widget).find?
              fun widget => Text.sameIgnoringCase widget.data.text "ok" <;> rfl

/-- Each widget before the chosen one was acted upon more often. -/
theorem leastUsedFrom_split (best : WidgetInfo) (others : List WidgetInfo) :
    ∃ before after, best :: others = before ++ leastUsedFrom best others :: after ∧
      ∀ info ∈ before, (leastUsedFrom best others).actedCount < info.actedCount := by
  induction others generalizing best with
  | nil => exact ⟨[], [], rfl, by simp⟩
  | cons first rest ih =>
      rw [leastUsedFrom]
      split
      case isTrue noMore =>
        obtain ⟨before, after, split, above⟩ := ih best
        -- Either `best` is chosen, or it comes before the chosen one and so does `first`.
        cases before with
        | nil =>
            obtain ⟨same, -⟩ := List.cons.inj split
            rw [← same]
            exact ⟨[], first :: rest, rfl, by simp⟩
        | cons head others =>
            obtain ⟨same, later⟩ := List.cons.inj split
            subst same
            obtain ⟨aboveHead, aboveOthers⟩ := List.forall_mem_cons.mp above
            refine ⟨best :: first :: others, after, ?_, ?_⟩
            · exact congrArg (best :: first :: ·) later
            · exact List.forall_mem_cons.mpr ⟨aboveHead,
                List.forall_mem_cons.mpr ⟨UInt32.lt_of_lt_of_le aboveHead noMore, aboveOthers⟩⟩
      case isFalse more =>
        obtain ⟨before, after, split, above⟩ := ih first
        refine ⟨best :: before, after, by rw [split]; rfl, List.forall_mem_cons.mpr ⟨?_, above⟩⟩
        have atMost := leastUsedFrom_le first rest first List.mem_cons_self
        exact UInt32.lt_of_le_of_lt atMost (UInt32.not_le.mp more)

theorem leastUsed_eq (context : Context) : leastUsed context = context.firstLeast? := by
  rw [leastUsed, Context.firstLeast?]
  cases context.actionable with
  | nil => rfl
  | cons first rest =>
      obtain ⟨before, after, split, above⟩ := leastUsedFrom_split first rest
      symm
      refine List.find?_eq_some_iff_append.mpr ⟨?_, before, after, split, ?_⟩
      · simpa using leastUsedFrom_le first rest
      · intro info member
        have more := UInt32.not_le.mpr (above info member)
        simp only [Bool.not_eq_true', List.all_eq_false, decide_eq_true_eq]
        exact ⟨_, leastUsedFrom_mem first rest, more⟩

end Strategy

namespace Settings

variable {settings : Settings} {context : Context}

/-- Some budget is willing exactly if a limit was reached. -/
theorem budget_willing_iff :
    (∃ strategy ∈ settings.budgets, strategy.fitness context ≠ .none) ↔
      settings.isSpent context = true := by
  by_cases noActions : settings.actionLimit = 0 <;>
    by_cases noTime : settings.timeLimitSecs = 0 <;>
      simp [budgets, isSpent, noActions, noTime, Strategy.actionBudget_willing_iff,
        Strategy.timeBudget_willing_iff, Duration.ofSeconds]

theorem fitness_reset (start : context.lastAction = none ↔ context.actionCount = 0) :
    Strategy.reset.fitness context =
      if context.actionCount = 0 || context.isAway then .reset else .none := by
  simp [Strategy.fitness, Context.isAway_eq, start]

theorem fitness_allowPermission :
    Strategy.allowPermission.fitness context =
      if context.grantButton?.isSome then .specificWidget else .none := by
  rw [Strategy.fitness, Context.grantButton?, Strategy.allowButton_eq]
  cases context.screen.isPermissionDialog <;> rfl

theorem allowButton_of_grantButton? {button : Widget} (found : context.grantButton? = some button) :
    Strategy.allowButton context = some button := by
  rw [Context.grantButton?] at found
  rw [Strategy.allowButton_eq]
  exact (Option.ite_none_right_eq_some.mp found).2

theorem exists_firstLeast (inhabited : ¬ context.actionable.isEmpty = true) :
    ∃ info, context.firstLeast? = some info := by
  rw [← Strategy.leastUsed_eq, Strategy.leastUsed]
  split
  case h_1 empty => simp [empty] at inhabited
  case h_2 first rest _ => exact ⟨_, rfl⟩

/-! ## The strategies together -/

section

variable {bound : Nat}

/-- All strategies of an exploring pool have at most this priority. -/
def Within (settings : Settings) (context : Context) (bound : Nat) : Prop :=
  ∀ strategy ∈ settings.budgets ++ settings.explorers, (strategy.fitness context).rank ≤ bound

namespace Within

theorem not_spent
    (within : Within settings context bound) (low : bound < Priority.terminate.rank) :
    settings.isSpent context = false := by
  rw [Bool.eq_false_iff, ne_eq, ← budget_willing_iff]
  rintro ⟨strategy, member, willing⟩
  have atMost := within strategy (List.mem_append_left _ member)
  obtain ⟨criterion, rfl⟩ := eq_terminate_of_mem_budgets member
  simp only [Strategy.fitness, ne_eq, ite_eq_right_iff, reduceCtorEq, imp_false,
    Classical.not_not] at willing
  rw [Strategy.fitness, if_pos willing] at atMost
  omega

theorem stays
    (within : Within settings context bound) (low : bound < Priority.reset.rank)
    (start : context.lastAction = none ↔ context.actionCount = 0) :
    (context.actionCount = 0 || context.isAway) = false := by
  rw [Bool.eq_false_iff]
  intro away
  have atMost := within .reset (by simp [explorers])
  rw [fitness_reset start, if_pos away] at atMost
  omega

theorem grants_nothing
    (within : Within settings context bound) (low : bound < Priority.specificWidget.rank) :
    context.grantButton? = none := by
  rw [← Option.not_isSome_iff_eq_none]
  intro grants
  have atMost := within .allowPermission (by simp [explorers])
  rw [fitness_allowPermission, if_pos grants] at atMost
  omega

theorem not_exhausted
    (within : Within settings context bound) (low : bound < Priority.back.rank) :
    context.isExhausted settings.exhaustionThreshold = false := by
  rw [Bool.eq_false_iff]
  intro exhausted
  have atMost := within (.back settings.exhaustionThreshold) (by simp [explorers])
  rw [Strategy.fitness, if_pos exhausted] at atMost
  omega

end Within

end

/-- An exploring pool always comes to the action of the rule. -/
theorem rule_of_chooses
    {result : Except EngineError Action} {after : List Strategy}
    (start : context.lastAction = none ↔ context.actionCount = 0)
    (chooses : Engine.Chooses context (settings.budgets ++ settings.explorers) result after) :
    ∃ action, settings.rule context = some action ∧ result = .ok action := by
  cases chooses with
  | nobody error unwilling =>
      have within : Within settings context Priority.none.rank :=
        fun strategy member => by rw [unwilling strategy member]
      have notExhausted := within.not_exhausted (by decide)
      have idle := unwilling .explore (by simp [explorers])
      -- Without an actionable widget all of them are exhausted.
      rw [Strategy.fitness, ite_eq_left_iff] at idle
      simp only [List.isEmpty_iff, reduceCtorEq, imp_false, Classical.not_not] at idle
      simp [Context.isExhausted, idle] at notExhausted
  | @first before later strategy split earlier fits willing =>
      -- Whoever decides, no strategy with a higher priority is willing: its condition fails.
      have within : Within settings context (strategy.fitness context).rank :=
        fun other member => fits ▸ Engine.rank_fitness_le_highest member
      have member : strategy ∈ settings.budgets ++ settings.explorers := by simp [split]
      rcases List.mem_append.mp member with budget | explorer
      · have spent := budget_willing_iff.mp ⟨strategy, budget, willing⟩
        obtain ⟨criterion, rfl⟩ := eq_terminate_of_mem_budgets budget
        exact ⟨.terminate, by rw [rule, if_pos spent], rfl⟩
      · simp only [explorers, List.mem_cons, List.not_mem_nil, or_false] at explorer
        rcases explorer with rfl | rfl | rfl | rfl
        case inl =>
          rw [fitness_reset start] at within willing
          have away := (ite_ne_right_iff.mp willing).1
          rw [if_pos away] at within
          have unspent := within.not_spent (by decide)
          exact ⟨.reset, by simp [rule, unspent, away], rfl⟩
        case inr.inl =>
          rw [fitness_allowPermission] at within willing
          have grants := (ite_ne_right_iff.mp willing).1
          rw [if_pos grants] at within
          obtain ⟨button, found⟩ := Option.isSome_iff_exists.mp grants
          have unspent := within.not_spent (by decide)
          have stays := within.stays (by decide) start
          refine ⟨.click button, by rw [rule, unspent, stays, found]; rfl, ?_⟩
          simp [Strategy.decide, allowButton_of_grantButton? found, Except.mapError]
        case inr.inr.inl =>
          rw [Strategy.fitness] at within willing
          have exhausted := (ite_ne_right_iff.mp willing).1
          rw [if_pos exhausted] at within
          have unspent := within.not_spent (by decide)
          have stays := within.stays (by decide) start
          have noButton := within.grants_nothing (by decide)
          refine ⟨.pressBack, ?_, rfl⟩
          rw [rule, unspent, stays, noButton]
          exact if_pos exhausted
        case inr.inr.inr =>
          rw [Strategy.fitness] at within willing
          have inhabited := (ite_ne_left_iff.mp willing).1
          rw [if_neg inhabited] at within
          obtain ⟨info, least⟩ := exists_firstLeast inhabited
          have unspent := within.not_spent (by decide)
          have stays := within.stays (by decide) start
          have noButton := within.grants_nothing (by decide)
          have unexhausted := within.not_exhausted (by decide)
          refine ⟨.interact info.widget, ?_, ?_⟩
          · rw [Context.isExhausted] at unexhausted
            simp [rule, unspent, stays, noButton, unexhausted, least]
          · simp [Strategy.decide, Strategy.leastUsed_eq, least, Except.mapError]

end Settings

/-! ## Every decision of a run -/

namespace Engine

theorem Chooses.unchanged
    {context : Context} {strategies after : List Strategy} {result : Except EngineError Action}
    (chooses : Chooses context strategies result after)
    (steady : ∀ strategy ∈ strategies, strategy.IsSteady) :
    after = strategies := by
  cases chooses with
  | nobody => rfl
  | @first before later strategy split =>
      have member : strategy ∈ strategies := by simp [split]
      rw [steady strategy member context, split]

theorem strategies_decideOn
    {engine : Engine} (steady : ∀ strategy ∈ engine.strategies, strategy.IsSteady)
    (occasion : Occasion) :
    (engine.decideOn occasion).engine.strategies = engine.strategies := by
  rcases decideOn_cases engine occasion with ⟨error, -, same, -⟩ | ⟨context, -, chooses⟩
  · rw [same]
  · exact chooses.unchanged steady

/-- Steady strategies stay the same as long as none is registered. -/
theorem strategies_afterCalls
    {engine : Engine} (steady : ∀ strategy ∈ engine.strategies, strategy.IsSteady)
    {calls : List Call} (closed : ∀ strategy, .register strategy ∉ calls) :
    (engine.afterCalls calls).strategies = engine.strategies := by
  induction calls generalizing engine with
  | nil => rfl
  | cons call rest ih =>
      have closedLater : ∀ strategy, .register strategy ∉ rest :=
        fun strategy member => closed strategy (List.mem_cons_of_mem _ member)
      cases call with
      | decide occasion =>
          have same := strategies_decideOn steady occasion
          exact (ih (same.symm ▸ steady) closedLater).trans same
      | register strategy => exact (closed strategy List.mem_cons_self).elim
      | listen => exact ih steady closedLater

/-- What is known when a run has issued these actions: the widgets are those the store has of the
screen, else the screen's own, and the last action is counted. -/
def situation (engine : Engine) (issued : List Action) (occasion : Occasion) : Context where
  screen := occasion.screen
  widgets := widgetsFor (engine.countLast occasion.store) occasion.screen
  actionCount := issued.length
  elapsed := occasion.elapsed
  lastAction := issued.getLast?
  appPackage := occasion.package

theorem Remembers.situation_eq
    {engine : Engine} {decisions : List Decision} (remembers : engine.Remembers decisions)
    (occasion : Occasion) :
    engine.situation (actionsOf decisions) occasion =
      engine.context (occasion.store.count engine.lastKey) occasion.screen occasion.elapsed
        occasion.package := by
  rw [situation, context, countLast_eq, remembers.actionCount, remembers.lastAction]

/-- An exploring engine that has not ended the run decides by the rule. -/
theorem Remembers.rule_of_decideOn
    {settings : Settings} {engine : Engine} {decisions : List Decision}
    (remembers : engine.Remembers decisions) (running : engine.state ≠ .terminated)
    (pooled : engine.strategies = settings.budgets ++ settings.explorers) (occasion : Occasion) :
    ∃ action, settings.rule (engine.situation (actionsOf decisions) occasion) = some action ∧
      (engine.decideOn occasion).result = .ok action := by
  have start : (actionsOf decisions).getLast? = none ↔ (actionsOf decisions).length = 0 := by
    rw [List.getLast?_eq_none_iff, List.length_eq_zero_iff]
  have occupied : engine.strategies ≠ [] := by simp [pooled, Settings.explorers]
  have chooses := decideIn_chooses engine (engine.situation (actionsOf decisions) occasion)
  rw [pooled] at chooses
  have follows := Settings.rule_of_chooses start chooses
  rw [remembers.situation_eq] at follows ⊢
  rwa [decideOn, decide_eq _ _ _ _ (decide_eq_false running) occupied]

/-- Without a recording the configured pool can always be set up, and whatever an engine with it
has decided, as long as the run has not ended: on each occasion there is an action that the
rule gives, and it is decided. -/
theorem follows_rule
    (settings : Settings) (exploring : settings.playbackTrace = "") (files : String → StoredFile) :
    ∃ pool, settings.pool files = .ok pool ∧
      ∀ calls, (∀ strategy, .register strategy ∉ calls) →
        let engine := (settings.engine pool).afterCalls calls
        let issued := actionsOf ((settings.engine pool).answers calls)
        engine.state ≠ .terminated →
          ∀ occasion, ∃ action, settings.rule (engine.situation issued occasion) = some action ∧
            (engine.decideOn occasion).result = .ok action := by
  have pooled := settings.pool_eq exploring files
  refine ⟨_, pooled, fun calls closed => ?_⟩
  intro engine issued running occasion
  have steady : ∀ strategy ∈ settings.budgets ++ settings.explorers, strategy.IsSteady :=
    fun strategy member =>
      ((Settings.explores_of_mem_pool exploring pooled).1 strategy member).isSteady
  have remembers : engine.Remembers ((settings.engine _).answers calls) :=
    (Remembers.new settings.exhaustionThreshold _).afterCalls calls
  exact remembers.rule_of_decideOn running (strategies_afterCalls steady closed) occasion

/-- The app is restarted, a permission is granted by the button with the right resource id though
another has the label, and a switch is toggled; then no widget of the app is left to act upon and
back is pressed, within a limit of four actions. -/
theorem follows_rule_on_switch :
    let settings : Settings := { actionLimit := 4, exhaustionThreshold := 0 }
    let shown : WidgetData := { enabled := true, visible := true }
    let dialog : WidgetData :=
      { shown with packageName := "com.android.permissioncontroller", clickable := true }
    let deny : Widget := ⟨{ dialog with text := "Allow" }, .nil, .nil⟩
    let grant : Widget :=
      ⟨{ dialog with resourceId := "id/permission_allow_button" }, ⟨.replicate 16 1, rfl⟩, .nil⟩
    let switch : Widget := ⟨{ shown with packageName := "app", checked := some false }, .nil, .nil⟩
    let asks : Occasion := ⟨.empty, ⟨.nil, [deny, grant]⟩, ⟨0⟩, "app"⟩
    let app : Occasion := ⟨Store.empty.record ⟨.nil, [switch]⟩, ⟨.nil, [switch]⟩, ⟨0⟩, "app"⟩
    let calls : List Engine.Call := [.decide app, .decide asks, .listen, .decide app]
    let issued : List Action := [.reset, .click grant, .onWidget switch .tick]
    settings.playbackTrace = "" ∧
      ∃ pool, settings.pool (fun _ => .missing) = .ok pool ∧
        ((settings.engine pool).answers calls).map Decision.result = issued.map .ok ∧
        (∀ strategy, .register strategy ∉ calls) ∧
        ((settings.engine pool).afterCalls calls).state ≠ .terminated ∧
        (((settings.engine pool).afterCalls calls).decideOn app).result = .ok .pressBack := by
  intro settings shown dialog deny grant switch asks app calls issued
  obtain ⟨pool, pooled, follows⟩ := follows_rule settings rfl fun _ => .missing
  obtain rfl : settings.budgets ++ settings.explorers = pool := Except.ok.inj pooled
  have closed : ∀ strategy, .register strategy ∉ calls := by simp [calls]
  have running : ((settings.engine (settings.budgets ++ settings.explorers)).afterCalls
      calls).state ≠ .terminated := by decide +kernel
  have results : ((settings.engine (settings.budgets ++ settings.explorers)).answers
      calls).map Decision.result = issued.map .ok := by decide +kernel
  refine ⟨rfl, _, pooled, results, closed, running, ?_⟩
  obtain ⟨action, given, decided⟩ := follows calls closed running app
  have exhausted : some action = some .pressBack := by
    rw [← given]
    decide +kernel
  rw [decided, Option.some.inj exhausted]

end Engine

end GuiExplorer
