import GuiExplorer.Proofs.Engine.Arbitration
import GuiExplorer.Settings.Setup
import Mathlib.Algebra.BigOperators.Group.Finset.Piecewise
import Mathlib.Algebra.Order.BigOperators.Group.Finset

/-!
# Fair exploration

An engine that explores always acts on a widget that was acted upon least.  So on a
screen that looks the same whenever it is shown, no widget gets ahead of another
by more than one action, and each is acted upon once more than the threshold
before the screen is left with back, whatever other screens are shown in between.
-/

namespace GuiExplorer

/-- The identities of the widgets of a screen, and which of them are actionable. -/
def Screen.outline (screen : Screen) : List (Uuid × Bool) :=
  screen.widgets.map fun widget => (widget.uid, widget.isActionable)

/-- The identities of the actionable widgets in an outline. -/
def actionableIds (outline : List (Uuid × Bool)) : Finset Uuid :=
  ((outline.filter Prod.snd).map Prod.fst).toFinset

theorem mem_actionableIds_outline {screen : Screen} {id : Uuid} :
    id ∈ actionableIds screen.outline ↔
      ∃ widget ∈ screen.widgets, widget.isActionable = true ∧ widget.uid = id := by
  simp [actionableIds, Screen.outline, and_assoc]

/-- Counts that exceed neither the threshold nor each other by more than one. -/
structure Fair (threshold : Nat) (ids : Finset Uuid) (count : Uuid → Nat) : Prop where
  bounded : ∀ id ∈ ids, count id ≤ threshold + 1
  balanced : ∀ id ∈ ids, ∀ other ∈ ids, count id ≤ count other + 1

namespace Fair

variable {threshold : Nat} {ids : Finset Uuid} {count : Uuid → Nat}

theorem zero : Fair threshold ids fun _ => 0 :=
  ⟨fun _ _ => Nat.zero_le _, fun _ _ _ _ => Nat.zero_le _⟩

/-- Counting once more for a lowest count that is within the threshold. -/
theorem add_one
    (fair : Fair threshold ids count) {chosen : Uuid}
    (least : ∀ id ∈ ids, count chosen ≤ count id) (below : count chosen ≤ threshold) :
    Fair threshold ids fun id => count id + if chosen = id then 1 else 0 := by
  constructor
  · intro id member
    split
    case isTrue same => exact same ▸ Nat.succ_le_succ below
    case isFalse => exact fair.bounded id member
  · intro id member other otherMember
    have balanced := fair.balanced id member other otherMember
    by_cases same : chosen = id
    · have lowest := least other otherMember
      rw [same] at lowest
      rw [if_pos same]
      omega
    · rw [if_neg same]
      omega

theorem sum_le (fair : Fair threshold ids count) :
    ∑ id ∈ ids, count id ≤ ids.card * (threshold + 1) :=
  Finset.sum_le_card_nsmul ids count (threshold + 1) fair.bounded

end Fair

namespace Strategy

theorem leastUsedFrom_le (best : WidgetInfo) (others : List WidgetInfo) :
    ∀ info ∈ best :: others, (leastUsedFrom best others).actedCount ≤ info.actedCount := by
  induction others generalizing best with
  | nil => simp [leastUsedFrom]
  | cons first rest ih =>
      rw [leastUsedFrom]
      split
      case isTrue noMore =>
        obtain ⟨atMost, all⟩ := List.forall_mem_cons.mp (ih best)
        exact List.forall_mem_cons.mpr
          ⟨atMost, List.forall_mem_cons.mpr ⟨UInt32.le_trans atMost noMore, all⟩⟩
      case isFalse more =>
        have fewer : first.actedCount ≤ best.actedCount := UInt32.le_of_lt (UInt32.not_le.mp more)
        obtain ⟨atMost, all⟩ := List.forall_mem_cons.mp (ih first)
        exact List.forall_mem_cons.mpr
          ⟨UInt32.le_trans atMost fewer, List.forall_mem_cons.mpr ⟨atMost, all⟩⟩

theorem leastUsed_actionable
    {context : Context} {info : WidgetInfo} (chosen : leastUsed context = some info) :
    info ∈ context.actionable ∧
      ∀ other ∈ context.actionable, info.actedCount ≤ other.actedCount := by
  unfold leastUsed at chosen
  split at chosen
  case h_1 => contradiction
  case h_2 first rest candidates =>
    cases chosen
    rw [candidates]
    exact ⟨leastUsedFrom_mem first rest, leastUsedFrom_le first rest⟩

end Strategy

/-! ## What an exploring pool decides -/

/-- The strategies that explore, beside those that end the run. -/
inductive Strategy.Explores (threshold : UInt32) : Strategy → Prop where
  | terminate (criterion : Criterion) : Explores threshold (.terminate criterion)
  | reset : Explores threshold .reset
  | allowPermission : Explores threshold .allowPermission
  | back : Explores threshold (.back threshold)
  | explore : Explores threshold .explore

theorem Strategy.Explores.isSteady
    {threshold : UInt32} {strategy : Strategy} (explores : strategy.Explores threshold) :
    strategy.IsSteady := by
  apply isSteady_of_not_playback
  rintro recorded rfl
  cases explores

theorem Settings.pool_eq
    {settings : Settings} (exploring : settings.playbackTrace = "") (files : String → StoredFile) :
    settings.pool files = .ok (settings.budgets ++ settings.explorers) := by
  simp [Settings.pool, exploring]

theorem Settings.eq_terminate_of_mem_budgets
    {settings : Settings} {strategy : Strategy} (member : strategy ∈ settings.budgets) :
    ∃ criterion, strategy = .terminate criterion := by
  rcases List.mem_append.mp member with actions | time
  · split at actions
    · simp at actions
    · exact ⟨_, List.mem_singleton.mp actions⟩
  · split at time
    · simp at time
    · exact ⟨_, List.mem_singleton.mp time⟩

/-- Without a recording to replay, the pool of the settings explores. -/
theorem Settings.explores_of_mem_pool
    {settings : Settings} {files : String → StoredFile} {pool : List Strategy}
    (exploring : settings.playbackTrace = "") (pooled : settings.pool files = .ok pool) :
    (∀ strategy ∈ pool, strategy.Explores settings.exhaustionThreshold) ∧
      .back settings.exhaustionThreshold ∈ pool := by
  obtain rfl := Except.ok.inj ((settings.pool_eq exploring files).symm.trans pooled)
  constructor
  · intro strategy member
    rcases List.mem_append.mp member with budget | explorer
    · obtain ⟨criterion, rfl⟩ := eq_terminate_of_mem_budgets budget
      exact .terminate criterion
    · simp only [explorers, List.mem_cons, List.not_mem_nil, or_false] at explorer
      rcases explorer with same | same | same | same
      · exact same ▸ .reset
      · exact same ▸ .allowPermission
      · exact same ▸ .back
      · exact same ▸ .explore
  · simp [explorers]

namespace Engine

/-- How often the widget will have been acted upon on the screen, once the last action
is counted. -/
def dueCount (engine : Engine) (store : Store) (screen widget : Uuid) : Nat :=
  ((store.count engine.lastKey).actedCount screen widget).toNat

section

variable {threshold : UInt32} {engine : Engine} {store : Store} {screen : Screen}
  {elapsed : Duration} {package : String} {action : Action} {decision : Decision}

/-- The actionable widgets that strategies see of a screen that was just recorded. -/
theorem actionable_record (engine : Engine) (store : Store) (screen : Screen)
    (elapsed : Duration) (package : String) :
    (engine.context ((store.record screen).count engine.lastKey) screen elapsed
        package).actionable =
      (screen.widgets.filter (·.isActionable)).map fun widget =>
        ⟨widget, (store.count engine.lastKey).actedCount screen.uid widget.uid⟩ := by
  rw [Context.actionable, context, widgetsFor_record, List.filter_map]
  rfl

theorem isExhausted_record (threshold : UInt32) (engine : Engine) (store : Store)
    (screen : Screen) (elapsed : Duration) (package : String) :
    (engine.context ((store.record screen).count engine.lastKey) screen elapsed
        package).isExhausted threshold = true ↔
      ∀ id ∈ actionableIds screen.outline,
        threshold.toNat < engine.dueCount store screen.uid id := by
  simp only [Context.isExhausted, actionable_record, List.all_map, List.all_eq_true,
    List.mem_filter, Function.comp_apply, decide_eq_true_eq, mem_actionableIds_outline,
    UInt32.lt_iff_toNat_lt]
  constructor
  · rintro all id ⟨widget, shown, actionable, same⟩
    exact same ▸ all widget ⟨shown, actionable⟩
  · rintro all widget ⟨shown, actionable⟩
    exact all widget.uid ⟨widget, shown, actionable, rfl⟩

/-- What a successful decision on a screen that was just recorded comes from and leads to. -/
structure Decided (engine : Engine) (store : Store) (screen : Screen) (elapsed : Duration)
    (package : String) (action : Action) (decision : Decision) : Prop where
  result : decision.result = .ok action
  decider : ∃ strategy, IsDecider engine.strategies
    (engine.context ((store.record screen).count engine.lastKey) screen elapsed package) action
    strategy
  counted : decision.store = (store.count engine.lastKey).record screen
  lastKey : decision.engine.lastKey = counterKey (action, screen)
  strategies : (∀ strategy ∈ engine.strategies, strategy.IsSteady) →
    decision.engine.strategies = engine.strategies

theorem decided_of_decide
    (succeeds :
      (engine.decide (store.record screen) screen elapsed package).result = .ok action) :
    Decided engine store screen elapsed package action
      (engine.decide (store.record screen) screen elapsed package) := by
  obtain ⟨decider, strategies⟩ := decider_of_decide succeeds
  obtain ⟨counted, -⟩ := decide_ok succeeds
  rw [Store.count_record] at counted
  exact ⟨succeeds, decider, counted, lastKey_of_decide succeeds, strategies⟩

/-- What an exploring engine decides on a screen that is no permission dialog: back if
nothing else ends the visit and all widgets are exhausted, and else an action on a
widget that was acted upon least. -/
structure ActsFairly (threshold : Nat) (ids : Finset Uuid) (count : Uuid → Nat)
    (action : Action) : Prop where
  back : action = .pressBack ↔
    action ≠ .terminate ∧ action ≠ .reset ∧ ∀ id ∈ ids, threshold < count id
  least {widget : Widget} (target : action.widget? = some widget) :
    widget.uid ∈ ids ∧ count widget.uid ≤ threshold ∧ ∀ id ∈ ids, count widget.uid ≤ count id

theorem Decided.actsFairly
    (decided : Decided engine store screen elapsed package action decision)
    (explores : ∀ strategy ∈ engine.strategies, strategy.Explores threshold)
    (backs : .back threshold ∈ engine.strategies)
    (noDialog : screen.isPermissionDialog = false) :
    ActsFairly threshold.toNat (actionableIds screen.outline)
      (engine.dueCount store screen.uid) action := by
  obtain ⟨strategy, decider⟩ := decided.decider
  have exhausted := isExhausted_record threshold engine store screen elapsed package
  have decides := decider.decides
  cases explores strategy decider.member with
  | terminate criterion =>
      cases decides
      exact ⟨by simp, fun target => nomatch target⟩
  | reset =>
      cases decides
      exact ⟨by simp, fun target => nomatch target⟩
  | allowPermission =>
      have unwilling := decider.willing
      simp [Strategy.fitness, context, noDialog] at unwilling
  | back =>
      cases decides
      have willing := decider.willing
      simp only [Strategy.fitness, ne_eq, ite_eq_right_iff, reduceCtorEq, imp_false,
        Classical.not_not] at willing
      exact ⟨by simpa using exhausted.mp willing, fun target => nomatch target⟩
  | explore =>
      have notExhausted :
          ¬ ∀ id ∈ actionableIds screen.outline,
            threshold.toNat < engine.dueCount store screen.uid id := by
        intro all
        have outranked := decider.highest _ backs
        simp only [Strategy.fitness, exhausted.mpr all, if_true] at outranked
        split at outranked <;> contradiction
      simp only [Strategy.decide] at decides
      split at decides
      case h_2 => contradiction
      case h_1 info chosen =>
        obtain ⟨candidate, least⟩ := Strategy.leastUsed_actionable chosen
        simp only [actionable_record, List.mem_map, List.mem_filter] at candidate least
        obtain ⟨widget, ⟨shown, actionable⟩, rfl⟩ := candidate
        have lowest : ∀ id ∈ actionableIds screen.outline,
            engine.dueCount store screen.uid widget.uid ≤
              engine.dueCount store screen.uid id := by
          intro id member
          obtain ⟨other, otherShown, otherActionable, same⟩ :=
            mem_actionableIds_outline.mp member
          exact same ▸ least _ ⟨other, ⟨otherShown, otherActionable⟩, rfl⟩
        cases decides
        refine ⟨by simp [Action.interact, notExhausted], fun target => ?_⟩
        cases target
        refine ⟨mem_actionableIds_outline.mpr ⟨widget, shown, actionable, rfl⟩, ?_, lowest⟩
        push Not at notExhausted
        obtain ⟨id, member, below⟩ := notExhausted
        exact (lowest id member).trans below

/-- A decision counts the last action and makes its own action due. -/
theorem Decided.dueCount
    (decided : Decided engine store screen elapsed package action decision)
    (sorted : Counters.Sorted store.counters) (uid id : Uuid)
    (few : counterKey (action, screen) = some (uid, id) →
      engine.dueCount store uid id + 1 < UInt32.size) :
    decision.engine.dueCount decision.store uid id =
      engine.dueCount store uid id +
        if counterKey (action, screen) = some (uid, id) then 1 else 0 := by
  rw [Engine.dueCount, decided.lastKey, decided.counted, Store.count_record,
    Store.actedCount_record, Store.actedCount_count (Store.sorted_count sorted _)]
  split
  case isTrue key =>
    have below := few key
    rw [Engine.dueCount] at below ⊢
    rw [UInt32.toNat_add]
    exact Nat.mod_eq_of_lt below
  case isFalse => simp [Engine.dueCount]

end

/-! ## Runs -/

/-- A screen that is shown, and all else that a decision on it may depend on. -/
structure Sighting where
  screen : Screen
  elapsed : Duration
  package : String

/-- A screen and the decision made on it. -/
structure Visit where
  screen : Screen
  decision : Decision

namespace Visit

def succeeds (visit : Visit) : Bool :=
  visit.decision.result.toOption.isSome

theorem succeeds_iff {visit : Visit} :
    visit.succeeds = true ↔ ∃ action, visit.decision.result = .ok action := by
  cases result : visit.decision.result <;> simp [succeeds, result, Except.toOption]

/-- Whether an action on a widget of the screen was decided. -/
def actsOn (uid : Uuid) (visit : Visit) : Bool :=
  visit.screen.uid = uid && (visit.decision.result.toOption.bind Action.widget?).isSome

theorem actsOn_iff
    (screen : Screen) {decision : Decision} {action : Action}
    (decided : decision.result = .ok action) (uid : Uuid) :
    Visit.actsOn uid ⟨screen, decision⟩ = true ↔
      screen.uid = uid ∧ ∃ widget, action.widget? = some widget := by
  simp [actsOn, decided, Except.toOption, Option.isSome_iff_exists]

/-- The counts that a decision sees are fair, and on the screen itself back is pressed
exactly if the run neither ends nor restarts the app and each count is at its limit. -/
structure IsFair (threshold : Nat) (uid : Uuid) (ids : Finset Uuid) (visit : Visit) : Prop where
  counts : Fair threshold ids fun id => (visit.decision.store.actedCount uid id).toNat
  back : visit.screen.uid = uid →
    (visit.decision.result = .ok .pressBack ↔
      visit.decision.result ≠ .ok .terminate ∧ visit.decision.result ≠ .ok .reset ∧
        ∀ id ∈ ids, (visit.decision.store.actedCount uid id).toNat = threshold + 1)

end Visit

/-- Decide on one screen after another; each is recorded in the store first. -/
def visits (engine : Engine) (store : Store) : List Sighting → List Visit
  | [] => []
  | ⟨screen, elapsed, package⟩ :: rest =>
      let decision := engine.decide (store.record screen) screen elapsed package
      ⟨screen, decision⟩ :: decision.engine.visits decision.store rest

/-- The screen is another one, or it shows these actionable widgets and is no permission
dialog. -/
def Alike (uid : Uuid) (ids : Finset Uuid) (screen : Screen) : Prop :=
  screen.uid = uid → actionableIds screen.outline = ids ∧ screen.isPermissionDialog = false

/-- How an exploring engine stands to a screen between two visits: once the last action
is counted its counts are fair, and they tell how many actions there were. -/
structure Exploring (threshold : UInt32) (uid : Uuid) (ids : Finset Uuid) (engine : Engine)
    (store : Store) (acted : Nat) : Prop where
  explores : ∀ strategy ∈ engine.strategies, strategy.Explores threshold
  backs : .back threshold ∈ engine.strategies
  sorted : Counters.Sorted store.counters
  fair : Fair threshold.toNat ids (engine.dueCount store uid)
  total : ∑ id ∈ ids, engine.dueCount store uid id = acted

namespace Exploring

variable {threshold : UInt32} {uid : Uuid} {ids : Finset Uuid} {engine : Engine}
  {store : Store} {acted : Nat} {screen : Screen} {elapsed : Duration} {package : String}
  {action : Action} {decision : Decision}

theorem start {pool : List Strategy}
    (explores : ∀ strategy ∈ pool, strategy.Explores threshold) (backs : .back threshold ∈ pool) :
    Exploring threshold uid ids (.ofStrategies threshold pool) .empty 0 where
  explores := explores
  backs := backs
  sorted := Counters.sorted_nil
  fair := .zero
  total := Finset.sum_eq_zero fun _ _ => rfl

/-- What is known of a decision on the screen. -/
theorem actsFairly
    (exploring : Exploring threshold uid ids engine store acted)
    (decided : Decided engine store screen elapsed package action decision)
    (alike : Alike uid ids screen) (here : screen.uid = uid) :
    ActsFairly threshold.toNat ids (engine.dueCount store uid) action := by
  obtain ⟨same, noDialog⟩ := alike here
  subst here same
  exact decided.actsFairly exploring.explores exploring.backs noDialog

/-- A decision keeps the counts fair, whatever screen it is made on. -/
theorem decide
    (exploring : Exploring threshold uid ids engine store acted)
    (decided : Decided engine store screen elapsed package action decision)
    (alike : Alike uid ids screen) (bounded : threshold.toNat < 2 ^ 32 - 1) :
    Exploring threshold uid ids decision.engine decision.store
      (acted + if Visit.actsOn uid ⟨screen, decision⟩ then 1 else 0) := by
  have strategies : decision.engine.strategies = engine.strategies :=
    decided.strategies fun strategy member => (exploring.explores strategy member).isSteady
  have sorted : Counters.Sorted decision.store.counters := by
    rw [decided.counted]
    exact Store.sorted_count exploring.sorted _
  have fairly := exploring.actsFairly decided alike
  have due := decided.dueCount exploring.sorted uid
  have actsOn := Visit.actsOn_iff screen decided.result uid
  by_cases acts : screen.uid = uid ∧ ∃ widget, action.widget? = some widget
  -- An action on the screen makes one more due for a widget that had the least; any other
  -- decision leaves the counts of the screen as they were.
  case pos =>
    obtain ⟨here, widget, target⟩ := acts
    obtain ⟨member, below, least⟩ := (fairly here).least target
    have key : counterKey (action, screen) = some (uid, widget.uid) :=
      counterKey_eq_some_iff.mpr ⟨here, widget, target, rfl⟩
    have raised : decision.engine.dueCount decision.store uid =
        fun id => engine.dueCount store uid id + if widget.uid = id then 1 else 0 := by
      funext id
      have few : counterKey (action, screen) = some (uid, id) →
          engine.dueCount store uid id + 1 < UInt32.size := by
        intro sameKey
        cases key.symm.trans sameKey
        exact Nat.lt_of_le_of_lt (Nat.succ_le_succ below) (Nat.add_lt_of_lt_sub bounded)
      rw [due id few, key]
      simp
    refine ⟨strategies ▸ exploring.explores, strategies ▸ exploring.backs, sorted, ?_, ?_⟩
    · rw [raised]
      exact exploring.fair.add_one least below
    · rw [raised, Finset.sum_add_distrib, exploring.total, Finset.sum_ite_eq, if_pos member,
        if_pos (actsOn.mpr ⟨here, widget, target⟩)]
  case neg =>
    have noKey : ∀ id, counterKey (action, screen) ≠ some (uid, id) := by
      intro id key
      obtain ⟨here, widget, target, -⟩ := counterKey_eq_some_iff.mp key
      exact acts ⟨here, widget, target⟩
    have same : decision.engine.dueCount decision.store uid = engine.dueCount store uid := by
      funext id
      rw [due id fun key => (noKey id key).elim, if_neg (noKey id), Nat.add_zero]
    refine ⟨strategies ▸ exploring.explores, strategies ▸ exploring.backs, sorted, ?_, ?_⟩
    · rw [same]
      exact exploring.fair
    · rw [same, exploring.total, if_neg fun on => acts (actsOn.mp on), Nat.add_zero]

/-- The decision on a screen sees fair counts, and back is pressed on the screen as soon
as all its counts are one more than the threshold. -/
theorem isFair
    (exploring : Exploring threshold uid ids engine store acted)
    (decided : Decided engine store screen elapsed package action decision)
    (alike : Alike uid ids screen) :
    Visit.IsFair threshold.toNat uid ids ⟨screen, decision⟩ := by
  have counts : (fun id => (decision.store.actedCount uid id).toNat) =
      engine.dueCount store uid := by
    funext id
    rw [decided.counted, Store.actedCount_record]
    rfl
  have fair := exploring.fair
  rw [← counts] at fair
  refine ⟨fair, fun here => ?_⟩
  have back := (exploring.actsFairly decided alike here).back
  rw [← counts] at back
  have exhausted : (∀ id ∈ ids, threshold.toNat < (decision.store.actedCount uid id).toNat) ↔
      ∀ id ∈ ids, (decision.store.actedCount uid id).toNat = threshold.toNat + 1 :=
    forall₂_congr fun id member =>
      ⟨fun above => Nat.le_antisymm (fair.bounded id member) above,
        fun equal => equal ▸ Nat.lt_succ_self _⟩
  rw [← exhausted]
  simpa [decided.result] using back

/-- All visits of a run are fair, and the actions on the screen are no more than its
counts admit. -/
theorem visits
    (exploring : Exploring threshold uid ids engine store acted)
    (bounded : threshold.toNat < 2 ^ 32 - 1) {shown : List Sighting}
    (succeeds : ∀ visit ∈ engine.visits store shown, visit.succeeds = true)
    (alike : ∀ sighting ∈ shown, Alike uid ids sighting.screen) :
    (∀ visit ∈ engine.visits store shown, visit.IsFair threshold.toNat uid ids) ∧
      acted + (engine.visits store shown).countP (·.actsOn uid) ≤
        ids.card * (threshold.toNat + 1) := by
  induction shown generalizing engine store acted with
  | nil =>
      refine ⟨by simp [Engine.visits], ?_⟩
      rw [← exploring.total]
      exact exploring.fair.sum_le
  | cons sighting rest ih =>
      obtain ⟨screen, elapsed, package⟩ := sighting
      obtain ⟨alikeNow, alikeLater⟩ := List.forall_mem_cons.mp alike
      obtain ⟨succeedsNow, succeedsLater⟩ := List.forall_mem_cons.mp succeeds
      obtain ⟨action, result⟩ := Visit.succeeds_iff.mp succeedsNow
      have decided := decided_of_decide result
      obtain ⟨fair, few⟩ := ih (exploring.decide decided alikeNow bounded) succeedsLater alikeLater
      refine ⟨List.forall_mem_cons.mpr ⟨exploring.isFair decided alikeNow, fair⟩, ?_⟩
      rw [Engine.visits, List.countP_cons]
      omega

end Exploring

/-- Take a new engine that explores, a new store and screens that are shown one after
another.  On a screen that has the same widgets whenever it is shown and is no permission
dialog, at each decision no widget was acted upon more than once more than another or than
the threshold; there are no more actions on its widgets than that admits; and back is
pressed exactly if the run neither ends nor restarts the app and all widgets have reached
the limit. -/
theorem visits_explore_fairly
    {settings : Settings} {files : String → StoredFile} {pool : List Strategy}
    {shown : List Sighting} {uid : Uuid} {outline : List (Uuid × Bool)}
    (exploring : settings.playbackTrace = "") (pooled : settings.pool files = .ok pool)
    (bounded : settings.exhaustionThreshold.toNat < 2 ^ 32 - 1)
    (succeeds : ∀ visit ∈ (settings.engine pool).visits .empty shown, visit.succeeds = true)
    (alike : ∀ sighting ∈ shown, sighting.screen.uid = uid →
      sighting.screen.outline = outline ∧ sighting.screen.isPermissionDialog = false) :
    (∀ visit ∈ (settings.engine pool).visits .empty shown,
      visit.IsFair settings.exhaustionThreshold.toNat uid (actionableIds outline)) ∧
    ((settings.engine pool).visits .empty shown).countP (·.actsOn uid) ≤
      (actionableIds outline).card * (settings.exhaustionThreshold.toNat + 1) := by
  obtain ⟨explores, backs⟩ := Settings.explores_of_mem_pool exploring pooled
  have start : Exploring settings.exhaustionThreshold uid (actionableIds outline)
      (settings.engine pool) .empty 0 := .start explores backs
  have same : ∀ sighting ∈ shown, Alike uid (actionableIds outline) sighting.screen := by
    intro sighting member here
    obtain ⟨sameOutline, noDialog⟩ := alike sighting member here
    exact ⟨by rw [sameOutline], noDialog⟩
  simpa using start.visits bounded succeeds same

/-- A screen of the app with a button for each of the identities, which are bytes that
are repeated. -/
def buttonsOf (uid : UInt8) (ids : List UInt8) : Screen :=
  let repeated (byte : UInt8) : Uuid := ⟨List.replicate 16 byte, List.length_replicate⟩
  ⟨repeated uid, ids.map fun id =>
    ⟨{ packageName := "app", clickable := true, enabled := true, visible := true }, repeated id,
      .nil⟩⟩

/-- Two buttons that are each clicked once before back is pressed; another screen is
shown in between. -/
theorem visits_two_buttons_fairly :
    ∃ (settings : Settings) (pool : List Strategy) (shown : List Sighting) (screen : Screen),
      settings.exhaustionThreshold = 0 ∧ settings.playbackTrace = "" ∧
      settings.pool (fun _ => .missing) = .ok pool ∧
      screen = buttonsOf 1 [2, 3] ∧
      shown.map Sighting.screen = [screen, screen, buttonsOf 4 [2], screen, screen] ∧
      ((settings.engine pool).visits .empty shown).map
          (fun visit => (visit.decision.result.toOption.map Action.kind, visit.actsOn screen.uid)) =
        [(some "Reset", false), (some "WidgetAction", true), (some "WidgetAction", false),
          (some "WidgetAction", true), (some "PressBack", false)] ∧
      (∀ visit ∈ (settings.engine pool).visits .empty shown,
        visit.IsFair 0 screen.uid (actionableIds screen.outline)) ∧
      ((settings.engine pool).visits .empty shown).countP (·.actsOn screen.uid) ≤
        (actionableIds screen.outline).card * (0 + 1) := by
  let settings : Settings := { exhaustionThreshold := 0, appPackage := "app" }
  let screen := buttonsOf 1 [2, 3]
  let shown : List Sighting := [screen, screen, buttonsOf 4 [2], screen, screen].map
    fun screen => ⟨screen, ⟨0⟩, "app"⟩
  have results : ((settings.engine (settings.budgets ++ settings.explorers)).visits .empty
        shown).map
      (fun visit => (visit.decision.result.toOption.map Action.kind, visit.actsOn screen.uid)) =
      [(some "Reset", false), (some "WidgetAction", true), (some "WidgetAction", false),
        (some "WidgetAction", true), (some "PressBack", false)] := by
    decide +kernel
  have succeeds : ∀ visit ∈ (settings.engine (settings.budgets ++ settings.explorers)).visits
      .empty shown, visit.succeeds = true := by
    decide +kernel
  have alike : ∀ sighting ∈ shown, sighting.screen.uid = screen.uid →
      sighting.screen.outline = screen.outline ∧
        sighting.screen.isPermissionDialog = false := by
    decide +kernel
  have pooled : settings.pool (fun _ => .missing) =
      .ok (settings.budgets ++ settings.explorers) := rfl
  obtain ⟨fair, few⟩ := visits_explore_fairly rfl pooled (by decide) succeeds alike
  exact ⟨settings, _, shown, screen, rfl, rfl, rfl, rfl, rfl, results, fair, few⟩

end Engine

end GuiExplorer
