import GuiExplorer.Proofs.Device.Answering
import GuiExplorer.Proofs.Engine.Fairness
import GuiExplorer.Proofs.Exploration.Conduct

/-!
# Where gestures go

Each gesture of a run goes to the centre of a widget that the snapshot fetched right
before shows, and the centre of a widget lies inside of it.  A strategy that explores
or grants a permission chooses only widgets that take gestures.
-/

namespace GuiExplorer

namespace Bounds

/-- The point is in the rectangle, in exact numbers. -/
structure Contains (bounds : Bounds) (x y : Int32) : Prop where
  left : bounds.x.toInt ≤ x.toInt
  right : x.toInt < bounds.right
  top : bounds.y.toInt ≤ y.toInt
  bottom : y.toInt < bounds.bottom

theorem toInt_saturatingAdd (left right : Int32) :
    (saturatingAdd left right).toInt =
      max (-2147483648) (min 2147483647 (left.toInt + right.toInt)) := by
  rw [saturatingAdd, Int32.toInt_ofInt_of_le] <;> omega

theorem toInt_half {size : Int32} (positive : 0 < size) : (size / 2).toInt = size.toInt / 2 := by
  have above : 0 < size.toInt := Int32.lt_iff_toInt_lt.mp positive
  rw [Int32.toInt_div_of_ne_right size 2 (by decide)]
  exact Int.tdiv_eq_ediv_of_nonneg (Int.le_of_lt above)

/-- The middle of an extent is on it, even where its end is beyond the range of positions. -/
theorem middle_within (position : Int32) {size : Int32} (positive : 0 < size) :
    position.toInt ≤ (saturatingAdd position (size / 2)).toInt ∧
      (saturatingAdd position (size / 2)).toInt < position.toInt + size.toInt := by
  have above : 0 < size.toInt := Int32.lt_iff_toInt_lt.mp positive
  have least : -2147483648 ≤ position.toInt := position.le_toInt
  have greatest : position.toInt < 2147483648 := position.toInt_lt
  rw [toInt_saturatingAdd, toInt_half positive]
  omega

theorem contains_center
    {bounds : Bounds} (wide : 0 < bounds.width) (high : 0 < bounds.height) :
    bounds.Contains bounds.center.1 bounds.center.2 := by
  obtain ⟨left, right⟩ := middle_within bounds.x wide
  obtain ⟨top, bottom⟩ := middle_within bounds.y high
  exact ⟨left, right, top, bottom⟩

end Bounds

theorem WidgetData.isActionable_iff {data : WidgetData} :
    data.isActionable = true ↔
      data.enabled = true ∧ data.visible = true ∧
        (data.clickable = true ∨ data.longClickable = true ∨ data.scrollable = true ∨
          data.isCheckable = true) := by
  simp [isActionable, and_assoc, or_assoc]

/-- A strategy that explores or grants a permission acts on actionable widgets only. -/
theorem Strategy.isActionable_of_decide
    {strategy : Strategy} {context : Context} {widget : Widget} {gesture : Gesture}
    (picks : strategy = .explore ∨ strategy = .allowPermission)
    (decided : (strategy.decide context).1 = .ok (.onWidget widget gesture)) :
    widget.data.isActionable = true := by
  have candidate : ∃ info ∈ context.actionable, info.widget = widget := by
    rcases picks with rfl | rfl
    · simp only [decide] at decided
      split at decided
      case h_1 info chosen =>
        cases decided
        exact ⟨info, (leastUsed_actionable chosen).1, rfl⟩
      case h_2 => contradiction
    · simp only [decide] at decided
      split at decided
      case h_1 button chosen =>
        cases decided
        exact allowButton_candidate chosen
      case h_2 => contradiction
  obtain ⟨info, member, rfl⟩ := candidate
  exact (List.mem_filter.mp member).2

/-- Only an action on a widget is carried out by a gesture, which goes to the centre of it. -/
theorem Action.command_eq_perform
    {action : Action} {package : String} {gesture : Gesture} {x y : Int32}
    (performs : action.command package = .perform gesture x y) :
    ∃ widget, action = .onWidget widget gesture ∧ (x, y) = widget.data.bounds.center := by
  cases action with
  | onWidget widget made =>
      cases performs
      exact ⟨widget, rfl, rfl⟩
  | reset | terminate | pressBack | observe => cases performs

/-- The records of the widgets on a screen are those of the snapshot. -/
theorem GuiSnapshot.data_mem_of_screen?
    {decode : Decoder} {snapshot : GuiSnapshot} {screen : Screen} {widget : Widget}
    (shows : snapshot.screen? decode = some screen) (member : widget ∈ screen.widgets) :
    widget.data ∈ snapshot.widgets := by
  have captured : ∃ image, screen = .ofSnapshot snapshot.widgets image := by
    unfold screen? at shows
    split at shows
    case h_1 => exact ⟨_, (Option.some.inj shows).symm⟩
    case h_2 => contradiction
    case h_3 => exact ⟨_, (Option.some.inj shows).symm⟩
  obtain ⟨image, rfl⟩ := captured
  obtain ⟨data, shown, rfl⟩ := List.mem_map.mp member
  exact shown

namespace Explorer

variable {σ : Type} {explorer : Explorer σ}

/-- The context in which the explorer decides on a screen. -/
def contextOn (world : World σ) (explorer : Explorer σ) (screen : Screen) : Context :=
  explorer.engine.context (explorer.engine.countLast explorer.store) screen
    (world.elapsed explorer.outside) explorer.appPackage

/-- On the screen of a fetched snapshot the strategy decides to make the gesture on the
widget. -/
structure Picks (world : World σ) (explorer : Explorer σ) (fetch : Exchange)
    (snapshot : GuiSnapshot) (strategy : Strategy) (widget : Widget) (gesture : Gesture) :
    Prop where
  asked : fetch.command = .fetchGuiState
  answered : fetch.outcome = .ok (.guiState snapshot)
  decided : ∃ screen seen, snapshot.screen? world.decode = some screen ∧
    explorer.observe world = (.ok screen, seen) ∧
    explorer.client.Exchanged seen.client [fetch] ∧
    (seen.decide world screen).1 = .ok (.onWidget widget gesture) ∧
    seen.engine.decider? (seen.contextOn world screen) = some strategy ∧
    (strategy.decide (seen.contextOn world screen)).1 = .ok (.onWidget widget gesture)

/-- The widget of a gesture is live: the snapshot shows it and the gesture goes to its centre,
which is inside of it. -/
structure Hits (snapshot : GuiSnapshot) (strategy : Strategy) (data : WidgetData)
    (x y : Int32) : Prop where
  shown : data ∈ snapshot.widgets
  center : (x, y) = data.bounds.center
  inside : 0 < data.bounds.width → 0 < data.bounds.height → data.bounds.Contains x y
  actionable : strategy = .explore ∨ strategy = .allowPermission →
    data.enabled = true ∧ data.visible = true ∧
      (data.clickable = true ∨ data.longClickable = true ∨ data.scrollable = true ∨
        data.isCheckable = true)

/-- A gesture that comes after these exchanges comes right after the request for a snapshot and
hits a widget of that; an explorer that some rounds lead to has decided it. -/
def AimedAfter (world : World σ) (explorer : Explorer σ) (earlier : List Exchange)
    (gesture : Gesture) (x y : Int32) : Prop :=
  ∃ rounds middle before fetch snapshot strategy widget,
    explorer.progress world rounds = (none, middle) ∧
    explorer.client.Exchanged middle.client before ∧
    earlier = before ++ [fetch] ∧
    middle.Picks world fetch snapshot strategy widget gesture ∧
    Hits snapshot strategy widget.data x y

/-- Each gesture among the exchanges after an explorer is aimed. -/
def Aimed (world : World σ) (explorer : Explorer σ) (exchanges : List Exchange) : Prop :=
  ∀ earlier act later gesture x y,
    exchanges = earlier ++ act :: later → act.command = .perform gesture x y →
    explorer.AimedAfter world earlier gesture x y

theorem Aimed.nil (world : World σ) (explorer : Explorer σ) : explorer.Aimed world [] := by
  intro earlier act later gesture x y split
  simp at split

/-- What an explorer decides on a screen it has just recorded is the choice of the strategy
whose turn it is, on a widget of that screen. -/
theorem picks_of_decide
    {world : World σ} {seen : Explorer σ} {store : Store} {screen : Screen} {widget : Widget}
    {gesture : Gesture} (recorded : seen.store = store.record screen)
    (decided : (seen.decide world screen).1 = .ok (.onWidget widget gesture)) :
    widget ∈ screen.widgets ∧
      ∃ strategy, seen.engine.decider? (seen.contextOn world screen) = some strategy ∧
        (strategy.decide (seen.contextOn world screen)).1 = .ok (.onWidget widget gesture) := by
  have result : (seen.engine.decide seen.store screen (world.elapsed seen.outside)
      seen.appPackage).result = .ok (.onWidget widget gesture) := by
    simp only [decide] at decided
    generalize (seen.engine.decide _ _ _ _).result = outcome at decided
    cases outcome <;> cases decided
    rfl
  have turn := Engine.decider?_of_decide result
  rw [← Engine.countLast_eq] at turn
  rw [recorded] at result
  exact ⟨Engine.isShownOn_of_decide result widget rfl, turn⟩

theorem hits_center
    {decode : Decoder} {snapshot : GuiSnapshot} {screen : Screen} {strategy : Strategy}
    {context : Context} {widget : Widget} {gesture : Gesture} {x y : Int32}
    (shows : snapshot.screen? decode = some screen) (shown : widget ∈ screen.widgets)
    (chosen : (strategy.decide context).1 = .ok (.onWidget widget gesture))
    (center : (x, y) = widget.data.bounds.center) :
    Hits snapshot strategy widget.data x y where
  shown := snapshot.data_mem_of_screen? shows shown
  center := center
  inside wide high := by
    obtain ⟨rfl, rfl⟩ := Prod.mk.inj center
    exact Bounds.contains_center wide high
  actionable picks :=
    WidgetData.isActionable_iff.mp (Strategy.isActionable_of_decide picks chosen)

/-- A request for a snapshot sends no gesture. -/
theorem aimed_fetch {world : World σ} {fetch : Exchange} (asked : fetch.command = .fetchGuiState) :
    explorer.Aimed world [fetch] := by
  intro earlier act later gesture x y split performs
  obtain ⟨rfl, rfl⟩ : fetch = act ∧ [] = later := by
    rcases List.singleton_eq_append_iff.mp split with ⟨-, same⟩ | ⟨-, empty⟩
    · exact List.cons.inj same.symm
    · cases empty
  cases asked.symm.trans performs

theorem aimed_pair
    {world : World σ} {fetch act : Exchange} (asked : fetch.command = .fetchGuiState)
    (aims : ∀ gesture x y, act.command = .perform gesture x y →
      ∃ snapshot strategy widget,
        explorer.Picks world fetch snapshot strategy widget gesture ∧
        Hits snapshot strategy widget.data x y) :
    explorer.Aimed world [fetch, act] := by
  intro earlier other later gesture x y split performs
  rcases List.cons_eq_append_iff.mp split with ⟨-, same⟩ | ⟨rest, rfl, rest_split⟩
  · cases same
    cases asked.symm.trans performs
  · rcases List.singleton_eq_append_iff.mp rest_split with ⟨rfl, same⟩ | ⟨-, empty⟩
    · cases same
      obtain ⟨snapshot, strategy, widget, picks, hits⟩ := aims gesture x y performs
      exact ⟨0, explorer, [], fetch, snapshot, strategy, widget, rfl, .refl _, rfl, picks, hits⟩
    · cases empty

/-- The only gesture of a round is that of its action, after the request for a snapshot. -/
theorem round_aimed (world : World σ) (ready : explorer.client.phase = .ready) :
    ∃ exchanges, explorer.client.Exchanged (explorer.round world).2.client exchanges ∧
      explorer.Aimed world exchanges := by
  rcases observe_cases world ready with
    ⟨fetch, client, screen, ⟨asked, snapshot, answered, shows⟩, fetched, observed⟩ |
    ⟨fetch, client, error, asked, fetched, -, observed⟩
  case inr =>
    refine ⟨[fetch], ?_, aimed_fetch asked⟩
    simpa only [round, observed] using fetched
  case inl =>
    let seen : Explorer σ :=
      { explorer with client := client, store := explorer.store.record screen }
    have sameClient : (seen.decide world screen).2.client = client := rfl
    have package : (seen.decide world screen).2.appPackage = explorer.appPackage := rfl
    rcases decided : seen.decide world screen with ⟨result, next⟩
    rw [decided] at sameClient package
    dsimp only at sameClient package
    cases result with
    | error error =>
        refine ⟨[fetch], ?_, aimed_fetch asked⟩
        simp only [round, observed]
        rw [decided]
        simpa only [sameClient] using fetched
    | ok action =>
        have nextReady : next.client.phase = .ready :=
          sameClient ▸ fetched.phase.trans ready
        obtain ⟨act, final, acts, acted, outcome⟩ := execute_cases world action nextReady
        rw [package] at acts
        have exchanged : explorer.client.Exchanged final [fetch, act] :=
          fetched.trans (sameClient ▸ acted)
        refine ⟨[fetch, act], ?_, ?_⟩
        · simp only [round, observed]
          rw [decided]
          dsimp only
          rcases outcome with ⟨-, executed⟩ | ⟨-, error, -, executed⟩
          · rw [executed]
            obtain ⟨⟨outside, settled⟩, -⟩ :=
              settle_frame world { next with client := final } action screen
            simp only [settled]
            exact exchanged.outsideTo outside
          · rw [executed]
            exact exchanged
        · refine aimed_pair asked fun gesture x y performs => ?_
          obtain ⟨widget, rfl, center⟩ := Action.command_eq_perform (acts ▸ performs)
          have chosen : (seen.decide world screen).1 = .ok (.onWidget widget gesture) := by
            rw [decided]
          obtain ⟨shown, strategy, turn, choice⟩ := picks_of_decide rfl chosen
          exact ⟨snapshot, strategy, widget,
            ⟨asked, answered, screen, seen, shows, observed, fetched, chosen, turn, choice⟩,
            hits_center shows shown choice center⟩

theorem Aimed.append
    {world : World σ} {next : Explorer σ} {action : Action} {first rest : List Exchange}
    (turned : explorer.round world = (.ok action, next))
    (goesOn : action.isTerminate = false)
    (exchanged : explorer.client.Exchanged next.client first)
    (former : explorer.Aimed world first) (latter : next.Aimed world rest) :
    explorer.Aimed world (first ++ rest) := by
  intro earlier act later gesture x y split performs
  -- A gesture of the rest is one round further away from the explorer than from the next one.
  have afterwards : ∀ between, earlier = first ++ between → rest = between ++ act :: later →
      explorer.AimedAfter world earlier gesture x y := by
    rintro between rfl tail
    obtain ⟨rounds, middle, before, fetch, snapshot, strategy, widget, reached, exchangedLater,
      rfl, picks, hits⟩ := latter between act later gesture x y tail performs
    refine ⟨rounds + 1, middle, first ++ before, fetch, snapshot, strategy, widget, ?_,
      exchanged.trans exchangedLater, (List.append_assoc ..).symm, picks, hits⟩
    simpa [progress, turned, goesOn] using reached
  rcases List.append_eq_append_iff.mp split with ⟨between, head, tail⟩ | ⟨between, head, tail⟩
  · exact afterwards between head tail
  · cases between with
    | nil => exact afterwards [] (by simpa using head.symm) (by simpa using tail.symm)
    | cons other between =>
        cases tail
        exact former earlier act between gesture x y head performs

/-- Whatever the strategies, the recordings they replay and the snapshots are, each gesture that
a run sends is aimed; where the calls on the connection are noted, they are those by which the
exchanges are made. -/
theorem run_aims (world : World σ) (limit : Nat) (explorer : Explorer σ) :
    ∃ exchanges,
      explorer.client.Exchanged (explorer.progress world limit).2.client exchanges ∧
      (∀ result final, explorer.run world limit = some (result, final) →
        explorer.client.Exchanged final.client exchanges) ∧
      (∀ calls, world.Notes calls →
        explorer.client.Sends calls (explorer.progress world limit).2.client exchanges ∧
        ∀ result final, explorer.run world limit = some (result, final) →
          explorer.client.Sends calls final.client exchanges) ∧
      explorer.Aimed world exchanges := by
  obtain ⟨exchanges, exchanged, aimed⟩ :=
    progress_exchanges (fun explorer exchanges => explorer.Aimed world exchanges)
      (.nil world) (fun _ ready => round_aimed world ready) .append limit explorer
  refine ⟨exchanges, exchanged, ?_, ?_, aimed⟩
  · intro result final ran
    exact exchanged_of_run exchanged ran
  · intro calls notes
    refine ⟨sends_of_progress notes exchanged, ?_⟩
    intro result final ran
    exact sends_of_run notes (exchanged_of_run exchanged ran) ran

/-- A snapshot of a button that reaches beyond the last position. -/
def cornerButton : GuiSnapshot :=
  ⟨[{ bounds := ⟨2147483600, 10, 100, 40⟩, clickable := true, enabled := true, visible := true }],
    none, ""⟩

private def clickCorner : List Exchange :=
  [⟨.fetchGuiState, true, .ok (.guiState cornerButton)⟩,
    ⟨.perform .click 2147483647 30, false, .ok .ack⟩,
    ⟨.fetchGuiState, false, .ok (.guiState cornerButton)⟩, ⟨.terminate, false, .ok .ack⟩]

private theorem click_corner_told :
    ((ofPool [.explore, .actionBudget 1] ()).run (steady cornerButton) 2).map (fun ran =>
        (ran.1.toOption.isSome, ran.2.client.journal)) =
      some (true, clickCorner.flatMap Exchange.events) := by
  decide +kernel

/-- The click on the button goes to the last column and is on the button. -/
theorem run_aims_at_corner :
    ∃ result final exchanges,
      (ofPool [.explore, .actionBudget 1] ()).run (steady cornerButton) 2 =
        some (result, final) ∧
      (ofPool [.explore, .actionBudget 1] ()).client.Exchanged final.client exchanges ∧
      exchanges.map Exchange.command =
        [.fetchGuiState, .perform .click 2147483647 30, .fetchGuiState, .terminate] ∧
      ∃ data ∈ cornerButton.widgets, data.bounds.Contains 2147483647 30 := by
  obtain ⟨⟨result, final⟩, ran, told⟩ := Option.map_eq_some_iff.mp click_corner_told
  simp only [Prod.mk.injEq] at told
  obtain ⟨exchanges, -, runs, -, aimed⟩ :=
    run_aims (steady cornerButton) 2 (ofPool [.explore, .actionBudget 1] ())
  have exchanged := runs result final ran
  obtain rfl : exchanges = clickCorner :=
    Exchange.eq_of_flatMap_events (exchanged.journal.symm.trans told.2)
  obtain ⟨_, _, _, fetch, snapshot, strategy, widget, -, -, split, picks, hits⟩ :=
    aimed [⟨.fetchGuiState, true, .ok (.guiState cornerButton)⟩] _ _ .click 2147483647 30 rfl rfl
  have fetched : some ⟨.fetchGuiState, true, .ok (.guiState cornerButton)⟩ = some fetch := by
    simpa using congrArg List.getLast? split
  cases fetched
  cases picks.answered
  refine ⟨result, final, _, ran, exchanged, rfl, widget.data, hits.shown, hits.inside ?_ ?_⟩
  all_goals
    rw [List.mem_singleton.mp hits.shown]
    decide

end Explorer

end GuiExplorer
