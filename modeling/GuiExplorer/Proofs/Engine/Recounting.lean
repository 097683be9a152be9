import GuiExplorer.Proofs.Engine.Finality
import Mathlib.Data.List.Induction

/-!
# Counting across failed decisions

The action issued last is counted at the start of each decision, and it stays the last one if the
decision fails.  So it is counted once by the decision that issues the next action, and once more
by each that fails before that.
-/

namespace GuiExplorer

/-- What an engine answered when it was asked for a decision on a screen. -/
structure Answer where
  screen : Screen
  result : Except EngineError Action

namespace Answer

/-- Whether no action was issued. -/
def fails (answer : Answer) : Bool :=
  !answer.result.isOk

/-- The counter for the action that was issued, if it is on a widget. -/
def key? (answer : Answer) : Option (Uuid × Uuid) :=
  answer.result.toOption.bind fun action => counterKey (action, answer.screen)

theorem key?_of_fails {answer : Answer} (fails : answer.fails = true) : answer.key? = none := by
  rcases result : answer.result with error | action
  · simp [key?, result, Except.toOption]
  · simp [Answer.fails, result, Except.isOk, Except.toBool] at fails

end Answer

/-! ## What answers say about a counter -/

namespace Answers

variable {key : Uuid × Uuid}

/-- The counter for the action issued last, if it is on a widget. -/
def lastKey? (answers : List Answer) : Option (Uuid × Uuid) :=
  (answers.filter (!·.fails)).getLast?.bind Answer.key?

/-- How many actions were issued for the counter. -/
def issued (key : Uuid × Uuid) (answers : List Answer) : Nat :=
  answers.countP (·.key? = some key)

/-- How many decisions were asked for while the action issued last was for the counter. -/
def asked (key : Uuid × Uuid) (answers : List Answer) : Nat :=
  (List.range answers.length).countP fun place => lastKey? (answers.take place) = some key

/-- How many of these failed. -/
def failed (key : Uuid × Uuid) (answers : List Answer) : Nat :=
  (List.range answers.length).countP fun place =>
    answers[place]?.any Answer.fails && lastKey? (answers.take place) = some key

/-- How many actions for the counter have not been followed by a decision yet that issued another:
one, if that issued last is for the counter. -/
def pending (key : Uuid × Uuid) (answers : List Answer) : Nat :=
  if lastKey? answers = some key then 1 else 0

theorem lastKey?_concat (answers : List Answer) (last : Answer) :
    lastKey? (answers ++ [last]) = if last.fails then lastKey? answers else last.key? := by
  by_cases fails : last.fails = true <;> simp [lastKey?, fails]

theorem pending_concat (answers : List Answer) (last : Answer) :
    pending key (answers ++ [last]) =
      if last.fails then pending key answers else if last.key? = some key then 1 else 0 := by
  rw [pending, lastKey?_concat, pending]
  split <;> rfl

theorem issued_concat (answers : List Answer) (last : Answer) :
    issued key (answers ++ [last]) =
      issued key answers + if last.key? = some key then 1 else 0 := by
  rw [issued, List.countP_append, List.countP_singleton, issued]
  simp only [decide_eq_true_eq]

theorem asked_concat (answers : List Answer) (last : Answer) :
    asked key (answers ++ [last]) = asked key answers + pending key answers := by
  have earlier : ∀ place ∈ List.range answers.length,
      (answers ++ [last]).take place = answers.take place := fun place member =>
    List.take_append_of_le_length (Nat.le_of_lt (List.mem_range.mp member))
  rw [asked, List.length_append, List.length_singleton, List.range_succ, List.countP_append,
    List.countP_singleton, List.take_left, asked, pending]
  simp only [decide_eq_true_eq]
  congr 1
  exact List.countP_congr fun place member => by rw [earlier place member]

theorem failed_concat (answers : List Answer) (last : Answer) :
    failed key (answers ++ [last]) =
      failed key answers + if last.fails then pending key answers else 0 := by
  have earlier : ∀ place ∈ List.range answers.length,
      (answers ++ [last]).take place = answers.take place ∧
        (answers ++ [last])[place]? = answers[place]? := fun place member =>
    have inside := List.mem_range.mp member
    ⟨List.take_append_of_le_length (Nat.le_of_lt inside), List.getElem?_append_left inside⟩
  rw [failed, List.length_append, List.length_singleton, List.range_succ, List.countP_append,
    List.countP_singleton, List.take_left, List.getElem?_concat_length, failed, pending]
  congr 1
  · refine List.countP_congr fun place member => ?_
    rw [(earlier place member).1, (earlier place member).2]
  · by_cases fails : last.fails = true <;> by_cases same : lastKey? answers = some key <;>
      simp [fails, same]

/-- Each action for the counter is followed by one decision that issues the next one, unless it is
the last, and by those that fail before that. -/
theorem asked_add_pending (key : Uuid × Uuid) (answers : List Answer) :
    asked key answers + pending key answers = issued key answers + failed key answers := by
  induction answers using List.reverseRecOn with
  | nil => simp [asked, pending, issued, failed, lastKey?]
  | append_singleton answers last ih =>
      rw [asked_concat, issued_concat, failed_concat, pending_concat]
      by_cases fails : last.fails = true
      · rw [if_pos fails, if_pos fails, Answer.key?_of_fails fails]
        simp only [reduceCtorEq, if_false]
        omega
      · rw [if_neg fails, if_neg fails]
        omega

theorem pending_le_issued (key : Uuid × Uuid) (answers : List Answer) :
    pending key answers ≤ issued key answers := by
  induction answers using List.reverseRecOn with
  | nil => simp [pending, lastKey?]
  | append_singleton answers last ih =>
      rw [issued_concat, pending_concat]
      by_cases fails : last.fails = true
      · rw [if_pos fails]
        exact Nat.le_add_right_of_le ih
      · rw [if_neg fails]
        exact Nat.le_add_left _ _

/-- If nothing is asked for after a failure, at most that failure follows an action for the
counter, which then is the last one. -/
theorem failed_le_pending
    {answers : List Answer} (fatal : ∀ answer ∈ answers.dropLast, answer.fails = false) :
    failed key answers ≤ pending key answers := by
  rcases List.eq_nil_or_concat answers with rfl | ⟨earlier, last, rfl⟩
  · exact Nat.zero_le _
  · rw [List.concat_eq_append] at fatal ⊢
    rw [List.dropLast_concat] at fatal
    have none : failed key earlier = 0 := by
      refine List.countP_eq_zero.mpr fun place member => ?_
      have inside := List.mem_range.mp member
      simp [List.getElem?_eq_getElem inside, fatal _ (List.getElem_mem inside)]
    rw [failed_concat, pending_concat, none, Nat.zero_add]
    split
    · exact Nat.le_refl _
    · exact Nat.zero_le _

end Answers

/-! ## What a decision leaves -/

namespace Engine

theorem Chooses.eq_nil
    {context : Context} {strategies after : List Strategy} {result : Except EngineError Action}
    (chooses : Chooses context strategies result after) (none : after = []) :
    strategies = [] := by
  cases chooses with
  | nobody error unwilling => exact none
  | first split earlier fits willing => simp at none

/-- No strategies are lost. -/
theorem eq_nil_of_decideOn
    {engine : Engine} {occasion : Occasion}
    (none : (engine.decideOn occasion).engine.strategies = []) :
    engine.strategies = [] := by
  rcases engine.decideOn_cases occasion with ⟨-, -, same, -⟩ | ⟨context, -, chooses⟩
  · rwa [same] at none
  · exact chooses.eq_nil none

/-- Only a running engine with strategies issues an action. -/
theorem busy_of_decideOn
    {engine : Engine} {occasion : Occasion} {action : Action}
    (decided : (engine.decideOn occasion).result = .ok action) :
    engine.isTerminated = false ∧ engine.strategies ≠ [] := by
  rcases idle_or_running engine with idle | busy
  · obtain ⟨error, nothing⟩ := decide_idle occasion.store occasion.screen occasion.elapsed
      occasion.package idle
    rw [decideOn, nothing] at decided
    cases decided
  · exact busy

end Engine

/-! ## Asking for one decision after another -/

/-- A request for a decision on a screen; any screens may have been recorded since the last one. -/
structure Request where
  recorded : List Screen
  screen : Screen
  elapsed : Duration
  package : String

/-- The occasion on which a request is made, given what the store held after the last one. -/
def Request.occasion (request : Request) (store : Store) : Occasion :=
  ⟨request.recorded.foldl Store.record store, request.screen, request.elapsed, request.package⟩

/-- An engine with the store it counts in, and what it has answered. -/
structure Session where
  engine : Engine
  store : Store
  answers : List Answer

namespace Session

/-- Nothing was observed, counted or asked for yet. -/
def new (threshold : UInt32) (pool : List Strategy) : Session :=
  ⟨.ofStrategies threshold pool, .empty, []⟩

def ask (session : Session) (request : Request) : Session :=
  let decision := session.engine.decideOn (request.occasion session.store)
  ⟨decision.engine, decision.store, session.answers ++ [⟨request.screen, decision.result⟩]⟩

/-- Ask for one decision after another, also after those that fail. -/
def askAll (session : Session) (requests : List Request) : Session :=
  requests.foldl ask session

/-- The counters agree with the answers, and an engine that would not count any more has nothing
to count. -/
structure Accounts (session : Session) : Prop where
  sorted : Counters.Sorted session.store.counters
  last : session.engine.lastKey = Answers.lastKey? session.answers
  idle : session.engine.isTerminated = true ∨ session.engine.strategies = [] →
    session.engine.lastKey = none
  counts : ∀ screen widget, session.store.actedCount screen widget =
    UInt32.ofNat (Answers.asked (screen, widget) session.answers)

theorem counters_recorded (screens : List Screen) (store : Store) :
    (screens.foldl Store.record store).counters = store.counters := by
  induction screens generalizing store with
  | nil => rfl
  | cons screen rest ih => exact ih (store.record screen)

theorem accounts_new (threshold : UInt32) (pool : List Strategy) :
    (new threshold pool).Accounts where
  sorted := Counters.sorted_nil
  last := rfl
  idle _ := rfl
  counts _ _ := rfl

namespace Accounts

variable {session : Session}

/-- Whatever is answered, the action issued last was counted, if there was any to count. -/
theorem store_ask (accounts : session.Accounts) (request : Request) :
    (session.ask request).store =
      (request.occasion session.store).store.count session.engine.lastKey := by
  obtain ⟨engine, store, answers⟩ := session
  rcases Engine.idle_or_running engine with idle | ⟨running, occupied⟩
  · obtain ⟨error, nothing⟩ := Engine.decide_idle (request.occasion store).store request.screen
      request.elapsed request.package idle
    have uncounted : engine.lastKey = none := accounts.idle idle
    rw [uncounted]
    exact congrArg Decision.store nothing
  · exact congrArg Decision.store (Engine.decide_eq (request.occasion store).store request.screen
      request.elapsed request.package running occupied)

theorem ask (accounts : session.Accounts) (request : Request) :
    (session.ask request).Accounts := by
  have store := accounts.store_ask request
  have sorted : Counters.Sorted (request.occasion session.store).store.counters := by
    rw [Request.occasion, counters_recorded]
    exact accounts.sorted
  constructor
  case sorted =>
    rw [store]
    exact Store.sorted_count sorted _
  case counts =>
    intro screen widget
    have kept : (request.occasion session.store).store.actedCount screen widget =
        session.store.actedCount screen widget := by
      rw [Store.actedCount, Request.occasion, counters_recorded, Store.actedCount]
    rw [store, Store.actedCount_count sorted, kept, accounts.counts, accounts.last, Session.ask,
      Answers.asked_concat, Answers.pending, UInt32.ofNat_add]
    split <;> rfl
  case last =>
    have steps := session.engine.decideOn_steps (request.occasion session.store)
    rw [Session.ask, Answers.lastKey?_concat]
    generalize session.engine.decideOn (request.occasion session.store) = decision at steps ⊢
    obtain ⟨result, engine, store, notices⟩ := decision
    cases steps with
    | fails error strategies => exact accounts.last
    | acts action strategies reason => rfl
  case idle =>
    have remains := @Engine.eq_nil_of_decideOn session.engine (request.occasion session.store)
    have busy := @Engine.busy_of_decideOn session.engine (request.occasion session.store)
    have steps := session.engine.decideOn_steps (request.occasion session.store)
    rw [Session.ask]
    generalize session.engine.decideOn (request.occasion session.store) = decision
      at steps remains busy ⊢
    obtain ⟨result, engine, store, notices⟩ := decision
    cases steps with
    | fails error strategies => exact fun idle => accounts.idle (idle.imp id remains)
    | acts action strategies reason =>
        obtain ⟨running, occupied⟩ := busy rfl
        rintro (terminated | empty)
        · -- An action that ends the run is on no widget.
          by_cases ends : action.isTerminate = true
          · rw [Action.isTerminate_iff.mp ends]
            rfl
          · rw [Engine.isTerminated, if_neg ends] at terminated
            cases running.symm.trans terminated
        · exact absurd (remains empty) occupied

theorem askAll (accounts : session.Accounts) (requests : List Request) :
    (session.askAll requests).Accounts := by
  induction requests generalizing session with
  | nil => exact accounts
  | cons request requests ih => exact ih (accounts.ask request)

end Accounts

/-- A counter stands at the number of actions that were issued for it, and one more for each
decision that failed while such an action was the last one, less one while it still is.  So it
exceeds the number of actions exactly if more decisions failed than that one.  If nothing is asked
for after a failure, it does not. -/
theorem failures_count_again
    (threshold : UInt32) (pool : List Strategy) (requests : List Request) (screen widget : Uuid) :
    let session := (new threshold pool).askAll requests
    let issued := Answers.issued (screen, widget) session.answers
    let failed := Answers.failed (screen, widget) session.answers
    let pending := Answers.pending (screen, widget) session.answers
    let counted := session.store.actedCount screen widget
    pending ≤ issued ∧
    counted = UInt32.ofNat (issued + failed - pending) ∧
    (failed ≤ pending → counted.toNat ≤ issued) ∧
    ((∀ answer ∈ session.answers.dropLast, answer.fails = false) → counted.toNat ≤ issued) ∧
    (issued + failed < UInt32.size → pending < failed → issued < counted.toNat) := by
  intro session issued failed pending counted
  have accounts : session.Accounts := (accounts_new threshold pool).askAll requests
  have balance := Answers.asked_add_pending (screen, widget) session.answers
  have included : pending ≤ issued := Answers.pending_le_issued _ _
  have stands : counted = UInt32.ofNat (issued + failed - pending) := by
    rw [show issued + failed - pending = Answers.asked (screen, widget) session.answers by omega]
    exact accounts.counts screen widget
  have bounded : failed ≤ pending → counted.toNat ≤ issued := by
    intro few
    rw [stands, UInt32.toNat_ofNat']
    exact Nat.le_trans (Nat.mod_le _ _) (by omega)
  refine ⟨included, stands, bounded, fun fatal => bounded (Answers.failed_le_pending fatal), ?_⟩
  intro fits many
  rw [stands, UInt32.toNat_ofNat', Nat.mod_eq_of_lt (Nat.lt_of_le_of_lt (Nat.sub_le _ _) fits)]
  omega

/-- A button is clicked; on a blank screen nothing applies, and then another button is clicked. -/
theorem failures_count_again_of_blank :
    let first : Widget := ⟨{ clickable := true, enabled := true, visible := true }, .nil, .nil⟩
    let second : Widget := { first with uid := ⟨.replicate 16 1, rfl⟩ }
    let main : Request := ⟨[⟨.nil, [first, second]⟩], ⟨.nil, [first, second]⟩, ⟨0⟩, "app"⟩
    let blank : Request := ⟨[], ⟨⟨.replicate 16 1, rfl⟩, []⟩, ⟨0⟩, "app"⟩
    let stopped := (new 1 [.explore]).askAll [main, blank]
    let resumed := (new 1 [.explore]).askAll [main, blank, main]
    (∀ answer ∈ stopped.answers.dropLast, answer.fails = false) ∧
      (stopped.store.actedCount .nil .nil).toNat ≤ 1 ∧
      resumed.answers.map Answer.fails = [false, true, false] ∧
      1 < (resumed.store.actedCount .nil .nil).toNat := by
  intro first second main blank stopped resumed
  have fatal : ∀ answer ∈ stopped.answers.dropLast, answer.fails = false := by decide +kernel
  obtain ⟨-, -, -, bounded, -⟩ :=
    failures_count_again 1 [.explore] [main, blank] .nil .nil
  obtain ⟨-, -, -, -, exceeded⟩ :=
    failures_count_again 1 [.explore] [main, blank, main] .nil .nil
  refine ⟨fatal, ?_, by decide +kernel, ?_⟩
  · exact Nat.le_trans (bounded fatal) (by decide +kernel)
  · exact Nat.lt_of_le_of_lt (by decide +kernel) (exceeded (by decide +kernel) (by decide +kernel))

/-- The first button was clicked once, and is counted twice. -/
theorem click_counted_twice :
    let first : Widget := ⟨{ clickable := true, enabled := true, visible := true }, .nil, .nil⟩
    let second : Widget := { first with uid := ⟨.replicate 16 1, rfl⟩ }
    let main : Screen := ⟨.nil, [first, second]⟩
    let blank : Screen := ⟨⟨.replicate 16 1, rfl⟩, []⟩
    let session := (new 1 [.explore]).askAll
      [⟨[main], main, ⟨0⟩, "app"⟩, ⟨[blank], blank, ⟨0⟩, "app"⟩, ⟨[main], main, ⟨0⟩, "app"⟩]
    session.answers.map Answer.result =
        [.ok (.click first), .error (.noApplicableStrategy blank.uid), .ok (.click second)] ∧
      Answers.issued (main.uid, first.uid) session.answers = 1 ∧
      session.store.actedCount main.uid first.uid = 2 := by
  decide +kernel

end Session

end GuiExplorer
