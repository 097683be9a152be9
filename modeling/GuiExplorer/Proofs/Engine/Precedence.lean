import GuiExplorer.Proofs.Engine.Finality

/-!
# Precedence among strategies

Of the strategies with the highest priority the one that was registered first decides, and none of
the others is touched.  So only the order of strategies of the same priority matters: two pools
that keep it decide alike.
-/

namespace GuiExplorer

theorem Priority.eq_of_rank_eq {left right : Priority} (same : left.rank = right.rank) :
    left = right := by
  cases left <;> cases right <;> first | rfl | cases same

namespace Strategy

variable {context : Context}

theorem name_decide (strategy : Strategy) (context : Context) :
    (strategy.decide context).2.name = strategy.name := by
  cases strategy <;> rfl

/-- What a strategy decides changes nothing about how much it wants to decide. -/
theorem fitness_decide (strategy : Strategy) (context other : Context) :
    (strategy.decide context).2.fitness other = strategy.fitness other := by
  cases strategy <;> rfl

/-- The strategy comes first of those with the highest priority: all that were registered before
it have a lower one, and none after it has a higher one. -/
structure Prevails (context : Context) (before : List Strategy) (strategy : Strategy)
    (later : List Strategy) : Prop where
  before : ∀ other ∈ before, (other.fitness context).rank < (strategy.fitness context).rank
  later : ∀ other ∈ later, (other.fitness context).rank ≤ (strategy.fitness context).rank

/-- The strategies of a pool that have a priority, in the order of registration. -/
def ranked (context : Context) (priority : Priority) (pool : List Strategy) : List Strategy :=
  pool.filter (·.fitness context = priority)

theorem mem_ranked {priority : Priority} {pool : List Strategy} {strategy : Strategy} :
    strategy ∈ ranked context priority pool ↔
      strategy ∈ pool ∧ strategy.fitness context = priority := by
  simp [ranked]

/-- The pools are reorderings of one another in which the strategies of each priority stand in
the same order. -/
def SameRanking (context : Context) (pool other : List Strategy) : Prop :=
  ∀ priority, ranked context priority pool = ranked context priority other

namespace Prevails

variable {before later : List Strategy} {strategy : Strategy}

theorem rank_le (prevails : Prevails context before strategy later) {other : Strategy}
    (member : other ∈ before ++ strategy :: later) :
    (other.fitness context).rank ≤ (strategy.fitness context).rank := by
  rcases List.mem_append.mp member with earlier | here
  · exact Nat.le_of_lt (prevails.before other earlier)
  · rcases List.mem_cons.mp here with rfl | after
    · exact Nat.le_refl _
    · exact prevails.later other after

/-- The strategy comes first of its priority. -/
theorem ranked_eq (prevails : Prevails context before strategy later) (after : Strategy)
    (same : after.fitness context = strategy.fitness context) :
    ranked context (strategy.fitness context) (before ++ after :: later) =
      after :: ranked context (strategy.fitness context) later := by
  have none : ranked context (strategy.fitness context) before = [] := by
    rw [List.eq_nil_iff_forall_not_mem]
    intro other member
    obtain ⟨earlier, equal⟩ := mem_ranked.mp member
    exact Nat.ne_of_lt (prevails.before other earlier) (congrArg Priority.rank equal)
  rw [ranked] at none
  simp [ranked, none, same]

end Prevails

/-- A strategy does not matter to the priorities it does not have. -/
theorem ranked_of_ne
    {priority : Priority} {strategy : Strategy} (other : strategy.fitness context ≠ priority)
    (before later : List Strategy) :
    ranked context priority (before ++ strategy :: later) =
      ranked context priority before ++ ranked context priority later := by
  simp [ranked, other]

namespace SameRanking

variable {pool other : List Strategy}

theorem symm (same : SameRanking context pool other) : SameRanking context other pool :=
  fun priority => (same priority).symm

theorem mem_of_mem
    (same : SameRanking context pool other) {strategy : Strategy} (member : strategy ∈ pool) :
    strategy ∈ other := by
  have inRanked : strategy ∈ ranked context (strategy.fitness context) pool :=
    mem_ranked.mpr ⟨member, rfl⟩
  rw [same] at inRanked
  exact (mem_ranked.mp inRanked).1

/-- In pools with the same ranking the same strategy prevails, and they still have the same
ranking when it has decided. -/
theorem of_prevails
    {before later otherBefore otherLater : List Strategy} {strategy otherStrategy : Strategy}
    (same : SameRanking context (before ++ strategy :: later)
      (otherBefore ++ otherStrategy :: otherLater))
    (prevails : Prevails context before strategy later)
    (otherPrevails : Prevails context otherBefore otherStrategy otherLater) :
    strategy = otherStrategy ∧
      SameRanking context (before ++ (strategy.decide context).2 :: later)
        (otherBefore ++ (strategy.decide context).2 :: otherLater) := by
  have equalRank : (strategy.fitness context).rank = (otherStrategy.fitness context).rank :=
    Nat.le_antisymm (otherPrevails.rank_le (same.mem_of_mem (by simp)))
      (prevails.rank_le (same.symm.mem_of_mem (by simp)))
  have equal : strategy.fitness context = otherStrategy.fitness context :=
    Priority.eq_of_rank_eq equalRank
  have heads := same (strategy.fitness context)
  rw [prevails.ranked_eq strategy rfl, equal, otherPrevails.ranked_eq otherStrategy rfl,
    List.cons.injEq] at heads
  obtain ⟨rfl, tails⟩ := heads
  refine ⟨rfl, fun priority => ?_⟩
  have kept : (strategy.decide context).2.fitness context = strategy.fitness context :=
    fitness_decide strategy context context
  by_cases own : strategy.fitness context = priority
  · subst own
    rw [prevails.ranked_eq _ kept, otherPrevails.ranked_eq _ kept, tails]
  · have others := same priority
    rw [ranked_of_ne own, ranked_of_ne own] at others
    rw [ranked_of_ne (kept ▸ own), ranked_of_ne (kept ▸ own), others]

end SameRanking

end Strategy

namespace Engine

open Strategy

variable {context : Context}

theorem highest_of_unwilling {pool : List Strategy}
    (unwilling : ∀ strategy ∈ pool, strategy.fitness context = .none) :
    highest context pool = .none := by
  rcases highestFrom_attained .none context pool with none | ⟨strategy, member, attains⟩
  · exact none
  · exact attains.symm.trans (unwilling strategy member)

theorem decideIn_unwilling
    (engine : Engine)
    (unwilling : ∀ strategy ∈ engine.strategies, strategy.fitness context = .none) :
    engine.decideIn context = (.error (.noApplicableStrategy context.screen.uid), engine) := by
  simp only [decideIn, highest_of_unwilling unwilling, if_true]

/-- If any strategy wants to decide, the first with the highest priority does: its result is that
of the step, and only it may change. -/
theorem decideIn_willing
    (engine : Engine)
    (willing : ∃ strategy ∈ engine.strategies, strategy.fitness context ≠ .none) :
    ∃ before strategy later, engine.strategies = before ++ strategy :: later ∧
      Prevails context before strategy later ∧
      (engine.decideIn context).1 =
        (strategy.decide context).1.mapError (.strategy strategy.name) ∧
      (engine.decideIn context).2.strategies =
        before ++ (strategy.decide context).2 :: later := by
  have chooses := decideIn_chooses engine context
  generalize (engine.decideIn context).1 = result at chooses ⊢
  generalize (engine.decideIn context).2.strategies = after at chooses ⊢
  cases chooses with
  | nobody error unwilling =>
      obtain ⟨strategy, member, wants⟩ := willing
      exact (wants (unwilling strategy member)).elim
  | @first before later strategy split earlier fits _ =>
      have atMost {other : Strategy} (member : other ∈ engine.strategies) :
          (other.fitness context).rank ≤ (strategy.fitness context).rank :=
        fits ▸ rank_fitness_le_highest member
      refine ⟨before, strategy, later, split, ⟨?_, ?_⟩, by rw [name_decide], rfl⟩
      · intro other member
        refine Nat.lt_of_le_of_ne (atMost (by simp [split, member])) fun same => ?_
        exact earlier other member ((Priority.eq_of_rank_eq same).trans fits)
      · intro other member
        exact atMost (by simp [split, member])

/-- What is known when an engine decides: the last action has been counted. -/
def contextOn (engine : Engine) (occasion : Occasion) : Context :=
  engine.context (engine.countLast occasion.store) occasion.screen occasion.elapsed
    occasion.package

theorem decideOn_eq
    (engine : Engine) (running : engine.state = .running) (occupied : engine.strategies ≠ [])
    (occasion : Occasion) :
    engine.decideOn occasion =
      ⟨(engine.decideIn (engine.contextOn occasion)).1,
        (engine.decideIn (engine.contextOn occasion)).2, engine.countLast occasion.store,
        engine.noticesFor (engine.contextOn occasion)⟩ := by
  have goesOn : engine.isTerminated = false := by simp [isTerminated, running]
  rw [decideOn, decide_eq _ _ _ _ goesOn occupied, contextOn, countLast_eq]

/-- Engines that differ in nothing but a reordering of strategies of different priority decide
the same, and differ in nothing else afterwards. -/
theorem decideIn_reordered
    {engine : Engine} {pool : List Strategy} (same : SameRanking context pool engine.strategies) :
    (decideIn { engine with strategies := pool } context).1 = (engine.decideIn context).1 ∧
      SameRanking context (decideIn { engine with strategies := pool } context).2.strategies
        (engine.decideIn context).2.strategies := by
  by_cases willing : ∃ strategy ∈ engine.strategies, strategy.fitness context ≠ .none
  · have alsoWilling : ∃ strategy ∈ pool, strategy.fitness context ≠ .none := by
      obtain ⟨strategy, member, wants⟩ := willing
      exact ⟨strategy, same.symm.mem_of_mem member, wants⟩
    obtain ⟨before, strategy, later, split, prevails, result, after⟩ := decideIn_willing engine willing
    obtain ⟨otherBefore, other, otherLater, otherSplit, otherPrevails, otherResult, otherAfter⟩ :=
      decideIn_willing { engine with strategies := pool } alsoWilling
    change pool = _ at otherSplit
    rw [split, otherSplit] at same
    obtain ⟨rfl, sameAfter⟩ := same.of_prevails otherPrevails prevails
    exact ⟨otherResult.trans result.symm, otherAfter ▸ after ▸ sameAfter⟩
  · have unwilling : ∀ strategy ∈ engine.strategies, strategy.fitness context = .none := by
      simpa using willing
    have alsoUnwilling : ∀ strategy ∈ pool, strategy.fitness context = .none :=
      fun strategy member => unwilling strategy (same.mem_of_mem member)
    rw [decideIn_unwilling engine unwilling,
      decideIn_unwilling { engine with strategies := pool } alsoUnwilling]
    exact ⟨rfl, same⟩

/-- A running engine with any strategies and on any occasion: if none of them wants to decide, it
fails and stays as it is.  Otherwise the first of those with the highest priority decides, its
action or its error is the result, and all other strategies are what they were.  A reordering
that keeps the order within each priority makes no difference to the result. -/
theorem first_of_highest_decides
    (engine : Engine) (running : engine.state = .running) (occupied : engine.strategies ≠ [])
    (occasion : Occasion) :
    let context := engine.contextOn occasion
    let decision := engine.decideOn occasion
    ((∀ strategy ∈ engine.strategies, strategy.fitness context = .none) →
      decision.result = .error (.noApplicableStrategy occasion.screen.uid) ∧
        decision.engine = engine) ∧
    ((∃ strategy ∈ engine.strategies, strategy.fitness context ≠ .none) →
      ∃ before strategy later, engine.strategies = before ++ strategy :: later ∧
        Prevails context before strategy later ∧
        decision.result = (strategy.decide context).1.mapError (.strategy strategy.name) ∧
        decision.engine.strategies = before ++ (strategy.decide context).2 :: later) ∧
    ∀ pool, SameRanking context pool engine.strategies →
      let reordered := decideOn { engine with strategies := pool } occasion
      reordered.result = decision.result ∧
        SameRanking context reordered.engine.strategies decision.engine.strategies := by
  intro context decision
  have decided : decision = _ := decideOn_eq engine running occupied occasion
  refine ⟨fun unwilling => ?_, fun willing => ?_, fun pool same => ?_⟩
  · rw [decided, decideIn_unwilling engine unwilling]
    exact ⟨rfl, rfl⟩
  · rw [decided]
    exact decideIn_willing engine willing
  · have alsoOccupied : pool ≠ [] := by
      obtain ⟨strategy, member⟩ := List.exists_mem_of_ne_nil _ occupied
      exact List.ne_nil_of_mem (same.symm.mem_of_mem member)
    have reordered := decideOn_eq { engine with strategies := pool } running alsoOccupied occasion
    rw [decided, reordered]
    exact decideIn_reordered same

/-- Of two recordings the first one replays and the second one stays where it is, though the app
is to be restarted at the start of a run; it makes no difference which of the recordings and that
strategy is registered first.  A budget that is not spent wants nothing. -/
theorem first_of_highest_decides_of_two_recordings :
    let occasion : Occasion := ⟨.empty, ⟨.nil, []⟩, ⟨0⟩, "app"⟩
    let former : Playback := .ofRecords "app" [(.observe, ⟨.nil, []⟩)]
    let latter : Playback := .ofRecords "app" [(.pressBack, ⟨.nil, []⟩)]
    let engine := ofStrategies 1 [.reset, .playback former, .playback latter]
    let pool : List Strategy := [.playback former, .reset, .playback latter]
    let idle := ofStrategies 1 [.actionBudget 1]
    engine.state = .running ∧ engine.strategies ≠ [] ∧
      (engine.decideOn occasion).result = .ok .observe ∧
      (engine.decideOn occasion).engine.strategies =
        [.reset, .playback (former.next (engine.contextOn occasion)).2, .playback latter] ∧
      SameRanking (engine.contextOn occasion) pool engine.strategies ∧
      (decideOn { engine with strategies := pool } occasion).result = .ok .observe ∧
      (∃ before strategy later, engine.strategies = before ++ strategy :: later ∧
        Prevails (engine.contextOn occasion) before strategy later) ∧
      (idle.decideOn occasion).result = .error (.noApplicableStrategy .nil) := by
  intro occasion former latter engine pool idle
  have same : SameRanking (engine.contextOn occasion) pool engine.strategies := by
    intro priority
    cases priority <;> rfl
  have result : (engine.decideOn occasion).result = .ok .observe := by decide +kernel
  obtain ⟨-, decides, reorders⟩ := first_of_highest_decides engine rfl (List.cons_ne_nil _ _)
    occasion
  obtain ⟨unwilling, -, -⟩ := first_of_highest_decides idle rfl (List.cons_ne_nil _ _) occasion
  obtain ⟨before, strategy, later, split, prevails, -, -⟩ :=
    decides ⟨.reset, List.mem_cons_self, by decide⟩
  obtain ⟨fails, -⟩ := unwilling (List.forall_mem_singleton.mpr rfl)
  exact ⟨rfl, List.cons_ne_nil _ _, result, rfl, same, (reorders pool same).1.trans result,
    ⟨before, strategy, later, split, prevails⟩, fails⟩

end Engine

end GuiExplorer
