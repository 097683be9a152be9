import GuiExplorer.Proofs.Engine.Targets

/-!
# Who decides

No strategy of a pool has a higher priority than the one that decides.  Only the
strategy that decides may change, and of all strategies only playbacks do.
-/

namespace GuiExplorer

/-- Strategies that are the same after they have decided. -/
def Strategy.IsSteady (strategy : Strategy) : Prop :=
  ∀ context, (strategy.decide context).2 = strategy

theorem Strategy.isSteady_of_not_playback
    {strategy : Strategy} (other : ∀ recorded, strategy ≠ .playback recorded) :
    strategy.IsSteady := by
  intro context
  cases strategy with
  | playback recorded => exact (other recorded rfl).elim
  | explore | back | reset | allowPermission | terminate => rfl

namespace Engine

theorem rank_le_highestFrom
    (best : Priority) (context : Context) (strategies : List Strategy) :
    best.rank ≤ (highestFrom best context strategies).rank ∧
      ∀ strategy ∈ strategies,
        (strategy.fitness context).rank ≤ (highestFrom best context strategies).rank := by
  induction strategies generalizing best with
  | nil => exact ⟨Nat.le_refl _, by simp⟩
  | cons strategy rest ih =>
      rw [highestFrom]
      split
      case isTrue below =>
        obtain ⟨atLeast, all⟩ := ih (strategy.fitness context)
        exact ⟨Nat.le_trans (Nat.le_of_lt below) atLeast,
          List.forall_mem_cons.mpr ⟨atLeast, all⟩⟩
      case isFalse notBelow =>
        obtain ⟨atLeast, all⟩ := ih best
        exact ⟨atLeast,
          List.forall_mem_cons.mpr ⟨Nat.le_trans (Nat.not_lt.mp notBelow) atLeast, all⟩⟩

/-- No strategy has a higher priority than the highest. -/
theorem rank_fitness_le_highest
    {context : Context} {strategies : List Strategy} {strategy : Strategy}
    (member : strategy ∈ strategies) :
    (strategy.fitness context).rank ≤ (highest context strategies).rank :=
  (rank_le_highestFrom .none context strategies).2 strategy member

theorem highestFrom_attained (best : Priority) (context : Context) (strategies : List Strategy) :
    highestFrom best context strategies = best ∨
      ∃ strategy ∈ strategies, strategy.fitness context = highestFrom best context strategies := by
  induction strategies generalizing best with
  | nil => exact .inl rfl
  | cons strategy rest ih =>
      rw [highestFrom]
      split
      case isTrue =>
        rcases ih (strategy.fitness context) with same | ⟨other, member, attains⟩
        · exact .inr ⟨strategy, List.mem_cons_self, same.symm⟩
        · exact .inr ⟨other, List.mem_cons_of_mem _ member, attains⟩
      case isFalse =>
        rcases ih best with same | ⟨other, member, attains⟩
        · exact .inl same
        · exact .inr ⟨other, List.mem_cons_of_mem _ member, attains⟩

/-- The first strategy with a priority that some strategy has decides, and only that strategy
may change. -/
theorem decideWith_split
    {priority : Priority} {context : Context} {strategies : List Strategy}
    (some : ∃ strategy ∈ strategies, strategy.fitness context = priority) :
    ∃ before strategy later, strategies = before ++ strategy :: later ∧
      (∀ other ∈ before, other.fitness context ≠ priority) ∧
      strategy.fitness context = priority ∧
      decideWith priority context strategies =
        Option.some ((strategy.decide context).1, (strategy.decide context).2,
          before ++ (strategy.decide context).2 :: later) := by
  induction strategies with
  | nil =>
      obtain ⟨strategy, member, -⟩ := some
      cases member
  | cons strategy rest ih =>
      by_cases chosen : strategy.fitness context = priority
      · exact ⟨[], strategy, rest, rfl, by simp, chosen, by rw [decideWith, if_pos chosen]; rfl⟩
      · obtain ⟨other, member, fits⟩ := some
        have inRest : other ∈ rest := by
          rcases List.mem_cons.mp member with here | there
          · exact absurd (here ▸ fits) chosen
          · exact there
        obtain ⟨before, decider, later, split, others, priority, decides⟩ :=
          ih ⟨other, inRest, fits⟩
        refine ⟨strategy :: before, decider, later, ?_, ?_, priority, ?_⟩
        · rw [split, List.cons_append]
        · exact List.forall_mem_cons.mpr ⟨chosen, others⟩
        · rw [decideWith, if_neg chosen, decides]
          rfl

/-- How strategies come to a result in a context, and what becomes of them: none of them wants
to decide, or the first of those with the highest priority does and may change. -/
inductive Chooses (context : Context) (strategies : List Strategy) :
    Except EngineError Action → List Strategy → Prop where
  | nobody (error : EngineError)
      (unwilling : ∀ strategy ∈ strategies, strategy.fitness context = .none) :
      Chooses context strategies (.error error) strategies
  | first {before later : List Strategy} {strategy : Strategy}
      (split : strategies = before ++ strategy :: later)
      (earlier : ∀ other ∈ before, other.fitness context ≠ highest context strategies)
      (fits : strategy.fitness context = highest context strategies)
      (willing : strategy.fitness context ≠ .none) :
      Chooses context strategies
        ((strategy.decide context).1.mapError (.strategy (strategy.decide context).2.name))
        (before ++ (strategy.decide context).2 :: later)

theorem decideIn_chooses (engine : Engine) (context : Context) :
    Chooses context engine.strategies (engine.decideIn context).1
      (engine.decideIn context).2.strategies := by
  by_cases none : highest context engine.strategies = .none
  · simp only [decideIn, none, if_true]
    refine .nobody _ fun strategy member => ?_
    have low : (strategy.fitness context).rank ≤ (highest context engine.strategies).rank :=
      rank_fitness_le_highest member
    rw [none] at low
    cases fits : strategy.fitness context <;> simp [fits, Priority.rank] at low
    rfl
  · have attained := (highestFrom_attained .none context engine.strategies).resolve_left none
    obtain ⟨before, strategy, later, split, earlier, fits, decides⟩ := decideWith_split attained
    change decideWith (highest context engine.strategies) _ _ = _ at decides
    have chooses := Chooses.first split earlier fits (fits ▸ none)
    simp only [decideIn, if_neg none, decides]
    generalize strategy.decide context = decision at chooses ⊢
    obtain ⟨result, decider⟩ := decision
    cases result with
    | error error => exact chooses
    | ok action => exact chooses

theorem Chooses.of_ok
    {context : Context} {strategies after : List Strategy} {action : Action}
    (chooses : Chooses context strategies (.ok action) after) :
    ∃ before strategy later, strategies = before ++ strategy :: later ∧
      (∀ other ∈ before, other.fitness context ≠ highest context strategies) ∧
      strategy.fitness context = highest context strategies ∧
      strategy.fitness context ≠ .none ∧
      (strategy.decide context).1 = .ok action ∧
      after = before ++ (strategy.decide context).2 :: later := by
  generalize result : Except.ok action = answer at chooses
  cases chooses with
  | nobody error unwilling => cases result
  | @first before later strategy split earlier fits willing =>
      refine ⟨before, strategy, later, split, earlier, fits, willing, ?_, rfl⟩
      generalize (strategy.decide context).1 = chosen at result
      cases chosen with
      | error error => cases result
      | ok other =>
          cases result
          rfl

/-- The strategy whose action is decided in a context: none has a higher priority, and
it wants to decide. -/
structure IsDecider (strategies : List Strategy) (context : Context) (action : Action)
    (strategy : Strategy) : Prop where
  member : strategy ∈ strategies
  highest : ∀ other ∈ strategies,
    (other.fitness context).rank ≤ (strategy.fitness context).rank
  willing : strategy.fitness context ≠ .none
  decides : (strategy.decide context).1 = .ok action

theorem decider_of_decideIn
    {engine next : Engine} {context : Context} {action : Action}
    (decided : engine.decideIn context = (.ok action, next)) :
    (∃ strategy, IsDecider engine.strategies context action strategy) ∧
      ((∀ strategy ∈ engine.strategies, strategy.IsSteady) →
        next.strategies = engine.strategies) := by
  have chooses := decideIn_chooses engine context
  rw [decided] at chooses
  obtain ⟨before, strategy, later, split, -, fits, willing, chosen, after⟩ := chooses.of_ok
  have member : strategy ∈ engine.strategies := by simp [split]
  refine ⟨⟨strategy, member, ?_, willing, chosen⟩, ?_⟩
  · intro other otherMember
    rw [fits]
    exact rank_fitness_le_highest otherMember
  · intro steady
    rw [after, steady strategy member context, split]

/-- An action that an engine decides is that of one of its strategies, in the context
after the last action was counted. -/
theorem decider_of_decide
    {engine : Engine} {store : Store} {screen : Screen} {elapsed : Duration}
    {package : String} {action : Action}
    (decided : (engine.decide store screen elapsed package).result = .ok action) :
    (∃ strategy, IsDecider engine.strategies
      (engine.context (store.count engine.lastKey) screen elapsed package) action strategy) ∧
    ((∀ strategy ∈ engine.strategies, strategy.IsSteady) →
      (engine.decide store screen elapsed package).engine.strategies = engine.strategies) := by
  rcases idle_or_running engine with idle | ⟨running, occupied⟩
  · obtain ⟨error, failed⟩ := decide_idle store screen elapsed package idle
    rw [failed] at decided
    contradiction
  · rw [decide_eq store screen elapsed package running occupied] at decided ⊢
    exact decider_of_decideIn (Prod.ext decided rfl)

/-- The strategy whose turn it is to decide: the first of those with the highest priority. -/
def decider? (engine : Engine) (context : Context) : Option Strategy :=
  engine.strategies.find? (·.fitness context = highest context engine.strategies)

theorem decider?_of_decideIn
    {engine next : Engine} {context : Context} {action : Action}
    (decided : engine.decideIn context = (.ok action, next)) :
    ∃ strategy, engine.decider? context = some strategy ∧
      (strategy.decide context).1 = .ok action := by
  have chooses := decideIn_chooses engine context
  rw [decided] at chooses
  obtain ⟨before, strategy, later, split, earlier, fits, -, chosen, -⟩ := chooses.of_ok
  refine ⟨strategy, List.find?_eq_some_iff_append.mpr ⟨?_, before, later, split, ?_⟩, chosen⟩
  · simpa using fits
  · simpa using earlier

/-- An action that is decided is what the strategy whose turn it is chooses. -/
theorem decider?_of_decide
    {engine : Engine} {store : Store} {screen : Screen} {elapsed : Duration}
    {package : String} {action : Action}
    (decided : (engine.decide store screen elapsed package).result = .ok action) :
    let context := engine.context (store.count engine.lastKey) screen elapsed package
    ∃ strategy, engine.decider? context = some strategy ∧
      (strategy.decide context).1 = .ok action := by
  rcases idle_or_running engine with idle | ⟨running, occupied⟩
  · obtain ⟨error, failed⟩ := decide_idle store screen elapsed package idle
    rw [failed] at decided
    contradiction
  · rw [decide_eq store screen elapsed package running occupied] at decided
    exact decider?_of_decideIn (Prod.ext decided rfl)

end Engine

end GuiExplorer
