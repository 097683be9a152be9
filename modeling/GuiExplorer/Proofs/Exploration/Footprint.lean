import GuiExplorer.Proofs.Device.Footprint
import GuiExplorer.Proofs.Exploration.Conduct

/-!
# The footprint of an exploration

An explorer changes the world by the operations of the world alone, and those that go to a device
go to the one whose serial its client was set up with.  So what each of these operations respects
is respected by an exploration as a whole, whether it has ended or not.
-/

namespace GuiExplorer

variable {σ : Type} {R : σ → σ → Prop} {serial : String} {world : World σ}

/-- Each operation of the world leads to a related state. -/
structure World.Respects (world : World σ) (serial : String) (R : σ → σ → Prop) : Prop
    extends world.toDevice.Respects serial R where
  executed : ∀ state, R state (world.executed state).2
  makeFolder : ∀ folder state, R state (world.makeFolder folder state).2
  write : ∀ folder name text state, R state (world.write folder name text state).2

/-- What the operations of the world respect, a run respects. -/
theorem World.Respects.leads (respects : world.Respects serial R) :
    world.Leads fun before after => R before.outside after.outside where
  refl client := respects.refl client.outside
  trans := respects.trans
  query client command := (Client.query_reaches respects.toRespects client command).outside
  executed client := respects.executed client.outside
  makeFolder folder client := respects.makeFolder folder client.outside
  write folder name text client := respects.write folder name text client.outside

namespace Explorer

theorem close_client
    (world : World σ) (outcome : Except ExplorationError Summary) (explorer : Explorer σ) :
    (explorer.close world outcome).2.client = (explorer.client.close world.toDevice).2 := by
  unfold close
  generalize explorer.client.close world.toDevice = closed
  obtain ⟨_ | _, after⟩ := closed <;> cases outcome <;> rfl

/-- The explorer when an exploration has ended, or else after so many of its rounds. -/
def explored (world : World σ) (limit : Nat) (explorer : Explorer σ) : Explorer σ :=
  let (started, client) := explorer.client.start world.toDevice
  let explorer := { explorer with client := client }
  match started with
  | .error _ => explorer
  | .ok _ =>
      match explorer.progress world limit with
      | (none, explorer) => explorer
      | (some outcome, explorer) =>
          let (outcome, explorer) := explorer.finish world outcome
          (explorer.close world outcome).2

theorem eq_explored_of_explore
    {limit : Nat} {explorer final : Explorer σ}
    {result : Except ExplorationError Summary}
    (explores : explorer.explore world limit = some (result, final)) :
    final = explorer.explored world limit := by
  unfold explore at explores
  unfold explored
  generalize explorer.client.start world.toDevice = started at explores
  obtain ⟨_ | _, client⟩ := started
  case error => cases explores; rfl
  case ok =>
    dsimp only at explores ⊢
    obtain ⟨⟨outcome, after⟩, ran, closed⟩ := Option.map_eq_some_iff.mp explores
    obtain ⟨ending, ended, finished⟩ := run_eq_some_iff.mp ran
    generalize Explorer.progress world limit _ = progressed at ended finished
    obtain ⟨_, explorer⟩ := progressed
    cases ended
    dsimp only at finished closed ⊢
    rw [finished]
    exact congrArg Prod.snd closed.symm

/-- An exploration forwards the port of the daemon first, and all that it does after that leads to
related states. -/
theorem explored_respects
    (respects : world.Respects serial R) (limit : Nat) {explorer : Explorer σ}
    (fresh : explorer.client.phase = .notStarted) (own : explorer.client.config.serial = serial) :
    R (world.forward serial explorer.client.config.port explorer.outside).2
      (explorer.explored world limit).outside := by
  have starts := (Client.start_reaches respects.toRespectsOffSocket fresh own).outside
  subst own
  unfold explored
  generalize explorer.client.start world.toDevice = started at starts
  obtain ⟨_ | _, client⟩ := started
  case error => exact starts
  case ok =>
    have progresses := respects.trans starts
      (progress_leads respects.leads limit { explorer with client := client })
    dsimp only at progresses ⊢
    generalize Explorer.progress world limit _ = progressed at progresses
    obtain ⟨_ | outcome, after⟩ := progressed
    case none => exact progresses
    case some =>
      have finishes := respects.trans progresses (finish_leads respects.leads outcome after)
      let finished := (after.finish world outcome).2
      have closes := (Client.close_reaches respects.toRespects finished.client).outside
      rw [← close_client world (after.finish world outcome).1 finished] at closes
      exact respects.trans finishes closes

end Explorer

end GuiExplorer
