import GuiExplorer.Proofs.Device.Calls
import GuiExplorer.Proofs.Exploration.Progress

/-!
# The conduct of a run

All that a run does to its client and to the world is to send commands, to take in the statements
that were executed, and to save files.  A relation between clients that holds across each of these
holds across the whole run.  So whatever exchanges a run tells of, it has made them by its calls on
the connection.
-/

namespace GuiExplorer

variable {σ : Type} {R : Client σ → Client σ → Prop} {world : World σ}

/-- Each thing that a run does leads to a related client; the relation is reflexive and
transitive. -/
structure World.Leads (world : World σ) (R : Client σ → Client σ → Prop) : Prop where
  refl : ∀ client, R client client
  trans : ∀ {first second third}, R first second → R second third → R first third
  query : ∀ client command, R client (client.query world.toDevice command).2
  executed : ∀ client, R client (client.outsideTo (world.executed client.outside).2)
  makeFolder : ∀ folder client,
    R client (client.outsideTo (world.makeFolder folder client.outside).2)
  write : ∀ folder name text client,
    R client (client.outsideTo (world.write folder name text client.outside).2)

/-- A run does nothing but exchange commands, by the calls that are noted. -/
theorem World.Notes.leads {calls : σ → List SocketCall} (notes : world.Notes calls) :
    world.Leads fun before after => ∃ exchanges, before.Sends calls after exchanges where
  refl client := ⟨[], .refl calls client⟩
  trans := by
    rintro first second third ⟨earlier, former⟩ ⟨later, latter⟩
    exact ⟨earlier ++ later, former.trans latter⟩
  query := Client.query_sends notes.toNotes
  executed client := ⟨[], (Client.Sends.refl calls client).outsideTo (notes.executed _)⟩
  makeFolder folder client :=
    ⟨[], (Client.Sends.refl calls client).outsideTo (notes.makeFolder folder _)⟩
  write folder name text client :=
    ⟨[], (Client.Sends.refl calls client).outsideTo (notes.write folder name text _)⟩

namespace Explorer

section

variable (leads : world.Leads R)

include leads

theorem query_leads (explorer : Explorer σ) (command : Command) :
    R explorer.client (explorer.query world command).2.client :=
  leads.query explorer.client command

theorem observe_leads (explorer : Explorer σ) :
    R explorer.client (explorer.observe world).2.client := by
  have queries := query_leads leads explorer .fetchGuiState
  unfold observe
  generalize explorer.query world .fetchGuiState = queried at queries
  obtain ⟨_ | response, after⟩ := queried
  case error => exact queries
  case ok =>
    dsimp only at queries ⊢
    split
    case h_1 => exact queries
    case h_2 => split <;> exact queries

theorem execute_leads (explorer : Explorer σ) (action : Action) :
    R explorer.client (explorer.execute world action).2.client := by
  have queries := query_leads leads explorer (action.command explorer.appPackage)
  unfold execute
  generalize explorer.query world (action.command explorer.appPackage) = queried at queries
  obtain ⟨_ | response, after⟩ := queried <;> exact queries

theorem settle_leads (explorer : Explorer σ) (action : Action) (screen : Screen) :
    R explorer.client (explorer.settle world action screen).client := by
  unfold settle
  dsimp only
  split
  · exact leads.refl _
  · exact leads.executed _

theorem round_leads (explorer : Explorer σ) :
    R explorer.client (explorer.round world).2.client := by
  have observes := observe_leads leads explorer
  unfold round
  generalize explorer.observe world = observed at observes
  obtain ⟨_ | screen, observing⟩ := observed
  case error => exact observes
  case ok =>
    -- A decision is made without the world.
    have decides : R explorer.client (observing.decide world screen).2.client := observes
    dsimp only
    generalize observing.decide world screen = decided at decides
    obtain ⟨_ | action, deciding⟩ := decided
    case error => exact decides
    case ok =>
      have executes := leads.trans decides (execute_leads leads deciding action)
      dsimp only at executes ⊢
      generalize deciding.execute world action = executed at executes
      obtain ⟨_ | _, executing⟩ := executed
      case error => exact executes
      case ok => exact leads.trans executes (settle_leads leads executing action screen)

theorem progress_leads (limit : Nat) (explorer : Explorer σ) :
    R explorer.client (explorer.progress world limit).2.client := by
  induction limit generalizing explorer with
  | zero => exact leads.refl _
  | succ limit ih =>
      have turns := round_leads leads explorer
      rw [progress]
      generalize explorer.round world = turned at turns
      obtain ⟨_ | action, next⟩ := turned
      case error => exact turns
      case ok =>
        dsimp only
        split
        · exact turns
        · exact leads.trans turns (ih next)

theorem saveFile_leads (explorer : Explorer σ) (folder name text : String) :
    R explorer.client (explorer.saveFile world folder name text).2.client := by
  have makes := leads.makeFolder folder explorer.client
  unfold saveFile outside
  generalize world.makeFolder folder explorer.client.outside = made at makes
  obtain ⟨_ | _, between⟩ := made
  case error => exact makes
  case ok => exact leads.trans makes (leads.write folder name text _)

theorem persist_leads (explorer : Explorer σ) :
    R explorer.client (explorer.persist world).2.client := by
  unfold persist
  cases explorer.outputFolder with
  | none => exact leads.refl _
  | some folder =>
      have saves := saveFile_leads leads explorer folder traceFile explorer.recording.save
      dsimp only
      generalize explorer.saveFile world folder traceFile explorer.recording.save = saved at saves
      obtain ⟨_ | _, after⟩ := saved
      case error => exact saves
      case ok => exact leads.trans saves (saveFile_leads leads after folder modelFile _)

theorem finish_leads (outcome : Except ExplorationError Unit) (explorer : Explorer σ) :
    R explorer.client (explorer.finish world outcome).2.client := by
  have persists := persist_leads leads explorer
  unfold finish
  generalize explorer.persist world = persisted at persists
  obtain ⟨_ | _, after⟩ := persisted <;> cases outcome <;> exact persists

theorem run_leads
    {limit : Nat} {explorer final : Explorer σ} {result : Except ExplorationError Summary}
    (ran : explorer.run world limit = some (result, final)) :
    R explorer.client final.client := by
  obtain ⟨outcome, -, finished⟩ := run_eq_some_iff.mp ran
  have finishes := finish_leads leads outcome (explorer.progress world limit).2
  rw [finished] at finishes
  exact leads.trans (progress_leads leads limit explorer) finishes

end

variable {calls : σ → List SocketCall}

/-- The rounds of a run made all exchanges that are told of them. -/
theorem sends_of_progress
    (notes : world.Notes calls) {limit : Nat} {explorer : Explorer σ} {exchanges : List Exchange}
    (exchanged : explorer.client.Exchanged (explorer.progress world limit).2.client exchanges) :
    explorer.client.Sends calls (explorer.progress world limit).2.client exchanges := by
  obtain ⟨sent, sends⟩ := progress_leads notes.leads limit explorer
  exact sends.exchanged.unique exchanged ▸ sends

/-- A run made all exchanges that are told of it. -/
theorem sends_of_run
    (notes : world.Notes calls) {limit : Nat} {explorer final : Explorer σ}
    {result : Except ExplorationError Summary} {exchanges : List Exchange}
    (exchanged : explorer.client.Exchanged final.client exchanges)
    (ran : explorer.run world limit = some (result, final)) :
    explorer.client.Sends calls final.client exchanges := by
  obtain ⟨sent, sends⟩ := run_leads notes.leads ran
  exact sends.exchanged.unique exchanged ▸ sends

end Explorer

end GuiExplorer
