import GuiExplorer.Proofs.Store.Counters
import GuiExplorer.Store.Call

/-!
# What a store holds

A store keeps a log, the latest observation of each screen, and counters.  After any calls the three
agree with the screens that were recorded and the actions that were counted.  A snapshot shows the
first observation of each screen, while the widgets of a screen are those of its latest one.
-/

namespace GuiExplorer

namespace Counters

theorem mem_keys_increment
    (counters : List ActedCount) (screen widget : Uuid) (key : Uuid × Uuid) :
    key ∈ (increment counters screen widget).map ActedCount.key ↔
      key = (screen, widget) ∨ key ∈ counters.map ActedCount.key := by
  induction counters with
  | nil => simp [increment, ActedCount.key]
  | cons head rest ih =>
      rw [increment]
      split
      case isTrue found =>
        have same : ActedCount.key { head with count := head.count + 1 } = head.key := rfl
        rw [List.map_cons, List.map_cons, same, found]
        simp
      case isFalse =>
        split
        case isTrue => simp [ActedCount.key]
        case isFalse =>
          rw [List.map_cons, List.mem_cons, ih, List.map_cons, List.mem_cons]
          exact or_left_comm

theorem get_of_mem
    {counters : List ActedCount} (sorted : Sorted counters) {counter : ActedCount}
    (member : counter ∈ counters) :
    get counters counter.screen counter.widget = counter.count := by
  induction counters with
  | nil => cases member
  | cons head rest ih =>
      obtain ⟨first, others⟩ := List.pairwise_cons.mp sorted
      rw [get_cons]
      rcases List.mem_cons.mp member with here | there
      · rw [here]
        exact if_pos rfl
      · have different : head.key ≠ (counter.screen, counter.widget) := by
          intro same
          have smaller := first counter there
          rw [same] at smaller
          exact absurd smaller (by simp [ActedCount.key, precedes_irrefl])
        rw [if_neg different, ih others there]

end Counters

namespace Store

/-! ## The first observation of each screen -/

theorem mem_distinctAfter_iff
    {known : List Uuid} {screens : List Screen} {screen : Screen} :
    screen ∈ distinctAfter known screens ↔
      screen.uid ∉ known ∧ screens.find? (·.uid = screen.uid) = some screen := by
  induction screens generalizing known with
  | nil => simp [distinctAfter]
  | cons head rest ih =>
      rw [distinctAfter]
      by_cases seen : head.uid ∈ known
      · rw [if_pos (List.contains_iff_mem.mpr seen), ih]
        by_cases same : head.uid = screen.uid
        · simp [← same, seen]
        · simp [same]
      · rw [if_neg (mt List.contains_iff_mem.mp seen), List.mem_cons, ih]
        by_cases same : head.uid = screen.uid
        · constructor
          · rintro (rfl | ⟨new, -⟩)
            · simp [seen]
            · simp [same] at new
          · rintro ⟨-, first⟩
            simp only [same, decide_true, List.find?_cons_of_pos, Option.some.injEq] at first
            exact .inl first.symm
        · have other : screen ≠ head := fun equal => same (congrArg Screen.uid equal.symm)
          simp [same, other, Ne.symm same]

theorem distinctAfter_isPrefix (known : List Uuid) (earlier later : List Screen) :
    distinctAfter known earlier <+: distinctAfter known (earlier ++ later) := by
  induction earlier generalizing known with
  | nil => exact List.nil_prefix
  | cons head rest ih =>
      rw [List.cons_append, distinctAfter, distinctAfter]
      split
      · exact ih known
      · exact List.prefix_cons_inj head |>.mpr (ih _)

/-- The position of the first observation of a screen. -/
def firstSeen (screens : List Screen) (id : Uuid) : Nat :=
  screens.findIdx (·.uid = id)

theorem firstSeen_cons_of_ne
    {head : Screen} {rest : List Screen} {id : Uuid} (different : head.uid ≠ id) :
    firstSeen (head :: rest) id = firstSeen rest id + 1 := by
  simp [firstSeen, List.findIdx_cons, different]

theorem pairwise_distinctAfter (known : List Uuid) (screens : List Screen) :
    (distinctAfter known screens).Pairwise fun earlier later =>
      firstSeen screens earlier.uid < firstSeen screens later.uid := by
  induction screens generalizing known with
  | nil => exact List.Pairwise.nil
  | cons head rest ih =>
      -- What is found behind the head has another id, so both positions move by one.
      have shifted (new : List Uuid) (skipped : head.uid ∈ new) :
          (distinctAfter new rest).Pairwise fun earlier later =>
            firstSeen (head :: rest) earlier.uid < firstSeen (head :: rest) later.uid := by
        refine (ih new).imp_of_mem ?_
        intro earlier later earlierMember laterMember less
        have differs {screen : Screen} (member : screen ∈ distinctAfter new rest) :
            head.uid ≠ screen.uid :=
          fun same => (mem_distinctAfter_iff.mp member).1 (same ▸ skipped)
        rw [firstSeen_cons_of_ne (differs earlierMember),
          firstSeen_cons_of_ne (differs laterMember)]
        exact Nat.succ_lt_succ less
      rw [distinctAfter]
      split
      case isTrue seen => exact shifted known (List.contains_iff_mem.mp seen)
      case isFalse =>
        refine List.pairwise_cons.mpr ⟨?_, shifted _ List.mem_cons_self⟩
        intro later member
        have different : head.uid ≠ later.uid :=
          fun same => (mem_distinctAfter_iff.mp member).1 (same ▸ List.mem_cons_self)
        rw [firstSeen_cons_of_ne different]
        simp [firstSeen, List.findIdx_cons]

/-! ## The three collections -/

theorem mem_uids_insertLatest (screen : Screen) (known : List Screen) (id : Uuid) :
    id ∈ (insertLatest screen known).map Screen.uid ↔
      id = screen.uid ∨ id ∈ known.map Screen.uid := by
  induction known with
  | nil => simp [insertLatest]
  | cons other rest ih =>
      rw [insertLatest]
      split
      case isTrue same => simp [same]
      case isFalse =>
        rw [List.map_cons, List.mem_cons, ih, List.map_cons, List.mem_cons]
        exact or_left_comm

theorem nodup_insertLatest
    {known : List Screen} (nodup : (known.map Screen.uid).Nodup) (screen : Screen) :
    ((insertLatest screen known).map Screen.uid).Nodup := by
  induction known with
  | nil => simp [insertLatest]
  | cons other rest ih =>
      obtain ⟨new, others⟩ := List.nodup_cons.mp nodup
      rw [insertLatest]
      split
      case isTrue same => exact List.nodup_cons.mpr ⟨same ▸ new, others⟩
      case isFalse different =>
        refine List.nodup_cons.mpr ⟨?_, ih others⟩
        rw [mem_uids_insertLatest]
        rintro (same | member)
        · exact different same
        · exact new member

theorem recorded_concat (calls : List Call) (call : Call) :
    recorded (calls ++ [call]) = recorded calls ++ call.screen?.toList := by
  rw [recorded, List.filterMap_append]
  cases shown : call.screen? <;> simp [recorded, shown]

theorem timesCounted_concat (calls : List Call) (call : Call) (screen widget : Uuid) :
    timesCounted (calls ++ [call]) screen widget =
      timesCounted calls screen widget + if call = .increment screen widget then 1 else 0 := by
  simp [timesCounted, List.count_singleton]

theorem timesCounted_cons (call : Call) (calls : List Call) (screen widget : Uuid) :
    timesCounted (call :: calls) screen widget =
      timesCounted calls screen widget + if call = .increment screen widget then 1 else 0 := by
  simp [timesCounted, List.count_cons]

/-- The collections of a store agree with the calls that were made on it. -/
structure Holds (store : Store) (calls : List Call) : Prop where
  observations : store.observations = recorded calls
  latest : ∀ id, store.latestOf id = (recorded calls).reverse.find? (·.uid = id)
  ids : ∀ id, id ∈ store.screens.map Screen.uid ↔ id ∈ (recorded calls).map Screen.uid
  nodup : (store.screens.map Screen.uid).Nodup
  sorted : Counters.Sorted store.counters
  keys : ∀ screen widget, (screen, widget) ∈ store.counters.map ActedCount.key ↔
    0 < timesCounted calls screen widget
  counts : ∀ screen widget,
    store.actedCount screen widget = UInt32.ofNat (timesCounted calls screen widget)

namespace Holds

variable {store : Store} {calls : List Call}

theorem idle
    (holds : store.Holds calls) {call : Call} (unshown : call.screen? = none)
    (uncounted : ∀ screen widget, call ≠ .increment screen widget) :
    store.Holds (calls ++ [call]) := by
  have sameScreens : recorded (calls ++ [call]) = recorded calls := by
    simp [recorded_concat, unshown]
  have sameCounts (screen widget : Uuid) :
      timesCounted (calls ++ [call]) screen widget = timesCounted calls screen widget := by
    simp [timesCounted_concat, uncounted]
  constructor
  case observations => rw [sameScreens, holds.observations]
  case latest => simpa only [sameScreens] using holds.latest
  case ids => simpa only [sameScreens] using holds.ids
  case nodup => exact holds.nodup
  case sorted => exact holds.sorted
  case keys => simpa only [sameCounts] using holds.keys
  case counts => simpa only [sameCounts] using holds.counts

theorem record (holds : store.Holds calls) (screen : Screen) :
    (store.record screen).Holds (calls ++ [.record screen]) := by
  have screens : recorded (calls ++ [.record screen]) = recorded calls ++ [screen] :=
    recorded_concat calls (.record screen)
  have sameCounts (id widget : Uuid) :
      timesCounted (calls ++ [.record screen]) id widget = timesCounted calls id widget := by
    simp [timesCounted_concat]
  constructor
  case observations => rw [screens, ← holds.observations]; rfl
  case latest =>
    intro id
    rw [latestOf_record, holds.latest, screens, List.reverse_append, List.reverse_singleton,
      List.singleton_append, List.find?_cons]
    by_cases same : screen.uid = id <;> simp [same]
  case ids =>
    intro id
    have inserted := mem_uids_insertLatest screen store.screens id
    rw [screens, List.map_append, List.mem_append, ← holds.ids, Store.record, inserted,
      List.map_singleton, List.mem_singleton, or_comm]
  case nodup => exact nodup_insertLatest holds.nodup screen
  case sorted => exact holds.sorted
  case keys =>
    intro id widget
    rw [sameCounts]
    exact holds.keys id widget
  case counts => simpa only [sameCounts, actedCount_record] using holds.counts

theorem increment (holds : store.Holds calls) (screen widget : Uuid) :
    (store.increment screen widget).Holds (calls ++ [.increment screen widget]) := by
  have sameScreens : recorded (calls ++ [.increment screen widget]) = recorded calls := by
    simp [recorded_concat, Call.screen?]
  constructor
  case observations => rw [sameScreens, ← holds.observations]; rfl
  case latest =>
    rw [sameScreens]
    exact holds.latest
  case ids =>
    rw [sameScreens]
    exact holds.ids
  case nodup => exact holds.nodup
  case sorted => exact Counters.sorted_increment holds.sorted screen widget
  case keys =>
    intro otherScreen otherWidget
    have known := holds.keys otherScreen otherWidget
    have keys := Counters.mem_keys_increment store.counters screen widget
      (otherScreen, otherWidget)
    rw [Store.increment, keys, known, timesCounted_concat]
    by_cases same : (otherScreen, otherWidget) = (screen, widget)
    · cases same
      simp
    · have other : Call.increment screen widget ≠ .increment otherScreen otherWidget := by
        rintro ⟨⟩
        exact same rfl
      simp [same, other]
  case counts =>
    intro otherScreen otherWidget
    have counted := actedCount_count holds.sorted (some (screen, widget)) otherScreen otherWidget
    rw [count, holds.counts] at counted
    rw [counted, timesCounted_concat, UInt32.ofNat_add]
    by_cases same : (screen, widget) = (otherScreen, otherWidget)
    · cases same
      simp
    · have other : Call.increment screen widget ≠ .increment otherScreen otherWidget := by
        rintro ⟨⟩
        exact same rfl
      simp [same, other]

theorem perform (holds : store.Holds calls) (call : Call) :
    (store.perform call).Holds (calls ++ [call]) := by
  cases call with
  | record screen => exact holds.record screen
  | increment screen widget => exact holds.increment screen widget
  | actedCount screen widget => exact holds.idle rfl nofun
  | snapshot => exact holds.idle rfl nofun

theorem after (holds : store.Holds calls) (more : List Call) :
    (store.after more).Holds (calls ++ more) := by
  induction more generalizing store calls with
  | nil => simpa [Store.after] using holds
  | cons call rest ih =>
      rw [List.append_cons]
      exact ih (holds.perform call)

theorem toNat_actedCount
    (holds : store.Holds calls) {screen widget : Uuid}
    (bounded : timesCounted calls screen widget < UInt32.size) :
    (store.actedCount screen widget).toNat = timesCounted calls screen widget := by
  rw [holds.counts]
  exact UInt32.toNat_ofNat_of_lt' bounded

end Holds

theorem holds_empty : empty.Holds [] := by
  constructor
  case sorted => exact Counters.sorted_nil
  all_goals simp [empty, recorded, timesCounted, latestOf, actedCount, Counters.get]

theorem holds_after (calls : List Call) : (empty.after calls).Holds calls :=
  holds_empty.after calls

/-! ## What a store shows -/

/-- What a store shows of the calls that were made on it. -/
structure Shows (store : Store) (calls : List Call) : Prop where
  observations : store.snapshot.observations = (recorded calls).map Screen.uid
  /-- The screens of a snapshot are first observations, -/
  first : ∀ screen ∈ store.snapshot.screens,
    (recorded calls).find? (·.uid = screen.uid) = some screen
  /-- one for each screen that was recorded, -/
  complete : ∀ screen ∈ recorded calls, screen.uid ∈ store.snapshot.screens.map Screen.uid
  distinct : (store.snapshot.screens.map Screen.uid).Nodup
  /-- in the order in which they were first seen. -/
  inOrder : store.snapshot.screens.Pairwise fun earlier later =>
    firstSeen (recorded calls) earlier.uid < firstSeen (recorded calls) later.uid
  screenCount : store.screenCount = store.snapshot.screens.length
  ascending : store.snapshot.acted.Pairwise fun earlier later =>
    Counters.precedes earlier.key later.key = true
  positive : ∀ counter ∈ store.snapshot.acted, counter.count ≠ 0
  counted : ∀ counter ∈ store.snapshot.acted,
    counter.count.toNat = timesCounted calls counter.screen counter.widget
  counts : ∀ screen widget,
    (Counters.get store.snapshot.acted screen widget).toNat = timesCounted calls screen widget
  /-- The widgets of a screen are those of its latest observation. -/
  widgets : ∀ earlier shown later, recorded calls = earlier ++ shown :: later →
    (∀ other ∈ later, other.uid ≠ shown.uid) →
    store.widgetsOf shown.uid =
      shown.widgets.map fun widget => ⟨widget, store.actedCount shown.uid widget.uid⟩
  unseen : ∀ id, (∀ screen ∈ recorded calls, screen.uid ≠ id) → store.widgetsOf id = []

namespace Holds

variable {store : Store} {calls : List Call}

theorem screens_eq (holds : store.Holds calls) :
    store.snapshot.screens = distinctAfter [] (recorded calls) :=
  congrArg _ holds.observations

theorem mem_screens_iff (holds : store.Holds calls) {screen : Screen} :
    screen ∈ store.snapshot.screens ↔
      (recorded calls).find? (·.uid = screen.uid) = some screen := by
  simp [holds.screens_eq, mem_distinctAfter_iff]

theorem inOrder_screens (holds : store.Holds calls) :
    store.snapshot.screens.Pairwise fun earlier later =>
      firstSeen (recorded calls) earlier.uid < firstSeen (recorded calls) later.uid :=
  holds.screens_eq ▸ pairwise_distinctAfter [] (recorded calls)

theorem nodup_screens (holds : store.Holds calls) :
    (store.snapshot.screens.map Screen.uid).Nodup := by
  refine List.pairwise_map.mpr (holds.inOrder_screens.imp ?_)
  intro earlier later less same
  rw [same] at less
  exact Nat.lt_irrefl _ less

theorem mem_uids_screens_iff (holds : store.Holds calls) {id : Uuid} :
    id ∈ store.snapshot.screens.map Screen.uid ↔ id ∈ (recorded calls).map Screen.uid := by
  constructor
  · intro shown
    obtain ⟨screen, member, rfl⟩ := List.mem_map.mp shown
    exact List.mem_map_of_mem (List.mem_of_find?_eq_some (holds.mem_screens_iff.mp member))
  · intro seen
    obtain ⟨screen, member, rfl⟩ := List.mem_map.mp seen
    obtain ⟨first, found⟩ : ∃ first, (recorded calls).find? (·.uid = screen.uid) = some first := by
      rw [← Option.isSome_iff_exists, List.find?_isSome]
      exact ⟨screen, member, decide_eq_true rfl⟩
    have same : first.uid = screen.uid := by simpa using List.find?_some found
    exact List.mem_map.mpr ⟨first, holds.mem_screens_iff.mpr (same ▸ found), same⟩

theorem screenCount_eq (holds : store.Holds calls) :
    store.screenCount = store.snapshot.screens.length := by
  have same : (store.screens.map Screen.uid).Perm (store.snapshot.screens.map Screen.uid) := by
    refine (List.perm_ext_iff_of_nodup holds.nodup holds.nodup_screens).mpr fun id => ?_
    rw [holds.ids, holds.mem_uids_screens_iff]
  simpa [Store.screenCount] using same.length_eq

theorem shows
    (holds : store.Holds calls)
    (bounded : ∀ screen widget, timesCounted calls screen widget < UInt32.size) :
    store.Shows calls := by
  have counts (screen widget : Uuid) :
      (store.actedCount screen widget).toNat = timesCounted calls screen widget :=
    holds.toNat_actedCount (bounded screen widget)
  have counted : ∀ counter ∈ store.snapshot.acted,
      counter.count.toNat = timesCounted calls counter.screen counter.widget := by
    intro counter member
    rw [← counts, actedCount, Counters.get_of_mem holds.sorted member]
  constructor
  case observations => exact congrArg _ holds.observations
  case first => exact fun screen => holds.mem_screens_iff.mp
  case complete => exact fun screen member =>
    holds.mem_uids_screens_iff.mpr (List.mem_map_of_mem member)
  case distinct => exact holds.nodup_screens
  case inOrder => exact holds.inOrder_screens
  case screenCount => exact holds.screenCount_eq
  case ascending => exact holds.sorted
  case positive =>
    intro counter member zero
    have positive := (holds.keys counter.screen counter.widget).mp (List.mem_map_of_mem member)
    rw [← counted counter member, zero] at positive
    exact absurd positive (by decide)
  case counted => exact counted
  case counts => exact counts
  case widgets =>
    intro earlier shown later split last
    have latest : store.latestOf shown.uid = some shown := by
      have others : later.reverse.find? (·.uid = shown.uid) = none := by
        simpa using last
      rw [holds.latest, split, List.reverse_append, List.reverse_cons, List.append_assoc,
        List.find?_append, others]
      simp
    rw [widgetsOf, latest]
  case unseen =>
    intro id unseen
    have latest : store.latestOf id = none := by
      rw [holds.latest]
      simpa using unseen
    rw [widgetsOf, latest]

end Holds

end Store

/-- All that an earlier snapshot shows is still there in a later one. -/
structure StoreSnapshot.Within (earlier later : StoreSnapshot) : Prop where
  observations : earlier.observations <+: later.observations
  screens : earlier.screens <+: later.screens
  acted : ∀ screen widget,
    Counters.get earlier.acted screen widget ≤ Counters.get later.acted screen widget

namespace Store

theorem recorded_append (earlier later : List Call) :
    recorded (earlier ++ later) = recorded earlier ++ recorded later :=
  List.filterMap_append

theorem timesCounted_append (earlier later : List Call) (screen widget : Uuid) :
    timesCounted (earlier ++ later) screen widget =
      timesCounted earlier screen widget + timesCounted later screen widget :=
  List.count_append

/-- Counters that have not overflowed do not decrease. -/
theorem actedCount_le_of_append
    {screen widget : Uuid} (earlier later : List Call)
    (bounded : timesCounted (earlier ++ later) screen widget < UInt32.size) :
    (empty.after earlier).actedCount screen widget ≤
      (empty.after (earlier ++ later)).actedCount screen widget := by
  have atMost : timesCounted earlier screen widget ≤
      timesCounted (earlier ++ later) screen widget := by
    rw [timesCounted_append]
    exact Nat.le_add_right _ _
  rw [UInt32.le_iff_toNat_le, (holds_after _).toNat_actedCount (Nat.lt_of_le_of_lt atMost bounded),
    (holds_after _).toNat_actedCount bounded]
  exact atMost

theorem observations_isPrefix (earlier later : List Call) :
    (empty.after earlier).snapshot.observations <+:
      (empty.after (earlier ++ later)).snapshot.observations := by
  simp only [snapshot, (holds_after _).observations, recorded_append, List.map_append]
  exact List.prefix_append _ _

theorem screens_isPrefix (earlier later : List Call) :
    (empty.after earlier).snapshot.screens <+:
      (empty.after (earlier ++ later)).snapshot.screens := by
  rw [(holds_after _).screens_eq, (holds_after _).screens_eq, recorded_append]
  exact distinctAfter_isPrefix [] (recorded earlier) (recorded later)

/-- After any calls a store shows what they recorded and counted, and it still shows all that
snapshots taken before had shown. -/
theorem after_shows
    (calls : List Call)
    (bounded : ∀ screen widget, timesCounted calls screen widget < UInt32.size) :
    (empty.after calls).Shows calls ∧
      ∀ earlier later, calls = earlier ++ later →
        (empty.after earlier).snapshot.Within (empty.after calls).snapshot := by
  refine ⟨(holds_after calls).shows bounded, ?_⟩
  rintro earlier later rfl
  exact ⟨observations_isPrefix earlier later, screens_isPrefix earlier later,
    fun screen widget => actedCount_le_of_append earlier later (bounded screen widget)⟩

/-- A screen is seen again with a button: a snapshot keeps the first observation, while the widgets
are those of the latest one, with the count from before. -/
theorem after_shows_revisit :
    let first : Screen := ⟨.nil, []⟩
    let button : Widget := ⟨{ text := "OK" }, .nil, .nil⟩
    let calls : List Call := [.record first, .increment .nil .nil, .record ⟨.nil, [button]⟩]
    (∀ screen widget, timesCounted calls screen widget < UInt32.size) ∧
      (empty.after calls).Shows calls ∧
      (empty.after calls).snapshot.screens = [first] ∧
      (empty.after calls).widgetsOf .nil = [⟨button, 1⟩] := by
  intro first button calls
  have bounded (screen widget : Uuid) : timesCounted calls screen widget < UInt32.size :=
    Nat.lt_of_le_of_lt (List.count_le_length (l := calls)) (by decide)
  exact ⟨bounded, (after_shows calls bounded).1, rfl, rfl⟩

end Store

end GuiExplorer
