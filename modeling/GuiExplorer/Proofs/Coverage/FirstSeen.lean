import GuiExplorer.Coverage.Monitor
import Mathlib.Data.List.Nodup
import Mathlib.Data.String.Basic
import Mathlib.Tactic.Linarith

/-!
# When statements were seen first

A monitor keeps each statement with the time of its first valid record.  What comes later
changes nothing, so it does not matter how the records are divided into batches, or
whether a batch begins with all that was delivered before, as it does when a log is read
from its start each time.
-/

namespace GuiExplorer

namespace Timestamp

/-- The parts of a timestamp, from the longest to the shortest. -/
def parts (time : Timestamp) : List Int :=
  [time.year, time.month, time.day, time.hour, time.minute, time.second, time.millisecond]

/-- Timestamps are compared by the first part in which they differ. -/
def Before (left right : Timestamp) : Prop :=
  left.parts < right.parts

theorem eq_of_parts_eq {left right : Timestamp} (same : left.parts = right.parts) :
    left = right := by
  simp only [parts, List.cons.injEq, Int.natCast_inj, and_true] at same
  obtain ⟨year, month, day, hour, minute, second, millisecond⟩ := same
  cases left
  cases right
  simp_all

theorem daysInMonth_le (year : Int) (month : Nat) : daysInMonth year month ≤ 31 := by
  unfold daysInMonth
  split
  · split <;> omega
  · split <;> omega

/-- In a number with two digits the higher one counts first. -/
private theorem digits_lt_iff {base high low otherHigh otherLow : Int} (start : 0 ≤ low)
    (bound : low < base) (otherStart : 0 ≤ otherLow) (otherBound : otherLow < base) :
    high * base + low < otherHigh * base + otherLow ↔
      high < otherHigh ∨ high = otherHigh ∧ low < otherLow := by
  rcases lt_trichotomy high otherHigh with smaller | same | greater
  · have step : (high + 1) * base ≤ otherHigh * base :=
      Int.mul_le_mul_of_nonneg_right smaller (by omega)
    rw [Int.add_mul, Int.one_mul] at step
    omega
  · subst same
    omega
  · have step : (otherHigh + 1) * base ≤ high * base :=
      Int.mul_le_mul_of_nonneg_right greater (by omega)
    rw [Int.add_mul, Int.one_mul] at step
    omega

theorem rank_lt_iff {left right : Timestamp} (valid : left.isValid) (otherValid : right.isValid) :
    left.rank < right.rank ↔ left.Before right := by
  have days := daysInMonth_le left.year left.month
  have otherDays := daysInMonth_le right.year right.month
  simp only [isValid, Bool.and_eq_true, decide_eq_true_eq] at valid otherValid
  rw [rank, rank, digits_lt_iff (by omega) (by omega) (by omega) (by omega),
    digits_lt_iff (by omega) (by omega) (by omega) (by omega),
    digits_lt_iff (by omega) (by omega) (by omega) (by omega),
    digits_lt_iff (by omega) (by omega) (by omega) (by omega),
    digits_lt_iff (by omega) (by omega) (by omega) (by omega),
    digits_lt_iff (by omega) (by omega) (by omega) (by omega)]
  simp only [Before, parts, List.cons_lt_cons_iff, List.lt_irrefl, and_false, or_false]
  omega

theorem eq_of_not_before {left right : Timestamp} (below : ¬ left.Before right)
    (above : ¬ right.Before left) : left = right :=
  eq_of_parts_eq (List.le_antisymm (List.not_lt.mp above) (List.not_lt.mp below))

theorem isValid_of_ofText? {text : String} {time : Timestamp} (read : ofText? text = some time) :
    time.isValid = true := by
  simp only [ofText?, ofChars?, Option.bind_eq_bind, Option.bind_eq_some_iff] at read
  obtain ⟨_, _, _, _, _, _, _, _, _, _, _, _, _, _, _, _, _, _, _, _, _, _, last⟩ := read
  split at last
  case isTrue whole =>
    rw [Bool.and_eq_true] at whole
    exact Option.some.inj last ▸ whole.2
  case isFalse => contradiction

end Timestamp

namespace Execution

/-- Executions are listed by time, those at one time by id. -/
def Before (left right : Execution) : Prop :=
  left.seen.Before right.seen ∨ left.seen = right.seen ∧ left.id < right.id

theorem le_total (left right : Execution) : (left.le right || right.le left) = true := by
  simp only [le, Bool.or_eq_true, Bool.and_eq_true, decide_eq_true_eq]
  rcases lt_trichotomy left.seen.rank right.seen.rank with smaller | same | greater
  · exact .inl (.inl smaller)
  · rcases le_or_gt left.id right.id with below | above
    · exact .inl (.inr ⟨same, below⟩)
    · exact .inr (.inr ⟨same.symm, above.le⟩)
  · exact .inr (.inl greater)

theorem le_trans (first second third : Execution) (former : first.le second = true)
    (latter : second.le third = true) : first.le third = true := by
  simp only [le, Bool.or_eq_true, Bool.and_eq_true, decide_eq_true_eq] at *
  rcases former with smaller | ⟨same, below⟩
  · rcases latter with later | ⟨equal, -⟩
    · exact .inl (smaller.trans later)
    · exact .inl (equal ▸ smaller)
  · rcases latter with later | ⟨equal, above⟩
    · exact .inl (same ▸ later)
    · exact .inr ⟨same.trans equal, below.trans above⟩

theorem before_of_le {left right : Execution} (valid : left.seen.isValid = true)
    (otherValid : right.seen.isValid = true) (listed : left.le right = true)
    (different : left.id ≠ right.id) : left.Before right := by
  simp only [le, Bool.or_eq_true, Bool.and_eq_true, decide_eq_true_eq] at listed
  rcases listed with smaller | ⟨same, below⟩
  · exact .inl ((Timestamp.rank_lt_iff valid otherValid).mp smaller)
  · refine .inr ⟨?_, lt_of_le_of_ne below different⟩
    apply Timestamp.eq_of_not_before
    · rw [← Timestamp.rank_lt_iff valid otherValid]
      omega
    · rw [← Timestamp.rank_lt_iff otherValid valid]
      omega

end Execution

/-! ## Records -/

namespace StatementRecord

/-- The timestamp can be read and the id is an unsigned number of 64 bits. -/
def IsValid (entry : StatementRecord) : Prop :=
  (Timestamp.ofText? entry.timestamp).isSome ∧ CoverageMonitor.isStatementId entry.id

instance (entry : StatementRecord) : Decidable entry.IsValid :=
  inferInstanceAs (Decidable (_ ∧ _))

/-- A valid record of the statement. -/
def Tells (entry : StatementRecord) (id : String) : Prop :=
  entry.id = id ∧ entry.IsValid

instance (entry : StatementRecord) (id : String) : Decidable (entry.Tells id) :=
  inferInstanceAs (Decidable (_ ∧ _))

/-- The first valid record of a statement has this time. -/
inductive FirstSeen (id : String) (time : Timestamp) : List StatementRecord → Prop
  | here {entry : StatementRecord} {rest : List StatementRecord} (tells : entry.Tells id)
      (read : Timestamp.ofText? entry.timestamp = some time) : FirstSeen id time (entry :: rest)
  | there {entry : StatementRecord} {rest : List StatementRecord} (silent : ¬ entry.Tells id)
      (later : FirstSeen id time rest) : FirstSeen id time (entry :: rest)

section

variable {id : String} {time : Timestamp} {records later : List StatementRecord}

theorem FirstSeen.isValid (first : FirstSeen id time records) : time.isValid = true := by
  induction first with
  | here _ read => exact Timestamp.isValid_of_ofText? read
  | there _ _ ih => exact ih

theorem firstSeen_append_iff :
    FirstSeen id time (records ++ later) ↔
      FirstSeen id time records ∨
        (∀ entry ∈ records, ¬ entry.Tells id) ∧ FirstSeen id time later := by
  induction records with
  | nil =>
      constructor
      · intro first
        exact .inr ⟨by simp, first⟩
      · rintro (absurd | ⟨-, first⟩)
        · cases absurd
        · exact first
  | cons entry records ih =>
      rw [List.cons_append]
      constructor
      · intro first
        cases first with
        | here tells read => exact .inl (.here tells read)
        | there silent rest =>
            rcases ih.mp rest with rest | ⟨silence, rest⟩
            · exact .inl (.there silent rest)
            · exact .inr ⟨List.forall_mem_cons.mpr ⟨silent, silence⟩, rest⟩
      · rintro (first | ⟨silence, rest⟩)
        · cases first with
          | here tells read => exact .here tells read
          | there silent rest => exact .there silent (ih.mpr (.inl rest))
        · obtain ⟨silent, silence⟩ := List.forall_mem_cons.mp silence
          exact .there silent (ih.mpr (.inr ⟨silence, rest⟩))

theorem exists_firstSeen_iff :
    (∃ time, FirstSeen id time records) ↔ ∃ entry ∈ records, entry.Tells id := by
  induction records with
  | nil =>
      simp only [List.not_mem_nil, false_and, exists_false, iff_false]
      rintro ⟨_, ⟨⟩⟩
  | cons entry records ih =>
      rw [List.exists_mem_cons_iff, ← ih]
      constructor
      · rintro ⟨time, first⟩
        cases first with
        | here tells _ => exact .inl tells
        | there _ rest => exact .inr ⟨time, rest⟩
      · by_cases tells : entry.Tells id
        · obtain ⟨time, read⟩ := Option.isSome_iff_exists.mp tells.2.1
          exact fun _ => ⟨time, .here tells read⟩
        · rintro (told | ⟨time, rest⟩)
          · exact (tells told).elim
          · exact ⟨time, .there tells rest⟩

end

end StatementRecord

/-! ## Updates -/

namespace CoverageMonitor

open StatementRecord (FirstSeen)

/-- Update with batch after batch. -/
def updateAll (monitor : CoverageMonitor) (batches : List (List StatementRecord)) :
    CoverageMonitor :=
  batches.foldl update monitor

/-- How many statements each of the updates with batch after batch adds. -/
def addedByAll (monitor : CoverageMonitor) : List (List StatementRecord) → List Nat
  | [] => []
  | batch :: batches => monitor.added batch :: addedByAll (monitor.update batch) batches

/-- The time that is kept for a statement. -/
def firstTime? (monitor : CoverageMonitor) (id : String) : Option Timestamp :=
  (monitor.executed.find? (·.id = id)).map Execution.seen

/-- What a log holds after each of several parts was written behind what it held before. -/
def growingLog (log : List StatementRecord) :
    List (List StatementRecord) → List (List StatementRecord)
  | [] => []
  | part :: parts => (log ++ part) :: growingLog (log ++ part) parts

variable (monitor : CoverageMonitor) (entry : StatementRecord) (records more : List StatementRecord)

theorem execution?_eq_some_iff {entry : StatementRecord} {execution : Execution} :
    execution? entry = some execution ↔
      entry.Tells execution.id ∧ Timestamp.ofText? entry.timestamp = some execution.seen := by
  obtain ⟨id, seen⟩ := execution
  unfold execution? StatementRecord.Tells StatementRecord.IsValid
  cases read : Timestamp.ofText? entry.timestamp with
  | none => simp
  | some time =>
      by_cases number : isStatementId entry.id <;> simp [number]

theorem firstSeen_singleton_iff {entry : StatementRecord} {execution : Execution} :
    FirstSeen execution.id execution.seen [entry] ↔ execution? entry = some execution := by
  rw [execution?_eq_some_iff]
  constructor
  · intro first
    cases first with
    | here tells read => exact ⟨tells, read⟩
    | there _ absurd => cases absurd
  · rintro ⟨tells, read⟩
    exact .here tells read

theorem execution?_eq_none_iff {entry : StatementRecord} :
    execution? entry = none ↔ ¬ entry.IsValid := by
  unfold execution? StatementRecord.IsValid
  cases Timestamp.ofText? entry.timestamp <;> simp

theorem update_append :
    monitor.update (records ++ more) = (monitor.update records).update more := by
  simp only [update, List.filterMap_append, List.foldl_append]

theorem update_cons : monitor.update (entry :: records) = (monitor.update [entry]).update records :=
  update_append monitor [entry] records

theorem added_append :
    monitor.added (records ++ more) =
      monitor.added records + (monitor.update records).added more := by
  induction records generalizing monitor with
  | nil => simp [added, update]
  | cons entry records ih =>
      rw [List.cons_append, added, added, ih, update_cons monitor entry records, Nat.add_assoc]

theorem updateAll_eq (batches : List (List StatementRecord)) :
    monitor.updateAll batches = monitor.update batches.flatten := by
  induction batches generalizing monitor with
  | nil => rfl
  | cons batch batches ih =>
      rw [List.flatten_cons, update_append, ← ih]
      rfl

theorem sum_addedByAll (batches : List (List StatementRecord)) :
    (monitor.addedByAll batches).sum = monitor.added batches.flatten := by
  induction batches generalizing monitor with
  | nil => rfl
  | cons batch batches ih => rw [addedByAll, List.sum_cons, ih, List.flatten_cons, added_append]

/-! ### One record -/

theorem isNews_iff :
    monitor.isNews entry = true ↔
      entry.IsValid ∧ ∀ known ∈ monitor.executed, known.id ≠ entry.id := by
  unfold isNews
  cases told : execution? entry with
  | none =>
      have invalid := execution?_eq_none_iff.mp told
      simp [invalid]
  | some execution =>
      obtain ⟨⟨same, valid⟩, -⟩ := execution?_eq_some_iff.mp told
      simp [valid, same]

theorem update_news (news : monitor.isNews entry = true) :
    ∃ execution, execution? entry = some execution ∧
      monitor.update [entry] = { monitor with executed := monitor.executed ++ [execution] } := by
  unfold isNews at news
  cases told : execution? entry with
  | none => simp [told] at news
  | some execution =>
      have unknown : (monitor.executed.any (·.id = execution.id)) = false := by
        simpa [told] using news
      refine ⟨execution, rfl, ?_⟩
      simp only [update, List.filterMap_cons_some told, List.filterMap_nil, List.foldl_cons,
        List.foldl_nil, insert, unknown, Bool.false_eq_true, if_false]

theorem update_stale (stale : monitor.isNews entry = false) : monitor.update [entry] = monitor := by
  unfold isNews at stale
  cases told : execution? entry with
  | none => simp [update, told]
  | some execution =>
      have known : (monitor.executed.any (·.id = execution.id)) = true := by
        simpa [told] using stale
      simp only [update, List.filterMap_cons_some told, List.filterMap_nil, List.foldl_cons,
        List.foldl_nil, insert, known, if_true]

theorem executedCount_update :
    (monitor.update records).executedCount = monitor.executedCount + monitor.added records := by
  induction records generalizing monitor with
  | nil => rfl
  | cons entry records ih =>
      rw [update_cons, ih, added, ← Nat.add_assoc]
      congr 1
      cases news : monitor.isNews entry with
      | true =>
          obtain ⟨execution, -, grown⟩ := monitor.update_news entry news
          simp [grown, executedCount]
      | false => simp [monitor.update_stale entry news]

/-! ### What is kept -/

/-- What a monitor keeps after these records: each statement once, with the time of its first
valid record. -/
structure Keeps (records : List StatementRecord) (monitor : CoverageMonitor) : Prop where
  once : (monitor.executed.map Execution.id).Nodup
  first : ∀ execution,
    execution ∈ monitor.executed ↔ FirstSeen execution.id execution.seen records

namespace Keeps

variable {monitor : CoverageMonitor} {entry : StatementRecord}
  {records more : List StatementRecord}

theorem start (instrumentation : Instrumentation) :
    Keeps [] (ofInstrumentation instrumentation) where
  once := List.nodup_nil
  first execution := by
    constructor
    · intro absurd
      cases absurd
    · intro absurd
      cases absurd

theorem known_iff (keeps : Keeps records monitor) (id : String) :
    (∃ execution ∈ monitor.executed, execution.id = id) ↔ ∃ entry ∈ records, entry.Tells id := by
  rw [← StatementRecord.exists_firstSeen_iff]
  constructor
  · rintro ⟨execution, member, rfl⟩
    exact ⟨execution.seen, (keeps.first execution).mp member⟩
  · rintro ⟨time, first⟩
    exact ⟨⟨id, time⟩, (keeps.first ⟨id, time⟩).mpr first, rfl⟩

/-- A record is news exactly if it is the first valid one of its statement. -/
theorem isNews_iff (keeps : Keeps records monitor) :
    monitor.isNews entry = true ↔
      entry.IsValid ∧ ∀ earlier ∈ records, ¬ earlier.Tells entry.id := by
  rw [CoverageMonitor.isNews_iff]
  refine and_congr_right fun _ => ?_
  have known := keeps.known_iff entry.id
  constructor
  · intro unknown earlier member tells
    obtain ⟨execution, present, same⟩ := known.mpr ⟨earlier, member, tells⟩
    exact unknown execution present same
  · intro silence execution present same
    obtain ⟨earlier, member, tells⟩ := known.mp ⟨execution, present, same⟩
    exact silence earlier member tells

theorem record (keeps : Keeps records monitor) :
    Keeps (records ++ [entry]) (monitor.update [entry]) := by
  have first_iff (execution : Execution) :
      FirstSeen execution.id execution.seen (records ++ [entry]) ↔
        execution ∈ monitor.executed ∨
          (∀ earlier ∈ records, ¬ earlier.Tells execution.id) ∧
            execution? entry = some execution := by
    rw [keeps.first, StatementRecord.firstSeen_append_iff, firstSeen_singleton_iff]
  cases news : monitor.isNews entry with
  | true =>
      obtain ⟨told, told_eq, grown⟩ := monitor.update_news entry news
      have same : entry.id = told.id := (execution?_eq_some_iff.mp told_eq).1.1
      rw [grown]
      constructor
      · have unknown := ((monitor.isNews_iff entry).mp news).2
        rw [List.map_append, List.nodup_append]
        refine ⟨keeps.once, by simp, ?_⟩
        simpa [← same] using unknown
      · intro execution
        rw [first_iff, List.mem_append, List.mem_singleton, told_eq, Option.some.injEq]
        refine or_congr_right ?_
        constructor
        · rintro rfl
          exact ⟨same ▸ (keeps.isNews_iff.mp news).2, rfl⟩
        · rintro ⟨-, rfl⟩
          rfl
  | false =>
      rw [monitor.update_stale entry news]
      refine ⟨keeps.once, fun execution => ?_⟩
      rw [first_iff]
      refine ⟨.inl, ?_⟩
      rintro (present | ⟨silence, told⟩)
      · exact present
      · obtain ⟨⟨same, valid⟩, -⟩ := execution?_eq_some_iff.mp told
        have absurd := keeps.isNews_iff.mpr ⟨valid, same ▸ silence⟩
        rw [absurd] at news
        contradiction

theorem update (keeps : Keeps records monitor) (more : List StatementRecord) :
    Keeps (records ++ more) (monitor.update more) := by
  induction more generalizing records monitor with
  | nil =>
      rw [List.append_nil]
      exact keeps
  | cons entry more ih =>
      rw [update_cons, List.append_cons]
      exact ih keeps.record

theorem firstTime?_eq_some_iff (keeps : Keeps records monitor) {id : String} {time : Timestamp} :
    monitor.firstTime? id = some time ↔ FirstSeen id time records := by
  rw [← keeps.first ⟨id, time⟩, firstTime?, Option.map_eq_some_iff]
  constructor
  · rintro ⟨execution, found, rfl⟩
    have same : execution.id = id := by simpa using List.find?_some found
    exact same ▸ List.mem_of_find?_eq_some found
  · intro member
    have inside : (monitor.executed.find? (·.id = id)).isSome := by
      rw [List.find?_isSome]
      exact ⟨_, member, by simp⟩
    obtain ⟨execution, found⟩ := Option.isSome_iff_exists.mp inside
    have same : execution.id = id := by simpa using List.find?_some found
    have equal := List.inj_on_of_nodup_map keeps.once (List.mem_of_find?_eq_some found) member same
    exact ⟨execution, found, by rw [equal]⟩

/-- Records that were delivered before change nothing. -/
theorem update_again (keeps : Keeps records monitor)
    {again : List StatementRecord} (delivered : ∀ entry ∈ again, entry ∈ records) :
    monitor.update again = monitor ∧ monitor.added again = 0 := by
  induction again with
  | nil => exact ⟨rfl, rfl⟩
  | cons entry again ih =>
      obtain ⟨before, others⟩ := List.forall_mem_cons.mp delivered
      obtain ⟨unchanged, none⟩ := ih others
      have stale : monitor.isNews entry = false := by
        rw [Bool.eq_false_iff, Ne, keeps.isNews_iff]
        rintro ⟨valid, silence⟩
        exact silence entry before ⟨rfl, valid⟩
      rw [update_cons, added, monitor.update_stale entry stale, stale]
      exact ⟨unchanged, by simpa using none⟩

theorem update_again_append (keeps : Keeps records monitor)
    {again : List StatementRecord} (delivered : ∀ entry ∈ again, entry ∈ records)
    (more : List StatementRecord) :
    monitor.update (again ++ more) = monitor.update more ∧
      monitor.added (again ++ more) = monitor.added more := by
  obtain ⟨unchanged, none⟩ := keeps.update_again delivered
  rw [update_append, added_append, unchanged, none, Nat.zero_add]
  exact ⟨rfl, rfl⟩

/-- A log that is read from its start each time tells the same as its new parts. -/
theorem updateAll_growingLog (keeps : Keeps records monitor)
    (parts : List (List StatementRecord)) :
    monitor.updateAll (growingLog records parts) = monitor.updateAll parts ∧
      monitor.addedByAll (growingLog records parts) = monitor.addedByAll parts := by
  induction parts generalizing records monitor with
  | nil => exact ⟨rfl, rfl⟩
  | cons part parts ih =>
      obtain ⟨updated, count⟩ := keeps.update_again_append (fun _ => id) part
      obtain ⟨rest, counts⟩ := ih (keeps.update part)
      rw [growingLog, addedByAll, addedByAll, updated, count, counts, updateAll, List.foldl_cons,
        updated]
      exact ⟨rest, rfl⟩

/-- The snapshot lists what is kept, in strictly ascending order. -/
theorem snapshot_ascending (keeps : Keeps records monitor) :
    monitor.snapshot.Pairwise Execution.Before := by
  have rearranged : monitor.snapshot.Perm monitor.executed := List.mergeSort_perm _ _
  have listed : monitor.snapshot.Pairwise fun left right => left.le right = true :=
    List.pairwise_mergeSort Execution.le_trans Execution.le_total monitor.executed
  have different : monitor.snapshot.Pairwise fun left right => left.id ≠ right.id :=
    List.pairwise_map.mp ((rearranged.map Execution.id).nodup_iff.mpr keeps.once)
  have valid : ∀ execution ∈ monitor.snapshot, execution.seen.isValid = true :=
    fun execution member =>
      ((keeps.first execution).mp (rearranged.mem_iff.mp member)).isValid
  refine (listed.and different).imp_of_mem ?_
  rintro left right member otherMember ⟨ordered, apart⟩
  exact Execution.before_of_le (valid left member) (valid right otherMember) ordered apart

end Keeps

theorem keeps_updateAll (instrumentation : Instrumentation)
    (batches : List (List StatementRecord)) :
    Keeps batches.flatten ((ofInstrumentation instrumentation).updateAll batches) := by
  rw [updateAll_eq]
  exact (Keeps.start instrumentation).update batches.flatten

/-- After any batches of records a new monitor is what one update with all of them makes of it,
and keeps each statement that has a valid record with the time of the first one.  Records that
were delivered before, also at the head of a batch, change nothing and add nothing; so a log
that is read from its start each time tells the same as its new parts.  The updates add up to
the number of statements, and the snapshot lists each of them once, strictly ascending by time
and id. -/
theorem keeps_first_seen (instrumentation : Instrumentation)
    (batches : List (List StatementRecord)) :
    let fresh := ofInstrumentation instrumentation
    let monitor := fresh.updateAll batches
    let delivered := batches.flatten
    monitor = fresh.update delivered ∧
    (∀ id time, monitor.firstTime? id = some time ↔ FirstSeen id time delivered) ∧
    (∀ id, (monitor.firstTime? id).isSome ↔ ∃ entry ∈ delivered, entry.Tells id) ∧
    (∀ again, (∀ entry ∈ again, entry ∈ delivered) →
      monitor.update again = monitor ∧ monitor.added again = 0 ∧
      ∀ more, monitor.update (again ++ more) = monitor.update more ∧
        monitor.added (again ++ more) = monitor.added more) ∧
    fresh.updateAll (growingLog [] batches) = monitor ∧
    fresh.addedByAll (growingLog [] batches) = fresh.addedByAll batches ∧
    (fresh.addedByAll batches).sum = monitor.executedCount ∧
    (∀ execution, execution ∈ monitor.snapshot ↔
      monitor.firstTime? execution.id = some execution.seen) ∧
    (monitor.snapshot.map Execution.id).Nodup ∧
    monitor.snapshot.Pairwise Execution.Before := by
  intro fresh monitor delivered
  have keeps : Keeps delivered monitor := keeps_updateAll instrumentation batches
  have rearranged : monitor.snapshot.Perm monitor.executed := List.mergeSort_perm _ _
  have growing := (Keeps.start instrumentation).updateAll_growingLog batches
  refine ⟨updateAll_eq fresh batches, fun id time => keeps.firstTime?_eq_some_iff, fun id => ?_,
    fun again before => ?_, growing.1, growing.2, ?_, fun execution => ?_, ?_,
    keeps.snapshot_ascending⟩
  · rw [← StatementRecord.exists_firstSeen_iff, Option.isSome_iff_exists]
    exact exists_congr fun time => keeps.firstTime?_eq_some_iff
  · obtain ⟨unchanged, none⟩ := keeps.update_again before
    exact ⟨unchanged, none, keeps.update_again_append before⟩
  · have counted : monitor.executedCount = fresh.executedCount + fresh.added delivered := by
      rw [← executedCount_update, ← updateAll_eq]
    rw [sum_addedByAll, counted]
    exact (Nat.zero_add _).symm
  · rw [rearranged.mem_iff, keeps.firstTime?_eq_some_iff]
    exact keeps.first execution
  · exact (rearranged.map Execution.id).nodup_iff.mpr keeps.once

/-- The first valid record of a statement counts, whatever its time; when it is read once more
nothing changes. -/
theorem keeps_first_seen_of_reread_log :
    let damaged : StatementRecord := ⟨"yesterday", "7"⟩
    let first : StatementRecord := ⟨"2024-01-01 10:00:00.100", "7"⟩
    let earlier : StatementRecord := ⟨"2024-01-01 09:00:00.000", "7"⟩
    let monitor := (ofInstrumentation ⟨[]⟩).updateAll [[damaged, first], [earlier]]
    (∀ entry ∈ [damaged, first], entry ∈ [[damaged, first], [earlier]].flatten) ∧
      monitor.update [damaged, first] = monitor ∧ monitor.added [damaged, first] = 0 ∧
      monitor.firstTime? "7" = some ⟨2024, 1, 1, 10, 0, 0, 100⟩ := by
  intro damaged first earlier monitor
  obtain ⟨-, times, -, reread, -⟩ := keeps_first_seen ⟨[]⟩ [[damaged, first], [earlier]]
  have delivered : ∀ entry ∈ [damaged, first], entry ∈ [[damaged, first], [earlier]].flatten :=
    fun entry member => List.mem_append_left _ member
  obtain ⟨unchanged, none, -⟩ := reread _ delivered
  have silent : ¬ damaged.Tells "7" := by decide +kernel
  have tells : first.Tells "7" := by decide +kernel
  have read : Timestamp.ofText? first.timestamp = some ⟨2024, 1, 1, 10, 0, 0, 100⟩ := by
    decide +kernel
  exact ⟨delivered, unchanged, none, (times _ _).mpr (.there silent (.here tells read))⟩

end CoverageMonitor

end GuiExplorer
