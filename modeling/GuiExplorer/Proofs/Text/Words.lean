import GuiExplorer.Text.Blank
import Mathlib.Data.List.Basic

/-!
# Words and lines that are read back

Words may be set apart by any blanks, and lines may end in either way: the same words are read from
the text again, line by line.
-/

namespace GuiExplorer.Text

/-- The longest front of characters of a kind. -/
theorem span_append {kind : Char → Bool} {front rest : List Char}
    (inside : ∀ c ∈ front, kind c = true) (outside : ∀ c ∈ rest.head?, kind c = false) :
    (front ++ rest).takeWhile kind = front ∧ (front ++ rest).dropWhile kind = rest := by
  rw [List.takeWhile_append_of_pos inside, List.dropWhile_append_of_pos inside]
  cases rest with
  | nil => simp
  | cons c rest => simp [outside c rfl]

theorem exists_span (kind : Char → Bool) (text : List Char) :
    ∃ front rest, text = front ++ rest ∧ (∀ c ∈ front, kind c = true) ∧
      ∀ c ∈ rest.head?, kind c = false := by
  induction text with
  | nil => exact ⟨[], [], rfl, by simp, by simp⟩
  | cons c text ih =>
      by_cases same : kind c = true
      · obtain ⟨front, rest, rfl, inside, outside⟩ := ih
        exact ⟨c :: front, rest, rfl, List.forall_mem_cons.mpr ⟨same, inside⟩, outside⟩
      · exact ⟨[], c :: text, rfl, by simp, by simpa using same⟩

/-- What is of another kind at the end only follows what is left. -/
theorem span_append_of_other {kind : Char → Bool} (front : List Char) {rest : List Char}
    (outside : ∀ c ∈ rest, kind c = false) :
    (front ++ rest).takeWhile kind = front.takeWhile kind ∧
      (front ++ rest).dropWhile kind = front.dropWhile kind ++ rest := by
  induction front with
  | nil =>
      apply span_append
      · simp
      · intro c member
        exact outside c (List.mem_of_mem_head? member)
  | cons c front ih =>
      by_cases same : kind c = true
      · simp [same, ih]
      · simp [same]

/-! ## Words -/

/-- Nothing but blanks. -/
def IsGap (text : List Char) : Prop :=
  ∀ c ∈ text, isBlank c = true

instance (text : List Char) : Decidable (IsGap text) :=
  text.decidableBAll (isBlank · = true)

/-- No blanks. -/
def IsSolid (text : List Char) : Prop :=
  ∀ c ∈ text, isBlank c = false

instance (text : List Char) : Decidable (IsSolid text) :=
  text.decidableBAll (isBlank · = false)

/-- At least one character, and no blank. -/
structure Word where
  chars : List Char
  nonempty : chars ≠ []
  solid : IsSolid chars

/-- The text shows the words in their order.  Before each of them and at the end there may be
blanks, and between two of them there are some. -/
inductive Shows : List Word → List Char → Prop
  | gap {gap : List Char} (blank : IsGap gap) : Shows [] gap
  | last {gap : List Char} (blank : IsGap gap) (word : Word) : Shows [word] (gap ++ word.chars)
  | next {gap rest : List Char} {c : Char} {words : List Word} (blank : IsGap gap) (word : Word)
      (apart : isBlank c = true) (more : Shows words rest) :
      Shows (word :: words) (gap ++ (word.chars ++ c :: rest))

/-- Only what follows the leading blanks matters. -/
theorem words_eq (text : List Char) :
    words text =
      match text.dropWhile isBlank with
      | [] => []
      | first :: rest =>
          (first :: rest.takeWhile (!isBlank ·)) :: words (rest.dropWhile (!isBlank ·)) := by
  rw [words]
  split
  case h_1 shape => rw [shape]
  case h_2 shape => rw [shape]

theorem words_gap_append {gap : List Char} (blank : IsGap gap) (rest : List Char) :
    words (gap ++ rest) = words rest := by
  rw [words_eq, List.dropWhile_append_of_pos blank, ← words_eq]

theorem words_gap {gap : List Char} (blank : IsGap gap) : words gap = [] := by
  have nothing : words ([] : List Char) = [] := by rw [words_eq, List.dropWhile_nil]
  rw [← List.append_nil gap, words_gap_append blank, nothing]

theorem words_word_append (word : Word) {rest : List Char}
    (apart : ∀ c ∈ rest.head?, isBlank c = true) :
    words (word.chars ++ rest) = word.chars :: words rest := by
  obtain ⟨chars, nonempty, solid⟩ := word
  cases chars with
  | nil => exact (nonempty rfl).elim
  | cons first others =>
      obtain ⟨firstSolid, othersSolid⟩ := List.forall_mem_cons.mp solid
      have start : (first :: others ++ rest).dropWhile isBlank = first :: (others ++ rest) := by
        simp [firstSolid]
      have inside : ∀ c ∈ others, (!isBlank c) = true := by
        intro c member
        rw [othersSolid c member]
        rfl
      have outside : ∀ c ∈ rest.head?, (!isBlank c) = false := by
        intro c member
        rw [apart c member]
        rfl
      obtain ⟨taken, dropped⟩ := span_append inside outside
      rw [words_eq, start]
      simp only [taken, dropped]

/-- The words of a text are those that it shows. -/
theorem words_of_shows {shown : List Word} {text : List Char} (shows : Shows shown text) :
    words text = shown.map Word.chars := by
  induction shows with
  | gap blank => exact words_gap blank
  | last blank word =>
      have nothing : words ([] : List Char) = [] := words_gap (by simp [IsGap])
      have alone : words (word.chars ++ []) = word.chars :: words [] :=
        words_word_append word (by simp)
      rw [List.append_nil, nothing] at alone
      rw [words_gap_append blank, alone]
      rfl
  | @next gap rest c words blank word apart more ih =>
      have between : IsGap [c] := by simpa [IsGap] using apart
      have later : Text.words (c :: rest) = Text.words rest := words_gap_append between rest
      rw [words_gap_append blank, words_word_append word (by simpa using apart), later, ih]
      rfl

/-- Blanks at the end do not matter either. -/
theorem words_append_gap (text : List Char) {gap : List Char} (blank : IsGap gap) :
    words (text ++ gap) = words text := by
  fun_induction words text with
  | case1 text shape =>
      rw [words_eq, List.dropWhile_append, if_pos (by simp [shape]), ← words_eq, words_gap blank]
  | case2 text first rest shape ih =>
      have start : (text ++ gap).dropWhile isBlank = first :: (rest ++ gap) := by
        rw [List.dropWhile_append, if_neg (by simp [shape]), shape]
        rfl
      have outside : ∀ c ∈ gap, (!isBlank c) = false := by
        intro c member
        rw [blank c member]
        rfl
      obtain ⟨taken, dropped⟩ := span_append_of_other rest outside
      rw [words_eq, start]
      simp only [taken, dropped, ih]

/-! ## Lines -/

/-- What may stand at the end of a line. -/
inductive IsLineEnd : List Char → Prop
  | feed : IsLineEnd ['\n']
  | returnFeed : IsLineEnd ['\r', '\n']

/-- The text has the lines, each with an end of its own; only the last one may lack it. -/
inductive HasLines : List (List Char) → List Char → Prop
  | nil : HasLines [] []
  | last {line : List Char} (whole : '\n' ∉ line) (nonempty : line ≠ []) : HasLines [line] line
  | next {line ending rest : List Char} {lines : List (List Char)} (whole : '\n' ∉ line)
      (ends : IsLineEnd ending) (more : HasLines lines rest) :
      HasLines (line :: lines) (line ++ (ending ++ rest))

theorem splitOn_of_whole {line : List Char} (whole : '\n' ∉ line) : line.splitOn '\n' = [line] := by
  apply List.splitOnP_eq_singleton
  intro c member
  simpa using ne_of_mem_of_not_mem member whole

theorem lines_last {line : List Char} (whole : '\n' ∉ line) (nonempty : line ≠ []) :
    lines line = [line] := by
  rw [lines, splitOn_of_whole whole]
  cases line with
  | nil => exact (nonempty rfl).elim
  | cons c rest => rfl

theorem lines_feed_append {line : List Char} (whole : '\n' ∉ line) (rest : List Char) :
    lines (line ++ '\n' :: rest) = dropReturn line :: lines rest := by
  have split : (line ++ '\n' :: rest).splitOn '\n' = line :: rest.splitOn '\n' := by
    rw [List.splitOn, List.splitOnP_append_cons line rest (by simp)]
    exact congrArg (· ++ rest.splitOn '\n') (splitOn_of_whole whole)
  have some : (rest.splitOn '\n').reverse ≠ [] := by
    simp [List.splitOn]
  rw [lines, split, List.reverse_cons, lines]
  match (rest.splitOn '\n').reverse, some with
  | [] :: complete, _ => simp
  | (c :: last) :: complete, _ => simp

theorem words_dropReturn (line : List Char) : words (dropReturn line) = words line := by
  unfold dropReturn
  split
  case isTrue returns =>
    have parts : line.dropLast ++ ['\r'] = line := List.dropLast_append_getLast? _ returns
    conv_rhs => rw [← parts]
    exact (words_append_gap line.dropLast (by simp [IsGap, isBlank])).symm
  case isFalse => rfl

/-- Line by line the words are those of the lines that the text has. -/
theorem map_words_lines {shown : List (List Char)} {text : List Char} (has : HasLines shown text) :
    (lines text).map words = shown.map words := by
  induction has with
  | nil => rfl
  | last whole nonempty => rw [lines_last whole nonempty]
  | @next line ending rest others whole ends more ih =>
      cases ends with
      | feed =>
          rw [List.singleton_append, lines_feed_append whole, List.map_cons, words_dropReturn, ih,
            List.map_cons]
      | returnFeed =>
          have whole' : '\n' ∉ line ++ ['\r'] := by simpa using whole
          have regrouped : line ++ (['\r', '\n'] ++ rest) = (line ++ ['\r']) ++ '\n' :: rest := by
            simp
          rw [regrouped, lines_feed_append whole', List.map_cons, words_dropReturn,
            words_append_gap line (by simp [IsGap, isBlank]), ih, List.map_cons]

end GuiExplorer.Text
