import GuiExplorer.Proofs.Json.Scanning

/-!
# Written values that are read back

The tokens of a value build up that value, whatever containers it stands in.  Together
with the cutting of texts into tokens this makes indented texts exact: a value whose
numbers are numbers is read back from its text.
-/

namespace GuiExplorer.Json

namespace Builder

/-- Where the first item or the end of an array may stand, the tokens of a value begin
the first item. -/
theorem run_firstItem (value : Json) (frames : List Frame) (rest : List Token) :
    run ⟨frames, .firstItem⟩ (value.tokens ++ rest) =
      run ⟨frames, .value⟩ (value.tokens ++ rest) := by
  cases value with
  | array items => cases items <;> rfl
  | object members => cases members <;> rfl
  | _ => rfl

mutual

/-- The tokens of a value put it into the innermost container. -/
theorem run_tokens (value : Json) (frames : List Frame) (rest : List Token) :
    run ⟨frames, .value⟩ (value.tokens ++ rest) = run (push value frames) rest := by
  match value with
  | .null => rfl
  | .bool _ => rfl
  | .int _ => rfl
  | .real _ => rfl
  | .string _ => rfl
  | .array [] => rfl
  | .object [] => rfl
  | .array (first :: items) =>
      calc run ⟨frames, .value⟩ ((Json.array (first :: items)).tokens ++ rest)
          = run ⟨.array [] :: frames, .firstItem⟩ (first.tokens ++ (itemTokens items ++ rest)) := by
            simp only [tokens, List.cons_append, List.append_assoc]
            rfl
        _ = run ⟨.array [first] :: frames, .separator⟩ (itemTokens items ++ rest) := by
            rw [run_firstItem, run_tokens first]
            rfl
        _ = run (push (.array (first :: items)) frames) rest :=
            run_itemTokens items [first] frames rest
  | .object ((key, first) :: members) =>
      calc run ⟨frames, .value⟩ ((Json.object ((key, first) :: members)).tokens ++ rest)
          = run ⟨.object [] key :: frames, .value⟩
              (first.tokens ++ (memberTokens members ++ rest)) := by
            simp only [tokens, List.cons_append, List.append_assoc]
            rfl
        _ = run ⟨.object [(key, first)] key :: frames, .separator⟩
              (memberTokens members ++ rest) := by
            rw [run_tokens first]
            rfl
        _ = run (push (.object ((key, first) :: members)) frames) rest :=
            run_memberTokens members [(key, first)] key frames rest

theorem run_itemTokens (items before : List Json) (frames : List Frame) (rest : List Token) :
    run ⟨.array before :: frames, .separator⟩ (itemTokens items ++ rest) =
      run (push (.array (before.reverse ++ items)) frames) rest := by
  match items with
  | [] =>
      rw [List.append_nil]
      rfl
  | item :: items =>
      calc run ⟨.array before :: frames, .separator⟩ (itemTokens (item :: items) ++ rest)
          = run ⟨.array before :: frames, .value⟩ (item.tokens ++ (itemTokens items ++ rest)) := by
            simp only [itemTokens, List.cons_append, List.append_assoc]
            rfl
        _ = run ⟨.array (item :: before) :: frames, .separator⟩ (itemTokens items ++ rest) := by
            rw [run_tokens item]
            rfl
        _ = run (push (.array (before.reverse ++ item :: items)) frames) rest := by
            rw [run_itemTokens items, List.reverse_cons, List.append_assoc, List.singleton_append]

theorem run_memberTokens (members before : List (Option String × Json)) (last : Option String)
    (frames : List Frame) (rest : List Token) :
    run ⟨.object before last :: frames, .separator⟩ (memberTokens members ++ rest) =
      run (push (.object (before.reverse ++ members)) frames) rest := by
  match members with
  | [] =>
      rw [List.append_nil]
      rfl
  | (key, value) :: members =>
      calc run ⟨.object before last :: frames, .separator⟩
            (memberTokens ((key, value) :: members) ++ rest)
          = run ⟨.object before key :: frames, .value⟩
              (value.tokens ++ (memberTokens members ++ rest)) := by
            simp only [memberTokens, List.cons_append, List.append_assoc]
            rfl
        _ = run ⟨.object ((key, value) :: before) key :: frames, .separator⟩
              (memberTokens members ++ rest) := by
            rw [run_tokens value]
            rfl
        _ = run (push (.object (before.reverse ++ (key, value) :: members)) frames) rest := by
            rw [run_memberTokens members, List.reverse_cons, List.append_assoc,
              List.singleton_append]

end

end Builder

/-- The tokens of a value build up that value. -/
theorem ofTokens?_tokens (value : Json) : ofTokens? value.tokens = some value := by
  have whole : Builder.start.run value.tokens = some ⟨[], .finished value⟩ := by
    have built := Builder.run_tokens value [] []
    rw [List.append_nil] at built
    exact built
  rw [ofTokens?, whole]

/-- A value is read back from its indented text. -/
theorem ofText?_pretty {value : Json} (faithful : value.IsFaithful) :
    ofText? value.pretty = some value := by
  have scanned : Token.scan [] (prettyChars 0 value) = some value.tokens := by
    have cut := faithful.scans 0 [] [] (by simp [Token.Ends])
    rw [List.append_nil, List.append_nil, Token.scan, List.reverse_reverse] at cut
    exact cut
  rw [ofText?, pretty, String.toList_ofList, ofChars?, scanned]
  exact ofTokens?_tokens value

end GuiExplorer.Json
