import GuiExplorer.Json.Printer
import GuiExplorer.Proofs.Text.Digits
import GuiExplorer.Proofs.Text.Words

/-!
# The tokens of a written value

An indented text is cut into the tokens of the value it was written for: blanks are
skipped, escapes stand for the characters they were written for, and a number ends
before whatever the layout puts after it.

A number that is no integer is kept as it was written, so such a value can only be
expected back if what it holds is a number at all.
-/

namespace GuiExplorer.Json

mutual

/-- The tokens of a value. -/
def tokens : Json → List Token
  | .null => [.null]
  | .bool value => [.bool value]
  | .int value => [.int value]
  | .real literal => [.real literal]
  | .string content => [.string content]
  | .array [] => [.openArray, .closeArray]
  | .array (first :: rest) => .openArray :: tokens first ++ itemTokens rest
  | .object [] => [.openObject, .closeObject]
  | .object ((key, first) :: rest) =>
      .openObject :: .string key :: .colon :: tokens first ++ memberTokens rest

/-- The tokens of the items after the first, and of the closing bracket. -/
def itemTokens : List Json → List Token
  | [] => [.closeArray]
  | item :: rest => .comma :: tokens item ++ itemTokens rest

/-- The tokens of the members after the first, and of the closing brace. -/
def memberTokens : List (Option String × Json) → List Token
  | [] => [.closeObject]
  | (key, value) :: rest => .comma :: .string key :: .colon :: tokens value ++ memberTokens rest

end

namespace Token

variable (before : List Token) (rest : List Char)

/-! ## Strings -/

theorem hexValue?_hexDigit : ∀ value < 16, hexValue? (hexDigit value) = some value := by
  decide

/-- A unit that is no surrogate stands for the character of its code. -/
theorem assemble_unit {code : Nat} (small : code < 0xD800) (before : List Char)
    (rest : List Piece) :
    assemble before (.unit code :: rest) = assemble (Char.ofNat code :: before) rest := by
  cases rest with
  | nil => simp [assemble, small]
  | cons piece rest => cases piece <;> simp [assemble, small]

/-- A text inside a string is read as one piece. -/
def IsRead (text : List Char) (piece : Piece) : Prop :=
  ∀ before rest, scanString before (text ++ rest) = scanString (piece :: before) rest

/-- A piece stands for a character whatever comes after it. -/
def StandsFor (piece : Piece) (c : Char) : Prop :=
  ∀ before rest, assemble before (piece :: rest) = assemble (c :: before) rest

theorem isRead_short {letter c : Char} (named : escaped? letter = some c) (short : letter ≠ 'u') :
    IsRead ['\\', letter] (.char c) := by
  intro before rest
  rw [List.cons_append, List.singleton_append, scanString, named]
  exact fun _ _ _ _ _ long => absurd long short

theorem isRead_long {code : Nat} (small : code < 256) :
    IsRead ['\\', 'u', '0', '0', hexDigit (code / 16), hexDigit (code % 16)] (.unit code) := by
  intro before rest
  have high : hexValue? (hexDigit (code / 16)) = some (code / 16) :=
    hexValue?_hexDigit _ (by omega)
  have low : hexValue? (hexDigit (code % 16)) = some (code % 16) :=
    hexValue?_hexDigit _ (by omega)
  have zero : hexValue? '0' = some 0 := rfl
  have code_eq : ((0 * 16 + 0) * 16 + code / 16) * 16 + code % 16 = code := by omega
  simp only [List.cons_append, List.nil_append, scanString, unit?, zero, high, low, code_eq]

theorem isRead_plain {c : Char} (open_quote : c ≠ '"') (slash : c ≠ '\\')
    (visible : ¬ c.toNat < 0x20) : IsRead [c] (.char c) := by
  intro before rest
  rw [List.singleton_append, scanString, if_neg (by simp [visible, slash])]
  · exact open_quote
  · exact fun _ _ _ _ _ same => absurd same slash
  · exact fun _ _ same => absurd same slash

/-- However a character is written, it is read as one piece that stands for it. -/
theorem exists_piece (c : Char) : ∃ piece, IsRead (escapedChar c) piece ∧ StandsFor piece c := by
  have itself : ∀ c, StandsFor (.char c) c := fun c before rest => by rw [assemble]
  unfold escapedChar
  -- the escapes of one letter, which all name their character
  iterate 7
    split
    next same => subst same; exact ⟨_, isRead_short rfl (by decide), itself _⟩
  split
  case isTrue control =>
    refine ⟨.unit c.toNat, isRead_long (by omega), fun before rest => ?_⟩
    rw [assemble_unit (by omega), Char.ofNat_toNat]
  case isFalse visible =>
    exact ⟨.char c, isRead_plain ‹_› ‹_› visible, itself c⟩

/-- A quoted text is read up to its closing quote, as pieces that make up the text. -/
theorem exists_pieces (text : List Char) (before : List Piece) (rest : List Char) :
    ∃ pieces,
      scanString before (text.flatMap escapedChar ++ '"' :: rest) =
        some (before.reverse ++ pieces, rest) ∧
      ∀ read, assemble read pieces = some (read.reverse ++ text) := by
  induction text generalizing before with
  | nil => exact ⟨[], by simp [scanString], fun read => by simp [assemble]⟩
  | cons c text ih =>
      obtain ⟨piece, isRead, standsFor⟩ := exists_piece c
      obtain ⟨pieces, scanned, assembled⟩ := ih (piece :: before)
      refine ⟨piece :: pieces, ?_, fun read => ?_⟩
      · rw [List.flatMap_cons, List.append_assoc, isRead, scanned]
        simp
      · rw [standsFor, assembled]
        simp

theorem scan_quote {text after : List Char} {pieces : List Piece}
    (scanned : scanString [] text = some (pieces, after)) :
    scan before ('"' :: text) =
      scan (.string ((assemble [] pieces).map String.ofList) :: before) after := by
  rw [scan]
  split
  case h_1 found =>
    cases scanned.symm.trans found
    rfl
  case h_2 none => cases scanned.symm.trans none

theorem scan_stringChars (content : Option String) :
    scan before (stringChars content ++ rest) = scan (.string content :: before) rest := by
  cases content with
  | none =>
      have written : stringChars none = '"' :: ['\\', 'u', 'd', '8', '0', '0', '"'] := rfl
      have lone : scanString [] (['\\', 'u', 'd', '8', '0', '0', '"'] ++ rest) =
          some ([.unit 0xD800], rest) := by
        simp [scanString, unit?, hexValue?]
      rw [written, List.cons_append, scan_quote before lone]
      simp [assemble]
  | some text =>
      obtain ⟨pieces, scanned, assembled⟩ := exists_pieces text.toList [] rest
      have written : stringChars (some text) = quotedChars text := rfl
      have quoted : quotedChars text ++ rest =
          '"' :: (text.toList.flatMap escapedChar ++ '"' :: rest) := by
        simp only [quotedChars, List.cons_append, List.append_assoc, List.nil_append]
      have whole : assemble [] pieces = some text.toList := assembled []
      rw [written, quoted, scan_quote before scanned, List.reverse_nil, List.nil_append, whole,
        Option.map_some, String.ofList_toList]

/-! ## Numbers -/

/-- What comes after a number does not go on with it. -/
def Ends (rest : List Char) : Prop :=
  ∀ c ∈ rest.head?, isNumeric c = false

theorem ends_cons {c : Char} (other : isNumeric c = false) : Ends (c :: rest) := by
  simpa [Ends] using other

/-- The characters of a literal make up a number. -/
structure IsNumber (literal : List Char) (token : Token) : Prop where
  numeric : ∀ c ∈ literal, isNumeric c = true
  read : ofLiteral literal = some token

theorem isSpace_of_isNumeric {c : Char} (numeric : isNumeric c = true) : isSpace c = false := by
  have distinct : ∀ space, isNumeric space = false → c ≠ space := by
    rintro space other rfl
    rw [numeric] at other
    cases other
  simp [isSpace, distinct ' ' rfl, distinct '\n' rfl, distinct '\t' rfl, distinct '\r' rfl]

theorem scan_number {literal rest : List Char} {token : Token}
    (number : IsNumber literal token) (ends : Ends rest) :
    scan before (literal ++ rest) = scan (token :: before) rest := by
  cases literal with
  | nil => cases number.read
  | cons c more =>
      have numeric : isNumeric c = true := number.numeric c (by simp)
      obtain ⟨taken, dropped⟩ := Text.span_append
        (fun c inside => number.numeric c (List.mem_cons_of_mem _ inside)) ends
      rw [List.cons_append, scan, taken, dropped, number.read,
        if_neg (by simp [isSpace_of_isNumeric numeric]), if_pos numeric]
      all_goals
        intros
        subst c
        cases numeric

theorem ofMagnitude_toDigits {negative : Bool} {value : Nat}
    (sign : negative = true → 0 < value) :
    ofMagnitude negative (Nat.toDigits 10 value) =
      some (.int (if negative then -(value : Int) else value)) := by
  have digits : ∀ c ∈ Nat.toDigits 10 value, c.isDigit = true := fun _ inside =>
    Nat.isDigit_of_mem_toDigits (by decide) (by decide) inside
  have nothing : ∀ c ∈ ([] : List Char).head?, c.isDigit = false := by simp
  obtain ⟨taken, dropped⟩ := Text.span_append digits nothing
  rw [List.append_nil] at taken dropped
  have proper : ¬ ((Nat.toDigits 10 value).head? = some '0' ∧
      1 < (Nat.toDigits 10 value).length) := by
    rintro ⟨zero, long⟩
    rcases Nat.eq_zero_or_pos value with rfl | positive
    · exact absurd long (by decide)
    · exact Text.head?_toDigits_ne_zero positive zero
  have nonzero : negative = true → Nat.toDigits 10 value ≠ ['0'] := by
    intro minus zero
    exact Text.head?_toDigits_ne_zero (sign minus) (by rw [zero]; rfl)
  simp only [ofMagnitude, taken, dropped, Text.ofDigits_toDigits]
  rw [if_neg, if_pos List.isEmpty_nil]
  · cases negative with
    | false => rfl
    | true => rw [if_pos rfl, if_neg (nonzero rfl), if_pos rfl]
  · simpa [Nat.toDigits_ne_nil] using proper

/-- An integer in decimal is a number literal. -/
theorem isNumber_intChars (value : Int) : IsNumber (intChars value) (.int value) := by
  have digits : ∀ value, ∀ c ∈ Nat.toDigits 10 value, c.isDigit = true := fun _ _ inside =>
    Nat.isDigit_of_mem_toDigits (by decide) (by decide) inside
  have numeric : ∀ value, ∀ c ∈ Nat.toDigits 10 value, isNumeric c = true := by
    intro value c inside
    simp [isNumeric, digits value c inside]
  cases value with
  | ofNat value =>
      have unsigned : ∀ rest, Nat.toDigits 10 value ≠ '-' :: rest := by
        intro rest same
        have minus : '-'.isDigit = true := digits value '-' (by simp [same])
        cases minus
      refine ⟨numeric value, ?_⟩
      rw [intChars, ofLiteral, ofMagnitude_toDigits (by simp)]
      · rfl
      · exact unsigned
  | negSucc value =>
      refine ⟨?_, ?_⟩
      · simpa [intChars, isNumeric] using numeric (value + 1)
      · rw [intChars, ofLiteral, ofMagnitude_toDigits (by simp)]
        rfl

/-! ## Layout -/

theorem scan_blank {c : Char} (blank : isSpace c = true) :
    scan before (c :: rest) = scan before rest := by
  rw [scan, if_pos blank]
  all_goals
    intros
    subst c
    cases blank

theorem scan_lineBreak (depth : Nat) :
    scan before (lineBreak depth ++ rest) = scan before rest := by
  rw [lineBreak, List.cons_append, scan_blank _ _ rfl]
  induction 2 * depth with
  | zero => rfl
  | succ width ih => rw [List.replicate_succ, List.cons_append, scan_blank _ _ rfl, ih]

theorem ends_prettyItems (depth : Nat) (items : List Json) :
    Ends (prettyItems depth items ++ rest) := by
  cases items <;> exact ends_cons _ rfl

theorem ends_prettyMembers (depth : Nat) (members : List (Option String × Json)) :
    Ends (prettyMembers depth members ++ rest) := by
  cases members <;> exact ends_cons _ rfl

end Token

/-- Every number in a value is written as a number. -/
inductive IsFaithful : Json → Prop
  | null : IsFaithful .null
  | bool (value : Bool) : IsFaithful (.bool value)
  | int (value : Int) : IsFaithful (.int value)
  | real {literal : String} (number : Token.IsNumber literal.toList (.real literal)) :
      IsFaithful (.real literal)
  | string (content : Option String) : IsFaithful (.string content)
  | array {items : List Json} (each : ∀ item ∈ items, IsFaithful item) : IsFaithful (.array items)
  | object {members : List (Option String × Json)}
      (each : ∀ member ∈ members, IsFaithful member.2) : IsFaithful (.object members)

/-- The text of a value is cut into the tokens of the value, at whatever depth it stands. -/
def Scans (value : Json) : Prop :=
  ∀ depth before rest, Token.Ends rest →
    Token.scan before (prettyChars depth value ++ rest) =
      Token.scan (value.tokens.reverse ++ before) rest

section

variable {before : List Token} {rest : List Char}

/-- A member in a line of its own. -/
theorem Scans.member {value : Json} (scans : value.Scans) (key : Option String) (depth : Nat)
    (ends : Token.Ends rest) :
    Token.scan before (lineBreak depth ++
        (stringChars key ++ ':' :: ' ' :: (prettyChars depth value ++ rest))) =
      Token.scan (value.tokens.reverse ++ .colon :: .string key :: before) rest := by
  rw [Token.scan_lineBreak, Token.scan_stringChars, Token.scan, Token.scan_blank _ _ rfl,
    scans _ _ _ ends]

theorem scan_prettyItems {items : List Json} (each : ∀ item ∈ items, item.Scans) (depth : Nat) :
    Token.scan before (prettyItems depth items ++ rest) =
      Token.scan ((itemTokens items).reverse ++ before) rest := by
  induction items generalizing before with
  | nil =>
      rw [prettyItems, List.append_assoc, Token.scan_lineBreak, List.singleton_append,
        Token.scan]
      rfl
  | cons item items ih =>
      have first : item.Scans := each item (by simp)
      have others : ∀ item ∈ items, item.Scans := fun item inside => each item (by simp [inside])
      -- what comes after an item is a comma or a line break, which ends a number
      simp only [prettyItems, List.cons_append, List.append_assoc]
      rw [Token.scan, Token.scan_lineBreak, first _ _ _ (Token.ends_prettyItems _ _ _), ih others]
      simp [itemTokens]

theorem scan_prettyMembers {members : List (Option String × Json)}
    (each : ∀ member ∈ members, member.2.Scans) (depth : Nat) :
    Token.scan before (prettyMembers depth members ++ rest) =
      Token.scan ((memberTokens members).reverse ++ before) rest := by
  induction members generalizing before with
  | nil =>
      rw [prettyMembers, List.append_assoc, Token.scan_lineBreak, List.singleton_append,
        Token.scan]
      rfl
  | cons member members ih =>
      obtain ⟨key, value⟩ := member
      have first : value.Scans := each (key, value) (by simp)
      have others : ∀ member ∈ members, member.2.Scans :=
        fun member inside => each member (by simp [inside])
      simp only [prettyMembers, List.cons_append, List.append_assoc]
      rw [Token.scan, first.member _ _ (Token.ends_prettyMembers _ _ _), ih others]
      simp [memberTokens]

end

theorem IsFaithful.scans {value : Json} (faithful : value.IsFaithful) : value.Scans := by
  induction faithful with
  | null =>
      intro depth before rest _
      have written : prettyChars depth .null = ['n', 'u', 'l', 'l'] := rfl
      simp [written, Token.scan, tokens]
  | bool value =>
      intro depth before rest _
      cases value with
      | true =>
          have written : prettyChars depth (.bool true) = ['t', 'r', 'u', 'e'] := rfl
          simp [written, Token.scan, tokens]
      | false =>
          have written : prettyChars depth (.bool false) = ['f', 'a', 'l', 's', 'e'] := rfl
          simp [written, Token.scan, tokens]
  | int value =>
      intro depth before rest ends
      exact Token.scan_number before (Token.isNumber_intChars value) ends
  | real number =>
      intro depth before rest ends
      exact Token.scan_number before number ends
  | string content =>
      intro depth before rest _
      exact Token.scan_stringChars before rest content
  | @array items each ih =>
      intro depth before rest _
      cases items with
      | nil =>
          have written : prettyChars depth (.array []) = ['[', ']'] := rfl
          simp [written, Token.scan, tokens]
      | cons first items =>
          have first_scans : first.Scans := ih first (by simp)
          have others : ∀ item ∈ items, item.Scans := fun item inside => ih item (by simp [inside])
          simp only [prettyChars, List.cons_append, List.append_assoc]
          rw [Token.scan, Token.scan_lineBreak, first_scans _ _ _ (Token.ends_prettyItems _ _ _),
            scan_prettyItems others]
          simp [tokens]
  | @object members each ih =>
      intro depth before rest _
      cases members with
      | nil =>
          have written : prettyChars depth (.object []) = ['\x7b', '\x7d'] := rfl
          simp [written, Token.scan, tokens]
      | cons member members =>
          obtain ⟨key, first⟩ := member
          have first_scans : first.Scans := ih (key, first) (by simp)
          have others : ∀ member ∈ members, member.2.Scans :=
            fun member inside => ih member (by simp [inside])
          simp only [prettyChars, List.cons_append, List.append_assoc]
          rw [Token.scan, first_scans.member _ _ (Token.ends_prettyMembers _ _ _),
            scan_prettyMembers others]
          simp [tokens]

end GuiExplorer.Json
