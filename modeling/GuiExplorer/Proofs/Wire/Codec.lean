import GuiExplorer.Proofs.Text.Utf8
import GuiExplorer.Wire.Codec
import Mathlib.Algebra.Group.Nat.Defs

/-!
# Exact codecs

A codec is exact if it decodes a value exactly from the encoding of that value and
whatever follows it.  Then each value has one encoding, none of them is the
beginning of another, and all other bytes are refused.  Codecs that are put
together from exact codecs are exact.

Lengths are written in 64 bits, so only values whose parts are not longer than
that can be encoded; a codec is exact for the values that fit.
-/

namespace GuiExplorer.Wire

theorem ofLittleEndian_littleEndian (width value : Nat) :
    ofLittleEndian (littleEndian width value) = value % 256 ^ width := by
  induction width generalizing value with
  | zero => simp [littleEndian, ofLittleEndian, Nat.mod_one]
  | succ width ih =>
      have byte : (UInt8.ofNat (value % 256)).toNat = value % 256 := by simp
      rw [littleEndian, ofLittleEndian, ih, byte, Nat.pow_succ, Nat.mul_comm (256 ^ width),
        Nat.mod_mul]

theorem length_littleEndian (width value : Nat) : (littleEndian width value).length = width := by
  induction width generalizing value with
  | zero => rfl
  | succ width ih => rw [littleEndian, List.length_cons, ih]

theorem littleEndian_ofLittleEndian (digits : List UInt8) :
    littleEndian digits.length (ofLittleEndian digits) = digits := by
  induction digits with
  | nil => rfl
  | cons byte rest ih =>
      have small := byte.toNat_lt
      have low : (byte.toNat + 256 * ofLittleEndian rest) % 256 = byte.toNat := by omega
      have high : (byte.toNat + 256 * ofLittleEndian rest) / 256 = ofLittleEndian rest := by
        omega
      rw [List.length_cons, ofLittleEndian, littleEndian, low, high, ih, UInt8.ofNat_toNat]

theorem ofLittleEndian_lt (digits : List UInt8) :
    ofLittleEndian digits < 256 ^ digits.length := by
  induction digits with
  | nil => exact Nat.one_pos
  | cons byte rest ih =>
      have small := byte.toNat_lt
      rw [ofLittleEndian, List.length_cons, Nat.pow_succ]
      omega

theorem splitBytes_append (front rest : List UInt8) :
    splitBytes front.length (front ++ rest) = some (front, rest) := by
  simp [splitBytes]

theorem eq_append_of_splitBytes
    {count : Nat} {bytes front rest : List UInt8}
    (split : splitBytes count bytes = some (front, rest)) :
    front.length = count ∧ bytes = front ++ rest := by
  unfold splitBytes at split
  split at split
  case isTrue => contradiction
  case isFalse enough =>
    simp only [List.splitAt_eq, Option.some.injEq, Prod.mk.injEq] at split
    obtain ⟨rfl, rfl⟩ := split
    exact ⟨List.length_take_of_le (by omega), (List.take_append_drop count bytes).symm⟩

namespace Codec

/-- The codec decodes a value that fits from its encoding and what follows it, and from
nothing else. -/
structure IsExact (codec : Codec α) (Fits : α → Prop) : Prop where
  decode_encode {value : α} (fits : Fits value) (rest : List UInt8) :
    codec.decode (codec.encode value ++ rest) = .ok (value, rest)
  eq_encode {bytes rest : List UInt8} {value : α}
      (decoded : codec.decode bytes = .ok (value, rest)) :
    Fits value ∧ bytes = codec.encode value ++ rest

/-- What an exact codec does with all byte strings: decoding accepts those that begin with
the encoding of a value that fits, and refuses all others. -/
structure IsCanonical (codec : Codec α) (Fits : α → Prop) : Prop where
  decode_iff (bytes : List UInt8) (value : α) :
    (∃ rest, codec.decode bytes = .ok (value, rest)) ↔ Fits value ∧ codec.encode value <+: bytes
  decode_encode (value : α) (fits : Fits value) :
    codec.decode (codec.encode value) = .ok (value, [])
  eq_of_prefix (left right : α) (leftFits : Fits left) (rightFits : Fits right)
    (begins : codec.encode left <+: codec.encode right) : left = right
  refuses (bytes : List UInt8)
      (begins : ∀ value, Fits value → ¬ codec.encode value <+: bytes) :
    ∃ error, codec.decode bytes = .error error

namespace IsExact

variable {codec : Codec α} {Fits : α → Prop}

theorem canonical (exact : codec.IsExact Fits) : codec.IsCanonical Fits := by
  have decode_iff : ∀ bytes value, (∃ rest, codec.decode bytes = .ok (value, rest)) ↔
      Fits value ∧ codec.encode value <+: bytes := by
    intro bytes value
    constructor
    · rintro ⟨rest, decoded⟩
      obtain ⟨fits, same⟩ := exact.eq_encode decoded
      exact ⟨fits, rest, same.symm⟩
    · rintro ⟨fits, rest, rfl⟩
      exact ⟨rest, exact.decode_encode fits rest⟩
  have decode_encode : ∀ value, Fits value →
      codec.decode (codec.encode value) = .ok (value, []) := by
    intro value fits
    simpa using exact.decode_encode fits []
  refine ⟨decode_iff, decode_encode, ?_, ?_⟩
  · intro left right leftFits rightFits begins
    obtain ⟨rest, decoded⟩ := (decode_iff _ left).mpr ⟨leftFits, begins⟩
    rw [decode_encode right rightFits] at decoded
    cases decoded
    rfl
  · intro bytes begins
    cases decoded : codec.decode bytes with
    | error error => exact ⟨error, rfl⟩
    | ok found =>
        obtain ⟨fits, same⟩ := exact.eq_encode decoded
        exact (begins found.1 fits ⟨found.2, same.symm⟩).elim

theorem congr {Same : α → Prop}
    (exact : codec.IsExact Fits) (same : ∀ value, Fits value ↔ Same value) :
    codec.IsExact Same := by
  have equal : Fits = Same := funext fun value => propext (same value)
  exact equal ▸ exact

theorem nat (width : Nat) : (Codec.nat width).IsExact (· < 256 ^ width) where
  decode_encode {value} fits rest := by
    have split := splitBytes_append (littleEndian width value) rest
    rw [length_littleEndian] at split
    simp only [Codec.nat, split, ofLittleEndian_littleEndian, Nat.mod_eq_of_lt fits]
  eq_encode {bytes rest value} decoded := by
    simp only [Codec.nat] at decoded ⊢
    split at decoded
    case h_1 digits after split =>
      cases decoded
      obtain ⟨rfl, rfl⟩ := eq_append_of_splitBytes split
      exact ⟨ofLittleEndian_lt digits, by rw [littleEndian_ofLittleEndian]⟩
    case h_2 => contradiction

theorem read_encode {wrap : α → β}
    (exact : codec.IsExact Fits) {value : α} (fits : Fits value) (rest : List UInt8) :
    codec.read wrap (codec.encode value ++ rest) = .ok (wrap value, rest) := by
  rw [Codec.read, exact.decode_encode fits]

theorem eq_encode_of_read {wrap : α → β} {bytes rest : List UInt8} {wrapped : β}
    (exact : codec.IsExact Fits) (decoded : codec.read wrap bytes = .ok (wrapped, rest)) :
    ∃ value, wrapped = wrap value ∧ Fits value ∧ bytes = codec.encode value ++ rest := by
  unfold Codec.read at decoded
  split at decoded
  case h_1 value after found =>
    cases decoded
    obtain ⟨fits, same⟩ := exact.eq_encode found
    exact ⟨value, rfl, fits, same⟩
  case h_2 => contradiction

theorem map {wrap : α → β} {unwrap : β → α} (exact : codec.IsExact Fits)
    (wrap_unwrap : ∀ wrapped, wrap (unwrap wrapped) = wrapped)
    (unwrap_wrap : ∀ value, Fits value → unwrap (wrap value) = value) :
    (codec.map wrap unwrap).IsExact fun wrapped => Fits (unwrap wrapped) where
  decode_encode {wrapped} fits rest := by
    refine (exact.read_encode fits rest).trans ?_
    rw [wrap_unwrap]
  eq_encode decoded := by
    obtain ⟨value, rfl, fits, same⟩ := exact.eq_encode_of_read decoded
    dsimp only [Codec.map]
    rw [unwrap_wrap value fits]
    exact ⟨fits, same⟩

theorem byte : Codec.byte.IsExact fun _ => True :=
  ((nat 1).map (fun _ => UInt8.ofNat_toNat) fun _ => UInt8.toNat_ofNat_of_lt').congr
    fun value => iff_true_intro value.toNat_lt

theorem uint32 : Codec.uint32.IsExact fun _ => True :=
  ((nat 4).map (fun _ => UInt32.ofNat_toNat) fun _ => UInt32.toNat_ofNat_of_lt').congr
    fun value => iff_true_intro value.toNat_lt

theorem uint64 : Codec.uint64.IsExact fun _ => True :=
  ((nat 8).map (fun _ => UInt64.ofNat_toNat) fun _ => UInt64.toNat_ofNat_of_lt').congr
    fun value => iff_true_intro value.toNat_lt

theorem int32 : Codec.int32.IsExact fun _ => True :=
  uint32.map Int32.toInt32_toUInt32 fun value _ => UInt32.toUInt32_toInt32 value

theorem bool : Codec.bool.IsExact fun _ => True where
  decode_encode {value} _ rest := by cases value <;> rfl
  eq_encode {bytes rest value} decoded := by
    refine ⟨trivial, ?_⟩
    simp only [Codec.bool] at decoded ⊢
    split at decoded
    case h_1 => contradiction
    case h_2 tag after =>
      split at decoded
      case isTrue zero =>
        cases decoded
        rw [zero]
        rfl
      case isFalse =>
        split at decoded
        case isTrue one =>
          cases decoded
          rw [one]
          rfl
        case isFalse => contradiction

theorem option (exact : codec.IsExact Fits) :
    (Codec.option codec).IsExact fun value => ∀ item, value = some item → Fits item where
  decode_encode {value} fits rest := by
    cases value with
    | none => rfl
    | some item =>
        simp [Codec.option, exact.decode_encode (fits item rfl)]
  eq_encode {bytes rest value} decoded := by
    simp only [Codec.option] at decoded ⊢
    split at decoded
    case h_1 => contradiction
    case h_2 tag after =>
      split at decoded
      case isTrue zero =>
        cases decoded
        rw [zero]
        exact ⟨by simp, rfl⟩
      case isFalse =>
        split at decoded
        case isTrue one =>
          split at decoded
          case h_1 item afterItem found =>
            cases decoded
            obtain ⟨fits, same⟩ := exact.eq_encode found
            refine ⟨fun other some => Option.some.inj some ▸ fits, ?_⟩
            rw [one, same]
            rfl
          case h_2 => contradiction
        case isFalse => contradiction

theorem pair {second : Codec β} {SecondFits : β → Prop}
    (exact : codec.IsExact Fits) (secondExact : second.IsExact SecondFits) :
    (Codec.pair codec second).IsExact fun values => Fits values.1 ∧ SecondFits values.2 where
  decode_encode {values} fits rest := by
    simp only [Codec.pair, List.append_assoc, exact.decode_encode fits.1,
      secondExact.decode_encode fits.2]
  eq_encode {bytes rest values} decoded := by
    simp only [Codec.pair] at decoded ⊢
    split at decoded
    case h_1 => contradiction
    case h_2 left afterLeft leftFound =>
      split at decoded
      case h_1 => contradiction
      case h_2 right afterRight rightFound =>
        cases decoded
        obtain ⟨leftFits, rfl⟩ := exact.eq_encode leftFound
        obtain ⟨rightFits, rfl⟩ := secondExact.eq_encode rightFound
        exact ⟨⟨leftFits, rightFits⟩, (List.append_assoc _ _ _).symm⟩

theorem string :
    Codec.string.IsExact fun text => (Text.utf8Bytes text).length < UInt64.size where
  decode_encode {text} fits rest := by
    have size : (UInt64.ofNat (Text.utf8Bytes text).length).toNat =
        (Text.utf8Bytes text).length := UInt64.toNat_ofNat_of_lt' fits
    simp only [Codec.string, List.append_assoc, uint64.decode_encode trivial, size,
      splitBytes_append, Text.decodeUtf8_eq_ok_iff.mpr rfl]
  eq_encode {bytes rest text} decoded := by
    simp only [Codec.string] at decoded ⊢
    split at decoded
    case h_1 => contradiction
    case h_2 size after sizeFound =>
      split at decoded
      case h_1 => contradiction
      case h_2 body afterBody split =>
        split at decoded
        case h_2 => contradiction
        case h_1 found valid =>
          cases decoded
          obtain ⟨-, rfl⟩ := uint64.eq_encode sizeFound
          obtain ⟨length, rfl⟩ := eq_append_of_splitBytes split
          obtain rfl := Text.decodeUtf8_eq_ok_iff.mp valid
          rw [length]
          exact ⟨size.toNat_lt, by rw [UInt64.ofNat_toNat, List.append_assoc]⟩

theorem decodeMany_encode
    (exact : codec.IsExact Fits) {items : List α} (fit : ∀ item ∈ items, Fits item)
    (before : List α) (rest : List UInt8) :
    decodeMany codec items.length before (items.flatMap codec.encode ++ rest) =
      .ok (before.reverse ++ items, rest) := by
  induction items generalizing before with
  | nil => simp [decodeMany]
  | cons item items ih =>
      obtain ⟨itemFits, othersFit⟩ := List.forall_mem_cons.mp fit
      rw [List.length_cons, decodeMany, List.flatMap_cons, List.append_assoc,
        exact.decode_encode itemFits]
      dsimp only
      rw [ih othersFit, List.reverse_cons, List.append_assoc]
      rfl

theorem eq_encode_of_decodeMany
    (exact : codec.IsExact Fits) {count : Nat} {before items : List α}
    {bytes rest : List UInt8}
    (decoded : decodeMany codec count before bytes = .ok (items, rest)) :
    ∃ read, items = before.reverse ++ read ∧ read.length = count ∧
      (∀ item ∈ read, Fits item) ∧ bytes = read.flatMap codec.encode ++ rest := by
  induction count generalizing before bytes with
  | zero =>
      cases decoded
      exact ⟨[], by simp, rfl, by simp, rfl⟩
  | succ count ih =>
      rw [decodeMany] at decoded
      split at decoded
      case h_2 => contradiction
      case h_1 item after found =>
        obtain ⟨itemFits, rfl⟩ := exact.eq_encode found
        obtain ⟨read, rfl, rfl, fit, rfl⟩ := ih decoded
        exact ⟨item :: read, by simp, rfl, List.forall_mem_cons.mpr ⟨itemFits, fit⟩, by simp⟩

theorem list (exact : codec.IsExact Fits) :
    (Codec.list codec).IsExact fun items =>
      items.length < UInt64.size ∧ ∀ item ∈ items, Fits item where
  decode_encode {items} fits rest := by
    have count : (UInt64.ofNat items.length).toNat = items.length :=
      UInt64.toNat_ofNat_of_lt' fits.1
    simp only [Codec.list, List.append_assoc, uint64.decode_encode trivial, count,
      exact.decodeMany_encode fits.2]
    rfl
  eq_encode {bytes rest items} decoded := by
    simp only [Codec.list] at decoded ⊢
    split at decoded
    case h_1 => contradiction
    case h_2 count after countFound =>
      obtain ⟨-, rfl⟩ := uint64.eq_encode countFound
      obtain ⟨read, same, length, fit, rfl⟩ := exact.eq_encode_of_decodeMany decoded
      obtain rfl : items = read := same
      rw [length, UInt64.ofNat_toNat, List.append_assoc]
      exact ⟨⟨count.toNat_lt, fit⟩, rfl⟩

theorem bytes : Codec.bytes.IsExact fun block => block.size < UInt64.size :=
  (byte.list.map (fun _ => rfl) fun _ _ => rfl).congr fun _ =>
    ⟨fun fits => fits.1, fun fits => ⟨fits, fun _ _ => trivial⟩⟩

end IsExact

end Codec

end GuiExplorer.Wire
