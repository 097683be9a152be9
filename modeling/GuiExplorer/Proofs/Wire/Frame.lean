import GuiExplorer.Proofs.Wire.Codec
import GuiExplorer.Wire.Frame

/-!
# Frames that are read back

A frame that was written is read back as one payload, and the reader stops right
after it.  What is read stood in front of the stream, whatever else the stream meets.
-/

namespace GuiExplorer.Wire

theorem announcedLength_frameHeader_of_lt {size : Nat} (small : size < 2 ^ 32) :
    announcedLength (frameHeader size) = size := by
  have small : size < 256 ^ 4 := small
  change ofLittleEndian (littleEndian 4 size).reverse.reverse = size
  rw [List.reverse_reverse, ofLittleEndian_littleEndian, Nat.mod_eq_of_lt small]

theorem announcedLength_frameHeader {size : Nat} (fits : size ≤ maxFrameLength) :
    announcedLength (frameHeader size) = size :=
  announcedLength_frameHeader_of_lt (Nat.lt_of_le_of_lt fits (by decide))

theorem size_frameHeader (size : Nat) : (frameHeader size).size = 4 :=
  rfl

theorem fill_zero (before : ByteArray) (stream : List Chunk) :
    fill 0 before stream = (.complete before, stream) := by
  rw [fill.eq_def, if_pos rfl]

theorem fill_exact {bytes : ByteArray} (some : bytes.size ≠ 0) (rest : List Chunk) :
    fill bytes.size .empty (.data bytes :: rest) = (.complete bytes, rest) := by
  rw [fill]
  simp only [some, if_false, Nat.lt_irrefl, Nat.sub_self, ByteArray.empty_append]
  exact fill_zero bytes rest

/-- A frame is read back, and what comes after it is left. -/
theorem readFrame_frame
    {payload frame : ByteArray} (written : writeFrame payload = .ok frame)
    (some : payload.size ≠ 0) (rest : List Chunk) :
    readFrame (.data frame :: rest) = (.ok payload, rest) := by
  unfold writeFrame at written
  split at written
  case isFalse => contradiction
  case isTrue fits =>
    cases written
    have size : (frameHeader payload.size ++ payload).size = 4 + payload.size := by
      rw [ByteArray.size_append, size_frameHeader]
    have header : (frameHeader payload.size ++ payload).extract 0 4 = frameHeader payload.size :=
      ByteArray.extract_append_eq_left rfl
    have body : (frameHeader payload.size ++ payload).extract 4 (4 + payload.size) = payload :=
      ByteArray.extract_append_eq_right rfl rfl
    have first : fill 4 .empty (.data (frameHeader payload.size ++ payload) :: rest) =
        (.complete (frameHeader payload.size), .data payload :: rest) := by
      have longer : 4 < 4 + payload.size := by omega
      have nonempty : ¬ 4 + payload.size = 0 := by omega
      simp only [fill, size, header, body, nonempty, longer, if_true, if_false,
        Nat.reduceEqDiff, ByteArray.empty_append]
    simp only [readFrame, first, announcedLength_frameHeader fits, if_neg (Nat.not_lt.mpr fits),
      fill_exact some]

/-! ## What a read takes -/

theorem bytesOf_append (front back : List Chunk) :
    Chunk.bytesOf (front ++ back) = Chunk.bytesOf front ++ Chunk.bytesOf back := by
  fun_induction Chunk.bytesOf front with
  | case1 => rw [List.nil_append, ByteArray.empty_append]
  | case2 bytes rest ih => rw [List.cons_append, Chunk.bytesOf, ih, ByteArray.append_assoc]
  | case3 chunk rest other ih =>
      cases chunk with
      | data bytes => exact (other bytes rfl).elim
      | failure | stall => exact ih

/-- Reading takes the bytes from the front of the stream. -/
theorem fill_takes
    {missing : Nat} {before bytes : ByteArray} {stream rest : List Chunk}
    (filled : fill missing before stream = (.complete bytes, rest)) :
    ∃ taken, taken.size = missing ∧ bytes = before ++ taken ∧
      Chunk.bytesOf stream = taken ++ Chunk.bytesOf rest := by
  fun_induction fill missing before stream with
  | case1 before stream =>
      cases filled
      exact ⟨.empty, rfl, by rw [ByteArray.append_empty], by rw [ByteArray.empty_append]⟩
  | case2 => cases filled
  | case3 => cases filled
  | case4 missing before wanting piece rest some longer =>
      cases filled
      refine ⟨piece.extract 0 missing, ?_, rfl, ?_⟩
      · rw [ByteArray.size_extract]
        omega
      · rw [Chunk.bytesOf, Chunk.bytesOf, ← ByteArray.append_assoc,
          ← ByteArray.extract_eq_extract_append_extract missing (Nat.zero_le _)
            (Nat.le_of_lt longer), ByteArray.extract_zero_size]
  | case5 missing before wanting piece rest some fits ih =>
      obtain ⟨taken, size, same, front⟩ := ih filled
      refine ⟨piece ++ taken, ?_, ?_, ?_⟩
      · rw [ByteArray.size_append, size]
        omega
      · rw [same, ByteArray.append_assoc]
      · rw [Chunk.bytesOf, front, ByteArray.append_assoc]
  | case6 => cases filled
  | case7 => cases filled

/-- A payload that was read stood in front of the stream, behind its length. -/
theorem readFrame_takes
    {stream rest : List Chunk} {payload : ByteArray}
    (read : readFrame stream = (.ok payload, rest)) :
    payload.size ≤ maxFrameLength ∧ ∃ header, header.size = 4 ∧
      announcedLength header = payload.size ∧
      Chunk.bytesOf stream = header ++ payload ++ Chunk.bytesOf rest := by
  unfold readFrame at read
  split at read
  case h_1 | h_2 | h_3 => cases read
  case h_4 header body filled =>
    obtain ⟨taken, four, same, front⟩ := fill_takes filled
    rw [ByteArray.empty_append] at same
    subst same
    dsimp only at read
    split at read
    case isTrue => cases read
    case isFalse fits =>
      split at read
      case h_2 | h_3 | h_4 => cases read
      case h_1 bytes left filled =>
        cases read
        obtain ⟨taken, length, same, back⟩ := fill_takes filled
        rw [ByteArray.empty_append] at same
        subst same
        rw [← length] at fits
        exact ⟨Nat.le_of_not_lt fits, header, four, length.symm,
          by rw [front, back, ByteArray.append_assoc]⟩

/-- If no more than one frame stands in a stream, that is the payload which is read, and
nothing is left. -/
theorem readFrame_only
    {stream rest : List Chunk} {payload sent missing : ByteArray}
    (read : readFrame stream = (.ok payload, rest)) (small : sent.size < 2 ^ 32)
    (one : frameHeader sent.size ++ sent = Chunk.bytesOf stream ++ missing) :
    payload = sent ∧ Chunk.bytesOf rest = .empty ∧ missing = .empty := by
  obtain ⟨-, header, four, announced, front⟩ := readFrame_takes read
  rw [front, ByteArray.append_assoc, ByteArray.append_assoc] at one
  obtain ⟨sameHeader, body⟩ :=
    (ByteArray.append_eq_append_iff_of_size_eq_left (by rw [four]; rfl)).mp one
  have length : payload.size = sent.size := by
    rw [← announced, ← sameHeader, announcedLength_frameHeader_of_lt small]
  rw [← ByteArray.append_empty (b := sent)] at body
  obtain ⟨samePayload, nothing⟩ :=
    (ByteArray.append_eq_append_iff_of_size_eq_left length.symm).mp body
  obtain ⟨left, lost⟩ := ByteArray.append_eq_empty_iff.mp nothing.symm
  exact ⟨samePayload.symm, left, lost⟩

end GuiExplorer.Wire
