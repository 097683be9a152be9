import GuiExplorer.Proofs.Wire.Frame

/-!
# Frames in a stream

The outcome of reading a frame depends only on the bytes that are left, never on where
the reads cut them, and the reader takes no byte beyond the frame.  So frames that are
written one after another are read back one after another.
-/

namespace GuiExplorer.Wire

/-- A stream that hands out the bytes in pieces that are not empty, and then ends.  A
piece that is longer than what a read asks for is cut there, so the piece that a read
meets stands for any number of bytes that the read may return. -/
inductive Splits : ByteArray → List Chunk → Prop where
  | ended : Splits .empty []
  | piece {piece bytes : ByteArray} {stream : List Chunk}
      (some : piece.size ≠ 0) (rest : Splits bytes stream) :
      Splits (piece ++ bytes) (.data piece :: stream)

private theorem extract_append_rest
    {bytes : ByteArray} {count : Nat} (enough : count ≤ bytes.size) :
    bytes.extract 0 count ++ bytes.extract count bytes.size = bytes := by
  rw [← ByteArray.extract_eq_extract_append_extract count (Nat.zero_le _) enough,
    ByteArray.extract_zero_size]

private theorem size_extract_zero
    {bytes : ByteArray} {count : Nat} (enough : count ≤ bytes.size) :
    (bytes.extract 0 count).size = count := by
  rw [ByteArray.size_extract]
  omega

private theorem exists_eq_append
    {front back left right : ByteArray} (same : front ++ back = left ++ right)
    (shorter : front.size ≤ left.size) :
    ∃ middle, left = front ++ middle ∧ back = middle ++ right := by
  have cut := extract_append_rest shorter
  rw [← cut, ByteArray.append_assoc,
    ByteArray.append_eq_append_iff_of_size_eq_left (size_extract_zero shorter).symm] at same
  obtain ⟨start, rest⟩ := same
  rw [← start] at cut
  exact ⟨_, cut.symm, rest⟩

theorem fill_shorter
    {piece : ByteArray} {missing : Nat} (some : piece.size ≠ 0) (fits : piece.size ≤ missing)
    (before : ByteArray) (stream : List Chunk) :
    fill missing before (.data piece :: stream) =
      fill (missing - piece.size) (before ++ piece) stream := by
  have wanting : missing ≠ 0 := by omega
  rw [fill.eq_def, if_neg wanting]
  simp only [some, if_false, if_neg (Nat.not_lt.mpr fits)]

theorem fill_longer
    {piece : ByteArray} {missing : Nat} (wanting : missing ≠ 0) (longer : missing < piece.size)
    (before : ByteArray) (stream : List Chunk) :
    fill missing before (.data piece :: stream) =
      (.complete (before ++ piece.extract 0 missing),
        .data (piece.extract missing piece.size) :: stream) := by
  have some : piece.size ≠ 0 := by omega
  rw [fill.eq_def, if_neg wanting]
  simp only [some, if_false, longer, if_true]

private theorem fill_append
    {front back : ByteArray} {stream : List Chunk} (split : Splits (front ++ back) stream)
    (before : ByteArray) :
    ∃ rest, fill front.size before stream = (.complete (before ++ front), rest) ∧
      Splits back rest := by
  generalize whole : front ++ back = bytes at split
  induction split generalizing front before with
  | ended =>
      obtain ⟨rfl, rfl⟩ := ByteArray.append_eq_empty_iff.mp whole
      exact ⟨[], by rw [ByteArray.append_empty]; exact fill_zero before [], .ended⟩
  | @piece piece bytes stream some rest ih =>
      -- Nothing is missing, or the piece is used up, or the piece is cut.
      by_cases none : front.size = 0
      case pos =>
        obtain rfl := ByteArray.size_eq_zero_iff.mp none
        rw [ByteArray.empty_append] at whole
        subst whole
        exact ⟨_, by rw [ByteArray.append_empty]; exact fill_zero before _, .piece some rest⟩
      case neg =>
        by_cases fits : piece.size ≤ front.size
        case pos =>
          obtain ⟨middle, rfl, others⟩ := exists_eq_append whole.symm fits
          obtain ⟨left, filled, split⟩ := ih (before ++ piece) others.symm
          refine ⟨left, ?_, split⟩
          rw [fill_shorter some fits, ← ByteArray.append_assoc, ← filled,
            ByteArray.size_append, Nat.add_sub_cancel_left]
        case neg =>
          have longer : front.size < piece.size := Nat.lt_of_not_le fits
          obtain ⟨middle, rfl, rfl⟩ := exists_eq_append whole (Nat.le_of_lt longer)
          rw [ByteArray.size_append] at longer
          refine ⟨.data middle :: stream, ?_, .piece (by omega) rest⟩
          rw [fill_longer none (by rw [ByteArray.size_append]; exact longer),
            ByteArray.extract_append_eq_left rfl,
            ByteArray.extract_append_eq_right rfl (by rw [ByteArray.size_append])]

/-- If there are enough bytes, they are read without one too many. -/
theorem fill_enough
    {bytes : ByteArray} {stream : List Chunk} {missing : Nat} (split : Splits bytes stream)
    (enough : missing ≤ bytes.size) (before : ByteArray) :
    ∃ rest, fill missing before stream = (.complete (before ++ bytes.extract 0 missing), rest) ∧
      Splits (bytes.extract missing bytes.size) rest := by
  have filled := fill_append ((extract_append_rest enough).symm ▸ split) before
  rwa [size_extract_zero enough] at filled

/-- If there are not, all of them are read. -/
theorem fill_short
    {bytes : ByteArray} {stream : List Chunk} {missing : Nat} (split : Splits bytes stream)
    (short : bytes.size < missing) (before : ByteArray) :
    fill missing before stream = (.ended (before ++ bytes), []) := by
  induction split generalizing missing before with
  | ended =>
      have wanting : missing ≠ 0 := Nat.ne_of_gt short
      rw [fill.eq_def, if_neg wanting, ByteArray.append_empty]
  | @piece piece bytes stream some rest ih =>
      rw [ByteArray.size_append] at short
      rw [fill_shorter some (by omega), ih (by omega), ByteArray.append_assoc]

/-- Most bytes that are asked for in one read. -/
def readSize : Nat :=
  16 * 1024

/-- Read `missing` more bytes as `fill` does, and ask for at most `readSize` bytes in each
read. -/
def fillByReads (missing : Nat) (before : ByteArray) (stream : List Chunk) :
    Fill × List Chunk :=
  if missing = 0 then (.complete before, stream)
  else
    let asked := min missing readSize
    match stream with
    | [] => (.ended before, [])
    | .data bytes :: rest =>
        if bytes.size = 0 then (.ended before, rest)
        else if asked < bytes.size then
          fillByReads (missing - asked) (before ++ bytes.extract 0 asked)
            (.data (bytes.extract asked bytes.size) :: rest)
        else fillByReads (missing - bytes.size) (before ++ bytes) rest
    | .failure error :: rest => (.failed error, rest)
    | .stall :: rest => (.stalled, .stall :: rest)
termination_by missing
decreasing_by
  · have some : 0 < readSize := by decide
    omega
  · omega

/-- Where a read cuts a piece makes no difference. -/
theorem fill_cut
    {piece : ByteArray} {missing cut : Nat} (some : cut ≠ 0) (wanted : cut ≤ missing)
    (inside : cut < piece.size) (before : ByteArray) (stream : List Chunk) :
    fill (missing - cut) (before ++ piece.extract 0 cut)
        (.data (piece.extract cut piece.size) :: stream) =
      fill missing before (.data piece :: stream) := by
  have back : (piece.extract cut piece.size).size = piece.size - cut := by
    rw [ByteArray.size_extract, Nat.min_self]
  by_cases longer : missing < piece.size
  case pos =>
    rw [fill_longer (by omega) longer]
    by_cases last : missing = cut
    case pos =>
      subst last
      rw [Nat.sub_self, fill_zero]
    case neg =>
      -- Both reads end in the piece, so that it is cut at `missing` either way.
      rw [fill_longer (by omega) (by omega), ByteArray.append_assoc, back]
      simp only [ByteArray.extract_extract]
      rw [show cut + (missing - cut) = missing by omega,
        show cut + (piece.size - cut) = piece.size by omega, Nat.add_zero, Nat.min_self,
        Nat.min_eq_left (Nat.le_of_lt longer),
        ← ByteArray.extract_eq_extract_append_extract cut (Nat.zero_le _) wanted]
  case neg =>
    rw [fill_shorter (by omega) (by omega), fill_shorter (by omega) (by omega),
      ByteArray.append_assoc, back,
      ← ByteArray.extract_eq_extract_append_extract cut (Nat.zero_le _) (Nat.le_of_lt inside),
      ByteArray.extract_zero_size,
      show missing - cut - (piece.size - cut) = missing - piece.size by omega]

theorem fillByReads_eq_fill (missing : Nat) (before : ByteArray) (stream : List Chunk) :
    fillByReads missing before stream = fill missing before stream := by
  fun_induction fillByReads missing before stream with
  | case1 before stream => rw [fill_zero]
  | case2 missing before wanting => rw [fill.eq_def, if_neg wanting]
  | case3 missing before wanting bytes rest none =>
      rw [fill.eq_def, if_neg wanting]
      simp only [none, if_true]
  | case4 missing before wanting asked bytes rest some longer ih =>
      have positive : 0 < readSize := by decide
      rw [ih, fill_cut (by omega) (by omega) longer]
  | case5 missing before wanting asked bytes rest some fits ih =>
      rw [ih, fill_shorter some (by omega)]
  | case6 missing before wanting error rest => rw [fill.eq_def, if_neg wanting]
  | case7 missing before wanting rest => rw [fill.eq_def, if_neg wanting]

/-- The number that bytes stand for, the most significant byte first. -/
def bigEndian (bytes : ByteArray) : Nat :=
  bytes.data.toList.foldl (fun value byte => 256 * value + byte.toNat) 0

theorem announcedLength_eq_bigEndian (header : ByteArray) :
    announcedLength header = bigEndian header := by
  have folded : ∀ digits : List UInt8,
      ofLittleEndian digits = digits.foldr (fun byte value => 256 * value + byte.toNat) 0 := by
    intro digits
    induction digits with
    | nil => rfl
    | cons byte rest ih => rw [ofLittleEndian, ih, List.foldr_cons, Nat.add_comm]
  rw [announcedLength, folded, List.foldr_reverse, bigEndian]

/-- What reading a frame makes of the bytes that are left, and which of them it leaves. -/
def frameOutcome (bytes : ByteArray) : Except FrameError ByteArray × ByteArray :=
  if bytes.size < 4 then (.error (.socket .unexpectedEof), .empty)
  else
    let length := bigEndian (bytes.extract 0 4)
    let body := bytes.extract 4 bytes.size
    if maxFrameLength < length then (.error (.tooLarge length), body)
    else if body.size < length then (.error (.truncated length body.size), .empty)
    else (.ok (body.extract 0 length), body.extract length body.size)

/-- Reading a frame has one result, however the bytes are split. -/
theorem readFrame_split
    {bytes : ByteArray} {stream : List Chunk} (split : Splits bytes stream) :
    ∃ rest, readFrame stream = ((frameOutcome bytes).1, rest) ∧
      Splits (frameOutcome bytes).2 rest := by
  by_cases short : bytes.size < 4
  case pos =>
    rw [frameOutcome, if_pos short]
    exact ⟨[], by rw [readFrame, fill_short split short], .ended⟩
  case neg =>
    obtain ⟨stream, header, split⟩ := fill_enough split (Nat.le_of_not_lt short) .empty
    rw [ByteArray.empty_append] at header
    rw [frameOutcome, if_neg short]
    simp only [readFrame, header, announcedLength_eq_bigEndian]
    generalize bytes.extract 4 bytes.size = body at split
    by_cases large : maxFrameLength < bigEndian (bytes.extract 0 4)
    case pos =>
      simp only [large, if_true]
      exact ⟨stream, rfl, split⟩
    case neg =>
      simp only [large, if_false]
      by_cases truncated : body.size < bigEndian (bytes.extract 0 4)
      case pos =>
        simp only [truncated, if_true, fill_short split truncated, ByteArray.empty_append]
        exact ⟨[], rfl, .ended⟩
      case neg =>
        obtain ⟨rest, payload, split⟩ := fill_enough split (Nat.le_of_not_lt truncated) .empty
        simp only [truncated, if_false, payload, ByteArray.empty_append]
        exact ⟨rest, rfl, split⟩

theorem frameOutcome_frame
    {payload : ByteArray} (fits : payload.size ≤ maxFrameLength) (rest : ByteArray) :
    frameOutcome (frameHeader payload.size ++ payload ++ rest) = (.ok payload, rest) := by
  have size : (frameHeader payload.size ++ payload ++ rest).size = 4 + (payload ++ rest).size := by
    rw [ByteArray.append_assoc, ByteArray.size_append, size_frameHeader]
  have header : (frameHeader payload.size ++ payload ++ rest).extract 0 4 =
      frameHeader payload.size := by
    rw [ByteArray.append_assoc]
    exact ByteArray.extract_append_eq_left rfl
  have body : (frameHeader payload.size ++ payload ++ rest).extract 4
      (4 + (payload ++ rest).size) = payload ++ rest := by
    rw [ByteArray.append_assoc]
    exact ByteArray.extract_append_eq_right rfl rfl
  have whole : ¬ (payload ++ rest).size < payload.size := by
    rw [ByteArray.size_append]
    omega
  have enough : ¬ 4 + (payload ++ rest).size < 4 := by omega
  have length : bigEndian (frameHeader payload.size) = payload.size := by
    rw [← announcedLength_eq_bigEndian, announcedLength_frameHeader fits]
  simp only [frameOutcome, size, enough, if_false, header, body, length,
    Nat.not_lt.mpr fits, whole, ByteArray.extract_append_eq_left,
    ByteArray.extract_append_eq_right rfl ByteArray.size_append]

/-- The frames of the payloads, one after another. -/
def framesOf : List ByteArray → ByteArray
  | [] => .empty
  | payload :: payloads => frameHeader payload.size ++ payload ++ framesOf payloads

/-- Write each payload as a frame until one cannot be written. -/
def Sink.writeFrames (sink : Sink) : List ByteArray → Except FrameError Unit × Sink
  | [] => (.ok (), sink)
  | payload :: payloads =>
      match sink.writeFrame payload with
      | (.error error, sink) => (.error error, sink)
      | (.ok _, sink) => sink.writeFrames payloads

/-- Read so many frames, one after another. -/
def readFrames : Nat → List Chunk → List (Except FrameError ByteArray) × List Chunk
  | 0, stream => ([], stream)
  | count + 1, stream =>
      let first := readFrame stream
      let others := readFrames count first.2
      (first.1 :: others.1, others.2)

theorem writeFrames_framesOf
    {payloads : List ByteArray} (fit : ∀ payload ∈ payloads, payload.size ≤ maxFrameLength)
    {sink : Sink} (roomy : sink.room = none) :
    sink.writeFrames payloads =
      (.ok (), { sink with written := sink.written ++ framesOf payloads }) := by
  induction payloads generalizing sink with
  | nil => rw [Sink.writeFrames, framesOf, ByteArray.append_empty]
  | cons payload payloads ih =>
      obtain ⟨first, others⟩ := List.forall_mem_cons.mp fit
      simp only [Sink.writeFrames, Sink.writeFrame, writeFrame, first, if_true, Sink.write, roomy]
      rw [ih others rfl]
      simp only [framesOf, ByteArray.append_assoc]

theorem readFrames_framesOf
    {payloads : List ByteArray} (fit : ∀ payload ∈ payloads, payload.size ≤ maxFrameLength)
    {trailing : ByteArray} {stream : List Chunk}
    (split : Splits (framesOf payloads ++ trailing) stream) :
    ∃ rest, readFrames payloads.length stream = (payloads.map .ok, rest) ∧
      Splits trailing rest := by
  induction payloads generalizing stream with
  | nil =>
      rw [framesOf, ByteArray.empty_append] at split
      exact ⟨stream, rfl, split⟩
  | cons payload payloads ih =>
      obtain ⟨first, others⟩ := List.forall_mem_cons.mp fit
      rw [framesOf, ByteArray.append_assoc] at split
      obtain ⟨left, read, split⟩ := readFrame_split split
      rw [frameOutcome_frame first] at read split
      obtain ⟨rest, reads, split⟩ := ih others split
      refine ⟨rest, ?_, split⟩
      simp only [List.length_cons, readFrames, read, reads, List.map_cons]

/-- Frames survive every way of splitting the stream.  Reading has one result for the bytes
that are left, also if it asks for few bytes at a time; payloads that were written one after
another are read back, and nothing beyond them; and a payload that is too long is refused
before anything is written. -/
theorem framing_lossless :
    (∀ missing before stream, fillByReads missing before stream = fill missing before stream) ∧
    (∀ bytes stream, Splits bytes stream →
      ∃ rest, readFrame stream = ((frameOutcome bytes).1, rest) ∧
        Splits (frameOutcome bytes).2 rest) ∧
    (∀ (payloads : List ByteArray) (sink : Sink), sink.room = none →
      (∀ payload ∈ payloads, payload.size ≤ maxFrameLength) →
      sink.writeFrames payloads =
        (.ok (), { sink with written := sink.written ++ framesOf payloads }) ∧
      ∀ trailing stream, Splits (framesOf payloads ++ trailing) stream →
        ∃ rest, readFrames payloads.length stream = (payloads.map .ok, rest) ∧
          Splits trailing rest) ∧
    (∀ (payload : ByteArray) (sink : Sink), maxFrameLength < payload.size →
      sink.writeFrame payload = (.error (.tooLarge payload.size), sink)) := by
  refine ⟨fillByReads_eq_fill, fun bytes stream split => readFrame_split split, ?_, ?_⟩
  · intro payloads sink roomy fit
    exact ⟨writeFrames_framesOf fit roomy,
      fun trailing stream split => readFrames_framesOf fit split⟩
  · intro payload sink long
    simp only [Sink.writeFrame, writeFrame, if_neg (Nat.not_le.mpr long)]

theorem framing_lossless_two_frames :
    (∃ rest,
      readFrames 2 [.data ⟨#[0, 0, 0]⟩, .data ⟨#[2, 7]⟩, .data ⟨#[8, 0, 0, 0, 0, 9]⟩] =
        ([.ok ⟨#[7, 8]⟩, .ok ⟨#[]⟩], rest) ∧ Splits ⟨#[9]⟩ rest) ∧
    (∃ rest,
      readFrame [.data ⟨#[0, 0]⟩, .data ⟨#[0, 10, 1]⟩, .data ⟨#[2, 3]⟩] =
        (.error (.truncated 10 3), rest) ∧ Splits .empty rest) ∧
    (∃ rest,
      readFrame [.data ⟨#[4, 0, 0]⟩, .data ⟨#[1, 5]⟩] =
        (.error (.tooLarge 67108865), rest) ∧ Splits ⟨#[5]⟩ rest) ∧
    (Sink.mk .empty none .brokenPipe).writeFrame ⟨Array.replicate 67108865 0⟩ =
      (.error (.tooLarge 67108865), ⟨.empty, none, .brokenPipe⟩) := by
  obtain ⟨-, outcome, lossless, refused⟩ := framing_lossless
  refine ⟨?_, ?_, ?_, ?_⟩
  · have fit : ∀ payload ∈ ([⟨#[7, 8]⟩, ⟨#[]⟩] : List ByteArray),
        payload.size ≤ maxFrameLength := by decide
    have split : Splits _ [.data ⟨#[0, 0, 0]⟩, .data ⟨#[2, 7]⟩, .data ⟨#[8, 0, 0, 0, 0, 9]⟩] :=
      .piece (by decide) (.piece (by decide) (.piece (by decide) .ended))
    exact (lossless _ ⟨.empty, none, .brokenPipe⟩ rfl fit).2 ⟨#[9]⟩ _ split
  · have split : Splits _ [.data ⟨#[0, 0]⟩, .data ⟨#[0, 10, 1]⟩, .data ⟨#[2, 3]⟩] :=
      .piece (by decide) (.piece (by decide) (.piece (by decide) .ended))
    exact outcome _ _ split
  · have split : Splits _ [.data ⟨#[4, 0, 0]⟩, .data ⟨#[1, 5]⟩] :=
      .piece (by decide) (.piece (by decide) .ended)
    exact outcome _ _ split
  · have size : ByteArray.size ⟨Array.replicate 67108865 0⟩ = 67108865 := Array.size_replicate
    rw [refused _ _ (by rw [size]; decide), size]

end GuiExplorer.Wire
