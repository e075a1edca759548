import PadRelay.Stream.Framing
import Mathlib.Data.List.Basic

/-!
# Reading a stream, and decoding its bytes

There are two readers of frames: one takes a frame from a stream as its bytes come in, the other
decodes a frame at the front of bytes that are all there. On a stream that has ended they see the
same frames, and where the second gives an error, the first ends or fails in a way that the error
determines. So a stream that was written from payloads reads as those payloads, however the bytes
were cut on their way.
-/

namespace PadRelay

namespace Frame

/-- The errors that tell that bytes are no header of ours. -/
inductive IsHeaderError : FormatError → Prop
  | invalidMagic : IsHeaderError .invalidMagic
  | unsupportedVersion (version : UInt8) : IsHeaderError (.unsupportedVersion version)
  | payloadTooLarge (size limit : Nat) : IsHeaderError (.payloadTooLarge size limit)

theorem not_isHeaderError_tooShort (expected actual : Nat) :
    ¬ IsHeaderError (.frameTooShort expected actual) := nofun

theorem not_isHeaderError_truncated (expected actual : Nat) :
    ¬ IsHeaderError (.frameTruncated expected actual) := nofun

theorem Header.decode_of_short {bytes : Bytes} (short : bytes.length < headerSize) :
    Header.decode bytes = .error (.frameTooShort headerSize bytes.length) := dif_pos short

/-- A header is read from its own bytes alone. -/
theorem Header.decode_append {bytes : Bytes} (rest : Bytes) (long : headerSize ≤ bytes.length) :
    Header.decode (bytes ++ rest) = Header.decode bytes := by
  have long_append : ¬ (bytes ++ rest).length < headerSize := by
    rw [List.length_append]
    omega
  have long_bytes := Nat.not_lt.mpr long
  rw [headerSize] at long
  have version_eq : (bytes ++ rest).getD 4 0 = bytes.getD 4 0 := by
    rw [List.getD_eq_getElem?_getD, List.getElem?_append_left (by omega),
      ← List.getD_eq_getElem?_getD]
  rw [Header.decode, Header.decode, dif_neg long_append, dif_neg long_bytes]
  simp only [version_eq, List.take_append_of_le_length (show 4 ≤ bytes.length by omega),
    List.drop_append_of_le_length (show 8 ≤ bytes.length by omega),
    List.drop_append_of_le_length (show 5 ≤ bytes.length by omega),
    List.take_append_of_le_length (show 4 ≤ (bytes.drop 8).length by rw [List.length_drop]; omega),
    List.take_append_of_le_length (show 3 ≤ (bytes.drop 5).length by rw [List.length_drop]; omega)]

/-- Bytes that are long enough for a header have one or are refused for what they say. -/
theorem Header.error_of_long {bytes : Bytes} {error : FormatError}
    (long : headerSize ≤ bytes.length) (failed : Header.decode bytes = .error error) :
    IsHeaderError error := by
  rw [Header.decode, dif_neg (Nat.not_lt.mpr long)] at failed
  split at failed
  · cases failed
    exact .invalidMagic
  · split at failed
    · cases failed
      exact .unsupportedVersion _
    · dsimp only at failed
      split at failed <;> cases failed
      exact .payloadTooLarge _ _

theorem Header.long_of_decode {bytes : Bytes} {header : Header}
    (decoded : Header.decode bytes = .ok header) : headerSize ≤ bytes.length := by
  by_contra short
  rw [decode_of_short (Nat.lt_of_not_le short)] at decoded
  cases decoded

/-- What decoding bytes can come to, by what their header says. -/
inductive Decodes (bytes : Bytes) : Except FormatError Frame → Prop
  | short (few : bytes.length < headerSize) :
      Decodes bytes (.error (.frameTooShort headerSize bytes.length))
  | refused {error : FormatError} (long : headerSize ≤ bytes.length)
      (failed : Header.decode bytes = .error error) (wrong : IsHeaderError error) :
      Decodes bytes (.error error)
  | truncated {header : Header} (decoded : Header.decode bytes = .ok header)
      (missing : (bytes.drop headerSize).length < header.payloadSize) :
      Decodes bytes (.error (.frameTruncated header.payloadSize (bytes.drop headerSize).length))
  | whole {header : Header} {frame : Frame} (decoded : Header.decode bytes = .ok header)
      (enough : header.payloadSize ≤ (bytes.drop headerSize).length)
      (payload : frame.payload = (bytes.drop headerSize).take header.payloadSize) :
      Decodes bytes (.ok frame)

theorem decodes (bytes : Bytes) : Decodes bytes (decode bytes) := by
  rw [decode]
  cases decoded : Header.decode bytes with
  | error error =>
      rcases Nat.lt_or_ge bytes.length headerSize with few | long
      · rw [Header.decode_of_short few] at decoded
        cases decoded
        exact .short few
      · exact .refused long decoded (Header.error_of_long long decoded)
  | ok header =>
      by_cases enough : header.payloadSize ≤ (bytes.drop headerSize).length
      · simp only [bind, Except.bind, dif_pos enough]
        exact .whole decoded enough rfl
      · simp only [bind, Except.bind, dif_neg enough]
        exact .truncated decoded (Nat.lt_of_not_le enough)

/-- A header is read back from the bytes that it was written to. -/
theorem Header.decode_encode_append (header : Header) (rest : Bytes) :
    Header.decode (header.encode ++ rest) = .ok header := by
  obtain ⟨reserved, size, reserved_length, size_le⟩ := header
  obtain ⟨first, second, third, rfl⟩ := List.length_eq_three.mp reserved_length
  have size_fits : size < Nat.pow 256 4 := Nat.lt_of_le_of_lt size_le (by decide)
  have number : ((Bytes.bigEndian 4 size ++ rest).take 4) = Bytes.bigEndian 4 size := by
    rw [List.take_append_of_le_length (by simp), List.take_of_length_le (by simp)]
  have read := Bytes.ofBigEndian_bigEndian 4 size size_fits
  have long : ¬ (encode ⟨[first, second, third], size, reserved_length, size_le⟩ ++ rest).length
      < headerSize := by simp
  rw [Header.decode, dif_neg long]
  simp [Header.encode, magic, number, read, size_le, version]

/-- A frame is read back from the bytes that it was written to, whatever follows them. -/
theorem decode_encode_append (frame : Frame) (rest : Bytes) :
    decode (frame.encode ++ rest) = .ok frame := by
  have read := Header.decode_encode_append frame.header (frame.payload ++ rest)
  have behind : (frame.encode ++ rest).drop headerSize = frame.payload ++ rest := by
    rw [encode, List.append_assoc, List.drop_left' (Header.length_encode _)]
  rw [← List.append_assoc, ← encode] at read
  rw [decode, read]
  simp only [bind, Except.bind, behind]
  simp [header, pure, Except.pure]

theorem length_encode (frame : Frame) : frame.encode.length = frame.encodedSize := by
  simp [encode, encodedSize]

end Frame

namespace FrameRead

/-- The decoder's answer to the bytes of a stream that has ended, as an answer of the stream. -/
def ofDecoded (stream : Bytes) : Except FormatError Frame → FrameRead
  | .ok frame => .payload frame.payload (stream.drop frame.encodedSize)
  | .error (.frameTooShort _ _) => .ended
  | .error (.frameTruncated _ _) => .failed (.transport "early eof")
  | .error error => .failed (.ofFormat error)

theorem ofDecoded_of_isHeaderError {stream : Bytes} {error : FormatError}
    (wrong : Frame.IsHeaderError error) :
    ofDecoded stream (.error error) = .failed (.ofFormat error) := by
  cases wrong <;> rfl

/-- A header that is refused ends the read, whether or not more bytes may come. -/
theorem ofBytes_of_isHeaderError {closed : Bool} {stream : Bytes} {error : FormatError}
    (failed : Frame.Header.decode stream = .error error) (wrong : Frame.IsHeaderError error) :
    ofBytes closed stream = .failed (.ofFormat error) := by
  rw [ofBytes, failed]
  cases wrong <;> rfl

theorem ofBytes_of_enough {closed : Bool} {stream : Bytes} {header : Frame.Header}
    (decoded : Frame.Header.decode stream = .ok header)
    (enough : header.payloadSize ≤ (stream.drop Frame.headerSize).length) :
    ofBytes closed stream = .payload ((stream.drop Frame.headerSize).take header.payloadSize)
      ((stream.drop Frame.headerSize).drop header.payloadSize) := by
  rw [ofBytes, decoded]
  exact if_pos enough

/-- **A stream that has ended is read as its bytes are decoded.** -/
theorem ofBytes_true_eq (stream : Bytes) :
    ofBytes true stream = ofDecoded stream (Frame.decode stream) := by
  generalize answer : Frame.decode stream = decoded
  cases answer ▸ Frame.decodes stream with
  | short few => rw [ofBytes, Frame.Header.decode_of_short few]; rfl
  | refused _ failed wrong =>
      rw [ofBytes_of_isHeaderError failed wrong, ofDecoded_of_isHeaderError wrong]
  | truncated read missing =>
      rw [ofBytes, read]
      simp only [if_neg (Nat.not_le.mpr missing), if_true]
      rfl
  | @whole header frame read enough payload =>
      have length : frame.payload.length = header.payloadSize := by
        rw [payload, List.length_take, Nat.min_eq_left enough]
      rw [ofBytes_of_enough read enough, ofDecoded, payload, List.drop_drop, Frame.encodedSize,
        length]

/-- How a read of a stream that has ended answers to the decoder on the same bytes. -/
structure Agrees (stream : Bytes) : Prop where
  /-- A payload is read exactly when a frame with it is decoded; its frame is left out of the
  rest. -/
  payload_iff : ∀ payload rest, ofBytes true stream = .payload payload rest ↔
    (∃ frame, Frame.decode stream = .ok frame ∧ frame.payload = payload) ∧
      rest = stream.drop (Frame.headerSize + payload.length)
  /-- The stream has ended exactly when fewer bytes are left than a header has. -/
  ended_iff : ofBytes true stream = .ended ↔ stream.length < Frame.headerSize
  /-- Just these bytes are too short for the decoder. -/
  tooShort_iff : ∀ expected actual,
    Frame.decode stream = .error (.frameTooShort expected actual) ↔
      stream.length < Frame.headerSize ∧ expected = Frame.headerSize ∧ actual = stream.length
  /-- The protocol is broken exactly when the decoder refuses the header, in the same words. -/
  protocol_iff : ∀ text, ofBytes true stream = .failed (.protocol text) ↔
    ∃ error, Frame.decode stream = .error error ∧ Frame.IsHeaderError error ∧ text = error.message
  /-- The transport has failed exactly when the decoder misses bytes of the payload. -/
  transport_iff : (∃ text, ofBytes true stream = .failed (.transport text)) ↔
    ∃ expected actual, Frame.decode stream = .error (.frameTruncated expected actual)
  /-- There is no other failure. -/
  failed : ∀ error, ofBytes true stream = .failed error →
    ∃ text, error = .protocol text ∨ error = .transport text
  /-- The read does not wait. -/
  settled : ofBytes true stream ≠ .waiting

theorem agrees (stream : Bytes) : Agrees stream := by
  have read := ofBytes_true_eq stream
  generalize answer : Frame.decode stream = decoded at read
  cases answer ▸ Frame.decodes stream with
  | short few =>
      rw [ofDecoded] at read
      constructor <;> simp [read, answer, few, eq_comm, Frame.not_isHeaderError_tooShort]
  | @refused error long failed wrong =>
      have unfinished (expected actual : Nat) : error ≠ .frameTruncated expected actual := by
        rintro rfl
        exact Frame.not_isHeaderError_truncated _ _ wrong
      have unshort (expected actual : Nat) : error ≠ .frameTooShort expected actual := by
        rintro rfl
        exact Frame.not_isHeaderError_tooShort _ _ wrong
      rw [ofDecoded_of_isHeaderError wrong, ServerError.ofFormat] at read
      constructor <;>
        simp [read, answer, Nat.not_lt.mpr long, wrong, unfinished, unshort, eq_comm]
  | truncated decoded missing =>
      have long := Nat.not_lt.mpr (Frame.Header.long_of_decode decoded)
      rw [ofDecoded] at read
      constructor <;> simp [read, answer, long, Frame.not_isHeaderError_truncated]
  | whole decoded enough payload =>
      have long := Nat.not_lt.mpr (Frame.Header.long_of_decode decoded)
      rw [ofDecoded, Frame.encodedSize] at read
      constructor
      case payload_iff =>
        intro front rest
        simp only [read, answer, FrameRead.payload.injEq, Except.ok.injEq, exists_eq_left']
        constructor
        · rintro ⟨rfl, rfl⟩
          exact ⟨rfl, rfl⟩
        · rintro ⟨rfl, rfl⟩
          exact ⟨rfl, rfl⟩
      all_goals simp [read, answer, long]

/-- What ends the reading of a stream. -/
inductive IsFinal : FrameRead → Prop
  | ended : IsFinal .ended
  | failed (error : ServerError) : IsFinal (.failed error)

/-- The error that a reading ends with, if it does not end well. -/
def error? : FrameRead → Option ServerError
  | .failed error => some error
  | _ => none

/-- Reading one payload after the other from a stream; bytes are left behind them. -/
inductive Takes (closed : Bool) : (stream : Bytes) → List Bytes → (left : Bytes) → Prop
  | stop (stream : Bytes) : Takes closed stream [] stream
  | next {stream payload rest left : Bytes} {payloads : List Bytes}
      (read : ofBytes closed stream = .payload payload rest)
      (more : Takes closed rest payloads left) : Takes closed stream (payload :: payloads) left

/-- What `readFrames` returns is where reading on comes to an end. -/
theorem takes_readFrames (stream : Bytes) :
    ∃ left, Takes true stream (readFrames stream).1 left ∧ (ofBytes true left).IsFinal ∧
      (readFrames stream).2 = (ofBytes true left).error? := by
  fun_induction readFrames stream with
  | case1 stream payload rest read payloads error found induction =>
      obtain ⟨left, takes, final, last⟩ := induction
      rw [found] at takes last
      exact ⟨left, .next read takes, final, last⟩
  | case2 stream error read => exact ⟨stream, .stop _, read ▸ .failed error, by rw [read]; rfl⟩
  | case3 stream read => exact ⟨stream, .stop _, read ▸ .ended, by rw [read]; rfl⟩
  | case4 stream read => exact absurd read (agrees stream).settled

/-- There is one end that reading on can come to. -/
theorem Takes.unique {stream left left' : Bytes} {payloads payloads' : List Bytes}
    (takes : Takes true stream payloads left) (final : (ofBytes true left).IsFinal)
    (takes' : Takes true stream payloads' left') (final' : (ofBytes true left').IsFinal) :
    payloads' = payloads ∧ left' = left := by
  induction takes generalizing payloads' with
  | stop stream =>
      cases takes' with
      | stop => exact ⟨rfl, rfl⟩
      | next read _ => rw [read] at final; cases final
  | next read more induction =>
      cases takes' with
      | stop => rw [read] at final'; cases final'
      | next read' more' =>
          cases read.symm.trans read'
          obtain ⟨same, same_left⟩ := induction final more'
          exact ⟨congrArg _ same, same_left⟩

/-- So where reading on has come to an end, that is what `readFrames` returns. -/
theorem Takes.readFrames_eq {stream left : Bytes} {payloads : List Bytes}
    (takes : Takes true stream payloads left) (final : (ofBytes true left).IsFinal) :
    readFrames stream = (payloads, (ofBytes true left).error?) := by
  obtain ⟨last, read, read_final, error_eq⟩ := takes_readFrames stream
  obtain ⟨same, rfl⟩ := takes.unique final read read_final
  exact Prod.ext same error_eq

theorem Takes.append {closed : Bool} {stream between left : Bytes} {payloads more : List Bytes}
    (takes : Takes closed stream payloads between) (takes_more : Takes closed between more left) :
    Takes closed stream (payloads ++ more) left := by
  induction takes with
  | stop => exact takes_more
  | next read _ induction => exact .next read (induction takes_more)

/-- A payload that is read has come in whole, behind its header. -/
theorem header_of_ofBytes {closed : Bool} {stream payload rest : Bytes}
    (read : ofBytes closed stream = .payload payload rest) :
    ∃ header, Frame.Header.decode stream = .ok header ∧
      header.payloadSize ≤ (stream.drop Frame.headerSize).length ∧
      payload = (stream.drop Frame.headerSize).take header.payloadSize ∧
      rest = (stream.drop Frame.headerSize).drop header.payloadSize := by
  unfold ofBytes at read
  split at read
  · split at read <;> cases read
  · cases read
  · next header decoded =>
      dsimp only at read
      split at read
      · next enough =>
          cases read
          exact ⟨header, decoded, enough, rfl, rfl⟩
      · split at read <;> cases read

/-- A payload that has come in whole is read as it would be with more bytes behind it. -/
theorem ofBytes_append {closed closed' : Bool} {stream payload rest : Bytes} (more : Bytes)
    (read : ofBytes closed stream = .payload payload rest) :
    ofBytes closed' (stream ++ more) = .payload payload (rest ++ more) := by
  obtain ⟨header, decoded, enough, rfl, rfl⟩ := header_of_ofBytes read
  have long := Frame.Header.long_of_decode decoded
  have behind : (stream ++ more).drop Frame.headerSize = stream.drop Frame.headerSize ++ more :=
    List.drop_append_of_le_length long
  rw [ofBytes_of_enough ((Frame.Header.decode_append more long).trans decoded)
    (by rw [behind, List.length_append]; exact Nat.le_add_right_of_le enough), behind,
    List.take_append_of_le_length enough, List.drop_append_of_le_length enough]

theorem Takes.append_right {closed closed' : Bool} {stream left : Bytes} {payloads : List Bytes}
    (takes : Takes closed stream payloads left) (more : Bytes) :
    Takes closed' (stream ++ more) payloads (left ++ more) := by
  induction takes with
  | stop => exact .stop _
  | next read _ induction => exact .next (ofBytes_append more read) induction

/-- A stream that comes in pieces: some payloads may be read when a piece has come, and the bytes
that are left stand in front of the next piece. -/
inductive Receives : (left : Bytes) → (pieces : List Bytes) → List Bytes → (after : Bytes) → Prop
  | stop (left : Bytes) : Receives left [] [] left
  | piece {left piece rest after : Bytes} {pieces payloads later : List Bytes}
      (takes : Takes false (left ++ piece) payloads rest)
      (more : Receives rest pieces later after) :
      Receives left (piece :: pieces) (payloads ++ later) after

theorem Receives.takes {left after : Bytes} {pieces payloads : List Bytes}
    (receives : Receives left pieces payloads after) :
    Takes true (left ++ pieces.flatten) payloads after := by
  induction receives with
  | stop left => simpa using Takes.stop left
  | @piece left piece rest after pieces payloads later takes more induction =>
      rw [List.flatten_cons, ← List.append_assoc]
      exact (takes.append_right pieces.flatten).append induction

/-- **Where a stream is cut on its way does not matter to what is read from it.** -/
theorem readFrames_flatten {pieces payloads : List Bytes} {after : Bytes}
    (receives : Receives [] pieces payloads after) :
    readFrames pieces.flatten = (payloads ++ (readFrames after).1, (readFrames after).2) := by
  obtain ⟨left, takes, final, error_eq⟩ := takes_readFrames after
  rw [error_eq]
  exact (receives.takes.append takes).readFrames_eq final

end FrameRead

/-- Write payloads on a stream that is read at its other end, one behind the other. -/
def writeFrames (payloads : List Bytes) : Except ServerError Bytes :=
  List.flatten <$> payloads.mapM (writeFrame false)

theorem writeFrame_of_le {payload : Bytes} (fits : payload.length ≤ Frame.maxPayload) :
    ∃ frame : Frame, writeFrame false payload = .ok frame.encode ∧ frame.payload = payload :=
  ⟨⟨[0, 0, 0], payload, rfl, fits⟩, by rw [writeFrame, Frame.ofPayload, dif_pos fits]; rfl, rfl⟩

/-- Payloads within the limit are written as frames, one for each of them. -/
theorem writeFrames_of_le {payloads : List Bytes}
    (fits : ∀ payload ∈ payloads, payload.length ≤ Frame.maxPayload) :
    ∃ frames : List Frame, writeFrames payloads = .ok (frames.map Frame.encode).flatten ∧
      frames.map Frame.payload = payloads := by
  suffices written : ∃ frames : List Frame,
      payloads.mapM (writeFrame false) = .ok (frames.map Frame.encode) ∧
        frames.map Frame.payload = payloads by
    obtain ⟨frames, written, same⟩ := written
    exact ⟨frames, by rw [writeFrames, written]; rfl, same⟩
  induction payloads with
  | nil => exact ⟨[], rfl, rfl⟩
  | cons payload payloads induction =>
      rw [List.forall_mem_cons] at fits
      obtain ⟨frame, wrote, same⟩ := writeFrame_of_le fits.1
      obtain ⟨frames, wrote_rest, same_rest⟩ := induction fits.2
      refine ⟨frame :: frames, ?_, by rw [List.map_cons, same, same_rest]⟩
      rw [List.mapM_cons, wrote, wrote_rest]
      rfl

namespace FrameRead

theorem takes_encode (frames : List Frame) (rest : Bytes) :
    Takes true ((frames.map Frame.encode).flatten ++ rest) (frames.map Frame.payload) rest := by
  induction frames with
  | nil => exact .stop _
  | cons frame frames induction =>
      rw [List.map_cons, List.flatten_cons, List.append_assoc]
      have read : ofBytes true (frame.encode ++ ((frames.map Frame.encode).flatten ++ rest)) =
          .payload frame.payload ((frames.map Frame.encode).flatten ++ rest) := by
        rw [ofBytes_true_eq, Frame.decode_encode_append, ofDecoded, ← Frame.length_encode,
          List.drop_left]
      exact .next read induction

end FrameRead

/-- **The reader of a stream and the decoder of its bytes agree.** What was written from payloads
within the limit is read as just these payloads, and then the stream has ended. Any stream that has
ended is read to one end, payload by payload, and each read on the way answers to what the decoder
makes of the bytes that are left. -/
theorem stream_agrees_with_decode :
    (∀ payloads : List Bytes, (∀ payload ∈ payloads, payload.length ≤ Frame.maxPayload) →
      ∃ wire, writeFrames payloads = .ok wire ∧ FrameRead.Takes true wire payloads [] ∧
        FrameRead.ofBytes true [] = .ended ∧ readFrames wire = (payloads, none)) ∧
    (∀ stream : Bytes, ∃ payloads left, FrameRead.Takes true stream payloads left ∧
      (FrameRead.ofBytes true left).IsFinal ∧
      (∀ payloads' left', FrameRead.Takes true stream payloads' left' →
        (FrameRead.ofBytes true left').IsFinal → payloads' = payloads ∧ left' = left) ∧
      readFrames stream = (payloads, (FrameRead.ofBytes true left).error?)) ∧
    ∀ left : Bytes, FrameRead.Agrees left := by
  refine ⟨fun payloads fits => ?_, fun stream => ?_, FrameRead.agrees⟩
  · obtain ⟨frames, written, rfl⟩ := writeFrames_of_le fits
    have takes := FrameRead.takes_encode frames []
    rw [List.append_nil] at takes
    exact ⟨_, written, takes, rfl, takes.readFrames_eq .ended⟩
  · obtain ⟨left, takes, final, error_eq⟩ := FrameRead.takes_readFrames stream
    exact ⟨_, left, takes, final, fun _ _ => takes.unique final, Prod.ext rfl error_eq⟩

/-- Two payloads, one of them empty, cross a stream. -/
theorem two_payloads_cross :
    (∀ payload ∈ [[104, 101, 108, 108, 111], []], payload.length ≤ Frame.maxPayload) ∧
      ∃ wire, writeFrames [[104, 101, 108, 108, 111], []] = .ok wire ∧
        FrameRead.Takes true wire [[104, 101, 108, 108, 111], []] [] ∧
        FrameRead.ofBytes true [] = .ended ∧
        readFrames wire = ([[104, 101, 108, 108, 111], []], none) :=
  ⟨by decide, stream_agrees_with_decode.1 _ (by decide)⟩

end PadRelay
