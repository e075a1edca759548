import PadRelay.Server.Error
import PadRelay.Wire.Frame

/-!
# Frames on a byte stream

A socket carries frames one after the other. A stream that ends between two frames, or within a
header, has ended cleanly; one that ends within a payload has not.
-/

namespace PadRelay

/-- What the front of a stream holds. -/
inductive FrameRead where
  /-- More bytes are needed, and may still come. -/
  | waiting
  /-- The stream has ended. -/
  | ended
  /-- The stream is broken. -/
  | failed (error : ServerError)
  /-- A payload, and the bytes behind its frame. -/
  | payload (payload rest : Bytes)
deriving DecidableEq

namespace FrameRead

/-- Read the frame at the front of a stream; `closed` tells that no more bytes will come. -/
def ofBytes (closed : Bool) (stream : Bytes) : FrameRead :=
  match Frame.Header.decode stream with
  | .error (.frameTooShort _ _) => if closed then .ended else .waiting
  | .error error => .failed (.ofFormat error)
  | .ok header =>
      let behind := stream.drop Frame.headerSize
      if header.payloadSize ≤ behind.length then
        .payload (behind.take header.payloadSize) (behind.drop header.payloadSize)
      else if closed then .failed (.transport "early eof")
      else .waiting

theorem length_rest_lt {closed : Bool} {stream payload rest : Bytes}
    (read : ofBytes closed stream = .payload payload rest) : rest.length < stream.length := by
  unfold ofBytes at read
  split at read
  · split at read <;> cases read
  · cases read
  · next header decoded =>
      have long : ¬ stream.length < Frame.headerSize := by
        intro short
        simp [Frame.Header.decode, short] at decoded
      simp only at read
      split at read
      · simp only [FrameRead.payload.injEq] at read
        rw [← read.2]
        simp only [List.length_drop, Frame.headerSize] at long ⊢
        omega
      · split at read <;> cases read

end FrameRead

/-- Every payload of a stream that has ended, and the error that it breaks off with. -/
def readFrames (stream : Bytes) : List Bytes × Option ServerError :=
  match _read : FrameRead.ofBytes true stream with
  | .payload payload rest =>
      let (payloads, error) := readFrames rest
      (payload :: payloads, error)
  | .failed error => ([], some error)
  | .ended | .waiting => ([], none)
termination_by stream.length
decreasing_by exact FrameRead.length_rest_lt ‹_›

/-- The bytes of a payload on a stream, whose other end may have gone. -/
def writeFrame (gone : Bool) (payload : Bytes) : Except ServerError Bytes :=
  match Frame.ofPayload payload with
  | .error error => .error (.ofFormat error)
  | .ok frame => if gone then .error (.transport "broken pipe") else .ok frame.encode

end PadRelay
