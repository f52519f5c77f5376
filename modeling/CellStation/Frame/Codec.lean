import CellStation.BigEndian
import CellStation.Error

/-!
# Frames on the wire

A frame is written as a delimiter, a length word that counts type and payload, the type,
the payload and a checksum (`Frame.toWire`). `Frame.encode` refuses payloads above the
limit of the codec.

The reader is given a buffer of received bytes and asked for one frame. `Frame.scan`
judges the bytes from one offset on : no frame starts here, or more bytes are needed to
tell, or a frame starts here. `Frame.decode` gives up one byte after the other until an
offset is not rejected, so that noise costs no more than itself, and returns what it has
not given up. `Frame.decodeAll` reads until no frame comes.
-/

namespace CellStation.Frame

/-! ## Writing -/

/-- The bytes of a frame on the wire. The length word holds its two low bytes only. -/
def toWire (frame : Frame) : List UInt8 :=
  startDelimiter :: BigEndian.write 2 (frame.payloadSize + 1) ++
    frame.kind :: frame.payload ++ [checksum frame.kind frame.payload]

/-- The bytes of a frame whose payload is within `limit`. -/
def encode (limit : Nat) (frame : Frame) : Except Error (List UInt8) :=
  if limit < frame.payloadSize then .error (.tooBig frame limit) else .ok frame.toWire

/-! ## Reading -/

/-- What the bytes from one offset on amount to. -/
inductive Scan where
  /-- No frame starts here. -/
  | reject
  /-- A frame may start here; the bytes that would tell have not come yet. -/
  | wait
  /-- A frame starts here, and `rest` follows it. -/
  | accept (frame : Frame) (rest : List UInt8)
  deriving DecidableEq, Repr

/-- Judge the bytes behind a length word : type, payload and checksum must sum to `0xFF`. -/
def scanBody (length : Nat) (body : List UInt8) : Scan :=
  match body, (body.drop length).isEmpty with
  | kind :: data, false =>
    if byteSum (body.take (length + 1)) = 0xFF then
      .accept ⟨kind, data.take (length - 1)⟩ (body.drop (length + 1))
    else .reject
  | _, _ => .wait

/-- Judge the bytes from one offset on : a delimiter, a length of at least one within
`limit`, then the body. -/
def scan (limit : Nat) : List UInt8 → Scan
  | [] => .wait
  | first :: rest =>
    if first = startDelimiter then
      match rest with
      | high :: low :: body =>
        let length := BigEndian.read [high, low]
        if length = 0 ∨ limit < length - 1 then .reject else scanBody length body
      | _ => .wait
    else .reject

/-- One frame, if the buffer holds one, and what is left of the buffer. -/
def decode (limit : Nat) : List UInt8 → Option Frame × List UInt8
  | [] => (none, [])
  | first :: rest =>
    match scan limit (first :: rest) with
    | .reject => decode limit rest
    | .wait => (none, first :: rest)
    | .accept frame after => (some frame, after)

theorem length_scan_lt {limit : Nat} {bytes rest : List UInt8} {frame : Frame}
    (h : scan limit bytes = .accept frame rest) : rest.length + 5 ≤ bytes.length := by
  unfold scan at h
  split at h
  · cases h
  split at h
  · split at h
    · rename_i high low body
      simp only at h
      split at h
      · cases h
      · rename_i hlen
        unfold scanBody at h
        split at h
        · rename_i kind data hbody
          split at h
          · cases h
            simp only [List.isEmpty_eq_false_iff, ne_eq, List.drop_eq_nil_iff] at hbody
            simp only [List.length_cons, List.length_drop] at hbody ⊢
            omega
          · cases h
        · cases h
    · cases h
  · cases h

/-- A frame takes at least five bytes out of the buffer. -/
theorem length_decode_lt {limit : Nat} {bytes rest : List UInt8} {frame : Frame}
    (h : decode limit bytes = (some frame, rest)) : rest.length + 5 ≤ bytes.length := by
  induction bytes with
  | nil => simp [decode] at h
  | cons first bytes ih =>
    unfold decode at h
    split at h
    · have := ih h
      simp only [List.length_cons]
      omega
    · cases h
    · rename_i hscan
      cases h
      exact length_scan_lt hscan

/-- Every frame the buffer holds, in order, and what is left of it. -/
def decodeAll (limit : Nat) (bytes : List UInt8) : List Frame × List UInt8 :=
  match _h : decode limit bytes with
  | (none, rest) => ([], rest)
  | (some frame, rest) =>
    let more := decodeAll limit rest
    (frame :: more.1, more.2)
termination_by bytes.length
decreasing_by
  have := length_decode_lt _h
  omega

end CellStation.Frame
