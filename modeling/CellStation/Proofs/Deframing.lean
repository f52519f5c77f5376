import CellStation.Frame.Codec

/-!
# Reading a stream in pieces

The bytes of a stream arrive in pieces, and `Frame.decode` may be called on what has
arrived at any moment. A judgement of `Frame.scan` other than `wait` looks only at bytes
that are there, so it stands whatever follows (`scan_append`). A call that gives a frame
therefore gives the same frame on a longer buffer, and a call that gives none has thrown
away only bytes at which no frame starts (`decode_append`).

`Frame.Yields limit bytes frames rest` is the state of a reader that was given `bytes`,
has handed out `frames` and holds `rest` : nothing that may still come tells it from a
reader that has not started. It holds before the first call (`Yields.refl`), new bytes keep
it (`Yields.append`), and so does a call (`yields_decode`, `Yields.trans`). Hence the frames
and what is left do not depend on how the stream was cut and when frames were asked for
(`decodeAll_receive`).
-/

namespace CellStation.Frame

/-! ## Judgements stand -/

/-- The judgement with `more` behind the bytes judged. -/
def Scan.followedBy (more : List UInt8) : Scan → Scan
  | .accept frame rest => .accept frame (rest ++ more)
  | verdict => verdict

theorem scanBody_of_le {length : Nat} {body : List UInt8} (h : body.length ≤ length) :
    scanBody length body = .wait := by
  have hdrop : body.drop length = [] := List.drop_eq_nil_iff.mpr h
  cases body with
  | nil => rfl
  | cons kind data => simp [scanBody, hdrop]

theorem scanBody_of_lt {length : Nat} (kind : UInt8) {data : List UInt8}
    (h : length ≤ data.length) :
    scanBody length (kind :: data) =
      if byteSum (kind :: data.take length) = 0xFF then
        .accept ⟨kind, data.take (length - 1)⟩ (data.drop length)
      else .reject := by
  have hdrop : ((kind :: data).drop length).isEmpty = false := by
    simp only [List.isEmpty_eq_false_iff, ne_eq, List.drop_eq_nil_iff, List.length_cons]
    omega
  simp only [scanBody, hdrop, List.take_succ_cons, List.drop_succ_cons]

/-- A body with nothing missing and nothing behind it but `more`. -/
theorem scanBody_of_eq {length : Nat} (kind : UInt8) {data : List UInt8} (h : data.length = length)
    (more : List UInt8) :
    scanBody length (kind :: (data ++ more)) =
      if byteSum (kind :: data) = 0xFF then .accept ⟨kind, data.take (length - 1)⟩ more
      else .reject := by
  rw [scanBody_of_lt kind (by rw [List.length_append]; omega), List.take_left' h,
    List.drop_left' h, List.take_append_of_le_length (by omega)]

theorem scan_of_ne {limit : Nat} {first : UInt8} (h : first ≠ startDelimiter)
    (rest : List UInt8) : scan limit (first :: rest) = .reject := by
  simp [scan, h]

theorem scan_of_word (limit : Nat) (high low : UInt8) (body : List UInt8) :
    scan limit (startDelimiter :: high :: low :: body) =
      if high.toNat * 256 + low.toNat = 0 ∨ limit < high.toNat * 256 + low.toNat - 1 then .reject
      else scanBody (high.toNat * 256 + low.toNat) body := by
  simp [scan, BigEndian.read]

theorem scanBody_append {length : Nat} {body : List UInt8} (more : List UInt8)
    (h : scanBody length body ≠ .wait) :
    scanBody length (body ++ more) = (scanBody length body).followedBy more := by
  match body with
  | [] => simp [scanBody] at h
  | kind :: data =>
    rcases Nat.lt_or_ge length (kind :: data).length with hlen | hlen
    · have hdata : length ≤ data.length := Nat.le_of_lt_succ hlen
      rw [List.cons_append, scanBody_of_lt kind hdata,
        scanBody_of_lt kind (by simp only [List.length_append]; omega),
        List.take_append_of_le_length hdata, List.take_append_of_le_length (by omega),
        List.drop_append_of_le_length hdata]
      split <;> rfl
    · exact absurd (scanBody_of_le hlen) h

/-- A judgement that is not `wait` stands, whatever bytes follow. -/
theorem scan_append {limit : Nat} {bytes : List UInt8} (more : List UInt8)
    (h : scan limit bytes ≠ .wait) :
    scan limit (bytes ++ more) = (scan limit bytes).followedBy more := by
  match bytes with
  | [] => simp [scan] at h
  | [first] =>
    by_cases hfirst : first = startDelimiter
    · simp [scan, hfirst] at h
    · simp [scan, hfirst, Scan.followedBy]
  | [first, high] =>
    by_cases hfirst : first = startDelimiter
    · simp [scan, hfirst] at h
    · simp [scan, hfirst, Scan.followedBy]
  | first :: high :: low :: body =>
    simp only [scan, List.cons_append] at h ⊢
    split
    · split
      · rfl
      · rename_i hfirst hlen
        rw [if_pos hfirst, if_neg hlen] at h
        exact scanBody_append more h
    · rfl

theorem decode_of_scan_reject {limit : Nat} {first : UInt8} {bytes : List UInt8}
    (h : scan limit (first :: bytes) = .reject) :
    decode limit (first :: bytes) = decode limit bytes := by
  simp only [decode, h]

theorem decode_of_scan_wait {limit : Nat} {bytes : List UInt8} (h : scan limit bytes = .wait) :
    decode limit bytes = (none, bytes) := by
  cases bytes with
  | nil => rfl
  | cons first bytes => simp only [decode, h]

theorem decode_of_scan_accept {limit : Nat} {bytes rest : List UInt8} {frame : Frame}
    (h : scan limit bytes = .accept frame rest) : decode limit bytes = (some frame, rest) := by
  cases bytes with
  | nil => simp [scan] at h
  | cons first bytes => simp only [decode, h]

/-- A call on a longer buffer : a frame that was there is still the first, and without
one the call goes on from what was not thrown away. -/
theorem decode_append (limit : Nat) (bytes more : List UInt8) :
    decode limit (bytes ++ more) =
      match decode limit bytes with
      | (some frame, rest) => (some frame, rest ++ more)
      | (none, rest) => decode limit (rest ++ more) := by
  induction bytes with
  | nil => simp [decode]
  | cons first bytes ih =>
    have happend := @scan_append limit (first :: bytes) more
    cases hscan : scan limit (first :: bytes) with
    | reject =>
      have hmore : scan limit (first :: (bytes ++ more)) = .reject := by
        rw [hscan] at happend
        exact happend (by simp)
      rw [decode_of_scan_reject hscan, List.cons_append, decode_of_scan_reject hmore]
      exact ih
    | wait => rw [decode_of_scan_wait hscan]
    | accept frame rest =>
      rw [hscan] at happend
      rw [decode_of_scan_accept hscan, decode_of_scan_accept (happend (by simp))]

/-- A call leaves no more than it was given. -/
theorem length_decode_le (limit : Nat) (bytes : List UInt8) :
    (decode limit bytes).2.length ≤ bytes.length := by
  induction bytes with
  | nil => simp [decode]
  | cons first bytes ih =>
    cases hscan : scan limit (first :: bytes) with
    | reject =>
      rw [decode_of_scan_reject hscan, List.length_cons]
      omega
    | wait => simp [decode_of_scan_wait hscan]
    | accept frame rest =>
      have hshort := length_scan_lt hscan
      rw [decode_of_scan_accept hscan]
      simp only
      omega

/-! ## A reader at work -/

theorem decodeAll_of_none {limit : Nat} {bytes rest : List UInt8}
    (h : decode limit bytes = (none, rest)) : decodeAll limit bytes = ([], rest) := by
  rw [decodeAll]
  split <;> simp_all

theorem decodeAll_of_some {limit : Nat} {bytes rest : List UInt8} {frame : Frame}
    (h : decode limit bytes = (some frame, rest)) :
    decodeAll limit bytes = (frame :: (decodeAll limit rest).1, (decodeAll limit rest).2) := by
  rw [decodeAll]
  split <;> simp_all

/-- `bytes` have given `frames` and left `rest`. Whatever bytes follow, the frames still to
come and what is left in the end are those of a reader given everything at once. -/
def Yields (limit : Nat) (bytes : List UInt8) (frames : List Frame) (rest : List UInt8) : Prop :=
  ∀ more, decodeAll limit (bytes ++ more) =
    (frames ++ (decodeAll limit (rest ++ more)).1, (decodeAll limit (rest ++ more)).2)

/-- Before the first call the whole buffer is left. -/
theorem Yields.refl (limit : Nat) (bytes : List UInt8) : Yields limit bytes [] bytes :=
  fun more => by simp

/-- One call loses nothing of the buffer, even if bytes follow only after it. -/
theorem yields_decode (limit : Nat) (bytes : List UInt8) :
    Yields limit bytes (decode limit bytes).1.toList (decode limit bytes).2 := by
  intro more
  have happend := decode_append limit bytes more
  rcases hdecode : decode limit bytes with ⟨_ | frame, rest⟩
  · simp only [hdecode] at happend
    simp only [Option.toList_none, List.nil_append]
    -- Both buffers answer the next call alike, so they answer every call alike.
    rcases hnext : decode limit (rest ++ more) with ⟨_ | next, left⟩
    · rw [decodeAll_of_none (happend.trans hnext), decodeAll_of_none hnext]
    · rw [decodeAll_of_some (happend.trans hnext), decodeAll_of_some hnext]
  · simp only [hdecode] at happend
    rw [decodeAll_of_some happend]
    simp

namespace Yields

variable {limit : Nat} {bytes rest left : List UInt8} {frames later : List Frame}

theorem trans (h : Yields limit bytes frames rest) (h' : Yields limit rest later left) :
    Yields limit bytes (frames ++ later) left := by
  intro more
  rw [h more, h' more, List.append_assoc]

theorem append (h : Yields limit bytes frames rest) (chunk : List UInt8) :
    Yields limit (bytes ++ chunk) frames (rest ++ chunk) := by
  intro more
  simpa using h (chunk ++ more)

/-- Reading the rest completes what reading everything at once gives. -/
theorem decodeAll_eq (h : Yields limit bytes frames rest) :
    (frames ++ (decodeAll limit rest).1, (decodeAll limit rest).2) = decodeAll limit bytes := by
  simpa using (h []).symm

end Yields

/-! ## Any schedule -/

/-- A chunk of the stream, with the number of calls made once it has arrived. -/
structure Arrival where
  chunk : List UInt8
  calls : Nat
  deriving DecidableEq, Repr

/-- The frames that `calls` calls give, and what they leave. -/
def decodeTimes (limit : Nat) : Nat → List UInt8 → List Frame × List UInt8
  | 0, buffer => ([], buffer)
  | calls + 1, buffer =>
    let first := decode limit buffer
    let others := decodeTimes limit calls first.2
    (first.1.toList ++ others.1, others.2)

/-- The frames given while chunks arrive at a buffer, and what is left of it. -/
def receive (limit : Nat) : List Arrival → List UInt8 → List Frame × List UInt8
  | [], buffer => ([], buffer)
  | arrival :: arrivals, buffer =>
    let now := decodeTimes limit arrival.calls (buffer ++ arrival.chunk)
    let later := receive limit arrivals now.2
    (now.1 ++ later.1, later.2)

theorem yields_decodeTimes (limit : Nat) : ∀ (calls : Nat) (buffer : List UInt8),
    Yields limit buffer (decodeTimes limit calls buffer).1 (decodeTimes limit calls buffer).2
  | 0, buffer => .refl limit buffer
  | calls + 1, buffer => (yields_decode limit buffer).trans (yields_decodeTimes limit calls _)

theorem yields_receive (limit : Nat) : ∀ (arrivals : List Arrival) (buffer : List UInt8),
    Yields limit (buffer ++ (arrivals.map Arrival.chunk).flatten)
      (receive limit arrivals buffer).1 (receive limit arrivals buffer).2
  | [], buffer => by simpa [receive] using Yields.refl limit buffer
  | arrival :: arrivals, buffer => by
    have hnow := (yields_decodeTimes limit arrival.calls (buffer ++ arrival.chunk)).append
      (arrivals.map Arrival.chunk).flatten
    simpa [receive] using hnow.trans (yields_receive limit arrivals _)

/-- However a stream is cut into chunks and however often a frame is asked for after each,
the frames given on the way and those given in the end are the frames of the whole stream,
and the same bytes are left. -/
theorem decodeAll_receive (limit : Nat) (arrivals : List Arrival) :
    let received := receive limit arrivals []
    (received.1 ++ (decodeAll limit received.2).1, (decodeAll limit received.2).2) =
      decodeAll limit (arrivals.map Arrival.chunk).flatten :=
  (yields_receive limit arrivals []).decodeAll_eq

end CellStation.Frame
