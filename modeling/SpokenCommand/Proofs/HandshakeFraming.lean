import SpokenCommand.Transport

/-!
# Handshakes as chunks of a stream

One call of `readHandshake` consumes the first line of what the client has still to say, or as many
bytes as a handshake may have and one more, whichever is less (`Consumes`). How the bytes decode has no
part in this. So the calls on one stream cut it into consecutive chunks, and when these are used up,
every further call finds the connection closed (`calls_partition_stream`).
-/

namespace SpokenCommand.Transport

/-- The bytes up to the first newline and with it; all of them where there is none. -/
def firstLine : List UInt8 → List UInt8
  | [] => []
  | b :: bytes => if b = newline then [b] else b :: firstLine bytes

/-- The shortest front of the stream that ends with a newline. -/
structure IsLine (stream line : List UInt8) : Prop where
  front : line <+: stream
  ends : line.getLast? = some newline
  shortest : ∀ other, other <+: stream → other.getLast? = some newline → line.length ≤ other.length

/-- What a call takes off the stream: the first line, unless that is longer than a handshake may be
by more than one byte or there is none; then so many bytes, as far as there are any. -/
inductive Consumes (stream : List UInt8) : List UInt8 → Prop
  | line {line : List UInt8} : IsLine stream line → line.length ≤ maxHandshake + 1 →
      Consumes stream line
  | cut : (∀ line, IsLine stream line → maxHandshake + 1 < line.length) →
      Consumes stream (stream.take (min stream.length (maxHandshake + 1)))

/-- What a call has to answer when it has consumed these bytes of a stream. -/
structure Answers (stream chunk : List UInt8) (answer : Except TransportError Handshake) : Prop where
  closed : answer = .error .connectionClosed ↔ stream.length = 0
  tooLarge : answer = .error (.handshakeTooLarge maxHandshake) ↔ chunk.length = maxHandshake + 1
  decoded : stream ≠ [] → chunk.length ≠ maxHandshake + 1 → answer = decodeHandshake chunk

/-! ## The first line -/

section FirstLine

variable {stream line : List UInt8}

theorem firstLine_eq_nil_iff {bytes : List UInt8} : firstLine bytes = [] ↔ bytes = [] := by
  cases bytes with
  | nil => simp [firstLine]
  | cons b bytes => by_cases ends : b = newline <;> simp [firstLine, ends]

theorem isPrefix_firstLine (stream : List UInt8) : firstLine stream <+: stream := by
  induction stream with
  | nil => exact List.prefix_rfl
  | cons b stream ih =>
    by_cases ends : b = newline
    · simp [firstLine, ends]
    · simpa [firstLine, ends] using ih

theorem firstLine_append {body : List UInt8} (single : newline ∉ body) (rest : List UInt8) :
    firstLine (body ++ rest) = body ++ firstLine rest := by
  induction body with
  | nil => rfl
  | cons b body ih =>
    have noNewline : b ≠ newline := Ne.symm (List.ne_of_not_mem_cons single)
    rw [List.cons_append, firstLine, if_neg noNewline, ih (List.not_mem_of_not_mem_cons single)]
    rfl

theorem firstLine_of_notMem (single : newline ∉ stream) : firstLine stream = stream := by
  simpa [firstLine] using firstLine_append single []

theorem getLast?_firstLine (member : newline ∈ stream) :
    (firstLine stream).getLast? = some newline := by
  obtain ⟨body, rest, rfl, single⟩ := List.eq_append_cons_of_mem member
  rw [firstLine_append single, firstLine, if_pos rfl, List.getLast?_concat]

theorem length_firstLine_le {other : List UInt8} (front : other <+: stream)
    (ends : other.getLast? = some newline) : (firstLine stream).length ≤ other.length := by
  obtain ⟨rest, rfl⟩ := front
  obtain ⟨body, rfl⟩ := List.getLast?_eq_some_iff.mp ends
  by_cases single : newline ∈ body
  · obtain ⟨before, behind, rfl, beforeSingle⟩ := List.eq_append_cons_of_mem single
    rw [List.append_assoc, List.append_assoc, firstLine_append beforeSingle]
    simp [firstLine]
  · rw [List.append_assoc, firstLine_append single]
    simp [firstLine]

theorem isLine_iff : IsLine stream line ↔ newline ∈ stream ∧ line = firstLine stream := by
  constructor
  · intro isLine
    have inLine : newline ∈ line := List.mem_of_getLast? isLine.ends
    have inStream : newline ∈ stream := isLine.front.subset inLine
    have shorter := isLine.shortest _ (isPrefix_firstLine stream) (getLast?_firstLine inStream)
    have longer := length_firstLine_le isLine.front isLine.ends
    have front := List.prefix_of_prefix_length_le isLine.front (isPrefix_firstLine stream) shorter
    exact ⟨inStream, front.eq_of_length (Nat.le_antisymm shorter longer)⟩
  · intro both
    obtain ⟨member, rfl⟩ := both
    exact ⟨isPrefix_firstLine stream, getLast?_firstLine member, fun _ => length_firstLine_le⟩

end FirstLine

/-! ## One call -/

/-- What a call takes off the stream. -/
def nextChunk (stream : List UInt8) : List UInt8 := (firstLine stream).take (maxHandshake + 1)

section Call

variable {stream : List UInt8}

theorem nextChunk_eq_nil_iff : nextChunk stream = [] ↔ stream = [] := by
  simp [nextChunk, firstLine_eq_nil_iff]

theorem length_nextChunk_le : (nextChunk stream).length ≤ maxHandshake + 1 :=
  List.length_take_le _ _

theorem nextChunk_append_drop :
    nextChunk stream ++ stream.drop (nextChunk stream).length = stream := by
  have front : nextChunk stream <+: stream :=
    (List.take_prefix _ _).trans (isPrefix_firstLine stream)
  rw [List.prefix_iff_eq_append.mp front]

theorem nextChunk_of_short (short : (firstLine stream).length ≤ maxHandshake + 1) :
    nextChunk stream = firstLine stream := List.take_of_length_le short

theorem nextChunk_of_long (long : maxHandshake + 1 < (firstLine stream).length) :
    nextChunk stream = stream.take (maxHandshake + 1) := by
  obtain ⟨behind, same⟩ := isPrefix_firstLine stream
  rw [nextChunk, ← List.take_append_of_le_length (Nat.le_of_lt long), same]

theorem consumes_iff {taken : List UInt8} : Consumes stream taken ↔ taken = nextChunk stream := by
  have capped : stream.take (min stream.length (maxHandshake + 1)) =
      stream.take (maxHandshake + 1) := by
    rw [Nat.min_comm, ← List.take_eq_take_min]
  constructor
  · intro consumes
    cases consumes with
    | line isLine short =>
      obtain ⟨-, rfl⟩ := isLine_iff.mp isLine
      exact (nextChunk_of_short short).symm
    | cut noLine =>
      rw [capped]
      -- Cut off either in the middle of a line that is too long, or at the end of the stream.
      by_cases member : newline ∈ stream
      · exact (nextChunk_of_long (noLine _ (isLine_iff.mpr ⟨member, rfl⟩))).symm
      · rw [nextChunk, firstLine_of_notMem member]
  · intro same
    subst same
    by_cases member : newline ∈ stream
    · by_cases short : (firstLine stream).length ≤ maxHandshake + 1
      · rw [nextChunk_of_short short]
        exact .line (isLine_iff.mpr ⟨member, rfl⟩) short
      · have long : maxHandshake + 1 < (firstLine stream).length := Nat.lt_of_not_le short
        rw [nextChunk_of_long long, ← capped]
        refine .cut fun line isLine => ?_
        rwa [(isLine_iff.mp isLine).2]
    · rw [nextChunk, firstLine_of_notMem member, ← capped]
      exact .cut fun line isLine => absurd (isLine_iff.mp isLine).1 member

theorem takeLine_eq (taken : List UInt8) (limit : Nat) (bytes : List UInt8) :
    takeLine taken limit bytes =
      (taken.reverse ++ (firstLine bytes).take limit,
        bytes.drop ((firstLine bytes).take limit).length) := by
  induction bytes generalizing taken limit with
  | nil => cases limit <;> simp [takeLine, firstLine]
  | cons b bytes ih =>
    cases limit with
    | zero => simp [takeLine]
    | succ limit =>
      by_cases ends : b = newline
      · simp [takeLine, firstLine, ends]
      · simp [takeLine, firstLine, ends, ih]

/-- A call takes its chunk off the stream, however it answers. -/
theorem readHandshake_eq (stream : List UInt8) :
    readHandshake stream =
      (if stream = [] then .error .connectionClosed
        else if maxHandshake < (nextChunk stream).length then
          .error (.handshakeTooLarge maxHandshake)
        else decodeHandshake (nextChunk stream),
        stream.drop (nextChunk stream).length) := by
  have taken : takeLine [] (maxHandshake + 1) stream =
      (nextChunk stream, stream.drop (nextChunk stream).length) := by
    rw [takeLine_eq, nextChunk, List.reverse_nil, List.nil_append]
  simp only [readHandshake, taken, List.isEmpty_iff, nextChunk_eq_nil_iff]
  by_cases nothing : stream = []
  · rw [if_pos nothing, if_pos nothing]
  · rw [if_neg nothing, if_neg nothing]
    by_cases long : maxHandshake < (nextChunk stream).length
    · rw [if_pos long, if_pos long]
    · rw [if_neg long, if_neg long]

theorem readHandshake_nil : readHandshake [] = (.error .connectionClosed, []) := rfl

theorem exists_cause_of_decodeHandshake {bytes : List UInt8} {e : TransportError}
    (failed : decodeHandshake bytes = .error e) : ∃ cause, e = .malformedHandshake cause := by
  cases decoded : Handshake.decode bytes with
  | ok h => simp [decodeHandshake, decoded] at failed
  | error cause =>
    simp only [decodeHandshake, decoded, Except.error.injEq] at failed
    exact ⟨cause, failed.symm⟩

theorem answers_readHandshake (stream : List UInt8) :
    Answers stream (nextChunk stream) (readHandshake stream).1 := by
  have bound : (nextChunk stream).length ≤ maxHandshake + 1 := length_nextChunk_le
  rw [readHandshake_eq]
  by_cases nothing : stream = []
  · subst nothing
    have chunk : nextChunk [] = [] := nextChunk_eq_nil_iff.mpr rfl
    constructor <;> simp [chunk]
  · have something : stream.length ≠ 0 := by simpa using nothing
    by_cases long : maxHandshake < (nextChunk stream).length
    · have full : (nextChunk stream).length = maxHandshake + 1 := by omega
      constructor <;> simp [nothing, full]
    · have notFull : (nextChunk stream).length ≠ maxHandshake + 1 := by omega
      simp only [if_neg nothing, if_neg long]
      -- Decoding fails in one way only, and that is neither of the other two.
      refine ⟨⟨fun closed => ?_, fun silent => absurd silent something⟩,
        ⟨fun tooLarge => ?_, fun full => absurd full notFull⟩, fun _ _ => rfl⟩
      · obtain ⟨cause, other⟩ := exists_cause_of_decodeHandshake closed
        cases other
      · obtain ⟨cause, other⟩ := exists_cause_of_decodeHandshake tooLarge
        cases other

end Call

/-! ## Call after call -/

/-- The outcomes of so many calls of `readHandshake` in a row on one stream. -/
def readHandshakes : (calls : Nat) → List UInt8 → List (Except TransportError Handshake)
  | 0, _ => []
  | calls + 1, stream =>
    (readHandshake stream).1 :: readHandshakes calls (readHandshake stream).2

/-- What so many calls of `readHandshake` in a row leave of a stream. -/
def remaining : (calls : Nat) → List UInt8 → List UInt8
  | 0, stream => stream
  | calls + 1, stream => remaining calls (readHandshake stream).2

/-- The chunks that a stream is read in. -/
def chunks (stream : List UInt8) : List (List UInt8) :=
  if stream = [] then [] else nextChunk stream :: chunks (stream.drop (nextChunk stream).length)
termination_by stream.length
decreasing_by
  rename_i nonempty
  have some : 0 < (nextChunk stream).length :=
    List.length_pos_iff.mpr (mt nextChunk_eq_nil_iff.mp nonempty)
  have whole : 0 < stream.length := List.length_pos_iff.mpr nonempty
  rw [List.length_drop]
  omega

theorem chunks_nil : chunks [] = [] := by rw [chunks, if_pos rfl]

theorem chunks_of_ne_nil {stream : List UInt8} (nonempty : stream ≠ []) :
    chunks stream = nextChunk stream :: chunks (readHandshake stream).2 := by
  rw [chunks, if_neg nonempty, readHandshake_eq]

theorem flatten_chunks (stream : List UInt8) : (chunks stream).flatten = stream := by
  fun_induction chunks stream with
  | case1 => rfl
  | case2 stream nonempty ih => rw [List.flatten_cons, ih, nextChunk_append_drop]

theorem ne_nil_of_mem_chunks {stream chunk : List UInt8} (member : chunk ∈ chunks stream) :
    chunk ≠ [] := by
  fun_induction chunks stream with
  | case1 => cases member
  | case2 stream nonempty ih =>
    cases member with
    | head => exact mt nextChunk_eq_nil_iff.mp nonempty
    | tail _ later => exact ih later

/-- So many calls use up so many chunks. -/
theorem chunks_remaining (calls : Nat) (stream : List UInt8) :
    chunks (remaining calls stream) = (chunks stream).drop calls := by
  induction calls generalizing stream with
  | zero => rfl
  | succ calls ih =>
    rw [remaining, ih]
    by_cases nothing : stream = []
    · rw [nothing, readHandshake_nil, chunks_nil, List.drop_nil, List.drop_nil]
    · rw [chunks_of_ne_nil nothing, List.drop_succ_cons]

theorem remaining_succ (calls : Nat) (stream : List UInt8) :
    remaining (calls + 1) stream = (readHandshake (remaining calls stream)).2 := by
  induction calls generalizing stream with
  | zero => rfl
  | succ calls ih => rw [remaining, ih, remaining]

theorem readHandshakes_eq (calls : Nat) (stream : List UInt8) :
    readHandshakes calls stream =
      (List.range calls).map fun call => (readHandshake (remaining call stream)).1 := by
  induction calls generalizing stream with
  | zero => rfl
  | succ calls ih =>
    rw [readHandshakes, ih, List.range_succ_eq_map, List.map_cons, List.map_map]
    rfl

theorem nextChunk_remaining (calls : Nat) (stream : List UInt8) :
    nextChunk (remaining calls stream) = (chunks stream)[calls]?.getD [] := by
  rw [← List.head?_drop, ← chunks_remaining]
  by_cases nothing : remaining calls stream = []
  · rw [nothing, chunks_nil]
    rfl
  · rw [chunks_of_ne_nil nothing]
    rfl

theorem remaining_eq_nil_iff {calls : Nat} {stream : List UInt8} :
    remaining calls stream = [] ↔ (chunks stream).length ≤ calls := by
  rw [← List.drop_eq_nil_iff, ← chunks_remaining]
  constructor
  · intro nothing
    rw [nothing, chunks_nil]
  · intro noChunks
    rw [← flatten_chunks (remaining calls stream), noChunks]
    rfl

/-- The calls on a stream cut it into chunks, one after another and with nothing left out. Where a
chunk ends does not depend on what the calls answer, and after the last one every call finds the
connection closed. -/
theorem calls_partition_stream (sent : List UInt8) :
    ∃ chunks : List (List UInt8), chunks.flatten = sent ∧ (∀ chunk ∈ chunks, chunk ≠ []) ∧
      ∀ call : Nat,
        let left := remaining call sent
        let chunk := chunks[call]?.getD []
        (∀ taken, Consumes left taken ↔ taken = chunk) ∧
        left = chunk ++ remaining (call + 1) sent ∧
        left = (chunks.drop call).flatten ∧
        Answers left chunk (readHandshake left).1 ∧
        ((readHandshake left).1 = .error .connectionClosed ↔ chunks.length ≤ call) ∧
        readHandshakes call sent =
          (List.range call).map fun earlier => (readHandshake (remaining earlier sent)).1 := by
  refine ⟨chunks sent, flatten_chunks sent, fun chunk => ne_nil_of_mem_chunks, fun call => ?_⟩
  intro left chunk
  have next : nextChunk left = chunk := nextChunk_remaining call sent
  have answers : Answers left chunk (readHandshake left).1 := next ▸ answers_readHandshake left
  refine ⟨fun taken => next ▸ consumes_iff, ?_, ?_, answers, ?_, readHandshakes_eq call sent⟩
  · rw [remaining_succ, readHandshake_eq, ← next]
    exact nextChunk_append_drop.symm
  · rw [← chunks_remaining]
    exact (flatten_chunks left).symm
  · rw [answers.closed, List.length_eq_zero_iff]
    exact remaining_eq_nil_iff

end SpokenCommand.Transport
