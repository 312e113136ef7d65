import SpokenCommand.Proofs.HandshakeFraming
import SpokenCommand.Proofs.JsonSchemas

/-!
# Handshakes on a stream

A handshake reads back from the bytes it travels as, and these are one line: what is written as JSON
has no line break in it (`Json.oneLine_write`), whatever is in its strings. So a stream of
handshakes falls apart where one ends and the next begins (`Handshake.readHandshakes_append`).
-/

namespace SpokenCommand.Json

open Text (Utf8.encode)

/-! ## Written values are one line -/

/-- A text without a line break. -/
def OneLine (s : String) : Prop := '\n' ∉ s.toList

namespace OneLine

theorem append {s t : String} (left : OneLine s) (right : OneLine t) : OneLine (s ++ t) := by
  simp only [OneLine, String.toList_append, List.mem_append, not_or]
  exact ⟨left, right⟩

theorem intercalate {ss : List String} (all : ∀ s ∈ ss, OneLine s) :
    OneLine (",".intercalate ss) := by
  intro member
  obtain comma | ⟨s, inList, inText⟩ := Text.mem_toList_intercalate member
  · exact absurd comma (by decide)
  · exact all s inList inText

end OneLine

theorem oneLine_toString (n : Int) : OneLine (toString n) := by
  have naturals : ∀ n : Nat, OneLine (toString n) := by
    intro n
    rw [OneLine, Nat.toString_eq_ofList_toDigits, String.toList_ofList]
    exact Text.notMem_toDigits (by decide) n
  cases n with
  | ofNat n => exact naturals n
  | negSucc n =>
    have minus : OneLine "-" := by simp [OneLine]
    exact minus.append (naturals (n + 1))

theorem oneLine_placePoint (digits : Nat) (exponent : Int) :
    OneLine (Numeral.placePoint digits exponent) := by
  have whole : '\n' ∉ Nat.toDigits 10 digits := Text.notMem_toDigits (by decide) digits
  have front : ∀ n, '\n' ∉ (Nat.toDigits 10 digits).take n := fun n member =>
    whole (List.mem_of_mem_take member)
  have back : ∀ n, '\n' ∉ (Nat.toDigits 10 digits).drop n := fun n member =>
    whole (List.mem_of_mem_drop member)
  have power := oneLine_toString ((Nat.toDigits 10 digits).length + exponent - 1)
  have shown : ∀ cs : List Char, '\n' ∉ cs → OneLine (String.ofList cs) := by
    intro cs none
    rwa [OneLine, String.toList_ofList]
  rw [Numeral.placePoint]
  -- Whichever way the point is placed, the characters are digits, a point, an `e` and a sign.
  split_ifs with integral between small single
  · exact shown _ (by simp [whole])
  · exact shown _ (by simp [front, back])
  · exact shown _ (by simp [whole])
  · exact (shown _ (by simp [front])).append power
  · have fraction : '\n' ∉ (Nat.toDigits 10 digits).tail := by simpa using back 1
    exact (shown _ (by simp [front, fraction])).append power

theorem oneLine_showFloat (x : Float) : OneLine (Numeral.showFloat x) := by
  unfold Numeral.showFloat
  extract_lets bits sign magnitude
  have signed : OneLine sign := by
    unfold sign
    split <;> simp [OneLine]
  clear_value sign magnitude
  split
  · exact signed.append (by simp [OneLine])
  · split
    split
    exact signed.append (oneLine_placePoint _ _)

theorem oneLine_escapeChar (c : Char) : '\n' ∉ escapeChar c := by
  rw [escapeChar]
  split_ifs with quote backslash backspace tab lineFeed formFeed carriageReturn control
  all_goals simp
  exact Ne.symm lineFeed

theorem oneLine_writeString (s : String) : OneLine (writeString s) := by
  simp [OneLine, writeString, oneLine_escapeChar]

mutual

theorem oneLine_write : ∀ v : Value, OneLine v.write
  | .null => by simp [OneLine, Value.write]
  | .bool true => by simp [OneLine, Value.write]
  | .bool false => by simp [OneLine, Value.write]
  | .number (.int value) => by
    rw [Value.write]
    exact oneLine_toString value
  | .number (.float value) => by
    rw [Value.write]
    exact oneLine_showFloat value
  | .string s => by
    rw [Value.write]
    exact oneLine_writeString s
  | .array items => by
    have opening : OneLine "[" := by simp [OneLine]
    have closing : OneLine "]" := by simp [OneLine]
    rw [Value.write]
    exact (opening.append (.intercalate (oneLine_writeItems items))).append closing
  | .object members => by
    have opening : OneLine "\x7b" := by simp [OneLine]
    have closing : OneLine "\x7d" := by simp [OneLine]
    rw [Value.write]
    exact (opening.append (.intercalate (oneLine_writeMembers members))).append closing

theorem oneLine_writeItems : ∀ items : List Value, ∀ s ∈ writeItems items, OneLine s
  | [] => by simp [writeItems]
  | v :: vs => by
    simp only [writeItems, List.forall_mem_cons]
    exact ⟨oneLine_write v, oneLine_writeItems vs⟩

theorem oneLine_writeMembers :
    ∀ members : List (String × Value), ∀ s ∈ writeMembers members, OneLine s
  | [] => by simp [writeMembers]
  | (key, v) :: members => by
    have colon : OneLine ":" := by simp [OneLine]
    simp only [writeMembers, List.forall_mem_cons]
    exact ⟨((oneLine_writeString key).append colon).append (oneLine_write v),
      oneLine_writeMembers members⟩

end

theorem newline_notMem_bytes (v : Value) : Transport.newline ∉ v.bytes := by
  intro member
  have inText : '\n' ∈ v.write.toList := Text.Utf8.mem_of_mem_encode (by decide) member
  exact oneLine_write v inText

end SpokenCommand.Json

namespace SpokenCommand

open Json (Schema Member)

namespace Transport

theorem encode_newline : Text.Utf8.encode "\n" = [newline] := by decide

theorem blank_newline : ∀ b ∈ [newline], Json.isSpace b = true :=
  List.all_iff_forall_prop.mp (by decide)

end Transport

/-! ## One handshake -/

theorem PhraseEntry.recovers (e : PhraseEntry) : PhraseEntry.record.schema.Recovers e.toJson e := by
  let members : List (Member PhraseEntry) := [
    ⟨_, _, _, (Schema.recovers_string e.key).field "key" .required fun key e => { e with key }⟩,
    ⟨_, _, _, (Schema.recovers_string e.template).field "template" .required
      fun template e => { e with template }⟩]
  have fields : PhraseEntry.record.fields = members.map Member.field := rfl
  exact Json.Record.recovers fields (by decide)

namespace Handshake

open Transport (newline)

/-- Its versions fit their machine words. -/
def Fits (h : Handshake) : Prop := h.version < versionLimit ∧ h.minVersion < versionLimit

theorem Fits.recovers {h : Handshake} (fits : h.Fits) : record.schema.Recovers h.toJson h := by
  have phrases : (Schema.list PhraseEntry.record.schema).Recovers
      (.array (h.phrases.map PhraseEntry.toJson)) h.phrases := by
    apply Schema.recovers_list
    rw [List.forall₂_map_left_iff, List.forall₂_same]
    exact fun e _ => e.recovers
  have sentences : (Schema.list .string).Recovers (.strings h.sentences) h.sentences := by
    apply Schema.recovers_list
    rw [List.forall₂_map_left_iff, List.forall₂_same]
    exact fun s _ => Schema.recovers_string s
  have word : versionLimit ≤ Json.maxSignificand + 1 := by decide
  -- The members in the order they are written, each with the schema that reads it back.
  let members : List (Member Handshake) := [
    ⟨_, _, _, phrases.field "phrases" .required fun phrases h => { h with phrases }⟩,
    ⟨_, _, _, sentences.field "sentences" .required fun sentences h => { h with sentences }⟩,
    ⟨_, _, _, (Schema.recovers_natural fits.1 word "u32").field "api_version" .defaulted
      fun version h => { h with version }⟩,
    ⟨_, _, _, (Schema.recovers_natural fits.2 word "u32").field "min_api_version" .defaulted
      fun minVersion h => { h with minVersion }⟩]
  have fields : record.fields = members.map Member.field := rfl
  exact Json.Record.recovers fields (by decide)

theorem encode_eq (h : Handshake) : h.encode = h.toJson.bytes ++ [newline] := by
  rw [encode, line, Text.Utf8.encode_append, Transport.encode_newline]
  rfl

theorem Fits.decodes {h : Handshake} (fits : h.Fits) {blanks : List UInt8}
    (blank : ∀ b ∈ blanks, Json.isSpace b = true) :
    Transport.decodeHandshake (h.toJson.bytes ++ blanks) = .ok h := by
  have decoded : decode (h.toJson.bytes ++ blanks) = .ok h := fits.recovers.read blank
  rw [Transport.decodeHandshake, decoded]

theorem Fits.decodes_bytes {h : Handshake} (fits : h.Fits) :
    Transport.decodeHandshake h.toJson.bytes = .ok h := by
  have nothing : ∀ b ∈ ([] : List UInt8), Json.isSpace b = true := by simp
  have decoded := fits.decodes nothing
  rwa [List.append_nil] at decoded

end Handshake

/-! ## Lines -/

namespace Transport

theorem readHandshake_line {body : List UInt8} (single : newline ∉ body)
    (short : body.length + 1 ≤ maxHandshake) (rest : List UInt8) :
    readHandshake (body ++ newline :: rest) = (decodeHandshake (body ++ [newline]), rest) := by
  have line : firstLine (body ++ newline :: rest) = body ++ [newline] := by
    rw [firstLine_append single, firstLine, if_pos rfl]
  have length : (body ++ [newline]).length = body.length + 1 := List.length_append
  have chunk : nextChunk (body ++ newline :: rest) = body ++ [newline] := by
    rw [nextChunk_of_short, line]
    rw [line, length]
    omega
  rw [readHandshake_eq, chunk, if_neg (by simp), if_neg (by omega),
    List.append_cons body newline rest, List.drop_left]

theorem readHandshake_end {body : List UInt8} (single : newline ∉ body) (nonempty : body ≠ [])
    (short : body.length ≤ maxHandshake) : readHandshake body = (decodeHandshake body, []) := by
  have line : firstLine body = body := firstLine_of_notMem single
  have chunk : nextChunk body = body := by
    rw [nextChunk_of_short, line]
    rw [line]
    omega
  rw [readHandshake_eq, chunk, if_neg nonempty, if_neg (Nat.not_lt.mpr short), List.drop_length]

end Transport

namespace Handshake

open Transport

theorem Fits.readHandshake_encode {h : Handshake} (fits : h.Fits)
    (short : h.encode.length ≤ maxHandshake) (rest : List UInt8) :
    readHandshake (h.encode ++ rest) = (.ok h, rest) := by
  rw [encode_eq] at short ⊢
  rw [List.append_assoc, List.singleton_append,
    readHandshake_line (Json.newline_notMem_bytes _) (by simpa using short),
    fits.decodes blank_newline]

/-- Without its newline a handshake ends with the stream. -/
theorem Fits.readHandshake_bytes {h : Handshake} (fits : h.Fits)
    (short : h.encode.length ≤ maxHandshake) : readHandshake h.toJson.bytes = (.ok h, []) := by
  have nonempty : h.toJson.bytes ≠ [] := by
    obtain ⟨b, bytes, opened, -⟩ := fits.recovers.opens
    simp [opened]
  have within : h.toJson.bytes.length ≤ maxHandshake := by
    rw [encode_eq, List.length_append] at short
    omega
  rw [readHandshake_end (Json.newline_notMem_bytes _) nonempty within, fits.decodes_bytes]

/-- Handshakes at the front of a stream are read one by one, and leave the rest. -/
theorem readHandshakes_append {hs : List Handshake} (fits : ∀ h ∈ hs, h.Fits)
    (short : ∀ h ∈ hs, h.encode.length ≤ maxHandshake) (calls : Nat) (rest : List UInt8) :
    readHandshakes (hs.length + calls) (hs.flatMap encode ++ rest) =
      hs.map .ok ++ readHandshakes calls rest := by
  induction hs with
  | nil => simp
  | cons h hs ih =>
    rw [List.forall_mem_cons] at fits short
    have later := ih fits.2 short.2
    have count : (h :: hs).length + calls = (hs.length + calls) + 1 := by
      simp only [List.length_cons]
      omega
    rw [count, List.flatMap_cons, List.append_assoc, readHandshakes,
      fits.1.readHandshake_encode short.1, later]
    rfl

theorem Fits.encode_line {h : Handshake} (fits : h.Fits) :
    h.encode.count newline = 1 ∧ h.encode.getLast? = some newline ∧
      decodeHandshake h.encode = .ok h ∧ decodeHandshake h.encode.dropLast = .ok h := by
  have single := Json.newline_notMem_bytes h.toJson
  rw [encode_eq]
  refine ⟨?_, by simp, fits.decodes blank_newline, ?_⟩
  · rw [List.count_append, List.count_eq_zero.mpr single]
    rfl
  · rw [List.dropLast_concat]
    exact fits.decodes_bytes

theorem readHandshakes_complete {hs : List Handshake} (fits : ∀ h ∈ hs, h.Fits)
    (short : ∀ h ∈ hs, h.encode.length ≤ maxHandshake) :
    readHandshakes (hs.length + 1) (hs.flatMap encode) =
      hs.map .ok ++ [.error .connectionClosed] := by
  have closed : readHandshakes 1 [] = [.error .connectionClosed] := rfl
  have ended := readHandshakes_append fits short 1 []
  rwa [List.append_nil, closed] at ended

theorem readHandshakes_cut {hs : List Handshake} (fits : ∀ h ∈ hs, h.Fits)
    (short : ∀ h ∈ hs, h.encode.length ≤ maxHandshake) :
    readHandshakes (hs.length + 1) (hs.flatMap encode).dropLast =
      hs.map .ok ++ [.error .connectionClosed] := by
  obtain rfl | ⟨front, last, rfl⟩ := List.eq_nil_or_concat' hs
  · rfl
  · rw [List.forall_mem_append, List.forall_mem_singleton] at fits short
    have sent : ((front ++ [last]).flatMap encode).dropLast =
        front.flatMap encode ++ last.toJson.bytes := by
      rw [List.flatMap_append, List.flatMap_singleton, encode_eq, ← List.append_assoc,
        List.dropLast_concat]
    have count : (front ++ [last]).length + 1 = front.length + 2 := by simp
    rw [sent, count, readHandshakes_append fits.1 short.1, readHandshakes,
      fits.2.readHandshake_bytes short.2]
    simp only [List.map_append, List.append_assoc]
    rfl

/-- Handshakes sent one after another come back one by one, and then the connection is found closed,
whether or not the last one is ended by its newline. -/
theorem stream_reads_back {hs : List Handshake} (fits : ∀ h ∈ hs, h.Fits)
    (short : ∀ h ∈ hs, h.encode.length ≤ maxHandshake) :
    (∀ h ∈ hs, h.encode.count newline = 1 ∧ h.encode.getLast? = some newline ∧
      decodeHandshake h.encode = .ok h ∧ decodeHandshake h.encode.dropLast = .ok h) ∧
    ∀ sent ∈ [hs.flatMap encode, (hs.flatMap encode).dropLast],
      readHandshakes (hs.length + 1) sent = hs.map .ok ++ [.error .connectionClosed] := by
  refine ⟨fun h member => (fits h member).encode_line, fun sent choice => ?_⟩
  obtain rfl | rfl : sent = hs.flatMap encode ∨ sent = (hs.flatMap encode).dropLast := by
    simpa using choice
  · exact readHandshakes_complete fits short
  · exact readHandshakes_cut fits short

/-- Escapes, a line break, a zero byte and letters beyond ASCII, and the greatest version. -/
theorem stream_reads_back_escapes :
    let first : Handshake :=
      ⟨[⟨"cmd_go", "go \"now\"|los\\"⟩], ["line\nbreak", "\x00", "größe 🎤"], 0, 4294967295⟩
    let second : Handshake := ⟨[], [], 1, 1⟩
    readHandshakes 3 ((first.encode ++ second.encode).dropLast) =
      [.ok first, .ok second, .error .connectionClosed] := by
  intro first second
  have fits : ∀ h ∈ [first, second], h.Fits := by
    simp only [Fits]
    decide
  have short : ∀ h ∈ [first, second], h.encode.length ≤ maxHandshake := by decide +kernel
  have cut := (stream_reads_back fits short).2 ([first, second].flatMap encode).dropLast (by simp)
  simpa using cut

end Handshake

end SpokenCommand
