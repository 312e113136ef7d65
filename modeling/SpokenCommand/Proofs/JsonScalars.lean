import Mathlib.Data.List.Basic
import SpokenCommand.Json.Text
import SpokenCommand.Proofs.Words

/-!
# Strings and numbers of a JSON text read back

A text travels as bytes, so reading it back is a matter of bytes: a character beyond ASCII has only
bytes above ASCII, which neither a quote nor an escape can be mistaken for
(`Text.Utf8.high_of_mem_encodeChar`). Escaping is undone one character at a time
(`stringBytes_escapeChar`), and decimal digits are taken in as the number they spell
(`numberPart_toString`).
-/

namespace SpokenCommand.Text.Utf8

theorem encode_eq (s : String) : encode s = s.toList.flatMap String.utf8EncodeChar := by
  rw [encode, String.toUTF8_eq_toByteArray, ← String.utf8Encode_toList, List.utf8Encode,
    List.toList_data_toByteArray]

theorem encode_append (s t : String) : encode (s ++ t) = encode s ++ encode t := by
  simp [encode_eq]

theorem encodeChar_of_ascii {c : Char} (ascii : c.toNat ≤ 127) :
    String.utf8EncodeChar c = [c.toUInt8] := by
  have low : c.val.toNat ≤ 127 := ascii
  rw [String.utf8EncodeChar, if_pos low]
  rfl

theorem high_of_mem_encodeChar {c : Char} (beyond : 127 < c.toNat) :
    ∀ b ∈ String.utf8EncodeChar c, 128 ≤ b.toNat := by
  have notLow : ¬c.val.toNat ≤ 127 := Nat.not_le.mpr beyond
  intro b member
  rw [String.utf8EncodeChar, if_neg notLow] at member
  -- Two, three or four bytes, each of them at least 128.
  split at member
  · simp only [List.mem_cons, List.not_mem_nil, or_false] at member
    rcases member with rfl | rfl <;> simp <;> omega
  · split at member
    · simp only [List.mem_cons, List.not_mem_nil, or_false] at member
      rcases member with rfl | rfl | rfl <;> simp <;> omega
    · simp only [List.mem_cons, List.not_mem_nil, or_false] at member
      rcases member with rfl | rfl | rfl | rfl <;> simp <;> omega

theorem toNat_toUInt8 {c : Char} (ascii : c.toNat ≤ 127) : c.toUInt8.toNat = c.toNat := by
  have low : c.val.toNat ≤ 127 := ascii
  show c.val.toUInt8.toNat = c.val.toNat
  rw [UInt32.toNat_toUInt8]
  omega

theorem ne_toUInt8_of_high {b : UInt8} {c : Char} (high : 128 ≤ b.toNat) (ascii : c.toNat ≤ 127) :
    b ≠ c.toUInt8 := by
  rintro rfl
  rw [toNat_toUInt8 ascii] at high
  omega

theorem toUInt8_injective {c d : Char} (asciiLeft : c.toNat ≤ 127) (asciiRight : d.toNat ≤ 127)
    (same : c.toUInt8 = d.toUInt8) : c = d := by
  have codes : c.toNat = d.toNat := by
    rw [← toNat_toUInt8 asciiLeft, ← toNat_toUInt8 asciiRight, same]
  exact Char.toNat_inj.mp codes

/-- The byte of an ASCII character occurs in a text only where the character does. -/
theorem mem_of_mem_encode {s : String} {c : Char} (ascii : c.toNat ≤ 127)
    (member : c.toUInt8 ∈ encode s) : c ∈ s.toList := by
  rw [encode_eq] at member
  obtain ⟨d, inText, inChar⟩ := List.mem_flatMap.mp member
  by_cases low : d.toNat ≤ 127
  · rw [encodeChar_of_ascii low, List.mem_singleton] at inChar
    exact toUInt8_injective ascii low inChar ▸ inText
  · have high := high_of_mem_encodeChar (Nat.not_le.mp low) _ inChar
    exact absurd rfl (ne_toUInt8_of_high high ascii)

end SpokenCommand.Text.Utf8

namespace SpokenCommand.Json

open Text

/-! ## Strings -/

theorem stringBytes_plain {bs : List UInt8}
    (plain : ∀ b ∈ bs, b ≠ byte '"' ∧ b ≠ byte '\\' ∧ ¬b < 0x20) (read rest : List UInt8) :
    stringBytes read (bs ++ rest) = stringBytes (bs.reverse ++ read) rest := by
  induction bs generalizing read with
  | nil => rfl
  | cons b bs ih =>
    obtain ⟨noQuote, noBackslash, noControl⟩ := plain b (by simp)
    have step : stringBytes read (b :: (bs ++ rest)) = stringBytes (b :: read) (bs ++ rest) := by
      rw [stringBytes.eq_def]
      simp [noQuote, noBackslash, noControl]
    rw [List.cons_append, step, ih fun other member => plain other (by simp [member])]
    simp

/-- A character that is not escaped has no byte with a meaning inside a string. -/
theorem plain_of_mem_encodeChar {c : Char} (noQuote : c ≠ '"') (noBackslash : c ≠ '\\')
    (noControl : ¬c.toNat < 0x20) :
    ∀ b ∈ String.utf8EncodeChar c, b ≠ byte '"' ∧ b ≠ byte '\\' ∧ ¬b < 0x20 := by
  intro b member
  -- ASCII is a byte by itself; of all others every byte lies above ASCII.
  by_cases ascii : c.toNat ≤ 127
  · rw [Utf8.encodeChar_of_ascii ascii, List.mem_singleton] at member
    subst member
    refine ⟨fun same => noQuote (Utf8.toUInt8_injective ascii (by decide) same),
      fun same => noBackslash (Utf8.toUInt8_injective ascii (by decide) same), ?_⟩
    rw [UInt8.lt_iff_toNat_lt, Utf8.toNat_toUInt8 ascii]
    exact noControl
  · have high := Utf8.high_of_mem_encodeChar (Nat.not_le.mp ascii) b member
    refine ⟨Utf8.ne_toUInt8_of_high high (by decide), Utf8.ne_toUInt8_of_high high (by decide), ?_⟩
    rw [UInt8.lt_iff_toNat_lt]
    exact Nat.not_lt.mpr (Nat.le_trans (by decide) high)

theorem stringBytes_letter {letter code : UInt8} (escape : escaped? letter = some code)
    (read rest : List UInt8) :
    stringBytes read (byte '\\' :: letter :: rest) = stringBytes (code :: read) rest := by
  have noQuote : byte '\\' ≠ byte '"' := by decide
  rw [stringBytes.eq_def]
  simp [noQuote, escape]

theorem stringBytes_unit {h₁ h₂ h₃ h₄ : UInt8} {unit : Nat}
    (digits : hexUnit? h₁ h₂ h₃ h₄ = some unit) (noPair : unit < 0xD800) (read rest : List UInt8) :
    stringBytes read (byte '\\' :: byte 'u' :: h₁ :: h₂ :: h₃ :: h₄ :: rest) =
      stringBytes ((codePointBytes unit).reverse ++ read) rest := by
  have noQuote : byte '\\' ≠ byte '"' := by decide
  have noLetter : escaped? (byte 'u') = none := by decide
  have noTrailing : isTrailing unit = false := by simp [isTrailing]; omega
  have noLeading : isLeading unit = false := by simp [isLeading]; omega
  rw [stringBytes.eq_def]
  simp [noQuote, noLetter, digits, noTrailing, noLeading]

theorem hexUnit?_control :
    ∀ n < 0x20, hexUnit? (byte '0') (byte '0') (byte (Nat.digitChar (n / 16)))
      (byte (Nat.digitChar (n % 16))) = some n := by decide

theorem ascii_digitChar_control :
    ∀ n < 0x20, (Nat.digitChar (n / 16)).toNat ≤ 127 ∧ (Nat.digitChar (n % 16)).toNat ≤ 127 := by
  decide

theorem stringBytes_control {c : Char} (control : c.toNat < 0x20) (read rest : List UInt8) :
    stringBytes read
        (['\\', 'u', '0', '0', Nat.digitChar (c.toNat / 16), Nat.digitChar (c.toNat % 16)].flatMap
          String.utf8EncodeChar ++ rest) =
      stringBytes ((String.utf8EncodeChar c).reverse ++ read) rest := by
  obtain ⟨firstAscii, secondAscii⟩ := ascii_digitChar_control c.toNat control
  have unit := stringBytes_unit (hexUnit?_control c.toNat control) (by omega) read rest
  rw [codePointBytes, Char.ofNat_toNat] at unit
  simp only [List.flatMap_cons, List.flatMap_nil, Utf8.encodeChar_of_ascii firstAscii,
    Utf8.encodeChar_of_ascii secondAscii]
  exact unit

/-- Reading undoes the escaping of one character. -/
theorem stringBytes_escapeChar (c : Char) (read rest : List UInt8) :
    stringBytes read ((escapeChar c).flatMap String.utf8EncodeChar ++ rest) =
      stringBytes ((String.utf8EncodeChar c).reverse ++ read) rest := by
  have letter : ∀ {e code : UInt8}, escaped? e = some code →
      stringBytes read (byte '\\' :: e :: rest) = stringBytes ([code].reverse ++ read) rest :=
    fun escape => stringBytes_letter escape read rest
  by_cases named : c ∈ ['"', '\\', '\x08', '\t', '\n', '\x0c', '\r']
  · -- These have a letter of their own.
    simp only [List.mem_cons, List.not_mem_nil, or_false] at named
    rcases named with rfl | rfl | rfl | rfl | rfl | rfl | rfl <;> exact letter (by decide)
  · simp only [List.mem_cons, List.not_mem_nil, or_false, not_or] at named
    by_cases control : c.toNat < 0x20
    · have escape : escapeChar c =
          ['\\', 'u', '0', '0', Nat.digitChar (c.toNat / 16), Nat.digitChar (c.toNat % 16)] := by
        simp [escapeChar, named, control]
      rw [escape]
      exact stringBytes_control control read rest
    · have escape : escapeChar c = [c] := by simp [escapeChar, named, control]
      have plain := plain_of_mem_encodeChar named.1 named.2.1 control
      rw [escape]
      simpa using stringBytes_plain plain read rest

theorem stringBytes_escaped (cs : List Char) (read rest : List UInt8) :
    stringBytes read ((cs.flatMap escapeChar).flatMap String.utf8EncodeChar ++ byte '"' :: rest) =
      .ok (read.reverse ++ cs.flatMap String.utf8EncodeChar, rest) := by
  induction cs generalizing read with
  | nil =>
    rw [List.flatMap_nil, List.flatMap_nil, stringBytes.eq_def]
    simp
  | cons c cs ih =>
    rw [List.flatMap_cons, List.flatMap_append, List.append_assoc, stringBytes_escapeChar, ih]
    simp

theorem encode_writeString (s : String) :
    Utf8.encode (writeString s) =
      byte '"' :: ((s.toList.flatMap escapeChar).flatMap String.utf8EncodeChar ++ [byte '"']) := by
  have quote : String.utf8EncodeChar '"' = [byte '"'] := by decide
  simp [Utf8.encode_eq, writeString, quote]

/-- A written string is read back behind its opening quote, whatever follows. -/
theorem stringPart_written (s : String) (rest : List UInt8) :
    stringPart ((Utf8.encode (writeString s)).tail ++ rest) = .ok (s, rest) := by
  have content : stringBytes [] ((Utf8.encode (writeString s)).tail ++ rest) =
      .ok (Utf8.encode s, rest) := by
    rw [encode_writeString, List.tail_cons, List.append_assoc, List.singleton_append,
      stringBytes_escaped, Utf8.encode_eq]
    rfl
  simp only [stringPart, content, bind, Except.bind, Utf8.decode?_encode]
  rfl

/-! ## Numbers -/

/-- A number may go on with this byte. -/
def goesOn (b : UInt8) : Bool := isDigit b || b == byte '.' || b == byte 'e' || b == byte 'E'

theorem stops_isDigit {rest : List UInt8} (ends : Stops goesOn rest) : Stops isDigit rest := by
  intro b head
  have last := ends b head
  simp only [goesOn, Bool.or_eq_false_iff] at last
  exact last.1.1.1

theorem fractionPart_of_stops {rest : List UInt8} (ends : Stops goesOn rest) (n : Nat) :
    fractionPart false n 0 rest = .ok (.int n, rest) := by
  cases rest with
  | nil => rfl
  | cons b rest =>
    have last : goesOn b = false := stops_cons_iff.mp ends
    simp only [goesOn, Bool.or_eq_false_iff, beq_eq_false_iff_ne] at last
    obtain ⟨⟨⟨-, noPoint⟩, noSmall⟩, noGreat⟩ := last
    rw [fractionPart]
    simp [noPoint, noSmall, noGreat, ofInteger, bind, Except.bind]
    rfl

theorem code_of_isDigit {c : Char} (decimal : c.isDigit = true) : 48 ≤ c.toNat ∧ c.toNat ≤ 57 := by
  simpa [Char.isDigit, UInt32.le_iff_toNat_le] using decimal

theorem isDigit_byte {c : Char} (decimal : c.isDigit = true) : isDigit (byte c) = true := by
  obtain ⟨low, high⟩ := code_of_isDigit decimal
  have code : (byte c).toNat = c.toNat := Utf8.toNat_toUInt8 (by omega)
  simp only [isDigit, Bool.and_eq_true, decide_eq_true_eq, UInt8.le_iff_toNat_le, code]
  exact ⟨low, high⟩

theorem ne_of_isDigit {b mark : UInt8} (decimal : isDigit b = true) (other : isDigit mark = false) :
    b ≠ mark := by
  rintro rfl
  simp [decimal] at other

theorem solid_of_isDigit {b : UInt8} (decimal : isDigit b = true) : isSpace b = false := by
  have table : ∀ mark ∈ [0x20, 0x09, 0x0A, 0x0D], isDigit mark = false :=
    List.all_iff_forall_prop.mp (by decide)
  have other : ∀ mark ∈ [0x20, 0x09, 0x0A, 0x0D], b ≠ mark :=
    fun mark member => ne_of_isDigit decimal (table mark member)
  simp [isSpace, other]

theorem digit_byte {c : Char} (decimal : c.isDigit = true) :
    digit (byte c) = c.toNat - '0'.toNat := by
  obtain ⟨low, high⟩ := code_of_isDigit decimal
  have code : (byte c).toNat = c.toNat := Utf8.toNat_toUInt8 (by omega)
  rw [digit, code]
  rfl

theorem encode_toString (n : Nat) : Utf8.encode (toString n) = (Nat.toDigits 10 n).map byte := by
  have single : ∀ c ∈ Nat.toDigits 10 n, String.utf8EncodeChar c = [byte c] := by
    intro c member
    have code := code_of_isDigit (isDigit_toDigits n c member)
    exact Utf8.encodeChar_of_ascii (by omega)
  rw [Utf8.encode_eq, Nat.toString_eq_ofList_toDigits, String.toList_ofList]
  rw [List.flatMap_congr single]
  exact List.map_eq_flatMap.symm

theorem le_ofDigitChars (ds : List Char) (start : Nat) : start ≤ Nat.ofDigitChars 10 ds start := by
  induction ds generalizing start with
  | nil => simp [Nat.ofDigitChars_nil]
  | cons c ds ih =>
    rw [Nat.ofDigitChars_cons]
    have later := ih (10 * start + (c.toNat - '0'.toNat))
    omega

theorem absorb_digits {ds : List Char} (decimal : ∀ c ∈ ds, c.isDigit = true) {start : Nat}
    (fits : Nat.ofDigitChars 10 ds start ≤ maxSignificand) :
    absorb start (ds.map byte) = (Nat.ofDigitChars 10 ds start, 0) := by
  induction ds generalizing start with
  | nil => rfl
  | cons c ds ih =>
    rw [Nat.ofDigitChars_cons] at fits ⊢
    have value : start * 10 + digit (byte c) = 10 * start + (c.toNat - '0'.toNat) := by
      rw [digit_byte (decimal c (by simp)), Nat.mul_comm]
    -- The significand only grows, so it fits all the way when it fits in the end.
    have fitsHere : start * 10 + digit (byte c) ≤ maxSignificand := by
      rw [value]
      exact Nat.le_trans (le_ofDigitChars ds _) fits
    rw [List.map_cons, absorb, if_pos fitsHere, value]
    exact ih (fun d member => decimal d (by simp [member])) fits

theorem head_toDigits {n : Nat} (positive : 0 < n) : ∀ c ∈ (Nat.toDigits 10 n).head?, c ≠ '0' := by
  induction n using Nat.strongRecOn with
  | ind n ih =>
    intro c head
    by_cases small : n < 10
    · rw [Nat.toDigits_of_lt_base small] at head
      obtain rfl : Nat.digitChar n = c := by simpa using head
      intro zero
      have : n = 0 := Nat.digitChar_eq_zero.mp zero
      omega
    · rw [Nat.toDigits_of_base_le (by decide) (by omega),
        List.head?_append_of_ne_nil _ Nat.toDigits_ne_nil] at head
      exact ih (n / 10) (by omega) (by omega) c head

theorem numberPart_toString {n : Nat} (fits : n ≤ maxSignificand) {rest : List UInt8}
    (ends : Stops goesOn rest) :
    numberPart false (Utf8.encode (toString n) ++ rest) = .ok (.int n, rest) := by
  rw [encode_toString]
  by_cases zero : n = 0
  · -- Zero is the only number that begins with a zero, and no digit may follow it.
    subst n
    rw [Nat.toDigits_zero]
    have noDigit : (rest.head?.map isDigit).getD false = false := by
      cases rest with
      | nil => rfl
      | cons b rest => simpa using stops_isDigit ends
    have first : numberPart false ([byte '0'] ++ rest) = fractionPart false 0 0 rest := by
      simp [numberPart, noDigit]
    exact first.trans (fractionPart_of_stops ends 0)
  · -- All digits are taken in at once, and their value fits into the significand.
    obtain ⟨c, ds, digits⟩ := List.exists_cons_of_ne_nil (Nat.toDigits_ne_nil (n := n) (b := 10))
    have decimal := isDigit_toDigits n
    have allDigits : ∀ b ∈ (Nat.toDigits 10 n).map byte, isDigit b = true := by
      intro b member
      obtain ⟨d, dMember, rfl⟩ := List.mem_map.mp member
      exact isDigit_byte (decimal d dMember)
    have taken := (stops_isDigit ends).takeWhile_append allDigits
    have dropped := (stops_isDigit ends).dropWhile_append allDigits
    have absorbed : absorb 0 ((Nat.toDigits 10 n).map byte) = (n, 0) := by
      have spelled : Nat.ofDigitChars 10 (Nat.toDigits 10 n) 0 = n := Nat.ofDigitChars_ten_toDigits
      have fitsWhole : Nat.ofDigitChars 10 (Nat.toDigits 10 n) 0 ≤ maxSignificand := by
        rw [spelled]
        exact fits
      rw [absorb_digits decimal fitsWhole, spelled]
    have nonzero : byte c ≠ byte '0' := by
      intro same
      have code := code_of_isDigit (decimal c (by simp [digits]))
      have zeroDigit : c = '0' := Utf8.toUInt8_injective (by omega) (by decide) same
      exact head_toDigits (Nat.pos_of_ne_zero zero) c (by simp [digits]) zeroDigit
    have firstDigit : isDigit (byte c) = true := isDigit_byte (decimal c (by simp [digits]))
    have opened : (Nat.toDigits 10 n).map byte ++ rest = byte c :: (ds.map byte ++ rest) := by
      simp [digits]
    have parts : numberPart false (byte c :: (ds.map byte ++ rest)) =
        fractionPart false n 0 rest := by
      simp only [numberPart, nonzero, firstDigit, if_true, if_false]
      rw [← opened, taken, dropped, absorbed]
    rw [opened, parts]
    exact fractionPart_of_stops ends n

end SpokenCommand.Json
