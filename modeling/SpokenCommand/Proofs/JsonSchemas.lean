import Mathlib.Data.List.Forall2
import SpokenCommand.Proofs.JsonScalars

/-!
# Data written as JSON read back

`Schema.Recovers s v a` says that a schema reads the text of the value `v` as `a`, whatever stands
behind the text as long as a number does not go on there. It holds of strings and natural numbers
outright, and passes from the items of an array to their list (`Schema.recovers_list`) and from the
members of an object to the record they make up (`Record.recovers`), so what is written by one of
these and read by the other comes back by following its structure.
-/

namespace SpokenCommand.Json

open Text (Stops Utf8.encode)

/-- The bytes of the text of a value. -/
def Value.bytes (v : Value) : List UInt8 := Utf8.encode v.write

/-- A schema reads the text of a value as certain data, and takes no more than the text. A round of a
loop for each byte of the text is enough. -/
structure Schema.Recovers {α : Type} (s : Schema α) (v : Value) (a : α) : Prop where
  opens : ∃ b bytes, v.bytes = b :: bytes ∧ isSpace b = false ∧ b ≠ byte ']'
  reads : ∀ fuel rest, v.bytes.length ≤ fuel → Stops goesOn rest →
    s.fromText fuel (v.bytes ++ rest) = .ok (a, rest)

/-! ## Blanks -/

theorem skipSpace_cons {b : UInt8} (solid : isSpace b = false) (rest : List UInt8) :
    skipSpace (b :: rest) = b :: rest := by
  simp [skipSpace, solid]

theorem stops_of_blank {blanks : List UInt8} (blank : ∀ b ∈ blanks, isSpace b = true) :
    Stops goesOn blanks := by
  have table : ∀ b ∈ [0x20, 0x09, 0x0A, 0x0D], goesOn b = false :=
    List.all_iff_forall_prop.mp (by decide)
  intro b head
  have space := blank b (List.mem_of_mem_head? head)
  exact table b (by simpa [isSpace, or_assoc] using space)

theorem withValue_cons {α : Type} {b : UInt8} (solid : isSpace b = false) (rest : List UInt8)
    (read : UInt8 → List UInt8 → Except Fault α) : withValue (b :: rest) read = read b rest := by
  simp [withValue, skipSpace_cons solid]

/-! ## Scalars -/

theorem bytes_string (s : String) :
    (Value.string s).bytes = byte '"' :: (Utf8.encode (writeString s)).tail := by
  rw [Value.bytes, Value.write, encode_writeString]
  rfl

namespace Schema

theorem recovers_string (s : String) : string.Recovers (.string s) s where
  opens := ⟨_, _, bytes_string s, by decide, by decide⟩
  reads fuel rest _ _ := by
    have content := stringPart_written s rest
    rw [bytes_string, List.cons_append]
    simp only [string]
    rw [withValue_cons (by decide), if_pos rfl, content]
    rfl

theorem recovers_natural {n limit : Nat} (below : n < limit) (word : limit ≤ maxSignificand + 1)
    (expected : String) : (natural expected limit).Recovers (.nat n) n := by
  have bytes : (Value.nat n).bytes = Utf8.encode (toString n) := rfl
  obtain ⟨c, ds, digits⟩ := List.exists_cons_of_ne_nil (Nat.toDigits_ne_nil (n := n) (b := 10))
  have opened : Utf8.encode (toString n) = byte c :: ds.map byte := by
    rw [encode_toString, digits, List.map_cons]
  have firstDigit : isDigit (byte c) = true :=
    isDigit_byte (Text.isDigit_toDigits n c (by simp [digits]))
  -- The first digit is no blank and neither ends an array nor is a sign.
  have solid : isSpace (byte c) = false := solid_of_isDigit firstDigit
  have noBracket : byte c ≠ byte ']' := ne_of_isDigit firstDigit (by decide)
  have noMinus : byte c ≠ byte '-' := ne_of_isDigit firstDigit (by decide)
  refine ⟨⟨_, _, bytes.trans opened, solid, noBracket⟩, fun fuel rest _ ends => ?_⟩
  have number := numberPart_toString (n := n) (by omega) ends
  rw [opened, List.cons_append] at number
  rw [bytes, opened, List.cons_append]
  simp only [natural, numeral]
  rw [withValue_cons solid, if_neg noMinus, if_pos firstDigit, number]
  simp [lift, bind, Except.bind, below]
  rfl

end Schema

/-! ## Commas -/

/-- Pieces with a comma between any two, and another in front unless they are the first. -/
def commaed : (first : Bool) → List (List UInt8) → List UInt8
  | _, [] => []
  | first, piece :: pieces =>
    (if first then piece else byte ',' :: piece) ++ commaed false pieces

theorem commaed_false (pieces : List (List UInt8)) :
    commaed false pieces = pieces.flatMap (byte ',' :: ·) := by
  induction pieces with
  | nil => rfl
  | cons piece pieces ih => simp [commaed, ih]

theorem encode_intercalate (ss : List String) :
    Utf8.encode (",".intercalate ss) = commaed true (ss.map Utf8.encode) := by
  cases ss with
  | nil => rfl
  | cons s ss =>
    have comma : String.utf8EncodeChar ',' = [byte ','] := by decide
    rw [Text.Utf8.encode_eq, Text.toList_intercalate_cons (c := ',') rfl, List.map_cons, commaed,
      commaed_false]
    simp [List.flatMap_assoc, List.flatMap_map, comma, Text.Utf8.encode_eq]

theorem encode_between {left right : String} {opening closing : UInt8}
    (atLeft : Utf8.encode left = [opening]) (atRight : Utf8.encode right = [closing])
    (ss : List String) :
    Utf8.encode (left ++ ",".intercalate ss ++ right) =
      opening :: (commaed true (ss.map Utf8.encode) ++ [closing]) := by
  rw [Text.Utf8.encode_append, Text.Utf8.encode_append, encode_intercalate, atLeft, atRight]
  rfl

theorem commaed_cons (first : Bool) (b : UInt8) (bytes : List UInt8) (pieces : List (List UInt8))
    (rest : List UInt8) :
    commaed first ((b :: bytes) :: pieces) ++ rest =
      if first then b :: (bytes ++ (commaed false pieces ++ rest))
      else byte ',' :: b :: (bytes ++ (commaed false pieces ++ rest)) := by
  cases first <;> simp [commaed]

theorem length_commaed_cons (first : Bool) (piece : List UInt8) (pieces : List (List UInt8)) :
    piece.length + (commaed false pieces).length ≤ (commaed first (piece :: pieces)).length := by
  cases first with
  | true => simp [commaed]
  | false =>
    simp only [commaed, Bool.false_eq_true, if_false, List.cons_append, List.length_cons,
      List.length_append]
    omega

theorem stops_commaed {closing : UInt8} (mark : goesOn closing = false)
    (pieces : List (List UInt8)) (rest : List UInt8) :
    Stops goesOn (commaed false pieces ++ closing :: rest) := by
  cases pieces with
  | nil => exact Text.stops_cons_iff.mpr mark
  | cons piece pieces =>
    have comma : goesOn (byte ',') = false := by decide
    exact Text.stops_cons_iff.mpr comma

/-! ## Arrays -/

theorem nextElement_closing (first : Bool) (rest : List UInt8) :
    nextElement first (byte ']' :: rest) = .ok none := by
  rw [nextElement, skipSpace_cons (by decide)]
  simp

theorem nextElement_piece {b : UInt8} (solid : isSpace b = false) (noBracket : b ≠ byte ']')
    (first : Bool) (rest : List UInt8) :
    nextElement first (if first then b :: rest else byte ',' :: b :: rest) =
      .ok (some (b :: rest)) := by
  cases first with
  | true =>
    simp only [if_true, nextElement, skipSpace_cons solid, noBracket, if_false]
  | false =>
    have comma : byte ',' ≠ byte ']' := by decide
    simp only [Bool.false_eq_true, if_false, nextElement]
    rw [skipSpace_cons (by decide)]
    simp only [comma, if_false, if_true, skipSpace_cons solid, noBracket]

/-- The loop over the elements of an array goes through the texts of all items. -/
theorem elements_written {α : Type} {s : Schema α} {vs : List Value} {as : List α}
    (recovered : List.Forall₂ s.Recovers vs as) {fuel : Nat} {first : Bool}
    (enough : (commaed first (vs.map Value.bytes)).length < fuel) (read : List α)
    (rest : List UInt8) :
    elements s.fromText fuel first read
      (commaed first (vs.map Value.bytes) ++ byte ']' :: rest) =
        .ok (read.reverse ++ as, rest) := by
  induction recovered generalizing fuel first read with
  | nil =>
    obtain ⟨fuel, rfl⟩ := Nat.exists_eq_succ_of_ne_zero (Nat.ne_of_gt enough)
    have ended : endArray (byte ']' :: rest) = .ok rest := by
      rw [endArray, skipSpace_cons (by decide)]
      simp
    simp only [List.map_nil, commaed, List.nil_append, elements, nextElement_closing, ended]
    simp [lift, bind, Except.bind]
    rfl
  | @cons v a vs as head tail ih =>
    obtain ⟨fuel, rfl⟩ := Nat.exists_eq_succ_of_ne_zero (Nat.ne_of_gt (Nat.zero_lt_of_lt enough))
    obtain ⟨b, bytes, opened, solid, noBracket⟩ := head.opens
    have lengths := length_commaed_cons first v.bytes (vs.map Value.bytes)
    -- The item has a byte of its own, which pays for this round of the loop.
    have nonempty : 0 < v.bytes.length := by simp [opened]
    rw [List.map_cons] at enough ⊢
    have item := head.reads fuel (commaed false (vs.map Value.bytes) ++ byte ']' :: rest) (by omega)
      (stops_commaed (by decide) _ rest)
    rw [opened, List.cons_append] at item
    rw [opened, commaed_cons, elements, nextElement_piece solid noBracket]
    simp only [lift, bind, Except.bind, item]
    rw [ih (by omega) (a :: read)]
    simp

theorem writeItems_eq (vs : List Value) : writeItems vs = vs.map Value.write := by
  induction vs with
  | nil => rfl
  | cons v vs ih => rw [writeItems, ih, List.map_cons]

theorem bytes_array (vs : List Value) :
    (Value.array vs).bytes = byte '[' :: (commaed true (vs.map Value.bytes) ++ [byte ']']) := by
  have pieces : (vs.map Value.write).map Utf8.encode = vs.map Value.bytes := by
    rw [List.map_map]
    rfl
  rw [Value.bytes, Value.write, writeItems_eq, ← pieces]
  exact encode_between (by decide) (by decide) _

theorem Schema.recovers_list {α : Type} {s : Schema α} {vs : List Value} {as : List α}
    (recovered : List.Forall₂ s.Recovers vs as) : (Schema.list s).Recovers (.array vs) as where
  opens := ⟨_, _, bytes_array vs, by decide, by decide⟩
  reads fuel rest enough _ := by
    rw [bytes_array] at enough ⊢
    have short : (commaed true (vs.map Value.bytes)).length < fuel := by
      simp at enough
      omega
    have items := elements_written recovered short [] rest
    simp only [Schema.list, List.cons_append, List.append_assoc, List.nil_append]
    rw [withValue_cons (by decide), if_pos rfl]
    exact items

/-! ## Objects -/

/-- A field of a record with the value it is written as and the change that reading it makes. -/
structure Member (σ : Type) where
  field : Field σ
  value : Value
  set : σ → σ
  recovers : field.schema.Recovers value set

namespace Member

variable {σ : Type}

/-- The key of the member. -/
def name (m : Member σ) : String := m.field.name

/-- The bytes of its text. -/
def bytes (m : Member σ) : List UInt8 :=
  Utf8.encode (writeString m.name) ++ byte ':' :: m.value.bytes

theorem bytes_eq (m : Member σ) :
    m.bytes =
      byte '"' :: ((Utf8.encode (writeString m.name)).tail ++ byte ':' :: m.value.bytes) := by
  have quoted : Utf8.encode (writeString m.name) =
      byte '"' :: (Utf8.encode (writeString m.name)).tail := bytes_string m.name
  rw [bytes]
  nth_rewrite 1 [quoted]
  rfl

end Member

theorem Schema.Recovers.field {σ α : Type} {s : Schema α} {v : Value} {a : α}
    (recovers : s.Recovers v a) (name : String) (presence : Presence) (set : α → σ → σ) :
    (field name presence s set).schema.Recovers v (set a) where
  opens := recovers.opens
  reads fuel rest enough ends := by
    simp only [Json.field, recovers.reads fuel rest enough ends]
    rfl

theorem writeMembers_eq (members : List (String × Value)) :
    writeMembers members = members.map fun (key, v) => writeString key ++ ":" ++ v.write := by
  induction members with
  | nil => rfl
  | cons member members ih => rw [writeMembers, ih, List.map_cons]

theorem bytes_object {σ : Type} (members : List (Member σ)) :
    (Value.object (members.map fun m => (m.name, m.value))).bytes =
      byte '{' :: (commaed true (members.map Member.bytes) ++ [byte '}']) := by
  have colon : Utf8.encode ":" = [byte ':'] := by decide
  have pieces : (writeMembers (members.map fun m => (m.name, m.value))).map Utf8.encode =
      members.map Member.bytes := by
    rw [writeMembers_eq]
    simp [Text.Utf8.encode_append, colon, Member.bytes, Value.bytes]
  rw [Value.bytes, Value.write, ← pieces]
  exact encode_between (by decide) (by decide) _

theorem nextKey_closing (first : Bool) (rest : List UInt8) :
    nextKey first (byte '}' :: rest) = .ok none := by
  rw [nextKey, skipSpace_cons (by decide)]
  simp

theorem nextKey_piece (first : Bool) (rest : List UInt8) :
    nextKey first (if first then byte '"' :: rest else byte ',' :: byte '"' :: rest) =
      .ok (some rest) := by
  have quote : byte '"' ≠ byte '}' := by decide
  have comma : byte ',' ≠ byte '}' := by decide
  have solidQuote : isSpace (byte '"') = false := by decide
  have solidComma : isSpace (byte ',') = false := by decide
  cases first <;> simp [nextKey, skipSpace_cons, solidQuote, solidComma, quote, comma]

theorem colon_cons (rest : List UInt8) : colon (byte ':' :: rest) = .ok rest := by
  rw [colon, skipSpace_cons (by decide)]
  simp

namespace Record

variable {σ : Type} {r : Record σ}

theorem checkMissing_of_seen {fields : List (Field σ)} {seen : List String}
    (all : ∀ f ∈ fields, f.name ∈ seen) : checkMissing fields seen = .ok () := by
  have none : (fields.find? fun f => f.presence = .required && !seen.contains f.name) = none := by
    rw [List.find?_eq_none]
    intro f member
    simp [all f member]
  rw [checkMissing, none]

/-- Where no two fields share a name, a name leads to its field. -/
theorem find?_field {read todo : List (Member σ)} {m : Member σ}
    (fields : r.fields = (read ++ m :: todo).map Member.field)
    (others : ∀ other ∈ read, other.name ≠ m.name) :
    (r.fields.find? fun f => f.name == m.name) = some m.field := by
  rw [List.find?_eq_some_iff_append]
  refine ⟨by simp [Member.name], read.map Member.field, todo.map Member.field, ?_, ?_⟩
  · simp [fields]
  · intro f member
    obtain ⟨other, inRead, rfl⟩ := List.mem_map.mp member
    simpa [Member.name] using others other inRead

/-- The loop over the members of an object goes through the texts of those not yet read. -/
theorem fromMembers_written {read todo : List (Member σ)}
    (fields : r.fields = (read ++ todo).map Member.field)
    (distinct : ((read ++ todo).map Member.name).Nodup) {fuel : Nat} {first : Bool}
    (enough : (commaed first (todo.map Member.bytes)).length < fuel) (record : σ)
    (rest : List UInt8) :
    r.fromMembers fuel first (read.map Member.name).reverse record
      (commaed first (todo.map Member.bytes) ++ byte '}' :: rest) =
        .ok (todo.foldl (fun record m => m.set record) record, rest) := by
  induction todo generalizing read fuel first record with
  | nil =>
    obtain ⟨fuel, rfl⟩ := Nat.exists_eq_succ_of_ne_zero (Nat.ne_of_gt enough)
    have complete : checkMissing r.fields (read.map Member.name).reverse = .ok () := by
      apply checkMissing_of_seen
      intro f member
      simp only [fields, List.append_nil, List.mem_map] at member
      obtain ⟨m, inRead, rfl⟩ := member
      simp only [List.mem_reverse, List.mem_map]
      exact ⟨m, inRead, rfl⟩
    simp only [List.map_nil, commaed, List.nil_append, fromMembers, nextKey_closing, complete]
    simp [lift, bind, Except.bind, endObject, skipSpace_cons (b := byte '}') (by decide)]
    rfl
  | cons m todo ih =>
    obtain ⟨fuel, rfl⟩ := Nat.exists_eq_succ_of_ne_zero (Nat.ne_of_gt (Nat.zero_lt_of_lt enough))
    have lengths := length_commaed_cons first m.bytes (todo.map Member.bytes)
    have shorter : m.value.bytes.length < m.bytes.length := by
      simp only [Member.bytes, List.length_append, List.length_cons]
      omega
    rw [List.map_cons] at enough ⊢
    -- No two members share a name, so the key leads to this field and is new.
    have others : ∀ other ∈ read, other.name ≠ m.name := by
      intro other inRead same
      rw [List.map_append, List.nodup_append] at distinct
      exact distinct.2.2 _ (List.mem_map_of_mem inRead) _ (by simp) same
    have fresh : (read.map Member.name).reverse.contains m.name = false := by
      simpa using others
    have fieldsLater : r.fields = ((read ++ [m]) ++ todo).map Member.field := by simpa using fields
    have distinctLater : (((read ++ [m]) ++ todo).map Member.name).Nodup := by simpa using distinct
    have enoughLater : (commaed false (todo.map Member.bytes)).length < fuel := by omega
    have later := ih fieldsLater distinctLater enoughLater (m.set record)
    rw [List.map_append, List.reverse_append] at later
    have ends : Stops goesOn (commaed false (todo.map Member.bytes) ++ byte '}' :: rest) :=
      stops_commaed (by decide) _ rest
    rw [m.bytes_eq, commaed_cons, List.append_assoc, List.cons_append, fromMembers, nextKey_piece]
    generalize commaed false (todo.map Member.bytes) ++ byte '}' :: rest = behind at ends later ⊢
    have key := stringPart_written m.name (byte ':' :: (m.value.bytes ++ behind))
    have value := m.recovers.reads fuel behind (by omega) ends
    simp only [lift, bind, Except.bind, key, find?_field fields others, fresh, Bool.false_eq_true,
      if_false, colon_cons, value]
    exact later

/-- An object with a member for each field, in order, is read as the record they make up. -/
theorem recovers {members : List (Member σ)} (fields : r.fields = members.map Member.field)
    (distinct : (r.fields.map Field.name).Nodup) :
    r.schema.Recovers (.object (members.map fun m => (m.name, m.value)))
      (members.foldl (fun record m => m.set record) r.blank) where
  opens := ⟨_, _, bytes_object members, by decide, by decide⟩
  reads fuel rest enough _ := by
    rw [bytes_object] at enough ⊢
    have short : (commaed true (members.map Member.bytes)).length < fuel := by
      simp at enough
      omega
    have noBracket : byte '{' ≠ byte '[' := by decide
    have fieldsAhead : r.fields = ([] ++ members).map Member.field := fields
    have distinctAhead : (([] ++ members).map Member.name).Nodup := by
      rw [fieldsAhead, List.map_map] at distinct
      exact distinct
    have all := fromMembers_written fieldsAhead distinctAhead short r.blank rest
    simp only [schema, List.cons_append, List.append_assoc, List.nil_append]
    rw [withValue_cons (by decide), if_neg noBracket, if_pos rfl]
    exact all

end Record

/-! ## Whole texts -/

theorem Schema.Recovers.read {α : Type} {s : Schema α} {v : Value} {a : α}
    (recovers : s.Recovers v a) {blanks : List UInt8} (blank : ∀ b ∈ blanks, isSpace b = true) :
    s.read (v.bytes ++ blanks) = .ok a := by
  have skipped : skipSpace blanks = [] := by
    have dropped := (Text.stops_nil isSpace).dropWhile_append blank
    rwa [List.append_nil] at dropped
  have enough : v.bytes.length ≤ 4 * (v.bytes ++ blanks).length + 4 := by
    rw [List.length_append]
    omega
  have whole := recovers.reads _ blanks enough (stops_of_blank blank)
  simp only [Schema.read, whole, bind, Except.bind, skipped]
  rfl

end SpokenCommand.Json
