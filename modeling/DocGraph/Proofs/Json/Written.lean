import DocGraph.Json.Writer
import DocGraph.Proofs.Number.Whole

/-!
# Reading what is written in JSON

An object of single values that is written in JSON is read as it was by the reader that is not
strict, which reads whole numbers of any size.

## Main definitions

* `Json.IsPlain`: values that are written without others inside them.
* `Json.pairChars`: the characters of a pair of an object.

## Main results

* `Json.charOfCode_inj`: codes of four digits make different characters.
* `Json.readString_escaped`: a text between quotes is read.
* `Json.readLenient_text`: an object of single values is read.
-/

namespace DocGraph

namespace Json

theorem Cursor.skip_one (offset : Nat) (c : Char) (rest : List Char) :
    (Cursor.mk offset (c :: rest)).skip 1 = ⟨offset + 1, rest⟩ := rfl

/-! ## Texts -/

theorem toNat_charOfCode {code : Nat} (h : code < 0x10000) : (charOfCode code).toNat =
    if 0xd800 ≤ code ∧ code ≤ 0xdfff then firstLoneHalf + (code - 0xd800) else code := by
  have half : (isHighHalf code || isLowHalf code) = decide (0xd800 ≤ code ∧ code ≤ 0xdfff) := by
    rw [Bool.eq_iff_iff]
    simp [isHighHalf, isLowHalf]
    omega
  rw [charOfCode, half]
  by_cases within : 0xd800 ≤ code ∧ code ≤ 0xdfff
  · have valid : (firstLoneHalf + (code - 0xd800)).isValidChar := by
      simp only [firstLoneHalf, Nat.isValidChar]
      omega
    rw [if_pos (decide_eq_true within), if_pos within, Char.ofNat, dif_pos valid]
    rfl
  · have valid : code.isValidChar := by
      simp only [Nat.isValidChar]
      omega
    rw [if_neg (by simpa using within), if_neg within, Char.ofNat, dif_pos valid]
    rfl

/-- Codes of four digits stay apart as characters, halves without their partners included. -/
theorem charOfCode_inj {code other : Nat} (h : code < 0x10000) (h' : other < 0x10000) :
    charOfCode code = charOfCode other ↔ code = other := by
  rw [← Char.toNat_inj, toNat_charOfCode h, toNat_charOfCode h', firstLoneHalf]
  split <;> split <;> omega

theorem hexValues?_hexDigits {n : Nat} (h : n < 0x20) : hexValues? (hexDigits 4 n) = some n := by
  have codes : ∀ m < 0x20, hexValues? (hexDigits 4 m) = some m := by decide
  exact codes n h

theorem length_hexDigits {n : Nat} (h : n < 0x20) : (hexDigits 4 n).length = 4 := by
  have codes : ∀ m < 0x20, (hexDigits 4 m).length = 4 := by decide
  exact codes n h

theorem readHexEscape_hexDigits {c : Char} (h : c.toNat < 0x20) (offset : Nat) (d : Char)
    (rest : List Char) :
    readHexEscape ⟨offset, hexDigits 4 c.toNat ++ d :: rest⟩ = .ok (c, 4) := by
  have digits : (hexDigits 4 c.toNat ++ d :: rest).take 4 = hexDigits 4 c.toNat :=
    List.take_left' (length_hexDigits h)
  have after : (hexDigits 4 c.toNat ++ d :: rest).drop 4 = d :: rest :=
    List.drop_left' (length_hexDigits h)
  have whole : isHighHalf c.toNat = false := by
    simp [isHighHalf]
    omega
  have lower : isLowHalf c.toNat = false := by
    simp [isLowHalf]
    omega
  simp only [readHexEscape, digits, after, hexValues?_hexDigits h, whole, charOfCode, lower,
    List.isEmpty_cons, Bool.false_eq_true, if_false, Bool.false_and, Bool.or_self,
    Char.ofNat_toNat]

/-- A character is read from its written form, if something follows. -/
theorem readString_escapedChar (start fuel offset : Nat) (read : List Char) (c d : Char)
    (rest : List Char) :
    readString start (fuel + 1) read ⟨offset, escapedChar c ++ d :: rest⟩ =
      readString start fuel (c :: read) ⟨offset + (escapedChar c).length, d :: rest⟩ := by
  unfold escapedChar
  split
  -- The characters with escapes of one letter.
  iterate 7 rfl
  next quote backslash _ _ _ _ _ =>
    split
    next control =>
      have size := length_hexDigits control
      have inside : (Cursor.mk offset ('\\' :: 'u' :: hexDigits 4 c.toNat ++ d :: rest)).skip 2 =
          ⟨offset + 2, hexDigits 4 c.toNat ++ d :: rest⟩ := rfl
      have after : (Cursor.mk offset ('\\' :: 'u' :: hexDigits 4 c.toNat ++ d :: rest)).skip
          (2 + 4) = ⟨offset + (2 + 4), d :: rest⟩ := by
        rw [Cursor.skip, List.drop_left' (by simp [size])]
      simp only [readString, List.cons_append] at inside after ⊢
      simp only [inside, readHexEscape_hexDigits control, List.length_cons, size, Char.reduceBEq,
        Bool.false_eq_true, if_false, if_true, bind, Except.bind, after]
    next plain =>
      have above : ¬ c.toNat ≤ 0x1f := by omega
      have quote' : (c == '"') = false := by simpa using quote
      have backslash' : (c == '\\') = false := by simpa using backslash
      simp only [List.cons_append, List.nil_append, readString, quote', backslash', above]
      rfl

theorem readString_escaped (start : Nat) (cs rest : List Char) {fuel : Nat}
    (enough : cs.length < fuel) (offset : Nat) (read : List Char) :
    readString start fuel read ⟨offset, cs.flatMap escapedChar ++ '"' :: rest⟩ =
      .ok (String.ofList (read.reverse ++ cs),
        ⟨offset + (cs.flatMap escapedChar).length + 1, rest⟩) := by
  induction cs generalizing fuel offset read with
  | nil =>
    obtain ⟨fuel, rfl⟩ := Nat.exists_eq_add_one_of_ne_zero (Nat.ne_of_gt enough)
    simp [readString, Cursor.skip]
  | cons c cs ih =>
    obtain ⟨fuel, rfl⟩ := Nat.exists_eq_add_one_of_ne_zero (Nat.ne_of_gt (Nat.zero_lt_of_lt enough))
    -- What follows the character is the next one or the closing quote.
    obtain ⟨d, after, next⟩ : ∃ d after, cs.flatMap escapedChar ++ '"' :: rest = d :: after :=
      List.exists_cons_of_ne_nil (by simp)
    rw [List.flatMap_cons, List.append_assoc, next, readString_escapedChar, ← next,
      ih (by simpa using enough)]
    simp [Nat.add_assoc]

/-! ## Single values -/

/-- Values that are written without others inside them, and not as binary numbers. -/
inductive IsPlain : Json → Prop
  | null : IsPlain .null
  | bool (b : Bool) : IsPlain (.bool b)
  | integer (n : Int) : IsPlain (.integer n)
  | string (s : String) : IsPlain (.string s)

theorem toList_stringText (s : String) :
    (stringText s).toList = '"' :: (s.toList.flatMap escapedChar ++ ['"']) :=
  String.toList_ofList

theorem escapedChar_ne_nil (c : Char) : escapedChar c ≠ [] := by
  unfold escapedChar
  split
  iterate 7 simp
  split <;> simp

theorem length_le_flatMap_escapedChar (cs : List Char) :
    cs.length ≤ (cs.flatMap escapedChar).length := by
  induction cs with
  | nil => exact Nat.le_refl _
  | cons c cs ih =>
    have first := List.length_pos_iff.mpr (escapedChar_ne_nil c)
    rw [List.flatMap_cons, List.length_append, List.length_cons]
    omega

/-- A digit is none of the characters with which words start. -/
theorem beq_of_isDigit {c x : Char} (digit : c.isDigit = true) (other : x.isDigit = false) :
    (x == c) = false := by
  rw [beq_eq_false_iff_ne]
  rintro rfl
  rw [other] at digit
  cases digit

theorem word?_toString (strict : Bool) (n : Int) (offset : Nat) (rest : List Char) :
    word? strict ⟨offset, (toString n).toList ++ rest⟩ = none := by
  obtain ⟨c, chars, starts, first⟩ := toString_starts n
  have none_of (list : List (String × Json)) (apart : ∀ entry ∈ list,
      entry.1.toList.isPrefixOf (c :: (chars ++ rest)) = false) :
      wordAt? list ⟨offset, c :: (chars ++ rest)⟩ = none :=
    List.find?_eq_none.mpr fun entry mem => by simp [apart entry mem]
  have wordsApart : ∀ entry ∈ words,
      entry.1.toList.isPrefixOf (c :: (chars ++ rest)) = false := by
    have other (x : Char) (letter : x.isDigit = false) (sign : x ≠ '-') : (x == c) = false :=
      beq_eq_false_iff_ne.mpr (ne_of_starts (first.imp_right And.left) letter sign).symm
    simp [words, List.isPrefixOf, other]
  have constantsApart : ∀ entry ∈ constants,
      entry.1.toList.isPrefixOf (c :: (chars ++ rest)) = false := by
    rcases first with digit | ⟨rfl, d, more, rfl, digit⟩
    · simp [constants, List.isPrefixOf, beq_of_isDigit digit]
    · simp [constants, List.isPrefixOf, beq_of_isDigit digit]
  rw [starts, List.cons_append, word?, none_of words wordsApart, none_of constants constantsApart]

theorem readValue_plain {value : Json} (plain : value.IsPlain) {fuel : Nat}
    (enough : value.text.toList.length < fuel) (offset : Nat) {rest : List Char}
    (stops : StopsAt isNumberPart rest) :
    readValue false fuel ⟨offset, value.text.toList ++ rest⟩ =
      .ok (value, ⟨offset + value.text.toList.length, rest⟩) := by
  obtain ⟨fuel, rfl⟩ := Nat.exists_eq_add_one_of_ne_zero (Nat.ne_of_gt (Nat.zero_lt_of_lt enough))
  cases plain with
  | null => rfl
  | bool b => cases b <;> rfl
  | string s =>
    rw [text, toList_stringText] at enough ⊢
    have short : s.toList.length < fuel := by
      have escaped := length_le_flatMap_escapedChar s.toList
      rw [List.length_cons, List.length_append] at enough
      omega
    have inside := readString_escaped offset s.toList rest short (offset + 1) []
    have skipped : (Cursor.mk offset
        ('"' :: (s.toList.flatMap escapedChar ++ '"' :: rest))).skip 1 =
          ⟨offset + 1, s.toList.flatMap escapedChar ++ '"' :: rest⟩ := rfl
    simp only [List.cons_append, List.append_assoc, List.nil_append, readValue, skipped, inside,
      List.reverse_nil, String.ofList_toList, bind, Except.bind, pure, Except.pure]
    simp [Nat.add_assoc, Nat.add_comm 1]
  | integer n =>
    obtain ⟨c, chars, starts, first⟩ := toString_starts n
    have number := readNumber_toString n offset stops
    have word := word?_toString false n offset rest
    have other (x : Char) (letter : x.isDigit = false) (sign : x ≠ '-') : c ≠ x :=
      ne_of_starts (first.imp_right And.left) letter sign
    rw [text]
    rw [starts, List.cons_append] at number word ⊢
    unfold readValue
    split
    next same => exact absurd (List.cons.inj same).1 (other '"' rfl (by decide))
    next same => exact absurd (List.cons.inj same).1 (other '{' rfl (by decide))
    next same => exact absurd (List.cons.inj same).1 (other '[' rfl (by decide))
    next => rw [word, number]

/-! ## Objects -/

/-- The characters of a pair of an object. -/
def pairChars (field : String × Json) : List Char :=
  (stringText field.1).toList ++ ':' :: ' ' :: field.2.text.toList

theorem fieldTexts_eq_map (fields : List (String × Json)) :
    fieldTexts fields = fields.map fun field => stringText field.1 ++ ": " ++ field.2.text := by
  induction fields with
  | nil => rfl
  | cons field rest ih => rw [fieldTexts, ih, List.map_cons]

theorem toList_text_object (fields : List (String × Json)) :
    (text (.object fields)).toList = '{' :: (separated pairChars fields ++ ['}']) := by
  have pair (field : String × Json) :
      (stringText field.1 ++ ": " ++ field.2.text).toList = pairChars field := by
    simp [pairChars]
  rw [text, fieldTexts_eq_map]
  simp [joinText, separated, Function.comp_def, pair]

/-- Whether a character may stand between the parts of a JSON text. -/
def isGap (c : Char) : Bool := c == ' ' || c == '\t' || c == '\n' || c == '\r'

theorem skipBlanks_cons {c : Char} (h : isGap c = false) (rest : List Char) (offset : Nat) :
    (Cursor.mk offset (c :: rest)).skipBlanks = ⟨offset, c :: rest⟩ := by
  have same : (fun x => x == ' ' || x == '\t' || x == '\n' || x == '\r') = isGap := rfl
  rw [Cursor.skipBlanks, same, List.takeWhile_cons_of_neg (by simp [h])]
  rfl

theorem skipBlanks_space {c : Char} (h : isGap c = false) (rest : List Char) (offset : Nat) :
    (Cursor.mk offset (' ' :: c :: rest)).skipBlanks = ⟨offset + 1, c :: rest⟩ := by
  have same : (fun x => x == ' ' || x == '\t' || x == '\n' || x == '\r') = isGap := rfl
  rw [Cursor.skipBlanks, same, List.takeWhile_cons_of_pos rfl,
    List.takeWhile_cons_of_neg (by simp [h])]
  rfl

theorem exists_cons_text {value : Json} (plain : value.IsPlain) : ∃ c rest,
    value.text.toList = c :: rest ∧ isGap c = false := by
  cases plain with
  | null => exact ⟨'n', _, rfl, rfl⟩
  | bool b =>
    cases b with
    | true => exact ⟨'t', _, rfl, rfl⟩
    | false => exact ⟨'f', _, rfl, rfl⟩
  | string s => exact ⟨'"', _, by rw [text, toList_stringText], rfl⟩
  | integer n =>
    obtain ⟨c, rest, starts, first⟩ := toString_starts n
    refine ⟨c, rest, by rw [text, starts], ?_⟩
    rcases first with digit | ⟨rfl, -⟩
    · obtain ⟨low, -⟩ := isDigit_bounds digit
      simp only [isGap, Bool.or_eq_false_iff, beq_eq_false_iff_ne]
      refine ⟨⟨⟨?_, ?_⟩, ?_⟩, ?_⟩ <;>
        · rintro rfl
          revert low
          decide
    · rfl

/-- A pair is read up to what stands after it, which is a comma or the closing brace. -/
theorem readFields_pair {fuel : Nat} (name : String) {value : Json} (plain : value.IsPlain)
    (enough : (pairChars (name, value)).length ≤ fuel) (offset : Nat)
    (read : List (String × Json)) {c : Char} (h : c = ',' ∨ c = '}') (rest : List Char) :
    ∃ after, readFields false (fuel + 1) read
        ⟨offset, pairChars (name, value) ++ c :: rest⟩ =
      if c = '}' then .ok (insertPair read name value, ⟨after, rest⟩)
      else readFields false fuel (insertPair read name value)
        (Cursor.mk after rest).skipBlanks := by
  obtain ⟨first, more, starts, noGap⟩ := exists_cons_text plain
  have sizes : name.toList.length < fuel ∧ value.text.toList.length < fuel := by
    have escaped := length_le_flatMap_escapedChar name.toList
    simp only [pairChars, toList_stringText, List.length_append, List.length_cons,
      List.length_nil] at enough
    omega
  have stops : StopsAt isNumberPart (c :: rest) := by
    rw [stopsAt_cons]
    rcases h with rfl | rfl <;> rfl
  have gap : isGap c = false := by
    rcases h with rfl | rfl <;> rfl
  -- The parts of the pair, one after the other.
  have chars : pairChars (name, value) ++ c :: rest = '"' :: (name.toList.flatMap escapedChar ++
      '"' :: ':' :: ' ' :: (value.text.toList ++ c :: rest)) := by
    simp [pairChars, toList_stringText]
  have atName := readString_escaped offset name.toList
    (':' :: ' ' :: (value.text.toList ++ c :: rest)) sizes.1 (offset + 1) []
  generalize offset + 1 + (name.toList.flatMap escapedChar).length + 1 = colon at atName
  have atValue := readValue_plain plain sizes.2 (colon + 1 + 1) stops
  have space : (Cursor.mk (colon + 1) (' ' :: (value.text.toList ++ c :: rest))).skipBlanks =
      ⟨colon + 1 + 1, value.text.toList ++ c :: rest⟩ := by
    rw [starts]
    exact skipBlanks_space noGap _ _
  refine ⟨colon + 1 + 1 + value.text.toList.length + 1, ?_⟩
  rw [chars]
  simp only [readFields, Cursor.skip_one, atName, List.reverse_nil, List.nil_append,
    String.ofList_toList, bind, Except.bind, skipBlanks_cons (c := ':') rfl, space, atValue,
    skipBlanks_cons gap]
  rcases h with rfl | rfl
  · rw [if_neg (by decide)]
    rfl
  · rw [if_pos rfl]
    rfl

theorem separated_cons_cons (field next : String × Json) (others : List (String × Json)) :
    separated pairChars (field :: next :: others) =
      pairChars field ++ ',' :: ' ' :: separated pairChars (next :: others) := by
  simp [separated_cons]

theorem readFields_pairs (field : String × Json) (others : List (String × Json))
    (plain : ∀ f ∈ field :: others, f.2.IsPlain) {fuel : Nat}
    (enough : (separated pairChars (field :: others)).length < fuel) (offset : Nat)
    (read : List (String × Json)) (rest : List Char) :
    ∃ after, readFields false fuel read
        ⟨offset, separated pairChars (field :: others) ++ '}' :: rest⟩ =
      .ok ((field :: others).foldl (fun fields (key, value) => insertPair fields key value) read,
        ⟨after, rest⟩) := by
  induction others generalizing field fuel offset read with
  | nil =>
    obtain ⟨name, value⟩ := field
    obtain ⟨fuel, rfl⟩ := Nat.exists_eq_add_one_of_ne_zero (Nat.ne_of_gt (Nat.zero_lt_of_lt enough))
    have alone : separated pairChars [(name, value)] = pairChars (name, value) := by
      simp [separated_cons]
    rw [alone] at enough ⊢
    obtain ⟨after, last⟩ := readFields_pair name (plain (name, value) (by simp))
      (Nat.lt_add_one_iff.mp enough) offset read (.inr rfl) rest
    exact ⟨after, last.trans (if_pos rfl)⟩
  | cons next others ih =>
    obtain ⟨name, value⟩ := field
    have further : ∀ f ∈ next :: others, f.2.IsPlain :=
      fun f mem => plain f (List.mem_cons_of_mem _ mem)
    rw [separated_cons_cons, List.length_append, List.length_cons, List.length_cons] at enough
    obtain ⟨fuel, rfl⟩ : ∃ more, fuel = more + 1 := ⟨fuel - 1, by omega⟩
    have short : (pairChars (name, value)).length ≤ fuel := by omega
    have enough' : (separated pairChars (next :: others)).length < fuel := by omega
    obtain ⟨comma, step⟩ := readFields_pair name (plain (name, value) (by simp)) short
      offset read (.inl rfl) (' ' :: (separated pairChars (next :: others) ++ '}' :: rest))
    obtain ⟨after, pairs⟩ := ih next further enough' (comma + 1) (insertPair read name value)
    refine ⟨after, ?_⟩
    have quote : (Cursor.mk comma (' ' :: (separated pairChars (next :: others) ++
        '}' :: rest))).skipBlanks =
          ⟨comma + 1, separated pairChars (next :: others) ++ '}' :: rest⟩ := by
      rw [separated_cons, pairChars, toList_stringText]
      exact skipBlanks_space rfl _ _
    rw [if_neg (by decide), quote, pairs] at step
    rw [separated_cons_cons, List.append_assoc]
    exact step

/-- An object of single values is read from its text. -/
theorem readLenient_text {fields : List (String × Json)}
    (plain : ∀ field ∈ fields, field.2.IsPlain) :
    readLenient (text (.object fields)).toList = .ok (.object (orderedPairs fields)) := by
  rw [toList_text_object]
  cases fields with
  | nil => rfl
  | cons field others =>
    have enough : (separated pairChars (field :: others)).length <
        2 * ('{' :: (separated pairChars (field :: others) ++ ['}'])).length + 1 := by
      rw [List.length_cons, List.length_append]
      omega
    obtain ⟨after, pairs⟩ := readFields_pairs field others plain enough 1 [] []
    -- The first pair starts with a quote, so the object is not an empty one.
    obtain ⟨more, starts⟩ : ∃ more,
        separated pairChars (field :: others) ++ ['}'] = '"' :: more := by
      rw [separated_cons, pairChars, toList_stringText]
      exact ⟨_, rfl⟩
    rw [starts] at pairs ⊢
    have value : readValue false (2 * ('{' :: '"' :: more).length + 2) ⟨0, '{' :: '"' :: more⟩ =
        .ok (.object (orderedPairs (field :: others)), ⟨after, []⟩) := by
      simp only [readValue, Cursor.skip_one, skipBlanks_cons (c := '"') rfl, pairs, bind,
        Except.bind]
      rfl
    simp only [readLenient, readText, skipBlanks_cons (c := '{') rfl, value, bind, Except.bind]
    rfl

end Json

end DocGraph
