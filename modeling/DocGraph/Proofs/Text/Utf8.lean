import DocGraph.Run.Files

/-!
# Reading texts from files

What is written in UTF-8 is read as it was. A text from a file has only line feeds as line
breaks, so a text is read back from a file unless it has carriage returns.

## Main definitions

* `utf8Bytes`: the bytes that encode a text.

## Main results

* `decodeUtf8_utf8Bytes`: a text is read from its bytes.
* `decodeText_utf8Bytes`: a text without carriage returns is read from a file with its bytes.
-/

namespace DocGraph

/-- The bytes that encode a character. -/
def charBytes (c : Char) : List Nat := (String.utf8EncodeChar c).map UInt8.toNat

/-- The bytes that encode a text. -/
def utf8Bytes (text : String) : List Nat := text.toUTF8.toList.map UInt8.toNat

theorem toList_loop_eq (bytes : ByteArray) (i : Nat) (taken : List UInt8) :
    ByteArray.toList.loop bytes i taken = taken.reverse ++ bytes.data.toList.drop i := by
  fun_induction ByteArray.toList.loop bytes i taken with
  | case1 i taken inside ih =>
    have inside' : i < bytes.data.toList.length := by simpa using inside
    rw [ih, List.drop_eq_getElem_cons inside']
    simp [ByteArray.get!, inside]
  | case2 i taken outside =>
    have outside' : bytes.data.toList.length ≤ i := by simpa using outside
    rw [List.drop_eq_nil_of_le outside', List.append_nil]

theorem utf8Bytes_eq_flatMap (text : String) : utf8Bytes text = text.toList.flatMap charBytes := by
  have bytes : text.toUTF8.toList = text.toList.flatMap String.utf8EncodeChar := by
    rw [String.toUTF8, ← String.utf8Encode_toList, List.utf8Encode, ByteArray.toList,
      toList_loop_eq, List.toList_data_toByteArray]
    rfl
  rw [utf8Bytes, bytes, List.map_flatMap]
  rfl

/-! ## One character -/

/-- The bytes after the first one that go on with a shape, and the code that they make. -/
inductive Continues : Nat → List (Nat × Nat) → List Nat → Nat → Prop
  | done (code : Nat) : Continues code [] [] code
  | next {bits low high b code : Nat} {shape : List (Nat × Nat)} {bytes : List Nat}
      (above : low ≤ b) (under : b ≤ high)
      (rest : Continues (bits * 64 + (b - 0x80)) shape bytes code) :
      Continues bits ((low, high) :: shape) (b :: bytes) code

theorem Continues.takeContinuations_eq {bits code : Nat} {shape : List (Nat × Nat)}
    {bytes : List Nat} (h : Continues bits shape bytes code) (taken : Nat) (rest : List Nat) :
    takeContinuations bits taken shape (bytes ++ rest) = .ok code := by
  induction h generalizing taken with
  | done code => cases rest <;> rfl
  | next above under _ ih =>
    rw [List.cons_append, takeContinuations, if_pos (by simp [above, under])]
    exact ih (taken + 1)

theorem Continues.length_eq {bits code : Nat} {shape : List (Nat × Nat)} {bytes : List Nat}
    (h : Continues bits shape bytes code) : shape.length = bytes.length := by
  induction h with
  | done code => rfl
  | next _ _ _ ih => rw [List.length_cons, List.length_cons, ih]

/-- A first byte and those that go on with its shape. -/
def Encodes (bytes : List Nat) (code : Nat) : Prop :=
  ∃ first shape bits tail, bytes = first :: tail ∧ utf8Shape? first = some (bits, shape) ∧
    Continues bits shape tail code

theorem decodeFrom_skip (bytes rest : List Nat) (position : Nat) :
    decodeFrom bytes.length position (bytes ++ rest) =
      decodeFrom 0 (position + bytes.length) rest := by
  induction bytes generalizing position with
  | nil => rfl
  | cons b bytes ih =>
    rw [List.length_cons, List.cons_append, decodeFrom, ih (position + 1)]
    congr 1
    omega

theorem Encodes.decodeFrom_append {bytes : List Nat} {code : Nat} (h : Encodes bytes code)
    (position : Nat) (rest : List Nat) :
    decodeFrom 0 position (bytes ++ rest) =
      (decodeFrom 0 (position + bytes.length) rest).map (Char.ofNat code :: ·) := by
  obtain ⟨first, shape, bits, tail, rfl, shaped, continues⟩ := h
  rw [List.cons_append, decodeFrom, shaped]
  simp only [continues.takeContinuations_eq, continues.length_eq, decodeFrom_skip]
  rw [List.length_cons, Nat.add_assoc, Nat.add_comm 1]
  cases decodeFrom 0 (position + (tail.length + 1)) rest <;> rfl

theorem encodes_one {v : Nat} (h : v ≤ 0x7f) : Encodes [v] v :=
  ⟨v, [], v, [], rfl, by rw [utf8Shape?, if_pos (by omega)], .done v⟩

theorem encodes_two {v : Nat} (low : 0x7f < v) (high : v ≤ 0x7ff) :
    Encodes [v / 64 + 0xc0, v % 64 + 0x80] v := by
  have shaped : utf8Shape? (v / 64 + 0xc0) = some (v / 64, [(0x80, 0xbf)]) := by
    rw [utf8Shape?, if_neg (by omega), if_neg (by omega), if_pos (by omega), Nat.add_sub_cancel]
  refine ⟨_, _, _, _, rfl, shaped, .next (by omega) (by omega) ?_⟩
  have code : v / 64 * 64 + (v % 64 + 0x80 - 0x80) = v := by omega
  rw [code]
  exact .done v

/-- The second of three bytes is bounded by the first one: what could be written in two bytes is
not, nor are surrogate halves. -/
theorem encodes_three {v : Nat} (low : 0x7ff < v) (high : v ≤ 0xffff)
    (whole : v < 0xd800 ∨ 0xdfff < v) :
    Encodes [v / 4096 + 0xe0, v / 64 % 64 + 0x80, v % 64 + 0x80] v := by
  have shaped : ∃ least most, utf8Shape? (v / 4096 + 0xe0) =
      some (v / 4096, [(least, most), (0x80, 0xbf)]) ∧
        least ≤ v / 64 % 64 + 0x80 ∧ v / 64 % 64 + 0x80 ≤ most := by
    rw [utf8Shape?, if_neg (by omega), if_neg (by omega), if_neg (by omega)]
    by_cases first : v / 4096 = 0
    · exact ⟨0xa0, 0xbf, by simp [first], by omega, by omega⟩
    · rw [if_neg (by omega)]
      by_cases halves : v / 4096 = 0xd
      · exact ⟨0x80, 0x9f, by simp [halves], by omega, by omega⟩
      · rw [if_neg (by omega), if_pos (by omega), Nat.add_sub_cancel]
        exact ⟨0x80, 0xbf, rfl, by omega, by omega⟩
  obtain ⟨least, most, shaped, above, under⟩ := shaped
  refine ⟨_, _, _, _, rfl, shaped, .next above under (.next (by omega) (by omega) ?_)⟩
  have code : (v / 4096 * 64 + (v / 64 % 64 + 0x80 - 0x80)) * 64 + (v % 64 + 0x80 - 0x80) = v := by
    omega
  rw [code]
  exact .done v

/-- The second of four bytes is bounded by the first one: what could be written in three bytes is
not, nor is what is beyond the last character. -/
theorem encodes_four {v : Nat} (low : 0xffff < v) (high : v < 0x110000) :
    Encodes [v / 262144 + 0xf0, v / 4096 % 64 + 0x80, v / 64 % 64 + 0x80, v % 64 + 0x80] v := by
  have shaped : ∃ least most, utf8Shape? (v / 262144 + 0xf0) =
      some (v / 262144, [(least, most), (0x80, 0xbf), (0x80, 0xbf)]) ∧
        least ≤ v / 4096 % 64 + 0x80 ∧ v / 4096 % 64 + 0x80 ≤ most := by
    rw [utf8Shape?, if_neg (by omega), if_neg (by omega), if_neg (by omega), if_neg (by omega),
      if_neg (by omega), if_neg (by omega)]
    by_cases first : v / 262144 = 0
    · exact ⟨0x90, 0xbf, by simp [first], by omega, by omega⟩
    · rw [if_neg (by omega)]
      by_cases last : v / 262144 = 4
      · exact ⟨0x80, 0x8f, by simp [last], by omega, by omega⟩
      · rw [if_pos (by omega), Nat.add_sub_cancel]
        exact ⟨0x80, 0xbf, rfl, by omega, by omega⟩
  obtain ⟨least, most, shaped, above, under⟩ := shaped
  refine ⟨_, _, _, _, rfl, shaped,
    .next above under (.next (by omega) (by omega) (.next (by omega) (by omega) ?_))⟩
  have code : ((v / 262144 * 64 + (v / 4096 % 64 + 0x80 - 0x80)) * 64 +
      (v / 64 % 64 + 0x80 - 0x80)) * 64 + (v % 64 + 0x80 - 0x80) = v := by
    omega
  rw [code]
  exact .done v

theorem encodes_charBytes (c : Char) : Encodes (charBytes c) c.toNat := by
  have valid : c.toNat < 0xd800 ∨ 0xdfff < c.toNat ∧ c.toNat < 0x110000 := c.valid
  have byte (n : Nat) (h : n < 256) : (UInt8.ofNat n).toNat = n := UInt8.toNat_ofNat_of_lt' h
  have value : c.val.toNat = c.toNat := rfl
  rw [charBytes, String.utf8EncodeChar]
  simp only [value]
  split
  next one =>
    rw [List.map_singleton, byte _ (by omega)]
    exact encodes_one one
  next one =>
    split
    next two =>
      have first : c.toNat / 64 % 32 = c.toNat / 64 := by omega
      simp only [List.map_cons, List.map_nil, first]
      rw [byte _ (by omega), byte _ (by omega)]
      exact encodes_two (by omega) two
    next two =>
      split
      next three =>
        have first : c.toNat / 4096 % 16 = c.toNat / 4096 := by omega
        simp only [List.map_cons, List.map_nil, first]
        rw [byte _ (by omega), byte _ (by omega), byte _ (by omega)]
        exact encodes_three (by omega) three (by omega)
      next three =>
        have first : c.toNat / 262144 % 8 = c.toNat / 262144 := by omega
        simp only [List.map_cons, List.map_nil, first]
        rw [byte _ (by omega), byte _ (by omega), byte _ (by omega), byte _ (by omega)]
        exact encodes_four (by omega) (by omega)

/-! ## Texts -/

theorem decodeFrom_flatMap_charBytes (cs : List Char) (position : Nat) :
    decodeFrom 0 position (cs.flatMap charBytes) = .ok cs := by
  induction cs generalizing position with
  | nil => rfl
  | cons c cs ih =>
    rw [List.flatMap_cons, (encodes_charBytes c).decodeFrom_append, ih, Char.ofNat_toNat]
    rfl

/-- A text is read from its bytes. -/
theorem decodeUtf8_utf8Bytes (text : String) : decodeUtf8 (utf8Bytes text) = .ok text := by
  rw [decodeUtf8, utf8Bytes_eq_flatMap, decodeFrom_flatMap_charBytes]
  exact congrArg Except.ok String.ofList_toList

theorem unifyBreaks_eq_self {cs : List Char} (h : '\r' ∉ cs) : unifyBreaks cs = cs := by
  fun_induction unifyBreaks cs with
  | case1 => rfl
  | case2 rest ih => simp at h
  | case3 rest _ ih => simp at h
  | case4 c rest _ _ ih => rw [ih fun mem => h (List.mem_cons_of_mem _ mem)]

/-- A text without carriage returns is read from a file with its bytes. -/
theorem decodeText_utf8Bytes {text : String} (h : '\r' ∉ text.toList) :
    decodeText (utf8Bytes text) = .ok text := by
  rw [decodeText, decodeUtf8_utf8Bytes]
  simp only [bind, Except.bind, unifyBreaks_eq_self h]
  exact congrArg Except.ok String.ofList_toList

end DocGraph
