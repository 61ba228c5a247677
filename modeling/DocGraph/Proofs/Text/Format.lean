/-!
# Formats that tell where their texts end

A format is a way to write the members of a type as characters. It is self-delimiting if a
member can be told from its characters even with something else after them, as long as what
follows is of a kind that the format leaves for this. Formats that are put together from
self-delimiting ones are self-delimiting again.

## Main definitions

* `SelfDelimiting`: what is written can be told from its characters and from what follows.
* `StopsAt`: nothing follows, or a character that is not of a given kind.
* `separated`: members with separators between them.
* `SeparatorOrEnd`: what may stand after a member of a list that ends with the text.

## Main results

* `selfDelimiting_span`, `selfDelimiting_enclosed`: characters of one kind, and characters up to
  a closing one.
* `SelfDelimiting.append`, `SelfDelimiting.separated`: one thing after another, and lists with a
  separator and a closing character.
* `SelfDelimiting.eq_of_separated`: lists with a separator that end with the text.
-/

namespace DocGraph

variable {α β : Type}

/-- Members of a type that are written as the same characters, with something after each that
may stand there, are the same, and so is what follows. -/
def SelfDelimiting (valid : α → Prop) (follows : List Char → Prop) (chars : α → List Char) : Prop :=
  ∀ ⦃a b : α⦄, valid a → valid b → ∀ ⦃x y : List Char⦄, follows x → follows y →
    chars a ++ x = chars b ++ y → a = b ∧ x = y

/-- Characters of a kind do not go on. -/
def StopsAt (kind : Char → Bool) (rest : List Char) : Prop := ∀ c ∈ rest.head?, kind c = false

/-- Anything may follow. -/
def Anything (_ : List Char) : Prop := True

theorem stopsAt_cons {kind : Char → Bool} {c : Char} (rest : List Char) :
    StopsAt kind (c :: rest) ↔ kind c = false := by
  simp [StopsAt]

/-! ## Simple formats -/

/-- Characters of one kind end where another one follows. -/
theorem selfDelimiting_span (kind : Char → Bool) :
    SelfDelimiting (fun cs : List Char => ∀ c ∈ cs, kind c = true) (StopsAt kind) id := by
  intro a
  induction a with
  | nil =>
    rintro (_ | ⟨d, b⟩) - within x y stop - same
    -- What goes on in one text would have to stop in the other.
    · exact ⟨rfl, same⟩
    · obtain rfl : x = d :: b ++ y := same
      have left_out := stop d (by simp)
      simp [within d] at left_out
  | cons c a ih =>
    rintro (_ | ⟨d, b⟩) within within' x y stop stop' same
    · obtain rfl : c :: a ++ x = y := same
      have left_out := stop' c (by simp)
      simp [within c] at left_out
    · obtain ⟨rfl, rest⟩ : c = d ∧ a ++ x = b ++ y := by simpa using same
      obtain ⟨rfl, rfl⟩ := ih (fun c h => within c (by simp [h]))
        (fun c h => within' c (by simp [h])) stop stop' rest
      exact ⟨rfl, rfl⟩

/-- Characters that are closed by one that is not among them. -/
theorem selfDelimiting_enclosed (close : Char) :
    SelfDelimiting (fun cs : List Char => close ∉ cs) Anything (· ++ [close]) := by
  intro a b without without' x y _ _ same
  have stop (rest : List Char) : StopsAt (· != close) (close :: rest) := by
    simp [stopsAt_cons]
  have kind {cs : List Char} (h : close ∉ cs) : ∀ c ∈ cs, (c != close) = true := by
    intro c hc
    exact bne_iff_ne.mpr (ne_of_mem_of_not_mem hc h)
  obtain ⟨rfl, rest⟩ := selfDelimiting_span (· != close) (kind without) (kind without') (stop x)
    (stop y) (by simpa using same)
  exact ⟨rfl, by simpa using rest⟩

/-! ## Formats made of others -/

section

variable {valid : α → Prop} {valid' : β → Prop} {follows follows' : List Char → Prop}
  {chars : α → List Char} {chars' : β → List Char}

/-- Characters that stand before all members make no difference. -/
theorem SelfDelimiting.after (h : SelfDelimiting valid follows chars) (front : List Char) :
    SelfDelimiting valid follows (front ++ chars ·) := by
  intro a b ha hb x y hx hy same
  exact h ha hb hx hy (by simpa using same)

/-- The members of a type are written as those of another that they are told by. -/
theorem SelfDelimiting.comp (h : SelfDelimiting valid follows chars) {f : β → α}
    (told : ∀ ⦃a b : β⦄, valid' a → valid' b → f a = f b → a = b)
    (carried : ∀ a, valid' a → valid (f a)) :
    SelfDelimiting valid' follows (chars ∘ f) := by
  intro a b ha hb x y hx hy same
  obtain ⟨eq, rest⟩ := h (carried a ha) (carried b hb) hx hy same
  exact ⟨told ha hb eq, rest⟩

/-- One thing after another, if what the second is written as may follow the first. -/
theorem SelfDelimiting.append (h : SelfDelimiting valid follows chars)
    (h' : SelfDelimiting valid' follows' chars')
    (next : ∀ b, valid' b → ∀ rest, follows' rest → follows (chars' b ++ rest)) :
    SelfDelimiting (fun pair : α × β => valid pair.1 ∧ valid' pair.2) follows'
      (fun pair => chars pair.1 ++ chars' pair.2) := by
  rintro ⟨a, b⟩ ⟨a', b'⟩ ⟨ha, hb⟩ ⟨ha', hb'⟩ x y hx hy same
  obtain ⟨rfl, rest⟩ := h ha ha' (next b hb x hx) (next b' hb' y hy)
    (by simpa only [List.append_assoc] using same)
  obtain ⟨rfl, rfl⟩ := h' hb hb' hx hy rest
  exact ⟨rfl, rfl⟩

/-- What stands after a member starts with a comma or with the closing character. -/
theorem follows_continued {close : Char} (comma : ∀ rest, follows (',' :: rest))
    (closed : ∀ rest, follows (close :: rest)) (items : List α) (rest : List Char) :
    follows (items.flatMap ([',', ' '] ++ chars ·) ++ close :: rest) := by
  cases items with
  | nil => exact closed rest
  | cons => exact comma _

/-- Members with a comma and a space before each of them, up to a closing character. -/
theorem SelfDelimiting.continued (close : Char) (h : SelfDelimiting valid follows chars)
    (comma : ∀ rest, follows (',' :: rest)) (closed : ∀ rest, follows (close :: rest))
    (differs : close ≠ ',') :
    SelfDelimiting (fun items : List α => ∀ a ∈ items, valid a) Anything
      (fun items => items.flatMap ([',', ' '] ++ chars ·) ++ [close]) := by
  intro items
  induction items with
  | nil =>
    rintro (_ | ⟨b, others⟩) - - x y - - same
    · exact ⟨rfl, by simpa using same⟩
    · simp [differs] at same
  | cons a items ih =>
    rintro (_ | ⟨b, others⟩) ha hb x y - - same
    · simp [differs.symm] at same
    · obtain ⟨first, further⟩ := List.forall_mem_cons.mp ha
      obtain ⟨first', further'⟩ := List.forall_mem_cons.mp hb
      simp only [List.flatMap_cons, List.append_assoc, List.cons_append, List.nil_append,
        List.cons.injEq, true_and] at same
      obtain ⟨rfl, rest⟩ := h first first' (follows_continued comma closed items x)
        (follows_continued comma closed others y) same
      obtain ⟨rfl, rfl⟩ := ih further further' trivial trivial (by simpa using rest)
      exact ⟨rfl, rfl⟩

/-- Members with a comma and a space between them. -/
def separated (chars : α → List Char) (items : List α) : List Char :=
  [',', ' '].intercalate (items.map chars)

theorem separated_cons (chars : α → List Char) (a : α) (items : List α) :
    separated chars (a :: items) = chars a ++ items.flatMap ([',', ' '] ++ chars ·) := by
  induction items generalizing a with
  | nil => simp [separated]
  | cons b items ih =>
    have next := ih b
    simp only [separated, List.map_cons] at next ⊢
    rw [List.intercalate_cons_cons, next]
    simp

/-- Lists with a comma and a space between their members, up to a closing character that no
member starts with. -/
theorem SelfDelimiting.separated (close : Char) (h : SelfDelimiting valid follows chars)
    (comma : ∀ rest, follows (',' :: rest)) (closed : ∀ rest, follows (close :: rest))
    (differs : close ≠ ',') (some : ∀ a, valid a → ∃ c rest, chars a = c :: rest ∧ c ≠ close) :
    SelfDelimiting (fun items : List α => ∀ a ∈ items, valid a) Anything
      (fun items => separated chars items ++ [close]) := by
  rintro (_ | ⟨a, items⟩) (_ | ⟨b, others⟩) ha hb x y - - same
  -- The closing character tells whether there are members at all.
  · exact ⟨rfl, by simpa [DocGraph.separated] using same⟩
  · obtain ⟨c, rest, starts, ne⟩ := some b (hb b (by simp))
    simp [DocGraph.separated, starts, ne.symm] at same
  · obtain ⟨c, rest, starts, ne⟩ := some a (ha a (by simp))
    simp [DocGraph.separated, starts, ne] at same
  · obtain ⟨first, further⟩ := List.forall_mem_cons.mp ha
    obtain ⟨first', further'⟩ := List.forall_mem_cons.mp hb
    simp only [separated_cons, List.append_assoc, List.singleton_append] at same
    obtain ⟨rfl, rest⟩ := h first first' (follows_continued comma closed items x)
      (follows_continued comma closed others y) same
    obtain ⟨rfl, rfl⟩ := h.continued close comma closed differs further further' trivial trivial
      (by simpa using rest)
    exact ⟨rfl, rfl⟩

/-- Nothing follows, or a comma and a space do. -/
def SeparatorOrEnd (rest : List Char) : Prop := rest = [] ∨ [',', ' '] <+: rest

theorem separatorOrEnd_continued (chars : α → List Char) (items : List α) :
    SeparatorOrEnd (items.flatMap ([',', ' '] ++ chars ·)) := by
  cases items with
  | nil => exact .inl rfl
  | cons a items => exact .inr ⟨chars a ++ items.flatMap ([',', ' '] ++ chars ·), by simp⟩

/-- Members with a comma and a space before each of them, up to the end. -/
theorem SelfDelimiting.eq_of_continued (h : SelfDelimiting valid SeparatorOrEnd chars)
    {items others : List α} (hi : ∀ a ∈ items, valid a) (ho : ∀ b ∈ others, valid b)
    (same : items.flatMap ([',', ' '] ++ chars ·) = others.flatMap ([',', ' '] ++ chars ·)) :
    items = others := by
  induction items generalizing others with
  | nil =>
    cases others with
    | nil => rfl
    | cons b others => simp at same
  | cons a items ih =>
    cases others with
    | nil => simp at same
    | cons b others =>
      obtain ⟨first, further⟩ := List.forall_mem_cons.mp hi
      obtain ⟨first', further'⟩ := List.forall_mem_cons.mp ho
      simp only [List.flatMap_cons, List.append_assoc, List.append_cancel_left_eq] at same
      obtain ⟨rfl, rest⟩ := h first first' (separatorOrEnd_continued chars items)
        (separatorOrEnd_continued chars others) same
      rw [ih further further' rest]

/-- Lists with a comma and a space between their members, up to the end. A list of one member that
is written as nothing looks like the list without members. -/
theorem SelfDelimiting.eq_of_separated (h : SelfDelimiting valid SeparatorOrEnd chars)
    {items others : List α} (hi : ∀ a ∈ items, valid a) (ho : ∀ b ∈ others, valid b)
    (same : DocGraph.separated chars items = DocGraph.separated chars others) :
    items = others ∨ (items = [] ∧ ∃ b, others = [b] ∧ chars b = []) ∨
      others = [] ∧ ∃ a, items = [a] ∧ chars a = [] := by
  have alone {a : α} {items : List α} (nothing : DocGraph.separated chars (a :: items) = []) :
      items = [] ∧ chars a = [] := by
    rw [separated_cons, List.append_eq_nil_iff] at nothing
    cases items with
    | nil => exact ⟨rfl, nothing.1⟩
    | cons b items => simp at nothing
  match items, others with
  | [], [] => exact .inl rfl
  | [], b :: others =>
    obtain ⟨rfl, nothing⟩ := alone same.symm
    exact .inr (.inl ⟨rfl, b, rfl, nothing⟩)
  | a :: items, [] =>
    obtain ⟨rfl, nothing⟩ := alone same
    exact .inr (.inr ⟨rfl, a, rfl, nothing⟩)
  | a :: items, b :: others =>
    obtain ⟨first, further⟩ := List.forall_mem_cons.mp hi
    obtain ⟨first', further'⟩ := List.forall_mem_cons.mp ho
    rw [separated_cons, separated_cons] at same
    obtain ⟨rfl, rest⟩ := h first first' (separatorOrEnd_continued chars items)
      (separatorOrEnd_continued chars others) same
    rw [h.eq_of_continued further further' rest]
    exact .inl rfl

end

end DocGraph
