import Mathlib
import DocGraph.Proofs.Yaml.Wording
import DocGraph.Yaml.Token

/-!
# Faults of scanning

Where a text cannot be cut into tokens, something is wrong at a place of it, or it holds a character
that is not allowed anywhere. There is one more way: an escape with eight digits asks for the
character of a code that is beyond the last one.

What is still to be read is always an end of the text. That is the invariant under which every step
of scanning is specified, so that the escape at fault is found in the text itself.

## Main definitions

* `Keeps`: a step that keeps an invariant, or fails with a fault of a kind.
* `EscapesBeyond`: a text holds an escape for a code beyond the last character.
* `Scans`: a step of scanning stays within a text and fails only as it should.

## Main results

* `scans_scanToken`: the scan of a token.
* `ofScan_of_tokens`: how the tokens of a text end.
-/

namespace DocGraph.Yaml

open Std.Do

set_option mvcgen.warning false

/-! ## Steps that keep an invariant -/

section

variable {σ α : Type} {I : σ → Prop} {P : Fault → Prop}

/-- A step that starts where an invariant holds ends where it holds, or fails with a fault of a
kind. -/
abbrev Keeps (I : σ → Prop) (P : Fault → Prop) (step : StateT σ (Except Fault) α) : Prop :=
  ⦃fun s => ⌜I s⌝⦄ step ⦃post⟨fun _ s => ⌜I s⌝, fun fault => ⌜P fault⌝⟩⦄

/-- What a step has led to. -/
def Leads (I : σ → Prop) (P : Fault → Prop) : Except Fault (α × σ) → Prop
  | .ok (_, after) => I after
  | .error fault => P fault

theorem leads_of_keeps {step : StateT σ (Except Fault) α} (h : Keeps I P step) {s : σ}
    (start : I s) : Leads I P (step s) :=
  Except.of_wp_eq rfl (Leads I P) fun _ => h s start

end

/-! ## Faults -/

variable {text : List Char}

/-- A text holds an escape with eight digits for a code beyond the last character. -/
def EscapesBeyond (text : List Char) (code : Nat) : Prop :=
  ∃ digits, '\\' :: 'U' :: digits <:+: text ∧ digits.length = 8 ∧ digits.all isHex = true ∧
    hexNumber digits = code ∧ 0x110000 ≤ code

/-- A fault that scanning finds is one of a scalar only if an escape is at fault. Its words take one
line. -/
structure Fault.OfScan (text : List Char) (fault : Fault) : Prop where
  scalar : ∀ cause, fault = .scalar cause →
    ∃ code, cause = .characterCode code ∧ EscapesBeyond text code
  inOneLine : fault.InOneLine

/-- What is still to be read is the end of a text. -/
def Scanner.Within (text : List Char) (s : Scanner) : Prop := s.rest <:+ text

/-- The sign of an escape stands in a text before what is still to be read. -/
def Scanner.Escaping (text : List Char) (s : Scanner) : Prop := '\\' :: s.rest <:+ text

/-- A step of scanning stays within a text, and fails only with faults that scanning finds. -/
abbrev Scans {α : Type} (text : List Char) (step : Scan α) : Prop :=
  Keeps (Scanner.Within text) (Fault.OfScan text) step

theorem ofScan_problem {problem : Problem} (words : problem.InOneLine) (mark : Mark) :
    (Fault.problem problem mark).OfScan text :=
  ⟨nofun, (words.isProblem mark).inOneLine⟩

theorem ofScan_character (code position : Nat) : (Fault.character code position).OfScan text :=
  ⟨nofun, nofun⟩

/-! ## Passing over characters -/

theorem rest_steps (s : Scanner) (n : Nat) : (s.steps n).rest = s.rest.drop n := by
  induction n generalizing s with
  | zero => rfl
  | succ n ih =>
    rw [Scanner.steps, ih]
    cases rest : s.rest <;> simp [Scanner.step, rest]

theorem Scanner.Within.steps {s : Scanner} (h : s.Within text) (n : Nat) :
    (s.steps n).Within text := by
  rw [Scanner.Within, rest_steps]
  exact (List.drop_suffix n s.rest).trans h

theorem Scanner.Within.allowKey {s : Scanner} (h : s.Within text) :
    (if s.flowLevel == 0 then { s with keyAllowed := true } else s).Within text := by
  split <;> exact h

theorem Scanner.Escaping.within {s : Scanner} (h : s.Escaping text) : s.Within text :=
  (List.suffix_cons '\\' s.rest).trans h

theorem escaping_steps {s : Scanner} (h : s.Within text) (sign : s.ahead 0 = '\\') :
    (s.steps 1).Escaping text := by
  rw [Scanner.Escaping, rest_steps]
  cases rest : s.rest with
  | nil => simp [Scanner.ahead, rest, endMark] at sign
  | cons c later =>
    obtain rfl : c = '\\' := by simpa [Scanner.ahead, rest] using sign
    exact rest ▸ h

@[spec]
theorem scans_fail {α : Type} {problem : Problem} (words : problem.InOneLine) :
    Scans text (fail problem : Scan α) :=
  fun s _ => ofScan_problem words s.mark

@[spec]
theorem scans_peek (n : Nat) : Scans text (peek n) := by mvcgen [peek]

@[spec]
theorem scans_skip (n : Nat) : Scans text (skip n) := by
  mvcgen [skip]
  exact Scanner.Within.steps ‹_› n

@[spec]
theorem scans_takeSpan (p : Char → Bool) : Scans text (takeSpan p) := by mvcgen [takeSpan]

@[spec]
theorem scans_takeBreak : Scans text takeBreak := by mvcgen [takeBreak]

@[spec]
theorem scans_hold (kind : TokenKind) (start : Mark) : Scans text (hold kind start) := by
  mvcgen [hold]

@[spec]
theorem scans_expectAhead (p : Char → Bool) {what : String} (words : lineBreaks what = []) :
    Scans text (expectAhead p what) := by
  mvcgen [expectAhead]
  exact fun _ _ => (Problem.inOneLine_expected words _)

@[spec]
theorem scans_skipToToken (fuel : Nat) : Scans text (skipToToken fuel) := by
  induction fuel with
  | zero => mvcgen [skipToToken]
  | succ fuel ih =>
    mvcgen [skipToToken, ih]
    all_goals exact Scanner.Within.allowKey ‹_›

@[spec]
theorem scans_skipIgnoredLine : Scans text skipIgnoredLine := by mvcgen [skipIgnoredLine]

/-! ## Keys and block collections -/

@[spec]
theorem scans_dropKey : Scans text dropKey := by mvcgen [dropKey]

@[spec]
theorem scans_noteKey : Scans text noteKey := by mvcgen [noteKey]

@[spec]
theorem scans_dropStaleKeys : Scans text dropStaleKeys := by mvcgen [dropStaleKeys]

@[spec]
theorem scans_closeBlocks (column : Int) : Scans text (closeBlocks column) := by
  mvcgen [closeBlocks]

@[spec]
theorem scans_openBlock (column : Nat) : Scans text (openBlock column) := by mvcgen [openBlock]

@[spec]
theorem scans_insertHeld (number : Nat) (tokens : List Token) :
    Scans text (insertHeld number tokens) := by
  mvcgen [insertHeld]

/-! ## Names, directives and tags -/

@[spec]
theorem scans_takeVersionNumber : Scans text takeVersionNumber := by mvcgen [takeVersionNumber]

@[spec]
theorem scans_takeName : Scans text takeName := by
  mvcgen [takeName]
  exact fun _ _ => rfl

@[spec]
theorem scans_takeTagHandle : Scans text takeTagHandle := by mvcgen [takeTagHandle]

@[spec]
theorem scans_takeEscapedBytes (fuel : Nat) : Scans text (takeEscapedBytes fuel) := by
  induction fuel with
  | zero => mvcgen [takeEscapedBytes]
  | succ fuel ih => mvcgen [takeEscapedBytes, ih]

@[spec]
theorem scans_takeUriParts (fuel : Nat) : Scans text (takeUriParts fuel) := by
  induction fuel with
  | zero => mvcgen [takeUriParts]
  | succ fuel ih =>
    -- the rule of the library for a thrown fault would leave its monad open
    mvcgen [takeUriParts, ih, -Spec.throw_MonadExcept]
    exact fun _ _ => ofScan_problem (rfl : Problem.InOneLine (.badBytes _)) _

@[spec]
theorem scans_takeUri : Scans text takeUri := by mvcgen [takeUri]

@[spec]
theorem scans_takeDirective : Scans text takeDirective := by mvcgen [takeDirective]

@[spec]
theorem scans_takeAnchorName : Scans text takeAnchorName := by mvcgen [takeAnchorName]

@[spec]
theorem scans_takeTag : Scans text takeTag := by mvcgen [takeTag]

/-! ## Block scalars -/

@[spec]
theorem scans_takeChomping : Scans text takeChomping? := by mvcgen [takeChomping?]

@[spec]
theorem scans_takeIncrement : Scans text takeIncrement? := by
  mvcgen [takeIncrement?]
  exact fun _ _ => rfl

@[spec]
theorem scans_takeBlockSigns : Scans text takeBlockSigns := by mvcgen [takeBlockSigns]

@[spec]
theorem scans_takeLeadingBreaks (fuel deepest : Nat) :
    Scans text (takeLeadingBreaks fuel deepest) := by
  induction fuel generalizing deepest with
  | zero => mvcgen [takeLeadingBreaks]
  | succ fuel ih => mvcgen [takeLeadingBreaks, ih]

@[spec]
theorem scans_takeIndentedBreaks (indent fuel : Nat) :
    Scans text (takeIndentedBreaks indent fuel) := by
  induction fuel with
  | zero => mvcgen [takeIndentedBreaks]
  | succ fuel ih => mvcgen [takeIndentedBreaks, ih]

@[spec]
theorem scans_atIndentedLine (indent : Nat) : Scans text (atIndentedLine indent) := by
  mvcgen [atIndentedLine]

@[spec]
theorem scans_takeBlockLines (folded : Bool) (indent : Nat) (breaks : List Char) (fuel : Nat) :
    Scans text (takeBlockLines folded indent breaks fuel) := by
  induction fuel generalizing breaks with
  | zero => mvcgen [takeBlockLines]
  | succ fuel ih => mvcgen [takeBlockLines, ih]

@[spec]
theorem scans_takeBlockScalar (folded : Bool) : Scans text (takeBlockScalar folded) := by
  mvcgen [takeBlockScalar]

/-! ## Quoted scalars -/

theorem hexNumber_append (digits : List Char) (c : Char) :
    hexNumber (digits ++ [c]) = hexNumber digits * 16 + hexNumber [c] := by
  simp [hexNumber]

theorem hexNumber_singleton_lt {c : Char} (h : isHex c = true) : hexNumber [c] < 16 := by
  simp only [isHex, Bool.or_eq_true, Bool.and_eq_true, decide_eq_true_eq, Char.le_def,
    UInt32.le_iff_toNat_le] at h
  simp only [hexNumber, List.foldl_cons, List.foldl_nil, Char.le_def, UInt32.le_iff_toNat_le,
    Char.toNat]
  simp only [Char.reduceVal, UInt32.reduceToNat] at h ⊢
  split
  · omega
  · split <;> omega

theorem hexNumber_lt {digits : List Char} (h : digits.all isHex = true) :
    hexNumber digits < 16 ^ digits.length := by
  induction digits using List.reverseRecOn with
  | nil => decide
  | append_singleton digits c ih =>
    rw [List.all_append, Bool.and_eq_true] at h
    have before := ih h.1
    have last : hexNumber [c] < 16 := hexNumber_singleton_lt (by simpa using h.2)
    rw [hexNumber_append, List.length_append, List.length_singleton, pow_succ]
    omega

@[spec]
theorem scans_takeQuotedBreaks (fuel : Nat) : Scans text (takeQuotedBreaks fuel) := by
  induction fuel with
  | zero => mvcgen [takeQuotedBreaks]
  | succ fuel ih => mvcgen [takeQuotedBreaks, ih]

theorem escapeSize_eq_some {c : Char} {size : Nat} (h : escapeSize? c = some size) :
    c ≠ endMark ∧ (c = 'U' ∧ size = 8 ∨ size ≤ 4) := by
  obtain rfl | rfl | rfl : c = 'x' ∨ c = 'u' ∨ c = 'U' := by
    by_contra other
    obtain ⟨two, four, eight⟩ := by simpa only [not_or] using other
    simp [escapeSize?, List.lookup_cons, beq_false_of_ne two, beq_false_of_ne four,
      beq_false_of_ne eight] at h
  · obtain rfl : 2 = size := Option.some.inj h
    decide
  · obtain rfl : 4 = size := Option.some.inj h
    decide
  · obtain rfl : 8 = size := Option.some.inj h
    decide

/-- Where the digits of an escape stand for too great a code, the text holds that escape. -/
theorem ofScan_characterCode {s : Scanner} {digits : List Char} {size : Nat}
    (h : s.Escaping text) (sized : escapeSize? (s.ahead 0) = some size)
    (taken : digits = ((s.steps 1).rest.take size).takeWhile isHex) (full : ¬digits.length < size)
    (great : 0x110000 ≤ hexNumber digits) :
    (Fault.scalar (.characterCode (hexNumber digits))).OfScan text := by
  obtain ⟨notEnd, letter⟩ := escapeSize_eq_some sized
  have ahead : digits <+: (s.steps 1).rest.take size := taken ▸ List.takeWhile_prefix isHex
  have hex : digits.all isHex = true := taken ▸ List.all_takeWhile
  have length : digits.length = size := by
    have := ahead.length_le
    rw [List.length_take] at this
    omega
  have less := hexNumber_lt hex
  obtain ⟨capital, rfl⟩ | few := letter
  · refine ⟨?_, nofun⟩
    rintro _ ⟨⟩
    refine ⟨_, rfl, digits, ?_, length, hex, rfl, great⟩
    have later : 'U' :: (s.steps 1).rest = s.rest := by
      rw [rest_steps]
      cases rest : s.rest with
      | nil => simp [Scanner.ahead, rest] at notEnd
      | cons c later => simpa [Scanner.ahead, rest] using capital.symm
    have start : '\\' :: 'U' :: digits <+: '\\' :: s.rest := by
      rw [← later, List.prefix_cons_inj, List.prefix_cons_inj]
      exact ahead.trans (List.take_prefix 8 _)
    exact start.isInfix.trans h.isInfix
  · have small : 16 ^ digits.length ≤ 16 ^ 4 := Nat.pow_le_pow_right (by decide) (by omega)
    omega

@[spec]
theorem scans_takeEscape : ⦃fun s => ⌜s.Escaping text⌝⦄ takeEscape
    ⦃post⟨fun _ s => ⌜s.Within text⌝, fun fault => ⌜fault.OfScan text⌝⟩⦄ := by
  mvcgen [takeEscape, skip, -Spec.throw_MonadExcept]
  case vc1.h_1 _ h _ _ _ _ _ _ => exact h.within.steps 1
  case vc2.words => exact Problem.inOneLine_escape _ _
  case vc3.h_2.isTrue _ h _ _ _ _ _ _ _ => exact h.within.steps 1
  case vc4.h_2.isFalse.isTrue _ h _ _ sized _ _ _ full _ great =>
    exact ofScan_characterCode h sized rfl full great
  case vc5.h_2.isFalse.isFalse _ h _ size _ _ _ _ _ _ _ _ => exact (h.within.steps 1).steps size
  case vc6.h_3.isTrue.pre _ h _ _ _ _ => exact h.within
  case vc9.h_3.isFalse _ h _ _ _ _ => exact h.within

@[spec]
theorem scans_takeQuotedPart (double : Bool) (fuel : Nat) :
    Scans text (takeQuotedPart double fuel) := by
  induction fuel with
  | zero => mvcgen [takeQuotedPart]
  | succ fuel ih =>
    mvcgen [takeQuotedPart, skip, ih]
    · exact Scanner.Within.steps ‹_› 2
    · exact Scanner.Within.steps ‹_› 1
    · rename_i escapes
      exact escaping_steps ‹_› (by grind)

@[spec]
theorem scans_takeQuotedGap : Scans text takeQuotedGap := by mvcgen [takeQuotedGap]

@[spec]
theorem scans_takeQuotedParts (double : Bool) (quote : Char) (fuel : Nat) :
    Scans text (takeQuotedParts double quote fuel) := by
  induction fuel with
  | zero => mvcgen [takeQuotedParts]
  | succ fuel ih => mvcgen [takeQuotedParts, ih]

@[spec]
theorem scans_takeQuotedScalar (double : Bool) : Scans text (takeQuotedScalar double) := by
  mvcgen [takeQuotedScalar]

/-! ## Plain scalars -/

@[spec]
theorem scans_takePlainBreaks (fuel : Nat) : Scans text (takePlainBreaks fuel) := by
  induction fuel with
  | zero => mvcgen [takePlainBreaks]
  | succ fuel ih => mvcgen [takePlainBreaks, ih]

@[spec]
theorem scans_takePlainGap : Scans text takePlainGap := by mvcgen [takePlainGap]

@[spec]
theorem scans_takePlainParts (gap : List Char) (fuel : Nat) :
    Scans text (takePlainParts gap fuel) := by
  induction fuel generalizing gap with
  | zero => mvcgen [takePlainParts]
  | succ fuel ih => mvcgen [takePlainParts, ih]

/-! ## Tokens -/

@[spec]
theorem scans_takeSign (kind : TokenKind) (size : Nat) : Scans text (takeSign kind size) := by
  mvcgen [takeSign]

@[spec]
theorem scans_takeDocumentSign (kind : TokenKind) : Scans text (takeDocumentSign kind) := by
  mvcgen [takeDocumentSign]

@[spec]
theorem scans_takeFlowStart (kind : TokenKind) : Scans text (takeFlowStart kind) := by
  mvcgen [takeFlowStart]

@[spec]
theorem scans_takeFlowEnd (kind : TokenKind) : Scans text (takeFlowEnd kind) := by
  mvcgen [takeFlowEnd]

@[spec]
theorem scans_takeBlockEntry : Scans text takeBlockEntry := by mvcgen [takeBlockEntry]

@[spec]
theorem scans_takeKeySign : Scans text takeKeySign := by mvcgen [takeKeySign]

@[spec]
theorem scans_takeValueSign : Scans text takeValueSign := by mvcgen [takeValueSign]

@[spec]
theorem scans_takeKeyStart {take : Scan TokenKind} (h : Scans text take) :
    Scans text (takeKeyStart take) := by
  mvcgen [takeKeyStart, h]

@[spec]
theorem scans_takeBlock (folded : Bool) : Scans text (takeBlock folded) := by mvcgen [takeBlock]

@[spec]
theorem scans_takeStreamEnd : Scans text takeStreamEnd := by mvcgen [takeStreamEnd]

@[spec]
theorem scans_takeDirectiveToken : Scans text takeDirectiveToken := by mvcgen [takeDirectiveToken]

@[spec]
theorem scans_scanToken : Scans text scanToken := by mvcgen [scanToken]

/-! ## The tokens of a text -/

theorem ofScan_scanOn {next : Scanner → List Token × Option Fault}
    {fault : Fault} (h : ∀ s, s.Within text → (next s).2 = some fault → fault.OfScan text)
    {s : Scanner} (within : s.Within text) (found : (scanOn next s).2 = some fault) :
    fault.OfScan text := by
  have leads := leads_of_keeps scans_scanToken within
  unfold scanOn at found
  split at found
  next failed =>
    cases found
    rwa [failed] at leads
  next passed =>
    rw [passed] at leads
    exact h _ leads found

theorem ofScan_deliver (fuel : Nat) {s : Scanner} (within : s.Within text) {fault : Fault}
    (found : (deliver fuel s).2 = some fault) : fault.OfScan text := by
  induction fuel generalizing s with
  | zero => cases found
  | succ fuel ih =>
    have onward {t : Scanner} (h : t.Within text)
        (found : (scanOn (deliver fuel) t).2 = some fault) : fault.OfScan text :=
      ofScan_scanOn (fun _ => ih) h found
    unfold deliver at found
    split at found
    · cases found
    · split at found
      · exact onward within found
      · have leads := leads_of_keeps scans_dropStaleKeys within
        split at found
        next failed =>
          cases found
          rwa [failed] at leads
        next passed =>
          rw [passed] at leads
          split at found
          · exact onward leads found
          · refine ih ?_ found
            exact leads

/-- The tokens of a text end in a fault that scanning finds, if in one at all. -/
theorem ofScan_of_tokens {fault : Fault} (found : (tokens text).2 = some fault) :
    fault.OfScan text := by
  unfold tokens at found
  split at found
  · cases found
    exact ofScan_character _ _
  · refine ofScan_deliver _ ?_ found
    rw [Scanner.Within, Scanner.start]
    split
    · exact (rest_steps _ 1) ▸ List.drop_suffix 1 text
    · exact List.suffix_refl text

end DocGraph.Yaml
