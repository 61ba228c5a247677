import DocGraph.Proofs.Text.LineBreak
import DocGraph.Yaml.Fault

/-!
# The wording of faults of YAML texts

What is found in a text is shown in quotes where something is wrong with it. Without quotes stands
only what the reader itself has a name for: what it has expected, and the shapes of nodes. So a
problem takes one line as long as these names do. A character that is not allowed anywhere is
reported in two lines.

## Main definitions

* `Problem.unquoted`: what is shown without quotes.
* `Problem.InOneLine`, `Fault.InOneLine`: all of that takes one line.
* `Fault.IsProblem`: a fault has a place and takes one line.

## Main results

* `Problem.lineBreaks_message`, `Fault.lineBreaks_character`: the line breaks in the wording.
-/

namespace DocGraph

theorem Utf8Fault.lineBreaks_message (fault : Utf8Fault) : lineBreaks fault.message = [] := by
  have reason : lineBreaks fault.reason.message = [] := by
    cases fault.reason <;> exact lineBreaks_of_all (all_toList_ofList rfl)
  unfold Utf8Fault.message
  split <;>
    simp (disch := (apply all_toList_ofList; decide)) [lineBreaks_of_all, lineBreaks_hexDigits,
      reason]

namespace Yaml

namespace Problem

/-- What is shown without quotes in the wording of a problem, apart from numbers. -/
def unquoted : Problem → List String
  | .expected what _ | .unexpectedToken what _ => [what]
  | .wrongShape what found => [what, found]
  | .mergeItem found | .mergeValue found => [found]
  | .badBase64 reason => [reason]
  | _ => []

/-- What is shown without quotes takes one line. -/
def InOneLine (problem : Problem) : Prop := problem.unquoted.flatMap lineBreaks = []

theorem inOneLine_expected {what : String} (words : lineBreaks what = []) (found : Char) :
    (expected what found).InOneLine := by
  simp [InOneLine, unquoted, words]

theorem inOneLine_unexpected {what : String} (words : lineBreaks what = []) (found : String) :
    (unexpectedToken what found).InOneLine := by
  simp [InOneLine, unquoted, words]

theorem inOneLine_escape (size : Nat) (found : Char) :
    (expected s!"escape sequence of {size} hexadecimal numbers" found).InOneLine := by
  apply inOneLine_expected
  simp (disch := (apply all_toList_ofList; decide)) [lineBreaks_of_all]

theorem lineBreaks_codeText (c : Char) : lineBreaks (codeText c) = [] := by
  rw [codeText, lineBreaks_ofList]
  split
  · exact filter_escape rfl (filter_hexDigits 2 _)
  split
  · exact filter_escape rfl (filter_hexDigits 4 _)
  · exact filter_escape rfl (filter_hexDigits 8 _)

theorem lineBreaks_runText (run : List Char) (position : Nat) :
    lineBreaks (runText run position) = [] := by
  unfold runText
  split <;>
    simp (disch := (apply all_toList_ofList; decide)) [lineBreaks_of_all, lineBreaks_codeText]

/-- Whatever is wrong, the line breaks are those of what is shown without quotes. -/
theorem lineBreaks_message (problem : Problem) :
    lineBreaks problem.message = problem.unquoted.flatMap lineBreaks := by
  -- The other words of all problems are literal texts, on which it is decided.
  unfold Problem.message Problem.unquoted
  cases problem <;>
    simp (disch := (apply all_toList_ofList; decide)) [lineBreaks_of_all,
      Utf8Fault.lineBreaks_message, lineBreaks_runText]

end Problem

/-- Something is wrong at a place, in words that take one line. -/
def Fault.IsProblem (fault : Fault) : Prop :=
  ∃ problem mark, fault = .problem problem mark ∧ problem.InOneLine

/-- A fault takes one line if it is a problem at a place. -/
def Fault.InOneLine (fault : Fault) : Prop :=
  ∀ problem mark, fault = .problem problem mark → problem.InOneLine

theorem Problem.InOneLine.isProblem {problem : Problem} (words : problem.InOneLine) (mark : Mark) :
    (Fault.problem problem mark).IsProblem :=
  ⟨problem, mark, rfl, words⟩

theorem Fault.IsProblem.inOneLine {fault : Fault} (h : fault.IsProblem) : fault.InOneLine := by
  obtain ⟨problem, mark, rfl, words⟩ := h
  rintro _ _ ⟨⟩
  exact words

theorem Fault.lineBreaks_character (code position : Nat) :
    lineBreaks (Fault.message (.character code position)) = ['\n'] := by
  have words : lineBreaks
      ": special characters are not allowed\n  in \"<unicode string>\", position " = ['\n'] :=
    (lineBreaks_ofList _).trans rfl
  unfold Fault.message
  simp (disch := (apply all_toList_ofList; decide)) [lineBreaks_of_all, lineBreaks_hexDigits, words]

end Yaml

end DocGraph
