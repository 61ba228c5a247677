import DocGraph.Proofs.Yaml.Building
import DocGraph.Proofs.Yaml.Reading

/-!
# Problems of YAML texts take one line

Wherever a text without a value is given up, what is shown of it without quotes takes one line: by
the readers of tokens and of nodes, and where scalars are read and values are built. Scalars that
name no value and characters that are not allowed have wordings of their own.

## Main results

* `inOneLine_of_scalarValue`, `inOneLine_of_build`: scalars and values.
* `inOneLine_of_read`: whole texts.
-/

namespace DocGraph.Yaml

/-! ## Scalars -/

theorem lineBreaks_of_base64Bytes {group : List Nat} {pads count : Nat} {cs : List Char}
    {reason : String} (h : base64Bytes group pads count cs = .error reason) :
    lineBreaks reason = [] := by
  fun_induction base64Bytes group pads count cs
  case case1 | case4 => cases h
  case case2 =>
    obtain rfl := Except.error.inj h
    simp (disch := (apply all_toList_ofList; decide)) [lineBreaks_of_all]
  case case3 =>
    obtain rfl := Except.error.inj h
    exact lineBreaks_of_all (all_toList_ofList rfl)
  case case5 ih | case6 ih | case7 ih | case8 ih => exact ih h
  case case9 ih | case10 ih | case11 ih =>
    obtain failed | ⟨_, -, ⟨⟩⟩ := bind_eq_error_iff.mp h
    exact ih failed

theorem inOneLine_of_bytesOfText {text : String} {problem : Problem}
    (h : bytesOfText text = .error problem) : problem.InOneLine := by
  unfold bytesOfText at h
  dsimp only at h
  split at h
  · obtain ⟨reason, failed, rfl⟩ := mapError_eq_error_iff.mp h
    simp [Problem.InOneLine, Problem.unquoted, lineBreaks_of_base64Bytes failed]
  · cases h
    rfl

/-- The value of a scalar is missing because of the bytes in it, or because it names none. -/
theorem inOneLine_of_scalarValue {tag : Tag} {text : String} {start : Mark} {fault : Fault}
    (h : scalarValue tag text start = .error fault) : fault.InOneLine := by
  have none (cause : ScalarFault) : (Fault.scalar cause).InOneLine := nofun
  unfold scalarValue at h
  dsimp only at h
  split at h
  case h_1 | h_7 => cases h
  case h_2 =>
    split at h
    · cases h
    · exact Except.error.inj h ▸ none _
  case h_3 | h_4 | h_5 =>
    obtain ⟨cause, -, rfl⟩ := mapError_eq_error_iff.mp h
    exact none cause
  case h_6 =>
    obtain ⟨problem, failed, rfl⟩ := mapError_eq_error_iff.mp h
    exact ((inOneLine_of_bytesOfText (map_eq_error_iff.mp failed)).isProblem start).inOneLine

theorem inOneLine_of_scalarText {depth : Nat} {node : Node} {fault : Fault}
    (h : scalarText depth node = .error fault) : fault.InOneLine := by
  have asked : lineBreaks "a scalar node" = [] := lineBreaks_of_all (all_toList_ofList rfl)
  fun_induction scalarText depth node
  case case1 => cases h
  case case3 ih => exact ih h
  case case4 tag pairs start _ =>
    obtain rfl := Except.error.inj h
    have words := Problem.inOneLine_wrongShape asked (.mapping tag pairs start)
    exact (words.isProblem start).inOneLine
  case case2 node _ | case5 node _ _ _ =>
    obtain rfl := Except.error.inj h
    exact ((Problem.inOneLine_wrongShape asked node).isProblem node.start).inOneLine

theorem inOneLine_of_scalarOf {depth : Nat} {node : Node} {fault : Fault}
    (h : scalarOf depth node = .error fault) : fault.InOneLine := by
  obtain failed | ⟨written, -, failed⟩ := bind_eq_error_iff.mp h
  · exact inOneLine_of_scalarText failed
  · split at failed
    next => exact Except.error.inj failed ▸ nofun
    next => exact inOneLine_of_scalarValue failed

/-! ## Values -/

theorem inOneLine_of_build {depth : Nat} {node : Node} {fault : Fault}
    (h : (build depth node).HasFault fault) : fault.InOneLine := by
  induction depth generalizing node with
  | zero => cases h
  | succ depth ih =>
    obtain ⟨found, -, faulty⟩ | problem | failed := hasFault_build h
    · exact faulty.elim ih ih
    · exact problem.inOneLine
    · exact inOneLine_of_scalarOf failed

/-- A text without a value has a problem that takes one line, if any. -/
theorem inOneLine_of_read {text : String} {fault : Fault} (h : read text = .error fault) :
    fault.InOneLine := by
  rw [read] at h
  obtain failed | ⟨root, -, h⟩ := bind_eq_error_iff.mp h
  · exact inOneLine_of_readNode failed
  · cases root with
    | none => cases h
    | some tree =>
      dsimp only at h
      split at h
      next first =>
        cases h
        exact inOneLine_of_build (Built.hasFault_of_firstFault first)
      next => cases h

end DocGraph.Yaml
