import Mathlib
import DocGraph.Proofs.Outcome
import DocGraph.Proofs.Yaml.Scanning
import DocGraph.Yaml.Node

/-!
# Faults of trees

A text has no tree where something is wrong at a place of it, or where its tokens end in a fault.
Reading never touches the fault behind the tokens, which is the invariant under which every step is
specified. So a fault of a scalar that keeps a text from having a tree was found in scanning.

## Main definitions

* `Fault.OfTree`: the faults of reading the tokens of a text.
* `Parses`: a step of reading fails only as it should, and keeps the fault behind the tokens.

## Main results

* `parsesNodes`: the nodes, by induction on the bound of their depth.
* `escapesBeyond_of_readNode`: a text without a tree because of a scalar holds an escape for a code
  beyond the last character.
-/

namespace DocGraph.Yaml

open Std.Do

set_option mvcgen.warning false

variable {cause : Option Fault}

/-! ## Faults -/

/-- Something is wrong at a place, in words that take one line, or the tokens end in the fault. -/
def Fault.OfTree (cause : Option Fault) (fault : Fault) : Prop :=
  fault.IsProblem ∨ cause = some fault

/-- A fault stands behind the tokens, or none does. -/
def Reading.EndsIn (cause : Option Fault) (s : Reading) : Prop := s.fault = cause

/-- A step of reading keeps what stands behind the tokens, and fails only with a fault of the
tree. -/
abbrev Parses {α : Type} (cause : Option Fault) (step : Read α) : Prop :=
  Keeps (Reading.EndsIn cause) (Fault.OfTree cause) step

/-! ## Single steps -/

@[spec]
theorem parses_failAt {α : Type} {problem : Problem} (words : problem.InOneLine) (mark : Mark) :
    Parses cause (failAt problem mark : Read α) :=
  fun _ _ => .inl (words.isProblem mark)

@[spec]
theorem parses_nextToken : Parses cause nextToken := by
  mvcgen [nextToken, -Spec.throw_MonadExcept]
  case vc2.h_2 _ kept _ ended _ => exact .inr (kept.symm.trans ended)

@[spec]
theorem parses_advance : Parses cause advance := by mvcgen [advance]

@[spec]
theorem parses_failUnexpected {α : Type} {what : String} (words : lineBreaks what = [])
    (token : Token) : Parses cause (failUnexpected what token : Read α) := by
  mvcgen [failUnexpected]
  exact fun _ _ => Problem.inOneLine_unexpected words _

@[spec]
theorem parses_resolveHandle (handle : Option String) (suffix : String) (mark : Mark) :
    Parses cause (resolveHandle handle suffix mark) := by
  mvcgen [resolveHandle]

@[spec]
theorem parses_takeNodeMarks : Parses cause takeNodeMarks := by mvcgen [takeNodeMarks]

@[spec]
theorem parses_openAnchor (anchor : Option String) (start : Mark) :
    Parses cause (openAnchor anchor start) := by
  mvcgen [openAnchor]

@[spec]
theorem parses_closeAnchor (anchor : Option String) (node : Node) :
    Parses cause (closeAnchor anchor node) := by
  mvcgen [closeAnchor]

@[spec]
theorem parses_takeAlias (name : String) (start : Mark) : Parses cause (takeAlias name start) := by
  mvcgen [takeAlias]

@[spec]
theorem parses_takeSeparator (closer : TokenKind) (first : Bool) :
    Parses cause (takeSeparator closer first) := by
  mvcgen [takeSeparator]
  exact fun _ _ => rfl

/-! ## Nodes -/

/-- The steps that read nodes, with a bound of their depth. -/
structure ParsesNodes (cause : Option Fault) (fuel : Nat) : Prop where
  node : ∀ place, Parses cause (takeNode place fuel)
  content : ∀ place marks start token, Parses cause (takeContent place marks start token fuel)
  nodeAfter : ∀ sign place without, Parses cause (takeNodeAfter sign place without fuel)
  items : Parses cause (takeItems fuel)
  looseItems : Parses cause (takeLooseItems fuel)
  pairs : Parses cause (takePairs fuel)
  pairsWith : ∀ key, Parses cause (takePairsWith key fuel)
  value : ∀ place without, Parses cause (takeValue place without fuel)
  flowItems : ∀ first, Parses cause (takeFlowItems first fuel)
  flowPairs : ∀ first, Parses cause (takeFlowPairs first fuel)

theorem parsesNodes (fuel : Nat) : ParsesNodes cause fuel := by
  induction fuel with
  | zero =>
    constructor
    · intro place
      mvcgen [takeNode]
    · intro place marks start token
      mvcgen [takeContent]
    · intro sign place without
      mvcgen [takeNodeAfter]
    · mvcgen [takeItems]
    · mvcgen [takeLooseItems]
    · mvcgen [takePairs]
    · intro key
      mvcgen [takePairsWith]
    · intro place without
      mvcgen [takeValue]
    · intro first
      mvcgen [takeFlowItems]
    · intro first
      mvcgen [takeFlowPairs]
  | succ fuel ih =>
    obtain ⟨node, content, nodeAfter, items, looseItems, pairs, pairsWith, value, flowItems,
      flowPairs⟩ := ih
    constructor
    · intro place
      mvcgen [takeNode, content]
    · intro place marks start token
      mvcgen [takeContent, items, looseItems, pairs, flowItems, flowPairs]
      exact fun _ _ => rfl
    · intro sign place without
      mvcgen [takeNodeAfter, node]
    · mvcgen [takeItems, nodeAfter, items]
      exact fun _ _ => rfl
    · mvcgen [takeLooseItems, nodeAfter, looseItems]
    · mvcgen [takePairs, nodeAfter, pairsWith]
      exact fun _ _ => rfl
    · intro key
      mvcgen [takePairsWith, value, pairs]
    · intro place without
      mvcgen [takeValue, nodeAfter]
    · intro first
      mvcgen [takeFlowItems, node, nodeAfter, value, flowItems]
    · intro first
      mvcgen [takeFlowPairs, node, nodeAfter, value, flowPairs]

@[spec]
theorem parses_takeNode (place : NodePlace) (fuel : Nat) : Parses cause (takeNode place fuel) :=
  (parsesNodes fuel).node place

/-! ## Documents -/

@[spec]
theorem parses_takeDirectives (versionSeen : Bool) (handles : List (String × String)) (fuel : Nat) :
    Parses cause (takeDirectives versionSeen handles fuel) := by
  induction fuel generalizing versionSeen handles with
  | zero => mvcgen [takeDirectives]
  | succ fuel ih =>
    mvcgen [takeDirectives, ih]
    all_goals exact fun _ _ => rfl

@[spec]
theorem parses_takeDocumentHead (fuel : Nat) : Parses cause (takeDocumentHead fuel) := by
  mvcgen [takeDocumentHead]
  exact fun _ _ => rfl

@[spec]
theorem parses_skipDocumentEnds (fuel : Nat) : Parses cause (skipDocumentEnds fuel) := by
  induction fuel with
  | zero => mvcgen [skipDocumentEnds]
  | succ fuel ih => mvcgen [skipDocumentEnds, ih]

@[spec]
theorem parses_takeDocumentContent (fuel : Nat) : Parses cause (takeDocumentContent fuel) := by
  mvcgen [takeDocumentContent]

@[spec]
theorem parses_expectEnd (fuel : Nat) : Parses cause (expectEnd fuel) := by
  mvcgen [expectEnd]
  exact fun _ _ => rfl

@[spec]
theorem parses_takeDocument (fuel : Nat) : Parses cause (takeDocument fuel) := by
  mvcgen [takeDocument]

/-! ## The tree of a text -/

/-- A text has no tree because of its tokens, or because of a problem that takes one line. -/
theorem ofTree_of_readNode {text : List Char} {fault : Fault}
    (failed : readNode text = .error fault) : fault.OfTree (tokens text).2 := by
  let first : Reading := ⟨(tokens text).1, (tokens text).2, [], defaultHandles⟩
  have found : takeDocument (4 * (tokens text).1.length + 8) first = .error fault :=
    map_eq_error_iff.mp failed
  have kept : first.EndsIn (tokens text).2 := rfl
  have leads := leads_of_keeps (parses_takeDocument (4 * (tokens text).1.length + 8)) kept
  rwa [found] at leads

/-- A scalar keeps a text from having a tree only if the text holds an escape for a code beyond the
last character. -/
theorem escapesBeyond_of_readNode {text : List Char} {fault : ScalarFault}
    (failed : readNode text = .error (.scalar fault)) :
    ∃ code, fault = .characterCode code ∧ EscapesBeyond text code := by
  obtain ⟨problem, mark, ⟨⟩, -⟩ | ended := ofTree_of_readNode failed
  exact (ofScan_of_tokens ended).scalar fault rfl

theorem inOneLine_of_readNode {text : List Char} {fault : Fault}
    (failed : readNode text = .error fault) : fault.InOneLine := by
  obtain problem | ended := ofTree_of_readNode failed
  · exact problem.inOneLine
  · exact (ofScan_of_tokens ended).inOneLine

end DocGraph.Yaml
