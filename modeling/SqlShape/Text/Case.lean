import SqlShape.Text.CaseContext
import SqlShape.Text.CaseTable

/-!
# Upper and lower case of a text

Case mapping goes character by character with the full mappings, so that one character may become several.
One rule looks around: a capital sigma at the end of a word becomes the final form of the small sigma.
-/

namespace SqlShape.Text

/-- The shift of a character in a list of runs. -/
def shiftOf? (runs : List CaseRun) (n : Nat) : Option Int :=
  (runs.find? fun r => decide (r.first ≤ n) && decide (n ≤ r.last) && decide ((n - r.first) % r.step = 0)).map
    CaseRun.shift

/-- The characters that one character maps to. -/
def mapCase (expansions : List (Nat × List Nat)) (runs : List CaseRun) (c : Char) : List Char :=
  match expansions.lookup c.toNat with
  | some targets => targets.map Char.ofNat
  | none =>
    match shiftOf? runs c.toNat with
    | some shift => [Char.ofNat (c.toNat + shift).toNat]
    | none => [c]

/-- Upper case of one character. -/
def upperChar (c : Char) : List Char :=
  mapCase upperExpansions upperRuns c

/-- Lower case of one character, away from the rule for sigma. -/
def lowerChar (c : Char) : List Char :=
  mapCase lowerExpansions lowerRuns c

/-- The capital sigma. -/
def capitalSigma : Char :=
  Char.ofNat 0x3a3

/-- The small sigma at the end of a word. -/
def finalSigma : Char :=
  Char.ofNat 0x3c2

/-- The nearest character that case rules do not look through is a cased letter. -/
def leadsToCased (cs : List Char) : Bool :=
  match cs.dropWhile isCaseIgnorable with
  | [] => false
  | c :: _ => isCased c

/-- Lower case of the characters after `before`, which holds what precedes them in reverse. -/
def lowerFrom (before : List Char) : List Char → List Char
  | [] => []
  | c :: rest =>
    let image :=
      if c = capitalSigma ∧ leadsToCased before ∧ !leadsToCased rest then [finalSigma] else lowerChar c
    image ++ lowerFrom (c :: before) rest

/-- The text in upper case. -/
def upper (text : String) : String :=
  String.ofList (text.toList.flatMap upperChar)

/-- The text in lower case. -/
def lower (text : String) : String :=
  String.ofList (lowerFrom [] text.toList)

end SqlShape.Text
