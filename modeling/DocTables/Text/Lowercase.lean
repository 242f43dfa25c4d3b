import DocTables.Text.Lowercase.Table
import DocTables.Text.Ranges

/-!
# Lowercasing text

Every character becomes its small letter, with the two exceptions of the Unicode rules: the capital
I with a dot above becomes two characters, and the capital sigma at the end of a word becomes the
final small sigma.
-/

namespace DocTables.Text

/-- Whether the character has letter case. -/
def isCased (c : Char) : Bool := inRanges casedRanges c.toNat

/-- Whether the character is skipped when the neighbouring letter is looked for. -/
def isCaseIgnorable (c : Char) : Bool := inRanges caseIgnorableRanges c.toNat

/-- Whether the run has an entry for the code point. -/
def CaseRun.covers (run : CaseRun) (n : Nat) : Bool :=
  run.first ≤ n && n ≤ run.last && (n - run.first) % run.step == 0

/-- The small letter of a character; a character without one is its own. -/
def smallLetter (c : Char) : Char :=
  match caseRuns.find? fun run => run.covers c.toNat with
  | some run => Char.ofNat (c.toNat + run.distance).toNat
  | none => c

/-- Whether the first character that is not skipped has letter case. -/
def reachesLetter (cs : List Char) : Bool :=
  match cs.dropWhile isCaseIgnorable with
  | [] => false
  | c :: _ => isCased c

/-- The capital sigma, whose small form depends on its place in the word. -/
def capitalSigma : Char := Char.ofNat 0x3A3

/-- The small form of the capital sigma: final when a letter comes before and none after. -/
def smallSigma (before after : List Char) : Char :=
  if reachesLetter before && !reachesLetter after then Char.ofNat 0x3C2 else Char.ofNat 0x3C3

/-- Lowercases a list of characters, given the characters before it in reverse. -/
def lowerFrom (before : List Char) : List Char → List Char
  | [] => []
  | c :: rest =>
    let small :=
      if c = capitalSigma then [smallSigma before rest]
      else if c.toNat = 0x130 then ['i', Char.ofNat 0x307]
      else [smallLetter c]
    small ++ lowerFrom (c :: before) rest

/-- The text in small letters. -/
def lowercase (s : String) : String := String.ofList (lowerFrom [] s.toList)

end DocTables.Text
