import BenchSuite.Text.CaseTable

/-!
# Small letters

Every capital letter of a text is replaced by its small form.  Two letters need more than a table
of single characters: the dotted capital I becomes an i followed by a combining dot, and the
capital sigma becomes a final sigma where it ends a word.
-/

namespace BenchSuite.Text

def CaseRun.covers (run : CaseRun) (code : Nat) : Bool :=
  run.first ≤ code && code ≤ run.last && (code - run.first) % run.step == 0

/-- The small form of a character on its own; other characters stand for themselves. -/
def lowercaseChar (c : Char) : List Char :=
  if c = '\u0130' then ['i', '\u0307']
  else
    match caseRuns.find? (·.covers c.toNat) with
    | some run => [Char.ofNat (run.target + (c.toNat - run.first))]
    | none => [c]

/-- The first character that is not passed over in the context of a letter has case. -/
def leadsWithCase (text : List Char) : Bool :=
  match text.dropWhile caseIgnorableRanges.contains with
  | [] => false
  | c :: _ => casedRanges.contains c

/-- The small sigma for a capital one, given the text before it in reverse and the text after it:
final where a letter with case precedes and none follows. -/
def lowercaseSigma (before after : List Char) : Char :=
  if leadsWithCase before && !leadsWithCase after then '\u03c2' else '\u03c3'

/-- Lowercases the text, given the text before it in reverse. -/
def lowercaseAfter (before : List Char) : List Char → List Char
  | [] => []
  | c :: rest =>
      (if c = '\u03a3' then [lowercaseSigma before rest] else lowercaseChar c) ++
        lowercaseAfter (c :: before) rest

def lowercase (text : String) : String :=
  String.ofList (lowercaseAfter [] text.toList)

end BenchSuite.Text
