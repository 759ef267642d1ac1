import BenchSuite.Text.Word
import BenchSuite.Text.Quoted

/-!
# Which names are allowed

Benchmarks, tags and groups are named by identifiers in which a dash counts as an underscore.  A
rule says how strict the test is: tags and groups must begin like a word and not with a dash,
benchmarks may begin with any character of a word or with a dash, and a loose rule asks only that
the name is not empty.  A refused name is reported with the first demand that it fails.
-/

namespace BenchSuite

/-- How strictly a name is tested.  The two relaxations are independent: a loose rule allows every
name that is not empty, and under a numeric one the first character need not begin a word, as in
`2to3`. -/
structure NameRule where
  loose : Bool := false
  numeric : Bool := false
deriving DecidableEq, Repr

namespace NameRule

/-- The rule for tags and groups. -/
def strict : NameRule := {}

/-- The rule for benchmarks. -/
def numericStart : NameRule := { numeric := true }

def anyText : NameRule := { loose := true }

end NameRule

inductive NameFault
  | empty
  | leadingDash
  | notWord
  | notWordCharacters
deriving DecidableEq, Repr

def NameFault.reason : NameFault → String
  | .empty => "the name is empty"
  | .leadingDash => "the name starts with `-`"
  | .notWord => "expected a letter or `_` followed by letters, digits, `_` or `-`"
  | .notWordCharacters => "only letters, digits, `_` and `-` are allowed"

/-- A refused name and the first demand that it fails. -/
structure NameError where
  name : String
  fault : NameFault
deriving DecidableEq, Repr

def NameError.message (error : NameError) : String :=
  "Invalid identifier " ++ Text.quoted error.name ++ ": " ++ error.fault.reason

namespace NameRule

/-- A dash counts as an underscore. -/
def withoutDash (c : Char) : Char :=
  if c = '-' then '_' else c

/-- The text is a word: a beginning followed by characters of a word. -/
def isWord (text : List Char) : Bool :=
  match text.map withoutDash with
  | [] => false
  | first :: rest => Text.isWordStart first && rest.all Text.isWordPart

def isWordTail (text : List Char) : Bool :=
  (text.map withoutDash).all Text.isWordPart

/-- The first demand of the rule that the name fails. -/
def fault? (rule : NameRule) (name : String) : Option NameFault :=
  let text := name.toList
  if text.isEmpty then some .empty
  else if rule.loose then none
  else if rule.numeric then
    if isWordTail text then none else some .notWordCharacters
  else if text.head? = some '-' then some .leadingDash
  else if isWord text then none
  else some .notWord

def check (rule : NameRule) (name : String) : Except NameError String :=
  match rule.fault? name with
  | none => .ok name
  | some fault => .error ⟨name, fault⟩

def Allows (rule : NameRule) (name : String) : Prop :=
  rule.fault? name = none

instance (rule : NameRule) (name : String) : Decidable (rule.Allows name) :=
  inferInstanceAs (Decidable (_ = _))

theorem check_eq_ok_iff {rule : NameRule} {name result : String} :
    rule.check name = .ok result ↔ rule.Allows name ∧ result = name := by
  unfold check Allows
  cases rule.fault? name <;> simp [eq_comm]

end NameRule

end BenchSuite
