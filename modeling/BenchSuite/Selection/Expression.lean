import BenchSuite.Selection.Basic
import BenchSuite.Text.Blank
import BenchSuite.Text.Separated

/-!
# Selection expressions

A selection expression is a list of tokens separated by commas.  Blanks around a token do not
matter, and a token of blanks only is skipped.  One dash at the beginning of a token marks an
exclusion; what follows it is the text of the entry, and is read as it stands.  The entries keep the
order of the tokens, and none is dropped for being repeated.
-/

namespace BenchSuite

/-- The tokens of an expression, between its commas. -/
def tokens (expression : String) : List String :=
  (Text.cut ',' expression.toList).map String.ofList

namespace Entry

/-- The entry of a trimmed token: one leading dash marks an exclusion. -/
def ofTrimmed : List Char → Entry
  | '-' :: text => ⟨.exclusion, String.ofList text⟩
  | text => ⟨.inclusion, String.ofList text⟩

/-- The entry of a token, unless the token is blank. -/
def ofToken? (token : String) : Option Entry :=
  match Text.trim token.toList with
  | [] => none
  | c :: rest => some (ofTrimmed (c :: rest))

def ofTokens (tokens : List String) : List Entry :=
  tokens.filterMap ofToken?

/-- Hands the entries of a list of tokens to a builder, one after the other. -/
def buildAll {m : Type → Type} [Monad m] {α : Type} (build : Entry → m α)
    (tokens : List String) : m (List α) :=
  (ofTokens tokens).mapM build

end Entry

namespace Selection

def parseTokens (tokens : List String) : Except NameError (List Selection) :=
  Entry.buildAll ofEntry tokens

/-- Reads an expression; the first malformed name is reported. -/
def parse (expression : String) : Except NameError (List Selection) :=
  parseTokens (tokens expression)

def renderAll (selections : List Selection) : String :=
  ",".intercalate (selections.map render)

end Selection

end BenchSuite
