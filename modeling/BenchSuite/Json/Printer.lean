import BenchSuite.Json.Basic
import BenchSuite.Text.Hexadecimal

/-!
# Printing JSON

Every item of an array and every field of an object stands on a line of its own, two blanks deeper
than the brackets around it; without items, the brackets stand together.  In texts the quote, the
backslash and the controls are escaped, by a letter where there is one and by number otherwise.
-/

namespace BenchSuite.Json

def controlDigits (c : Char) : List Char :=
  let digits := Text.hexDigits c.toNat
  List.replicate (4 - digits.length) '0' ++ digits

def escape (c : Char) : List Char :=
  if c = '\x22' then ['\\', '\x22']
  else if c = '\\' then ['\\', '\\']
  else if c = '\x08' then ['\\', 'b']
  else if c = '\x0c' then ['\\', 'f']
  else if c = '\n' then ['\\', 'n']
  else if c = '\r' then ['\\', 'r']
  else if c = '\t' then ['\\', 't']
  else if c < ' ' then ['\\', 'u'] ++ controlDigits c
  else [c]

def printText (text : String) : List Char :=
  '\x22' :: text.toList.flatMap escape ++ ['\x22']

def newLine (depth : Nat) : List Char :=
  '\n' :: List.replicate (2 * depth) ' '

mutual

/-- Prints a value whose brackets stand at a depth. -/
def print (depth : Nat) : Json → List Char
  | .null => ['n', 'u', 'l', 'l']
  | .bool true => ['t', 'r', 'u', 'e']
  | .bool false => ['f', 'a', 'l', 's', 'e']
  | .number literal => literal.toList
  | .string text => printText text
  | .array [] => ['[', ']']
  | .array (item :: items) =>
      '[' :: newLine (depth + 1) ++ item.print (depth + 1) ++ printItems (depth + 1) items ++
        newLine depth ++ [']']
  | .object [] => ['\x7b', '\x7d']
  | .object ((name, value) :: fields) =>
      '\x7b' :: newLine (depth + 1) ++ printText name ++ [':', ' '] ++ value.print (depth + 1) ++
        printFields (depth + 1) fields ++ newLine depth ++ ['\x7d']

def printItems (depth : Nat) : List Json → List Char
  | [] => []
  | item :: items => ',' :: newLine depth ++ item.print depth ++ printItems depth items

def printFields (depth : Nat) : List (String × Json) → List Char
  | [] => []
  | (name, value) :: fields =>
      ',' :: newLine depth ++ printText name ++ [':', ' '] ++ value.print depth ++
        printFields depth fields

end

def render (json : Json) : String :=
  String.ofList (json.print 0)

end BenchSuite.Json
