import BenchSuite.Text.Hexadecimal
import BenchSuite.Text.HiddenTable

/-!
# Quoted text

Messages show a name or a path between double quotes.  The quote and the backslash are written with
a backslash before them, four controls have a letter of their own, and every character without a
shape of its own is written by its number in hexadecimal, so that a quoted text shows all that is
in it on one line.
-/

namespace BenchSuite.Text

def quoteChar (c : Char) : List Char :=
  if c = '\x22' then ['\\', '\x22']
  else if c = '\\' then ['\\', '\\']
  else if c = '\x00' then ['\\', '0']
  else if c = '\t' then ['\\', 't']
  else if c = '\n' then ['\\', 'n']
  else if c = '\r' then ['\\', 'r']
  else if hiddenRanges.contains c then
    ['\\', 'u', '\x7b'] ++ hexDigits c.toNat ++ ['\x7d']
  else [c]

def quoted (text : String) : String :=
  String.ofList ('\x22' :: text.toList.flatMap quoteChar ++ ['\x22'])

end BenchSuite.Text
