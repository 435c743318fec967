import RecordFilter.Text.Shapeless

/-!
# Diagnostic literals

Error texts show a piece of the input as a literal, so that a reader can tell a blank from a tab
and sees characters that have no shape of their own. The delimiter and the backslash are escaped
with a backslash, the usual controls have a letter, and a shapeless character stands as its number
in hexadecimal.
-/

namespace RecordFilter.Literal

/-- How `c` is written in a literal between two `delimiter`s. -/
def escape (delimiter c : Char) : List Char :=
  if c = '\x00' then ['\\', '0']
  else if c = '\t' then ['\\', 't']
  else if c = '\n' then ['\\', 'n']
  else if c = '\r' then ['\\', 'r']
  else if c = '\\' || c = delimiter then ['\\', c]
  else if 0x20 ≤ c.toNat && c.toNat < 0x7F then [c]
  else if CharClass.shapeless.contains c then
    ['\\', 'u', '{'] ++ Nat.toDigits 16 c.toNat ++ ['}']
  else [c]

/-- A text between two `delimiter`s. -/
def delimited (delimiter : Char) (cs : List Char) : List Char :=
  [delimiter] ++ cs.flatMap (escape delimiter) ++ [delimiter]

/-- A string as a literal in double quotes. -/
def ofString (s : String) : String :=
  String.ofList (delimited '"' s.toList)

/-- A character as a literal in single quotes. -/
def ofChar (c : Char) : String :=
  String.ofList (delimited '\'' [c])

example : ofString "it's \"x\"\n" = "\"it's \\\"x\\\"\\n\"" := by decide

example : ofChar '\'' = "'\\''" ∧ ofChar '"' = "'\"'" := by decide

example : ofString "a\u00ad\u0301" = "\"a\\u\x7bad\x7d\\u\x7b301\x7d\"" := by decide +kernel

example : ofString "\u0301\uff9e\uffa0" = "\"\\u\x7b301\x7d\uff9e\\u\x7bffa0\x7d\"" := by
  decide +kernel

end RecordFilter.Literal
