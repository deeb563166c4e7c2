import Router.Text.Printable

namespace Router.Text

/-! ## Quoted text

Messages name paths, globs and parameters as quoted text, so that blanks and
control characters in them stay visible. -/

/-- Lower-case hexadecimal digits of a code point, padded with zeros to `width`. -/
def hexDigits (width code : Nat) : List Char :=
  List.leftpad width '0' (Nat.toDigits 16 code)

/-- Single quotes, unless the text holds a single quote and no double one. -/
def quoteMark (text : List Char) : Char :=
  if '\'' ∈ text ∧ '"' ∉ text then '"' else '\''

/-- One character between quotes. A backslash stands before the quote mark and
before itself, and a character that is not printable is named by its code point
in the shortest of three widths. -/
def quotedChar (mark character : Char) : List Char :=
  if character = mark ∨ character = '\\' then ['\\', character]
  else if character = '\t' then ['\\', 't']
  else if character = '\n' then ['\\', 'n']
  else if character = '\r' then ['\\', 'r']
  else if isPrintable character then [character]
  else if character.toNat < 0x100 then '\\' :: 'x' :: hexDigits 2 character.toNat
  else if character.toNat < 0x10000 then '\\' :: 'u' :: hexDigits 4 character.toNat
  else '\\' :: 'U' :: hexDigits 8 character.toNat

/-- The text between quote marks. -/
def quoted (text : String) : String :=
  let mark := quoteMark text.toList
  String.ofList (mark :: text.toList.flatMap (quotedChar mark) ++ [mark])

/-- A text with a single quote is set in double quotes. -/
example : quoted "it's" = "\"it's\"" := by decide +kernel

example : quoted "a\\\u200b\x07" = "'a\\\\\\u200b\\x07'" := by decide +kernel

end Router.Text
