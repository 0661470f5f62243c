import CatalogConsole.Text.PrintableTable

/-! # Quoted text

`quoted` shows a text between quotation marks on one line.  The marks are single unless the text
holds a single mark and no double one.  A backslash and the enclosing mark are escaped, tabs and
line ends have short escapes, and any other character that is not printable is written by its code
point in two, four or eight hexadecimal digits.
-/
namespace CatalogConsole.Text

/-- The single quotation mark. -/
def singleMark : Char := '\x27'

/-- The double quotation mark. -/
def doubleMark : Char := '\x22'

/-- The mark that encloses a text. -/
def enclosingMark (s : List Char) : Char :=
  if singleMark ∈ s ∧ doubleMark ∉ s then doubleMark else singleMark

/-- A number in hexadecimal, with zeros in front up to `width` digits. -/
def hexadecimal (width n : Nat) : List Char :=
  (Nat.toDigits 16 n).leftpad width '0'

/-- A code point by its number: in two digits after `x`, in four after `u`, in eight after `U`. -/
def codeEscape (n : Nat) : List Char :=
  if n < 0x100 then '\\' :: 'x' :: hexadecimal 2 n
  else if n < 0x10000 then '\\' :: 'u' :: hexadecimal 4 n
  else '\\' :: 'U' :: hexadecimal 8 n

/-- A character as it is written between two of the given marks. -/
def escaped (mark c : Char) : List Char :=
  if c = mark ∨ c = '\\' then ['\\', c]
  else if c = '\t' then ['\\', 't']
  else if c = '\n' then ['\\', 'n']
  else if c = '\r' then ['\\', 'r']
  else if isPrintable c then [c]
  else codeEscape c.toNat

/-- The text between its enclosing marks. -/
def quoted (s : String) : String :=
  let mark := enclosingMark s.toList
  String.ofList (mark :: s.toList.flatMap (escaped mark) ++ [mark])

end CatalogConsole.Text
