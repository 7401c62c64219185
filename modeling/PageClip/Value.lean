import PageClip.Binary64
import PageClip.CharacterClass
import PageClip.Dict

/-! Values of any shape, as options and template data hold them, and their text. A text inside a
list or a dictionary is quoted: in single quotes unless only double quotes avoid an escape, with a
backslash escape for the quote, the backslash and the common control characters, and hexadecimal
escapes for all that does not print. -/

namespace PageClip

def hexDigit (n : Nat) : Char := Nat.digitChar (n % 16)

/-- The last `width` hexadecimal digits of a number. -/
def hexDigits : Nat → Nat → Text
  | 0, _ => []
  | width + 1, n => hexDigits width (n / 16) ++ [hexDigit n]

def quoteChar (quote c : Char) : Text :=
  if c = quote ∨ c = '\\' then ['\\', c]
  else if c = '\n' then ['\\', 'n']
  else if c = '\r' then ['\\', 'r']
  else if c = '\t' then ['\\', 't']
  else if isPrintable c then [c]
  else if c.toNat < 0x100 then ['\\', 'x'] ++ hexDigits 2 c.toNat
  else if c.toNat < 0x10000 then ['\\', 'u'] ++ hexDigits 4 c.toNat
  else ['\\', 'U'] ++ hexDigits 8 c.toNat

def quoteFor (t : Text) : Char :=
  if t.contains '\x27' && !t.contains '"' then '"' else '\x27'

def quoted (t : Text) : Text :=
  [quoteFor t] ++ t.flatMap (quoteChar (quoteFor t)) ++ [quoteFor t]

inductive Value where
  | null
  | bool (b : Bool)
  | int (n : Int)
  | float (x : Binary64)
  | text (t : Text)
  | list (items : List Value)
  | dict (entries : List (Text × Value))

mutual

/-- The text of a value inside a list or a dictionary, where texts are quoted. -/
def Value.nested : Value → Text
  | .null => "None".toList
  | .bool b => if b then "True".toList else "False".toList
  | .int n => (toString n).toList
  | .float x => x.display
  | .text t => quoted t
  | .list items => ['['] ++ nestedItems items ++ [']']
  | .dict entries => ['{'] ++ nestedEntries entries ++ ['}']

def nestedItems : List Value → Text
  | [] => []
  | [v] => v.nested
  | v :: rest => v.nested ++ [',', ' '] ++ nestedItems rest

def nestedEntries : List (Text × Value) → Text
  | [] => []
  | [(k, v)] => quoted k ++ [':', ' '] ++ v.nested
  | (k, v) :: rest => quoted k ++ [':', ' '] ++ v.nested ++ [',', ' '] ++ nestedEntries rest

end

/-- The text that a template shows for a value; nothing for a null. -/
def Value.display : Value → Text
  | .null => []
  | .text t => t
  | v => v.nested

/-- The text of a name in template data, empty when there is none. -/
def displayIn (data : Dict Value) (name : Text) : Text :=
  ((data.get? name).map Value.display).getD []

end PageClip
