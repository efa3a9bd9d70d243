import WorkflowCanvas.Text.Printable

/-! Text literals, as error messages show a text: in quotes, with escapes for what could not be
seen. -/
namespace WorkflowCanvas.Text

/-- A character inside a literal. -/
def literalChar (c : Char) : List Char :=
  if c = '"' then ['\\', '"']
  else if c = '\\' then ['\\', '\\']
  else if c = '\n' then ['\\', 'n']
  else if c = '\r' then ['\\', 'r']
  else if c = '\t' then ['\\', 't']
  else if c = '\x00' then ['\\', '0']
  else if isPrintable c then [c]
  else ['\\', 'u', '{'] ++ Nat.toDigits 16 c.toNat ++ ['}']

def literal (s : String) : String := "\"" ++ String.ofList (s.toList.flatMap literalChar) ++ "\""

/-- A list of literals in brackets. -/
def literals (items : List String) : String := "[" ++ ", ".intercalate (items.map literal) ++ "]"

end WorkflowCanvas.Text
