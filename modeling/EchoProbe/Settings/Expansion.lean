import EchoProbe.Settings.Environment

/-!
# Placeholders

A placeholder is a name between `${` and the next closing brace, or the end
of the text. It is replaced by the value of the variable, or by nothing if
the variable cannot be read. The value is not looked at again.
-/

namespace EchoProbe.Environment

/-- The characters that a placeholder stands for. -/
def valueChars (env : Environment) (name : List Char) : List Char :=
  ((env.read? (String.ofList name)).getD "").toList

mutual

/-- Expand a text that stands outside of placeholders. -/
def expandChars (env : Environment) : List Char → List Char
  | [] => []
  | '$' :: '{' :: cs => expandName env [] cs
  | c :: cs => c :: expandChars env cs

/-- Expand a text that stands inside a placeholder, of whose name the
beginning has been read in reverse. -/
def expandName (env : Environment) (name : List Char) : List Char → List Char
  | [] => env.valueChars name.reverse
  | '}' :: cs => env.valueChars name.reverse ++ expandChars env cs
  | c :: cs => expandName env (c :: name) cs

end

/-- **A text with its placeholders replaced.** -/
def expand (env : Environment) (text : String) : String :=
  String.ofList (env.expandChars text.toList)

end EchoProbe.Environment
