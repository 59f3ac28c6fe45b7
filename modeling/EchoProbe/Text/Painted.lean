/-!
# Painted text

A line of a terminal is made of spans, some of them painted. A painted span
is written between a colour sequence and a reset sequence, or as it is when
colours are off.
-/

namespace EchoProbe.Text

/-- What a painted span tells. -/
inductive Tone where
  /-- All is well: bold green. -/
  | good
  /-- Something is wrong: bold red. -/
  | bad
  /-- Nothing is certain: bold yellow. -/
  | doubtful
deriving DecidableEq, Repr

/-- The character that begins a sequence. -/
def escape : Char := Char.ofNat 0x1B

/-- The sequence that turns a colour on. -/
def Tone.sequence : Tone → List Char
  | .good => escape :: ['[', '1', ';', '3', '2', 'm']
  | .bad => escape :: ['[', '1', ';', '3', '1', 'm']
  | .doubtful => escape :: ['[', '1', ';', '3', '3', 'm']

/-- The sequence that turns colours off. -/
def resetSequence : List Char := escape :: ['[', '0', 'm']

/-- **A piece of a line**, painted or plain. -/
structure Span where
  /-- What the piece tells, if it is painted. -/
  tone : Option Tone
  /-- Its text. -/
  text : String
deriving DecidableEq, Repr

/-- A plain piece. -/
def plain (text : String) : Span := ⟨none, text⟩

/-- A painted piece. -/
def painted (tone : Tone) (text : String) : Span := ⟨some tone, text⟩

/-- The characters of a piece, with colours or without. -/
def Span.toChars (coloured : Bool) (s : Span) : List Char :=
  match coloured, s.tone with
  | true, some tone => tone.sequence ++ s.text.toList ++ resetSequence
  | _, _ => s.text.toList

/-- A line is a list of pieces. -/
abbrev Line := List Span

/-- The characters of some lines, each with its line feed. -/
def linesChars (coloured : Bool) (lines : List Line) : List Char :=
  lines.flatMap fun line => line.flatMap (Span.toChars coloured) ++ ['\n']

/-- The text of some lines. -/
def renderLines (coloured : Bool) (lines : List Line) : String :=
  String.ofList (linesChars coloured lines)

end EchoProbe.Text
