import AsmDispatch.Text.Basic
import AsmDispatch.Text.Range

/-! # Lines of a text -/

namespace AsmDispatch.Text

/-- Line feed, vertical tab, form feed, carriage return, three separator controls, next line, line
and paragraph separator. -/
def lineEnds : Ranges := [(0x0a, 0x0d), (0x1c, 0x1e), (0x85, 0x85), (0x2028, 0x2029)]

def endsLine (c : Char) : Bool := lineEnds.has c.toNat

/-- A text cut after every line. Each character for which `ends` holds ends a line, and so does a
carriage return with the line feed behind it; what stands after the last end is a line unless it is
empty. `line` holds the characters of the line so far, last first. -/
def cutLines (ends : Char → Bool) (line : Text) : Text → List Text
  | [] => if line.isEmpty then [] else [line.reverse]
  | '\r' :: '\n' :: t =>
    if ends '\r' then line.reverse :: cutLines ends [] t
    else cutLines ends ('\n' :: '\r' :: line) t
  | c :: t => if ends c then line.reverse :: cutLines ends [] t else cutLines ends (c :: line) t

/-- Lines in the wide sense: any line or paragraph end counts. -/
def lines (t : Text) : List Text := cutLines endsLine [] t

def endsFileLine (c : Char) : Bool := c == '\n' || c == '\r'

/-- Lines of a file: a line feed, a carriage return or both in this order end a line. -/
def fileLines (t : Text) : List Text := cutLines endsFileLine [] t

/-- A text with every line end of a file made a line feed. -/
def unifyLineEnds : Text → Text
  | [] => []
  | '\r' :: '\n' :: t => '\n' :: unifyLineEnds t
  | c :: t => (if c = '\r' then '\n' else c) :: unifyLineEnds t

/-- A line without the line feeds and carriage returns at its end. -/
def dropLineEnd (t : Text) : Text :=
  (t.reverse.dropWhile fun c => c == '\r' || c == '\n').reverse

end AsmDispatch.Text
