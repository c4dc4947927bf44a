import AsmDispatch.Text.Digit
import AsmDispatch.Text.Letter
import AsmDispatch.Text.Mark

/-! # Identifiers of the host languages

The rule of the Unicode identifier annex: a starting character, then continuing characters. -/

namespace AsmDispatch.Text

/-- Letters whose compatibility form cannot start an identifier. -/
def unfitLetters : Ranges :=
  [(0x37a, 0x37a), (0xe33, 0xe33), (0xeb3, 0xeb3), (0x2e2f, 0x2e2f), (0xfc5e, 0xfc63),
   (0xfdfa, 0xfdfb), (0xfe70, 0xfe70), (0xfe72, 0xfe72), (0xfe74, 0xfe74), (0xfe76, 0xfe76),
   (0xfe78, 0xfe78), (0xfe7a, 0xfe7a), (0xfe7c, 0xfe7c), (0xfe7e, 0xfe7e), (0xff9e, 0xff9f)]

/-- Letter numbers and the few symbols that may start an identifier. -/
def startingNumbers : Ranges :=
  [(0x16ee, 0x16f0), (0x1885, 0x1886), (0x2118, 0x2118), (0x212e, 0x212e), (0x2160, 0x2182),
   (0x2185, 0x2188), (0x3007, 0x3007), (0x3021, 0x3029), (0x3038, 0x303a), (0xa6e6, 0xa6ef),
   (0x10140, 0x10174), (0x10341, 0x10341), (0x1034a, 0x1034a), (0x103d1, 0x103d5),
   (0x12400, 0x1246e)]

/-- Connectors, middle dots and the few others that may only continue an identifier. -/
def continuing : Ranges :=
  [(0xb7, 0xb7), (0x387, 0x387), (0xe33, 0xe33), (0xeb3, 0xeb3), (0x1369, 0x1371),
   (0x19da, 0x19da), (0x203f, 0x2040), (0x2054, 0x2054), (0xfe33, 0xfe34), (0xfe4d, 0xfe4f),
   (0xff3f, 0xff3f), (0xff9e, 0xff9f)]

def startsIdentifier (c : Char) : Bool :=
  if c.toNat < 0x80 then c.isAlpha || c == '_'
  else letters.has c.toNat && !unfitLetters.has c.toNat || startingNumbers.has c.toNat

def continuesIdentifier (c : Char) : Bool :=
  startsIdentifier c || isDigit c ||
    0x80 ≤ c.toNat && (marks.has c.toNat || continuing.has c.toNat)

def isIdentifier : Text → Bool
  | [] => false
  | c :: t => startsIdentifier c && t.all continuesIdentifier

end AsmDispatch.Text
