import AsmDispatch.Text.Case

/-! # Families of mnemonics -/

namespace AsmDispatch

/-- How an instruction is carried out. -/
inductive Family where
  | loadStore
  | arithmetic
  | branch
  | jump
  | call
  /-- Leaves a subroutine or an interrupt. -/
  | leave
  /-- The operand is host source. -/
  | escape
  | generic
deriving DecidableEq, Repr

namespace Family

/-- The mnemonics of a family; an escape is the host's own, and any other mnemonic is generic. -/
def mnemonics : Family → List Text
  | .loadStore => ["LDA", "LDX", "LDY", "STA", "STX", "STY"]
  | .arithmetic =>
    ["CMP", "CPX", "CPY", "ADC", "SBC", "AND", "ORA", "EOR", "INC", "INX", "INY", "DEC", "DEX",
     "DEY", "ROL", "ROR", "ASL", "LSR", "BIT"]
  | .branch => ["BNE", "BEQ", "BPL", "BMI", "BCC", "BCS", "BVC", "BVS"]
  | .jump => ["JMP"]
  | .call => ["JSR"]
  | .leave => ["RTS", "RTI"]
  | .escape | .generic => []

/-- The families whose mnemonics are the same for every host. -/
def shared : List Family := [.loadStore, .arithmetic, .branch, .jump, .call, .leave]

/-- The family of a mnemonic of any case, for a host whose own escape is `escape`; an empty one is
none. -/
def ofMnemonic (escape mnemonic : Text) : Family :=
  let mnemonic := Text.upper mnemonic
  if escape ≠ [] ∧ mnemonic = Text.upper escape then .escape
  else (shared.find? (·.mnemonics.contains mnemonic)).getD .generic

end Family

end AsmDispatch
