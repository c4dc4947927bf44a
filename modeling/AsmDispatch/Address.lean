import AsmDispatch.Text.Numeral

/-! # Addresses as written by hand -/

namespace AsmDispatch

/-- Read an address: hexadecimal behind `$`, `0x` or `0X`, decimal otherwise. -/
def Address.ofText? (t : Text) : Option Int :=
  match Text.strip t with
  | '$' :: r => Text.integer? 16 r
  | '0' :: 'x' :: r => Text.integer? 16 r
  | '0' :: 'X' :: r => Text.integer? 16 r
  | r => Text.integer? 10 r

end AsmDispatch
