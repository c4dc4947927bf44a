import AsmDispatch.Address
import AsmDispatch.Proofs.Relocation
import AsmDispatch.Proofs.Text.Numeral
import AsmDispatch.Proofs.Text.Strip

/-!
# Addresses, written and read back

An address is written in decimal, or in hexadecimal behind a mark and with the sign behind the mark.
Reading takes the blanks off first, tells the base by the mark, and then takes off one thing after
the other: blanks again, a sign, a second mark, the digits.  None of these steps finds anything to
take in a text that was written, except the sign and the digits.

## Main statements

* `Text.integer?_signed`: an integer is read as what was written, in either case of the digits.
* `Address.ofText?_written`: so is an address, with its mark and with blanks around it.
-/

namespace AsmDispatch

namespace Text

variable {base : Nat} {t u v : Text} {f : Char → Char}

/-! ## Digits -/

theorem digitIn?_underscore : digitIn? base '_' = none := rfl

/-- Digits without underscores between them are read one by one. -/
theorem digits?_eq_some {ds : List Nat} (hne : t ≠ []) (ht : t.map (digitIn? base) = ds.map some) :
    digits? base t = some ds := by
  induction t generalizing ds with
  | nil => exact absurd rfl hne
  | cons c t ih =>
    cases ds with
    | nil => cases ht
    | cons d ds =>
      obtain ⟨hc, htail⟩ := List.cons.inj ht
      cases t with
      | nil =>
        obtain rfl : ds = [] := by simpa using htail
        rw [digits?, hc]
        rfl
      | cons c' t =>
        have hrest := ih (List.cons_ne_nil c' t) htail
        -- an underscore is no digit, so none is skipped
        have hc' : c' ≠ '_' := by
          rintro rfl
          cases ds with
          | nil => cases htail
          | cons d' ds => cases digitIn?_underscore.symm.trans (List.cons.inj htail).1
        rw [digits?, hc, hrest]
        · rfl
        · exact fun h => absurd h (List.cons_ne_nil _ _)
        · exact fun r h => absurd (List.cons.inj h).1 hc'

/-- A way of writing the digits of a base in which each is read as what it is. -/
structure IsHand (base : Nat) (f : Char → Char) : Prop where
  one_lt : 1 < base
  digit : ∀ d < base, digitIn? base (f d.digitChar) = some d
  isBlank : ∀ d < base, isBlank (f d.digitChar) = false
  dash : f '-' = '-'

theorem isHand_decimal : IsHand 10 id :=
  ⟨by decide, by decide +kernel, by decide +kernel, rfl⟩

theorem isHand_hexadecimal : IsHand 16 id :=
  ⟨by decide, by decide +kernel, by decide +kernel, rfl⟩

theorem isHand_toUpper : IsHand 16 Char.toUpper :=
  ⟨by decide, by decide +kernel, by decide +kernel, rfl⟩

namespace IsHand

variable (hf : IsHand base f)

include hf

theorem digitIn?_of_mem {n : Nat} {c : Char} (hc : c ∈ (Nat.toDigits base n).map f) :
    (digitIn? base c).isSome = true := by
  obtain ⟨x, hx, rfl⟩ := List.mem_map.mp hc
  obtain ⟨d, hd, rfl⟩ := exists_digit_of_mem_toDigits hf.one_lt hx
  rw [hf.digit d hd]
  rfl

/-- A character that is no digit is not written. -/
theorem notMem_toDigits {c : Char} (hc : digitIn? base c = none) (n : Nat) :
    c ∉ (Nat.toDigits base n).map f := by
  intro hmem
  have hsome := hf.digitIn?_of_mem hmem
  rw [hc] at hsome
  cases hsome

theorem digits?_toDigits (n : Nat) :
    ∃ ds, digits? base ((Nat.toDigits base n).map f) = some ds ∧
      ds.length = (Nat.toDigits base n).length ∧ ofDigits base ds = n := by
  let value (c : Char) : Nat := (digitIn? base (f c)).getD 0
  have hvalue : ∀ d < base, value d.digitChar = d := by
    intro d hd
    simp only [value, hf.digit d hd, Option.getD_some]
  refine ⟨(Nat.toDigits base n).map value, digits?_eq_some ?_ ?_, List.length_map _,
    ofDigits_map_toDigits hf.one_lt hvalue n⟩
  · simp
  · rw [List.map_map, List.map_map]
    refine List.map_congr_left fun c hc => ?_
    obtain ⟨d, hd, rfl⟩ := exists_digit_of_mem_toDigits hf.one_lt hc
    simp only [Function.comp, hvalue d hd, hf.digit d hd]

theorem magnitude?_toDigits (n : Nat) :
    magnitude? base ((Nat.toDigits base n).map f) =
      if base = 10 ∧ maxDecimalDigits < (Nat.toDigits base n).length then none else some n := by
  obtain ⟨ds, hds, hlength, hvalue⟩ := hf.digits?_toDigits n
  rw [magnitude?, hds]
  simp only [Option.bind_eq_bind, Option.bind_some, hlength, hvalue]
  rfl

end IsHand

/-! ## Integers -/

theorem unpad_eq_self (ht : ∀ c ∈ t, isBlank c = false) : unpad t = t := by
  have hpad : ∀ c, padsNumeral c = true → isBlank c = true :=
    fun c hc => (Bool.and_eq_true_iff.mp hc).1
  rw [unpad, ((stops_of_forall ht).mono hpad).dropWhile_eq_self,
    ((stops_reverse_of_forall ht).mono hpad).dropWhile_eq_self, List.reverse_reverse]

theorem dropBaseMark_eq_self (hx : 'x' ∉ t) (hX : 'X' ∉ t) : dropBaseMark base t = t := by
  unfold dropBaseMark
  split
  · next z x r =>
    rw [if_neg]
    rintro ⟨-, -, rfl | rfl⟩
    · exact hx (by simp)
    · exact hX (by simp)
  · rfl

theorem strip_of_forall (hu : ∀ c ∈ u, isBlank c = true) (hv : ∀ c ∈ v, isBlank c = true)
    (ht : ∀ c ∈ t, isBlank c = false) : strip (u ++ (t ++ v)) = t :=
  strip_append_append hu hv (stops_of_forall ht) (stops_reverse_of_forall ht)

namespace IsHand

variable (hf : IsHand base f) (a : Int)

include hf

theorem isBlank_of_mem_signed {c : Char} (hc : c ∈ (signed base a).map f) :
    Text.isBlank c = false := by
  have hdigits {n : Nat} {c : Char} (hc : c ∈ (Nat.toDigits base n).map f) :
      Text.isBlank c = false := by
    obtain ⟨x, hx, rfl⟩ := List.mem_map.mp hc
    obtain ⟨d, hd, rfl⟩ := exists_digit_of_mem_toDigits hf.one_lt hx
    exact hf.isBlank d hd
  cases a with
  | ofNat n => exact hdigits hc
  | negSucc n =>
    rw [signed, List.map_cons, hf.dash] at hc
    rcases List.mem_cons.mp hc with rfl | hc
    · decide
    · exact hdigits hc

/-- Only a sign stands in front of the digits. -/
theorem notMem_signed {c : Char} (hc : digitIn? base c = none) (hdash : c ≠ '-') :
    c ∉ (signed base a).map f := by
  cases a with
  | ofNat n => exact hf.notMem_toDigits hc n
  | negSucc n =>
    rw [signed, List.map_cons, hf.dash, List.mem_cons, not_or]
    exact ⟨hdash, hf.notMem_toDigits hc (n + 1)⟩

/-- An integer that is not too long is read as what was written. -/
theorem integer?_signed : integer? base ((signed base a).map f) =
    if base = 10 ∧ maxDecimalDigits < (Nat.toDigits base a.natAbs).length then none
    else some a := by
  have hmagnitude (n : Nat) : magnitude? base (dropBaseMark base ((Nat.toDigits base n).map f)) =
      if base = 10 ∧ maxDecimalDigits < (Nat.toDigits base n).length then none else some n := by
    rw [dropBaseMark_eq_self (hf.notMem_toDigits rfl n) (hf.notMem_toDigits rfl n),
      hf.magnitude?_toDigits]
  rw [integer?, unpad_eq_self fun c hc => hf.isBlank_of_mem_signed a hc]
  -- a digit is not taken for a sign, so the only sign is the one that was written
  cases a with
  | ofNat n =>
    have hplus := hf.notMem_toDigits (c := '+') rfl n
    have hdash := hf.notMem_toDigits (c := '-') rfl n
    rw [signed, Int.ofNat_eq_natCast, Int.natAbs_natCast]
    split
    · next r heq => exact absurd (heq ▸ List.mem_cons_self) hplus
    · next r heq => exact absurd (heq ▸ List.mem_cons_self) hdash
    · rw [hmagnitude n]
      split <;> rfl
  | negSucc n =>
    rw [signed, List.map_cons, hf.dash, Int.natAbs_negSucc]
    simp only [hmagnitude (n + 1)]
    split <;> rfl

end IsHand

theorem upper_signed (a : Int) : upper (signed 16 a) = (signed 16 a).map Char.toUpper := by
  have hchar : ∀ d < 16, upperChar d.digitChar = [d.digitChar.toUpper] := by decide +kernel
  have hdigits (n : Nat) : upper (Nat.toDigits 16 n) = (Nat.toDigits 16 n).map Char.toUpper := by
    rw [upper, ← List.flatMap_pure_eq_map]
    refine List.flatMap_congr fun c hc => ?_
    obtain ⟨d, hd, rfl⟩ := exists_digit_of_mem_toDigits (by decide) hc
    exact hchar d hd
  cases a with
  | ofNat n => exact hdigits n
  | negSucc n => exact congrArg ('-' :: ·) (hdigits (n + 1))

end Text

/-! ## Addresses -/

namespace Address

open Text (isBlank signed IsHand)

variable {u v : Text} {f : Char → Char}

/-- Behind a mark the digits are read in base 16. -/
theorem ofText?_marked (hu : ∀ c ∈ u, isBlank c = true) (hv : ∀ c ∈ v, isBlank c = true)
    (hf : IsHand 16 f) (a : Int) {mark : Text} (hmark : mark ∈ (["$", "0x", "0X"] : List Text)) :
    ofText? (u ++ (mark ++ (signed 16 a).map f ++ v)) = some a := by
  have hinteger : Text.integer? 16 ((signed 16 a).map f) = some a := by
    rw [hf.integer?_signed, if_neg]
    exact fun h => absurd h.1 (by decide)
  have hblank : ∀ c ∈ mark ++ (signed 16 a).map f, isBlank c = false := by
    refine List.forall_mem_append.mpr ⟨?_, fun c hc => hf.isBlank_of_mem_signed a hc⟩
    have hall : (["$", "0x", "0X"] : List Text).all (·.all (!isBlank ·)) = true := by decide
    simpa using List.all_eq_true.mp hall mark hmark
  rw [ofText?, Text.strip_of_forall hu hv hblank]
  rcases List.mem_cons.mp hmark with rfl | hmark
  · exact hinteger
  · rcases List.mem_cons.mp hmark with rfl | hmark
    · exact hinteger
    · rw [List.mem_singleton.mp hmark]
      exact hinteger

theorem ofText?_decimal (hu : ∀ c ∈ u, isBlank c = true) (hv : ∀ c ∈ v, isBlank c = true)
    (a : Int) : ofText? (u ++ (Text.decimal a ++ v)) =
      if (Nat.toDigits 10 a.natAbs).length ≤ Text.maxDecimalDigits then some a else none := by
  have hf := Text.isHand_decimal
  have hmap : (signed 10 a).map id = Text.decimal a := List.map_id _
  have hblank : ∀ c ∈ Text.decimal a, isBlank c = false := by
    rw [← hmap]
    exact fun c hc => hf.isBlank_of_mem_signed a hc
  have hnot {c : Char} (hc : Text.digitIn? 10 c = none) (hdash : c ≠ '-') :
      c ∉ Text.decimal a := hmap ▸ hf.notMem_signed a hc hdash
  rw [ofText?, Text.strip_of_forall hu hv hblank]
  -- no mark can be found, because none of its characters is a digit in decimal or a sign
  split
  · next r heq => exact absurd (heq ▸ List.mem_cons_self) (hnot (c := '$') rfl (by decide))
  · next r heq => exact absurd (heq ▸ by simp) (hnot (c := 'x') rfl (by decide))
  · next r heq => exact absurd (heq ▸ by simp) (hnot (c := 'X') rfl (by decide))
  · rw [← hmap, hf.integer?_signed]
    simp only [true_and, ← Nat.not_le, ite_not]

/-- The address on a line that declares it. -/
def ofLine? (l : Text) : Option Int := ofText? (l.rtakeWhile (· != '='))

theorem ofLine?_constant (h : Host) (name : Text) (a : Int) :
    ofLine? (h.constant name (Text.hex a)) = some a := by
  have hhex : Text.hex a = "0x" ++ (signed 16 a).map id := by rw [List.map_id, Text.hex]
  obtain ⟨t, ht⟩ : ∃ t, h.constant name (Text.hex a) = t ++ '=' :: ' ' :: Text.hex a := by
    cases h with
    | javascript => exact ⟨"const " ++ name ++ " ", by simp [Host.constant]⟩
    | python => exact ⟨name ++ " ", by simp [Host.constant]⟩
  have hvalue : ∀ c ∈ (' ' :: Text.hex a).reverse, (c != '=') = true := by
    intro c hc
    rw [List.mem_reverse, hhex, List.mem_cons, List.mem_append] at hc
    rw [bne_iff_ne]
    rintro rfl
    rcases hc with hc | hc | hc
    · cases hc
    · revert hc
      decide
    · exact Text.isHand_hexadecimal.notMem_signed a rfl (by decide) hc
  rw [ofLine?, ht, List.rtakeWhile, List.reverse_append, List.reverse_cons, List.append_assoc,
    List.singleton_append, Text.takeWhile_append_stops hvalue (Text.stops_cons.mpr rfl),
    List.reverse_reverse, hhex]
  have hread := @ofText?_marked [' '] [] id (List.all_eq_true.mp rfl) (List.all_eq_true.mp rfl)
    Text.isHand_hexadecimal a "0x" (by decide)
  rwa [List.append_nil] at hread

/-- Whatever blanks stand around it, an address is read as what was written: in hexadecimal behind
each of the marks and in either case of the digits, and in decimal unless it has too many digits.
The addresses that a block declares can be read off its lines. -/
theorem reading_undoes_writing (hu : ∀ c ∈ u, isBlank c = true) (hv : ∀ c ∈ v, isBlank c = true)
    (a : Int) :
    (∀ mark ∈ (["$", "0x", "0X"] : List Text),
      ∀ digits ∈ [signed 16 a, Text.upper (signed 16 a)],
        ofText? (u ++ (mark ++ digits ++ v)) = some a) ∧
      ofText? (u ++ (Text.decimal a ++ v)) =
        (if (Nat.toDigits 10 a.natAbs).length ≤ 4300 then some a else none) ∧
      ofText? (u ++ (Text.hex a ++ v)) = some a ∧
      ∀ (h : Host) (symbols : Symbols) (rs : List Region),
        (Output.addressLines h symbols rs).tail.map ofLine? =
          (Output.addressEntries symbols rs).map fun e => some e.2 := by
  have hlower := @ofText?_marked u v id hu hv Text.isHand_hexadecimal a
  have hupper := @ofText?_marked u v Char.toUpper hu hv Text.isHand_toUpper a
  rw [List.map_id] at hlower
  rw [← Text.upper_signed] at hupper
  refine ⟨?_, ofText?_decimal hu hv a, @hlower "0x" (by decide), ?_⟩
  · intro mark hmark digits hdigits
    rcases List.mem_cons.mp hdigits with rfl | hdigits
    · exact hlower hmark
    · rw [List.mem_singleton.mp hdigits]
      exact hupper hmark
  · intro h symbols rs
    rw [Output.addressLines_eq, Output.addressBlock, List.tail_cons, List.map_map]
    exact List.map_congr_left fun e _ => ofLine?_constant h e.1 e.2

/-- A negative address between blanks of different kinds. -/
theorem reading_undoes_writing_of_negative :
    (∀ c ∈ ("\t\u00a0" : Text), isBlank c = true) ∧ (∀ c ∈ ("\x1f\n" : Text), isBlank c = true) ∧
      ofText? "\t\u00a00X-C0DE\x1f\n" = some (-0xc0de) ∧
      ofText? "\t\u00a0-49374\x1f\n" = some (-0xc0de) := by
  have hu : ∀ c ∈ ("\t\u00a0" : Text), isBlank c = true := List.all_eq_true.mp rfl
  have hv : ∀ c ∈ ("\x1f\n" : Text), isBlank c = true := List.all_eq_true.mp rfl
  obtain ⟨hmarked, hdecimal, -⟩ := reading_undoes_writing hu hv (-0xc0de)
  have hlength : (Nat.toDigits 10 (-0xc0de : Int).natAbs).length ≤ 4300 := by decide
  rw [if_pos hlength] at hdecimal
  exact ⟨hu, hv, hmarked "0X" (by decide) "-C0DE" (by decide +kernel), hdecimal⟩

end Address

end AsmDispatch
