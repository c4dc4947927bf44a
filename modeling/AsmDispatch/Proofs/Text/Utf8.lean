import AsmDispatch.Proofs.Outcome
import AsmDispatch.Text.Utf8

/-!
# Encoding and decoding

The bytes of a text may arrive in chunks of any size, which cut characters where they like.  Bytes
that a cut leaves at the end of a chunk are never taken for a fault: they are the start of a
character and wait for its rest.  So the text comes back whole.  Nothing else is decoded either: a
character is only read from its own bytes.

## Main statements

* `encodes_utf8EncodeChar`: the bytes of a character are what `step` takes for that character.
* `Encodes.eq_utf8EncodeChar`: it takes no other bytes for it.
* `exists_isCut`: where the bytes of a text are cut, a whole text and the start of a character stand
  in front.
* `eq_encode_append_of_decodeFrom`: what has been decoded was encoded there.
-/

namespace AsmDispatch.Text.Utf8

/-! ## One character -/

/-- The bytes are a whole character. -/
inductive Encodes : Bytes → Char → Prop
  | one {a : UInt8} (ha : a < 0x80) : Encodes [a] (Char.ofNat a.toNat)
  | two {a b : UInt8} (ha : 0xc2 ≤ a) (ha' : a < 0xe0) (hb : isContinuation b = true) :
      Encodes [a, b] (codePoint (a.toNat - 0xc0) [b])
  | three {a b c : UInt8} (ha : 0xe0 ≤ a) (ha' : a < 0xf0) (hb : canFollow a b = true)
      (hc : isContinuation c = true) : Encodes [a, b, c] (codePoint (a.toNat - 0xe0) [b, c])
  | four {a b c d : UInt8} (ha : 0xf0 ≤ a) (ha' : a ≤ 0xf4) (hb : canFollow a b = true)
      (hc : isContinuation c = true) (hd : isContinuation d = true) :
      Encodes [a, b, c, d] (codePoint (a.toNat - 0xf0) [b, c, d])

/-- A byte that leads a longer character neither stands alone nor is bad. -/
theorem not_single_of_lead {a : UInt8} (ha : 0xc2 ≤ a) (ha' : a ≤ 0xf4) :
    ¬ a < 0x80 ∧ (a < 0xc2 || 0xf4 < a) = false := by
  grind

theorem step_one_eq_cut {a : UInt8} (ha : 0xc2 ≤ a) (ha' : a ≤ 0xf4) : step [a] = .cut := by
  obtain ⟨hone, hbad⟩ := not_single_of_lead ha ha'
  simp [step, hone, hbad]

theorem step_two_eq_cut {a b : UInt8} (ha : 0xe0 ≤ a) (ha' : a ≤ 0xf4)
    (hb : canFollow a b = true) : step [a, b] = .cut := by
  obtain ⟨hone, hbad⟩ := not_single_of_lead (a := a) (by grind) ha'
  simp [step, hone, hbad, UInt8.not_lt.mpr ha, hb]

theorem step_three_eq_cut {a b c : UInt8} (ha : 0xf0 ≤ a) (ha' : a ≤ 0xf4)
    (hb : canFollow a b = true) (hc : isContinuation c = true) : step [a, b, c] = .cut := by
  obtain ⟨hone, hbad⟩ := not_single_of_lead (a := a) (by grind) ha'
  have hthree : ¬ a < 0xe0 := by grind
  simp [step, hone, hbad, hthree, UInt8.not_lt.mpr ha, hb, hc]

namespace Encodes

variable {bs : Bytes} {x : Char}

theorem step_append (h : Encodes bs x) (rest : Bytes) : step (bs ++ rest) = .char x rest := by
  cases h with
  | one ha => simp [step, ha]
  | @two a b ha ha' hb =>
    obtain ⟨hone, hbad⟩ := not_single_of_lead ha (by grind)
    simp [step, hone, hbad, ha', hb]
  | @three a b c ha ha' hb hc =>
    obtain ⟨hone, hbad⟩ := not_single_of_lead (a := a) (by grind) (by grind)
    simp [step, hone, hbad, UInt8.not_lt.mpr ha, ha', hb, hc]
  | @four a b c d ha ha' hb hc hd =>
    obtain ⟨hone, hbad⟩ := not_single_of_lead (a := a) (by grind) ha'
    have hthree : ¬ a < 0xe0 := by grind
    simp [step, hone, hbad, hthree, UInt8.not_lt.mpr ha, hb, hc, hd]

/-- Part of a character waits for the rest. -/
theorem step_of_prefix {u v : Bytes} (h : Encodes (u ++ v) x) (hu : u ≠ []) (hv : v ≠ []) :
    step u = .cut := by
  generalize hbs : u ++ v = bs at h
  -- `u` has at least one byte and at most all but the last
  cases h with
  | one =>
    rcases u with _ | ⟨a, u⟩
    · exact absurd rfl hu
    · simp_all
  | @two a b ha ha' hb =>
    rcases u with _ | ⟨a, _ | ⟨b, u⟩⟩
    · exact absurd rfl hu
    · cases hbs
      exact step_one_eq_cut ha (by grind)
    · simp_all
  | @three a b c ha ha' hb hc =>
    rcases u with _ | ⟨a, _ | ⟨b, _ | ⟨c, u⟩⟩⟩
    · exact absurd rfl hu
    · cases hbs
      exact step_one_eq_cut (by grind) (by grind)
    · cases hbs
      exact step_two_eq_cut ha (by grind) hb
    · simp_all
  | @four a b c d ha ha' hb hc hd =>
    rcases u with _ | ⟨a, _ | ⟨b, _ | ⟨c, _ | ⟨d, u⟩⟩⟩⟩
    · exact absurd rfl hu
    · cases hbs
      exact step_one_eq_cut (by grind) ha'
    · cases hbs
      exact step_two_eq_cut (by grind) ha' hb
    · cases hbs
      exact step_three_eq_cut ha ha' hb hc
    · simp_all

end Encodes

/-! ## The bytes of a character -/

theorem toNat_ofNat_of_lt {n : Nat} (hn : n < 256) : (UInt8.ofNat n).toNat = n := by
  rw [UInt8.toNat_ofNat']
  exact Nat.mod_eq_of_lt hn

theorem ofNat_le_ofNat {m n : Nat} (hn : n < 256) (h : m ≤ n) : UInt8.ofNat m ≤ UInt8.ofNat n := by
  rw [UInt8.le_iff_toNat_le, toNat_ofNat_of_lt hn, toNat_ofNat_of_lt (Nat.lt_of_le_of_lt h hn)]
  exact h

theorem ofNat_lt_ofNat {m n : Nat} (hn : n < 256) (h : m < n) : UInt8.ofNat m < UInt8.ofNat n := by
  rw [UInt8.lt_iff_toNat_lt, toNat_ofNat_of_lt hn, toNat_ofNat_of_lt (Nat.lt_trans h hn)]
  exact h

theorem isContinuation_ofNat (n : Nat) : isContinuation (UInt8.ofNat (n % 64 + 128)) = true := by
  have hn := toNat_ofNat_of_lt (n := n % 64 + 128) (by omega)
  simp only [isContinuation, Bool.and_eq_true, decide_eq_true_eq, UInt8.le_iff_toNat_le, hn,
    UInt8.reduceToNat]
  omega

theorem canFollow_ofNat {a : Nat} (ha : a < 256) (n : Nat)
    (he0 : a = 0xe0 → 0x20 ≤ n % 64) (hed : a = 0xed → n % 64 ≤ 0x1f)
    (hf0 : a = 0xf0 → 0x10 ≤ n % 64) (hf4 : a = 0xf4 → n % 64 ≤ 0x0f) :
    canFollow (UInt8.ofNat a) (UInt8.ofNat (n % 64 + 128)) = true := by
  have hn := toNat_ofNat_of_lt (n := n % 64 + 128) (by omega)
  simp only [canFollow, isContinuation_ofNat, Bool.true_and, Bool.and_eq_true, Bool.or_eq_true,
    bne_iff_ne, ne_eq, decide_eq_true_eq, UInt8.le_iff_toNat_le, ← UInt8.toNat_inj, hn,
    toNat_ofNat_of_lt ha, UInt8.reduceToNat]
  omega

theorem encodes_two {n : Nat} (hn : 0x7f < n) (hn' : n ≤ 0x7ff) :
    Encodes [UInt8.ofNat (n / 64 % 32 + 192), UInt8.ofNat (n % 64 + 128)] (Char.ofNat n) := by
  have hvalue : codePoint ((UInt8.ofNat (n / 64 % 32 + 192)).toNat - 0xc0)
      [UInt8.ofNat (n % 64 + 128)] = Char.ofNat n := by
    simp only [codePoint, List.foldl_cons, List.foldl_nil]
    rw [toNat_ofNat_of_lt (by omega), toNat_ofNat_of_lt (by omega)]
    exact congrArg Char.ofNat (by omega)
  rw [← hvalue]
  refine .two ?_ ?_ (isContinuation_ofNat n)
  · exact ofNat_le_ofNat (m := 0xc2) (by omega) (by omega)
  · exact ofNat_lt_ofNat (n := 0xe0) (by omega) (by omega)

theorem encodes_three {n : Nat} (hn : 0x7ff < n) (hn' : n ≤ 0xffff)
    (hvalid : n < 0xd800 ∨ 0xdfff < n) :
    Encodes [UInt8.ofNat (n / 4096 % 16 + 224), UInt8.ofNat (n / 64 % 64 + 128),
      UInt8.ofNat (n % 64 + 128)] (Char.ofNat n) := by
  have hvalue : codePoint ((UInt8.ofNat (n / 4096 % 16 + 224)).toNat - 0xe0)
      [UInt8.ofNat (n / 64 % 64 + 128), UInt8.ofNat (n % 64 + 128)] = Char.ofNat n := by
    simp only [codePoint, List.foldl_cons, List.foldl_nil]
    rw [toNat_ofNat_of_lt (by omega), toNat_ofNat_of_lt (by omega), toNat_ofNat_of_lt (by omega)]
    exact congrArg Char.ofNat (by omega)
  rw [← hvalue]
  refine .three ?_ ?_ ?_ (isContinuation_ofNat n)
  · exact ofNat_le_ofNat (m := 0xe0) (by omega) (by omega)
  · exact ofNat_lt_ofNat (n := 0xf0) (by omega) (by omega)
  · -- neither an overlong form nor a surrogate
    apply canFollow_ofNat <;> omega

theorem encodes_four {n : Nat} (hn : 0xffff < n) (hn' : n < 0x110000) :
    Encodes [UInt8.ofNat (n / 262144 % 8 + 240), UInt8.ofNat (n / 4096 % 64 + 128),
      UInt8.ofNat (n / 64 % 64 + 128), UInt8.ofNat (n % 64 + 128)] (Char.ofNat n) := by
  have hvalue : codePoint ((UInt8.ofNat (n / 262144 % 8 + 240)).toNat - 0xf0)
      [UInt8.ofNat (n / 4096 % 64 + 128), UInt8.ofNat (n / 64 % 64 + 128),
        UInt8.ofNat (n % 64 + 128)] = Char.ofNat n := by
    simp only [codePoint, List.foldl_cons, List.foldl_nil]
    rw [toNat_ofNat_of_lt (by omega), toNat_ofNat_of_lt (by omega), toNat_ofNat_of_lt (by omega),
      toNat_ofNat_of_lt (by omega)]
    exact congrArg Char.ofNat (by omega)
  rw [← hvalue]
  refine .four ?_ ?_ ?_ (isContinuation_ofNat _) (isContinuation_ofNat n)
  · exact ofNat_le_ofNat (m := 0xf0) (by omega) (by omega)
  · exact ofNat_le_ofNat (n := 0xf4) (by omega) (by omega)
  · -- neither an overlong form nor anything above the last code point
    apply canFollow_ofNat <;> omega

theorem encodes_utf8EncodeChar (x : Char) : Encodes (String.utf8EncodeChar x) x := by
  have hvalid : x.toNat < 0xd800 ∨ 0xdfff < x.toNat ∧ x.toNat < 0x110000 := x.valid
  have hx : Char.ofNat x.toNat = x := Char.ofNat_toNat x
  rw [String.utf8EncodeChar]
  change Encodes (if x.toNat ≤ 127 then _ else if x.toNat ≤ 2047 then _
    else if x.toNat ≤ 65535 then _ else _) x
  by_cases hone : x.toNat ≤ 127
  · have hlt : UInt8.ofNat x.toNat < 0x80 := ofNat_lt_ofNat (n := 0x80) (by omega) (by omega)
    have hbyte := Encodes.one hlt
    rw [toNat_ofNat_of_lt (by omega), hx] at hbyte
    rw [if_pos hone]
    exact hbyte
  rw [if_neg hone]
  by_cases htwo : x.toNat ≤ 2047
  · have hbytes := encodes_two (Nat.lt_of_not_le hone) htwo
    rw [hx] at hbytes
    rw [if_pos htwo]
    exact hbytes
  rw [if_neg htwo]
  by_cases hthree : x.toNat ≤ 65535
  · have hbytes := encodes_three (Nat.lt_of_not_le htwo) hthree (by omega)
    rw [hx] at hbytes
    rw [if_pos hthree]
    exact hbytes
  · have hbytes := encodes_four (Nat.lt_of_not_le hthree) (by omega)
    rw [hx] at hbytes
    rw [if_neg hthree]
    exact hbytes

/-! ## The character of some bytes -/

theorem toNat_of_isContinuation {b : UInt8} (hb : isContinuation b = true) :
    0x80 ≤ b.toNat ∧ b.toNat ≤ 0xbf := by
  simpa [isContinuation, UInt8.le_iff_toNat_le] using hb

theorem toNat_of_canFollow {a b : UInt8} (h : canFollow a b = true) :
    (0x80 ≤ b.toNat ∧ b.toNat ≤ 0xbf) ∧ (a.toNat = 0xe0 → 0xa0 ≤ b.toNat) ∧
      (a.toNat = 0xed → b.toNat ≤ 0x9f) ∧ (a.toNat = 0xf0 → 0x90 ≤ b.toNat) ∧
      (a.toNat = 0xf4 → b.toNat ≤ 0x8f) := by
  simp only [canFollow, Bool.and_eq_true, Bool.or_eq_true, bne_iff_ne, ne_eq, decide_eq_true_eq,
    UInt8.le_iff_toNat_le, ← UInt8.toNat_inj, UInt8.reduceToNat] at h
  obtain ⟨⟨⟨⟨hb, he0⟩, hed⟩, hf0⟩, hf4⟩ := h
  have hb := toNat_of_isContinuation hb
  omega

theorem toNat_charOfNat {n : Nat} (h : n < 0xd800 ∨ 0xdfff < n ∧ n < 0x110000) :
    (Char.ofNat n).toNat = n := by
  rw [Char.ofNat, dif_pos h]
  rfl

theorem ofNat_eq {b : UInt8} {n : Nat} (h : b.toNat = n) : UInt8.ofNat n = b := by
  rw [← h, UInt8.ofNat_toNat]

theorem utf8EncodeChar_ofNat {n : Nat} (h : n < 0xd800 ∨ 0xdfff < n ∧ n < 0x110000) :
    String.utf8EncodeChar (Char.ofNat n) =
      if n ≤ 127 then [UInt8.ofNat n]
      else if n ≤ 2047 then [UInt8.ofNat (n / 64 % 32 + 192), UInt8.ofNat (n % 64 + 128)]
      else if n ≤ 65535 then
        [UInt8.ofNat (n / 4096 % 16 + 224), UInt8.ofNat (n / 64 % 64 + 128),
          UInt8.ofNat (n % 64 + 128)]
      else [UInt8.ofNat (n / 262144 % 8 + 240), UInt8.ofNat (n / 4096 % 64 + 128),
        UInt8.ofNat (n / 64 % 64 + 128), UInt8.ofNat (n % 64 + 128)] := by
  have hn : (Char.ofNat n).val.toNat = n := toNat_charOfNat h
  rw [String.utf8EncodeChar]
  simp only [hn]

/-- A character has no other bytes than its own. -/
theorem Encodes.eq_utf8EncodeChar {bs : Bytes} {x : Char} (h : Encodes bs x) :
    bs = String.utf8EncodeChar x := by
  cases h with
  | @one a ha =>
    have ha : a.toNat < 0x80 := UInt8.lt_iff_toNat_lt.mp ha
    rw [utf8EncodeChar_ofNat (Or.inl (by omega)), if_pos (by omega), UInt8.ofNat_toNat]
  | @two a b ha ha' hb =>
    have ha : 0xc2 ≤ a.toNat := UInt8.le_iff_toNat_le.mp ha
    have ha' : a.toNat < 0xe0 := UInt8.lt_iff_toNat_lt.mp ha'
    have hb := toNat_of_isContinuation hb
    simp only [codePoint, List.foldl_cons, List.foldl_nil]
    generalize hn : (a.toNat - 0xc0) * 64 + (b.toNat - 0x80) = n
    rw [utf8EncodeChar_ofNat (Or.inl (by omega)), if_neg (by omega), if_pos (by omega),
      ofNat_eq (b := a) (by omega), ofNat_eq (b := b) (by omega)]
  | @three a b c ha ha' hb hc =>
    have ha : 0xe0 ≤ a.toNat := UInt8.le_iff_toNat_le.mp ha
    have ha' : a.toNat < 0xf0 := UInt8.lt_iff_toNat_lt.mp ha'
    have hb := toNat_of_canFollow hb
    have hc := toNat_of_isContinuation hc
    simp only [codePoint, List.foldl_cons, List.foldl_nil]
    generalize hn : ((a.toNat - 0xe0) * 64 + (b.toNat - 0x80)) * 64 + (c.toNat - 0x80) = n
    rw [utf8EncodeChar_ofNat (by omega), if_neg (by omega), if_neg (by omega), if_pos (by omega),
      ofNat_eq (b := a) (by omega), ofNat_eq (b := b) (by omega), ofNat_eq (b := c) (by omega)]
  | @four a b c d ha ha' hb hc hd =>
    have ha : 0xf0 ≤ a.toNat := UInt8.le_iff_toNat_le.mp ha
    have ha' : a.toNat ≤ 0xf4 := UInt8.le_iff_toNat_le.mp ha'
    have hb := toNat_of_canFollow hb
    have hc := toNat_of_isContinuation hc
    have hd := toNat_of_isContinuation hd
    simp only [codePoint, List.foldl_cons, List.foldl_nil]
    generalize hn : (((a.toNat - 0xf0) * 64 + (b.toNat - 0x80)) * 64 + (c.toNat - 0x80)) * 64 +
      (d.toNat - 0x80) = n
    rw [utf8EncodeChar_ofNat (by omega), if_neg (by omega), if_neg (by omega), if_neg (by omega),
      ofNat_eq (b := a) (by omega), ofNat_eq (b := b) (by omega), ofNat_eq (b := c) (by omega),
      ofNat_eq (b := d) (by omega)]

/-- What is taken for a character is a whole character in front of the rest. -/
theorem exists_encodes_of_step {bs rest : Bytes} {x : Char} (h : step bs = .char x rest) :
    ∃ u, Encodes u x ∧ bs = u ++ rest := by
  revert h
  fun_cases step bs <;> simp only [Step.char.injEq, reduceCtorEq, false_implies, and_imp]
  · next a rest ha =>
    rintro rfl rfl
    exact ⟨[a], .one ha, rfl⟩
  · next a _ hlead b rest ha hb =>
    rintro rfl rfl
    have hlead : 0xc2 ≤ a ∧ a ≤ 0xf4 := by simpa using hlead
    exact ⟨[a, b], .two hlead.1 ha hb, rfl⟩
  · next a _ _ b ha hb c rest hc ha' =>
    rintro rfl rfl
    have hb : canFollow a b = true := by simpa using hb
    have hc : isContinuation c = true := by simpa using hc
    exact ⟨[a, b, c], .three (UInt8.not_lt.mp ha) ha' hb hc, rfl⟩
  · next a _ hlead b _ hb c hc ha d rest hd =>
    rintro rfl rfl
    have hlead : 0xc2 ≤ a ∧ a ≤ 0xf4 := by simpa using hlead
    have hb : canFollow a b = true := by simpa using hb
    have hc : isContinuation c = true := by simpa using hc
    have hd : isContinuation d = true := by simpa using hd
    exact ⟨[a, b, c, d], .four (UInt8.not_lt.mp ha) hlead.2 hb hc hd, rfl⟩

/-! ## Texts -/

section Decode

variable {more : Bool} {start : Nat} {bs rest w : Bytes} {x : Char}

theorem encode_cons (x : Char) (t : Text) :
    encode (x :: t) = String.utf8EncodeChar x ++ encode t := rfl

theorem decodeFrom_of_char (h : step bs = .char x rest) :
    decodeFrom more start bs =
      (decodeFrom more (start + x.utf8Size) rest).map fun r => (x :: r.1, r.2) := by
  rw [decodeFrom]
  split <;> simp_all

theorem decodeFrom_nil : decodeFrom more start [] = .ok ([], []) := by
  rw [decodeFrom]
  rfl

/-- Nothing, or the start of a character that ends before the character does. -/
def IsCut (w : Bytes) : Prop := w = [] ∨ step w = .cut

theorem decodeFrom_of_isCut (hw : IsCut w) : decodeFrom true start w = .ok ([], w) := by
  rcases hw with rfl | hw
  · exact decodeFrom_nil
  · rw [decodeFrom]
    split <;> simp_all

/-- Decoding goes through a text and comes to what stands behind it. -/
theorem decodeFrom_encode_append {waiting : Bytes}
    (hw : ∀ start, decodeFrom more start w = .ok ([], waiting)) (t : Text) :
    decodeFrom more start (encode t ++ w) = .ok (t, waiting) := by
  induction t generalizing start with
  | nil => exact hw start
  | cons x t ih =>
    have hstep := (encodes_utf8EncodeChar x).step_append (encode t ++ w)
    rw [encode_cons, List.append_assoc, decodeFrom_of_char hstep, ih]
    rfl

/-- Wherever the bytes of a text are cut, the cut is between two characters or within one. -/
theorem exists_isCut {u v : Bytes} {t : Text} (h : u ++ v = encode t) :
    ∃ t₁ t₂ w, t = t₁ ++ t₂ ∧ u = encode t₁ ++ w ∧ w ++ v = encode t₂ ∧ IsCut w := by
  induction t generalizing u with
  | nil =>
    obtain ⟨rfl, rfl⟩ := List.append_eq_nil_iff.mp h
    exact ⟨[], [], [], rfl, rfl, rfl, Or.inl rfl⟩
  | cons x t ih =>
    rw [encode_cons] at h
    rcases List.append_eq_append_iff.mp h with ⟨r, hx, hv⟩ | ⟨r, hu, ht⟩
    · by_cases hr : r = []
      · -- the cut is right behind the character
        subst hr
        rw [List.append_nil] at hx
        rw [List.nil_append] at hv
        exact ⟨[x], t, [], rfl, by simp [encode, hx], hv, Or.inl rfl⟩
      · refine ⟨[], x :: t, u, rfl, rfl, h, ?_⟩
        by_cases hu : u = []
        · exact Or.inl hu
        · have hchar := encodes_utf8EncodeChar x
          rw [hx] at hchar
          exact Or.inr (hchar.step_of_prefix hu hr)
    · obtain ⟨t₁, t₂, w, rfl, rfl, hw, hcut⟩ := ih ht.symm
      exact ⟨x :: t₁, t₂, w, rfl, by rw [hu, encode_cons, List.append_assoc], hw, hcut⟩

/-- What has been decoded is the text whose bytes were there, and the bytes that wait. -/
theorem eq_encode_append_of_decodeFrom {t : Text}
    (h : decodeFrom more start bs = .ok (t, w)) :
    bs = encode t ++ w ∧ (more = false → w = []) := by
  fun_induction decodeFrom more start bs generalizing t with
  | case1 start bs hstep =>
    cases h
    refine ⟨?_, fun _ => rfl⟩
    revert hstep
    fun_cases step bs <;> simp [encode]
  | case2 start bs x rest hstep ih =>
    obtain ⟨⟨t', w'⟩, hrest, heq⟩ := Outcome.map_eq_ok_iff.mp h
    cases heq
    obtain ⟨hbytes, hnil⟩ := ih hrest
    obtain ⟨u, hu, rfl⟩ := exists_encodes_of_step hstep
    refine ⟨?_, hnil⟩
    rw [encode_cons, List.append_assoc, ← hbytes, hu.eq_utf8EncodeChar]
  | case3 start bs hstep hmore =>
    cases h
    exact ⟨rfl, fun hfalse => absurd hmore (Bool.eq_false_iff.mp hfalse)⟩
  | case5 start bs length reason hstep hmore =>
    cases h
    refine ⟨rfl, fun hfalse => ?_⟩
    rw [hfalse] at hmore
    cases hmore
  | case4 | case6 => cases h

end Decode

theorem flatten_chunks {fuel : Nat} {bs : Bytes} (h : bs.length ≤ fuel) :
    (chunks fuel bs).flatten = bs := by
  induction fuel generalizing bs with
  | zero =>
    rw [List.eq_nil_of_length_eq_zero (Nat.le_zero.mp h)]
    rfl
  | succ fuel ih =>
    rw [chunks]
    split
    · next hempty => rw [List.isEmpty_iff.mp hempty, List.flatten_nil]
    · next hne =>
      have hpos : 0 < bs.length := List.length_pos_iff.mpr (by simpa using hne)
      have hchunk : 0 < chunkSize := by decide
      have hshort : (bs.drop chunkSize).length ≤ fuel := by
        rw [List.length_drop]
        omega
      rw [List.flatten_cons, ih hshort, List.take_append_drop]

end AsmDispatch.Text.Utf8
