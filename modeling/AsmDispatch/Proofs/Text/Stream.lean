import AsmDispatch.Proofs.Text.Utf8
import AsmDispatch.Text.Control
import AsmDispatch.Text.Stream

/-!
# Texts on streams

A stream that holds a text is read as the lines of the text, however its bytes arrive.  These lines
end at line feeds and carriage returns only, and what a console prints loses its control sequences.
This file also says which texts do not notice: those without any other line end, and those without
any control sequence.

## Main statements

* `Reading.ofChunks_of_flatten`: what is read from a stream that holds a text.
* `Reading.error?_ofChunks_eq_none_iff`: a stream that holds no text stops before its end.
* `lines_eq_fileLines`: the lines of a text and its lines as a file.
* `plain_eq_self_iff`: a text is plain exactly if it holds no control sequence.
-/

namespace AsmDispatch.Text

/-! ## Lines -/

/-- Only the characters of the text matter. -/
theorem cutLines_congr {p q : Char → Bool} {t : Text} (h : ∀ c ∈ t, p c = q c) (line : Text) :
    cutLines p line t = cutLines q line t := by
  fun_induction cutLines p line t with
  | case1 line hline => simp [cutLines, hline]
  | case2 line hline => simp [cutLines, hline]
  | case3 line t hp ih =>
    have hq : q '\r' = true := h '\r' List.mem_cons_self ▸ hp
    have htail : ∀ c ∈ t, p c = q c := fun c hc => h c (by simp [hc])
    rw [cutLines, if_pos hq, ih htail]
  | case4 line t hp ih =>
    have hq : ¬ q '\r' = true := h '\r' List.mem_cons_self ▸ hp
    have htail : ∀ c ∈ t, p c = q c := fun c hc => h c (by simp [hc])
    rw [cutLines, if_neg hq, ih htail]
  | case5 line c t hc hp ih =>
    have hq : q c = true := h c List.mem_cons_self ▸ hp
    rw [cutLines, if_pos hq, ih (List.forall_mem_cons.mp h).2]
    exact hc
  | case6 line c t hc hp ih =>
    have hq : ¬ q c = true := h c List.mem_cons_self ▸ hp
    rw [cutLines, if_neg hq, ih (List.forall_mem_cons.mp h).2]
    exact hc

/-- The text has no line end but line feeds and carriage returns. -/
def HasFileEnds (t : Text) : Prop := ∀ c ∈ t, endsLine c = true → c = '\n' ∨ c = '\r'

theorem lines_eq_fileLines {t : Text} (h : HasFileEnds t) : lines t = fileLines t := by
  refine cutLines_congr (fun c hc => ?_) []
  rw [endsFileLine, Bool.eq_iff_iff, Bool.or_eq_true, beq_iff_eq, beq_iff_eq]
  constructor
  · exact h c hc
  · rintro (rfl | rfl) <;> decide

/-! ## Lines that are cut off one by one -/

theorem cutLines_of_forall {u : Text} (hu : ∀ c ∈ u, endsFileLine c = false) (line v : Text) :
    cutLines endsFileLine line (u ++ v) = cutLines endsFileLine (u.reverse ++ line) v := by
  induction u generalizing line with
  | nil => rfl
  | cons c u ih =>
    obtain ⟨hc, htail⟩ := List.forall_mem_cons.mp hu
    have hends : ¬ endsFileLine c = true := Bool.eq_false_iff.mp hc
    rw [List.cons_append, cutLines, if_neg hends, ih htail, List.reverse_cons, List.append_assoc,
      List.singleton_append]
    rintro r rfl -
    exact hends rfl

/-- What is left of a line is cut as the line itself would have been. -/
theorem cutLines_reverse_append {line : Text} (hline : ∀ c ∈ line, endsFileLine c = false)
    (v : Text) : cutLines endsFileLine [] (line.reverse ++ v) = cutLines endsFileLine line v := by
  rw [cutLines_of_forall fun c hc => hline c (List.mem_reverse.mp hc), List.reverse_reverse,
    List.append_nil]

/-- Complete lines are lines whatever follows, and what is left goes on with it. -/
theorem cutLines_append_eq {line : Text} (hline : ∀ c ∈ line, endsFileLine c = false)
    (u v : Text) :
    cutLines endsFileLine line (u ++ v) =
      (completeLines line u).1 ++ cutLines endsFileLine [] ((completeLines line u).2 ++ v) := by
  fun_induction completeLines line u with
  | case1 line => exact (cutLines_reverse_append hline v).symm
  | case2 line =>
    rw [List.reverse_cons, List.append_assoc]
    exact (cutLines_reverse_append hline _).symm
  | case3 line t ih =>
    have hends : endsFileLine '\r' = true := rfl
    rw [List.cons_append, List.cons_append, cutLines, if_pos hends, ih (List.forall_mem_nil _)]
    rfl
  | case4 line c t hlast hpair hends ih =>
    rw [List.cons_append, cutLines, if_pos hends, ih (List.forall_mem_nil _)]
    · rfl
    · -- a line feed behind a carriage return would have been seen
      rintro r rfl hr
      cases t with
      | nil => exact hlast rfl rfl
      | cons d t =>
        rw [List.cons_append] at hr
        cases hr
        exact hpair t rfl rfl
  | case5 line c t hlast hpair hends ih =>
    rw [List.cons_append, cutLines, if_neg hends]
    · exact ih (List.forall_mem_cons.mpr ⟨Bool.eq_false_iff.mpr hends, hline⟩)
    · rintro r rfl -
      exact hends rfl

theorem fileLines_append (u v : Text) :
    fileLines (u ++ v) =
      (completeLines [] u).1 ++ fileLines ((completeLines [] u).2 ++ v) :=
  cutLines_append_eq (List.forall_mem_nil _) u v

/-! ## Streams -/

namespace Reading

/-- Chunks that hold the rest of a text are read to its end, wherever they are cut. -/
theorem ofChunksFrom_of_flatten {waiting : Bytes} {chunks : List Bytes} {t : Text}
    (h : waiting ++ chunks.flatten = Utf8.encode t) (line : Text) :
    ofChunksFrom waiting line chunks = { lines := fileLines (line ++ t) } := by
  induction chunks generalizing waiting t line with
  | nil =>
    rw [List.flatten_nil, List.append_nil] at h
    have hdecode : Utf8.decodeFrom false 0 (Utf8.encode t ++ []) = .ok (t, []) :=
      Utf8.decodeFrom_encode_append (fun _ => Utf8.decodeFrom_nil) t
    rw [List.append_nil] at hdecode
    rw [ofChunksFrom, h, hdecode]
  | cons chunk chunks ih =>
    rw [List.flatten_cons, ← List.append_assoc] at h
    obtain ⟨t₁, t₂, w, rfl, hchunk, hrest, hcut⟩ := Utf8.exists_isCut h
    have hdecode : Utf8.decodeFrom true 0 (Utf8.encode t₁ ++ w) = .ok (t₁, w) :=
      Utf8.decodeFrom_encode_append (fun _ => Utf8.decodeFrom_of_isCut hcut) t₁
    rw [ofChunksFrom, hchunk, hdecode]
    simp only
    rw [ih hrest, ← List.append_assoc line t₁ t₂, fileLines_append (line ++ t₁) t₂]
    rfl

/-- A stream that holds a text is read as the lines of the text, wherever its chunks end. -/
theorem ofChunks_of_flatten {chunks : List Bytes} {t : Text} (h : chunks.flatten = Utf8.encode t) :
    ofChunks chunks = { lines := fileLines t } :=
  ofChunksFrom_of_flatten h []

/-- Chunks that are read to the end hold the rest of a text. -/
theorem exists_encode_of_ofChunksFrom {waiting : Bytes} {chunks : List Bytes} {line : Text}
    (h : (ofChunksFrom waiting line chunks).error? = none) :
    ∃ t, waiting ++ chunks.flatten = Utf8.encode t := by
  induction chunks generalizing waiting line with
  | nil =>
    cases hdecode : Utf8.decodeFrom false 0 waiting with
    | error e =>
      rw [ofChunksFrom, hdecode] at h
      cases h
    | ok r =>
      obtain ⟨hbytes, hnil⟩ := Utf8.eq_encode_append_of_decodeFrom hdecode
      refine ⟨r.1, ?_⟩
      rw [hbytes, hnil rfl, List.append_nil, List.flatten_nil, List.append_nil]
  | cons chunk chunks ih =>
    cases hdecode : Utf8.decodeFrom true 0 (waiting ++ chunk) with
    | error e =>
      rw [ofChunksFrom, hdecode] at h
      cases h
    | ok r =>
      obtain ⟨hbytes, -⟩ := Utf8.eq_encode_append_of_decodeFrom hdecode
      rw [ofChunksFrom, hdecode] at h
      obtain ⟨t, ht⟩ := ih h
      refine ⟨r.1 ++ t, ?_⟩
      rw [List.flatten_cons, ← List.append_assoc, hbytes, List.append_assoc, ht, Utf8.encode,
        Utf8.encode, Utf8.encode, List.flatMap_append]

/-- A stream is read to its end exactly if it holds a text. -/
theorem error?_ofChunks_eq_none_iff {chunks : List Bytes} :
    (ofChunks chunks).error? = none ↔ ∃ t, chunks.flatten = Utf8.encode t := by
  constructor
  · exact exists_encode_of_ofChunksFrom
  · rintro ⟨t, ht⟩
    rw [ofChunks_of_flatten ht]

end Reading

/-! ## Control sequences -/

/-- A control sequence stands at the start. -/
def startsControl : Text → Bool
  | '\x1b' :: '[' :: t => (afterControl? t).isSome
  | _ => false

/-- A control sequence stands somewhere in the text. -/
def HoldsControl (t : Text) : Prop := ∃ v, v <:+ t ∧ startsControl v = true

theorem not_holdsControl_nil : ¬ HoldsControl [] := by
  rintro ⟨v, hv, hstarts⟩
  rw [List.suffix_nil.mp hv] at hstarts
  cases hstarts

theorem holdsControl_cons_iff {c : Char} {t : Text} :
    HoldsControl (c :: t) ↔ startsControl (c :: t) = true ∨ HoldsControl t := by
  constructor
  · rintro ⟨v, hv, hstarts⟩
    rcases List.suffix_cons_iff.mp hv with rfl | hv
    · exact Or.inl hstarts
    · exact Or.inr ⟨v, hv, hstarts⟩
  · rintro (hstarts | ⟨v, hv, hstarts⟩)
    · exact ⟨c :: t, List.suffix_refl _, hstarts⟩
    · exact ⟨v, List.suffix_cons_iff.mpr (Or.inr hv), hstarts⟩

instance decidableHoldsControl : (t : Text) → Decidable (HoldsControl t)
  | [] => isFalse not_holdsControl_nil
  | _ :: t =>
    have := decidableHoldsControl t
    decidable_of_iff _ holdsControl_cons_iff.symm

theorem length_plain_le (t : Text) : (plain t).length ≤ t.length := by
  fun_induction plain t with
  | case1 => exact Nat.le_refl _
  | case2 t r h hlt ih =>
    simp only [List.length_cons]
    omega
  | case3 t h ih => simpa using ih
  | case4 c t _ ih => simpa using ih

/-- Exactly the texts without a control sequence stay as they are. -/
theorem plain_eq_self_iff {t : Text} : plain t = t ↔ ¬ HoldsControl t := by
  fun_induction plain t with
  | case1 => exact iff_of_true rfl not_holdsControl_nil
  | case2 t r h hlt ih =>
    -- what is left is shorter than the text
    have hne : plain r ≠ '\x1b' :: '[' :: t := by
      intro heq
      have hle := length_plain_le r
      rw [heq, List.length_cons, List.length_cons] at hle
      omega
    have hstarts : startsControl ('\x1b' :: '[' :: t) = true := by rw [startsControl, h]; rfl
    exact iff_of_false hne (not_not_intro (holdsControl_cons_iff.mpr (Or.inl hstarts)))
  | case3 t h ih =>
    have hstarts : ¬ startsControl ('\x1b' :: '[' :: t) = true := by rw [startsControl, h]; decide
    rw [List.cons_inj_right, ih, holdsControl_cons_iff (t := '[' :: t), or_iff_right hstarts]
  | case4 c t hc ih =>
    have hstarts : ¬ startsControl (c :: t) = true := by
      rw [startsControl]
      · decide
      · intro v heq
        obtain ⟨hescape, hbracket⟩ := List.cons.inj heq
        exact hc v hescape hbracket
    rw [List.cons_inj_right, ih, holdsControl_cons_iff, or_iff_right hstarts]

end AsmDispatch.Text
