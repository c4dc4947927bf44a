import AsmDispatch.Proofs.Dispatch.Collapse
import AsmDispatch.Proofs.Operand
import AsmDispatch.Proofs.Output.Lines

/-!
# Source text in the dispatch procedure

Operands and comments go into the procedure as they are, and mnemonics and registers after a change
of case.  So the procedure, and with it the output, is within every class of characters that holds
the lines of the source and that no change of case leaves.

## Main statements

* `Instruction.within_statement`: the characters of a statement.
* `Dispatch.within_lines`: the characters of the procedure.
* `Compilation.within_lines`: the characters of the output.
-/

namespace AsmDispatch

open Text (Within Admits KeepsCase isInLine isWord)

variable {q : Char → Bool}

/-! ## Operands -/

namespace Operand

/-- The register of an operand, if it has one, is made of word characters. -/
def HasWord : Operand → Prop
  | .postIndexed _ r | .preIndexed _ r | .indexed _ r => ∀ c ∈ r, isWord c = true
  | _ => True

theorem hasWord_ofText (t : Text) : (ofText t).HasWord := by
  by_cases hne : Text.strip t = []
  · rw [ofText, hne]
    trivial
  · obtain ⟨s, e, -, ho⟩ := seen_ofText hne
    rw [ho]
    cases s with
    | immediate | indirect | absolute => trivial
    | postIndexed _ _ register | preIndexed _ _ register _ | indexed _ _ register =>
      exact register.all

theorem within_suffix (hq : Admits q) (hcase : KeepsCase q) (t : Text) :
    Within q (ofText t).suffix := by
  have hlower {r : Text} (hr : ∀ c ∈ r, isWord c = true) : Within q (Text.lower r) :=
    hcase.within_lower hq fun c hc => hq.word c (hr c hc)
  have hword := hasWord_ofText t
  cases hoperand : ofText t with
  | implied => exact Text.within_nil
  | immediate | indirect | absolute => exact hq.within_of_all rfl
  | postIndexed literal r | preIndexed literal r | indexed literal r =>
    rw [hoperand] at hword
    exact Text.within_append.mpr ⟨hq.within_of_all (by decide), hlower hword⟩

end Operand

/-! ## Statements -/

/-- The source of the statement is within the class. -/
def Statement.Within (q : Char → Bool) : Statement → Prop
  | .plain source => Text.Within q source
  | .transfer target => Text.Within q target
  | .branch predicate target => Text.Within q predicate ∧ Text.Within q target

namespace Instruction

variable {i : Instruction} {h : Host} {symbols : Symbols} {location : Option Location}

theorem within_helper (hq : Admits q) {name argument : Text} (hname : Within q name)
    (hargument : Within q argument) : Within q (helper name argument) := by
  simp only [helper, Text.within_append]
  exact ⟨⟨⟨hname, hq.within_of_all (by decide)⟩, hargument⟩, hq.within_of_all (by decide)⟩

theorem within_target (hq : Admits q) {v : Text} (hv : i.target symbols location = .ok v) :
    Within q v := by
  unfold target at hv
  split at hv
  · cases hv
    exact hq.within_decimal _
  · exact Literal.within_of_format hq hv

theorem within_addressed (hq : Admits q) (hcase : KeepsCase q) (hi : Within q i.mnemonic)
    {v : Text} (hv : i.addressed location = .ok v) : Within q v := by
  unfold addressed at hv
  simp only at hv
  split at hv
  · cases hv
    exact within_helper hq hi Text.within_nil
  · obtain ⟨value, hvalue, hv⟩ := Outcome.bind_eq_ok_iff.mp hv
    cases hv
    exact within_helper hq (Text.within_append.mpr ⟨hi, Operand.within_suffix hq hcase _⟩)
      (Literal.within_of_format hq hvalue)

/-- A statement is within every class that holds the mnemonic and the operand. -/
theorem within_statement (hq : Admits q) (hcase : KeepsCase q) (hi : Within q i.mnemonic)
    (hoperand : Within q i.operand) {s : Statement}
    (hs : i.statement h symbols location = .ok s) : s.Within q := by
  unfold statement at hs
  cases hfamily : i.family h with
  | loadStore | arithmetic =>
    simp only [hfamily] at hs
    obtain ⟨v, hv, hs⟩ := Outcome.bind_eq_ok_iff.mp hs
    cases hs
    exact within_addressed hq hcase hi hv
  | branch =>
    simp only [hfamily] at hs
    obtain ⟨v, hv, hs⟩ := Outcome.bind_eq_ok_iff.mp hs
    cases hs
    exact ⟨within_helper hq hi Text.within_nil, within_target hq hv⟩
  | jump =>
    simp only [hfamily] at hs
    split at hs
    · obtain ⟨v, hv, hs⟩ := Outcome.bind_eq_ok_iff.mp hs
      cases hs
      exact within_addressed hq hcase hi hv
    · obtain ⟨v, hv, hs⟩ := Outcome.bind_eq_ok_iff.mp hs
      cases hs
      exact within_target hq hv
  | call =>
    simp only [hfamily] at hs
    obtain ⟨v, hv, hs⟩ := Outcome.bind_eq_ok_iff.mp hs
    cases hs
    exact within_helper hq hi
      (Text.within_append.mpr ⟨hq.within_of_all (by decide), within_target hq hv⟩)
  | leave | generic =>
    simp only [hfamily] at hs
    cases hs
    exact within_helper hq hi hoperand
  | escape =>
    simp only [hfamily] at hs
    cases hs
    exact hoperand

end Instruction

/-! ## Entries -/

theorem Statement.within_lines (hq : Admits q) {s : Statement} (hs : s.Within q) (h : Host) :
    ∀ l ∈ s.lines h, Text.Within q l := by
  have hfixed {t : Text} (ht : t.all Text.isVisible = true) := hq.within_of_all ht
  cases s with
  | plain source => exact List.forall_mem_singleton.mpr hs
  | transfer target =>
    cases h with
    | javascript =>
      refine List.forall_mem_singleton.mpr ?_
      simp only [Text.within_append]
      exact ⟨⟨hfixed (by decide), hs⟩, hfixed (by decide)⟩
    | python =>
      refine List.forall_mem_singleton.mpr ?_
      exact Text.within_append.mpr ⟨hfixed (by decide), hs⟩
  | branch predicate target =>
    cases h with
    | javascript =>
      refine List.forall_mem_singleton.mpr ?_
      simp only [Text.within_append]
      exact ⟨⟨⟨⟨hfixed (by decide), hs.1⟩, hfixed (by decide)⟩, hs.2⟩, hfixed (by decide)⟩
    | python =>
      refine List.forall_mem_cons.mpr ⟨?_, List.forall_mem_singleton.mpr ?_⟩
      · simp only [Text.within_append]
        exact ⟨⟨hfixed (by decide), hs.1⟩, hfixed (by decide)⟩
      · simp only [Text.within_append]
        exact ⟨⟨Host.within_indent _ hq 1, hfixed (by decide)⟩, hs.2⟩

theorem Statement.within_linesWithComment (hq : Admits q) {s : Statement} (hs : s.Within q)
    {h : Host} {remark : Option Text} (hremark : ∀ u ∈ remark, Text.Within q u) :
    ∀ l ∈ s.linesWithComment h remark, Text.Within q l := by
  have hlines := s.within_lines hq hs h
  unfold linesWithComment
  split
  · exact List.forall_mem_nil _
  · next l ls hsplit =>
    rw [hsplit] at hlines
    obtain ⟨hl, htail⟩ := List.forall_mem_cons.mp hlines
    exact List.forall_mem_cons.mpr ⟨h.within_withComment hq hl hremark, htail⟩

/-- What the entry shows is within the class. -/
def Entry.Within (q : Char → Bool) : Entry → Prop
  | .blank => True
  | .echo text comment => Text.Within q text ∧ ∀ u ∈ comment, Text.Within q u
  | .step _ s comment => s.Within q ∧ ∀ u ∈ comment, Text.Within q u

theorem Entry.within_lines (hq : Admits q) {e : Entry} (he : e.Within q) (h : Host) :
    ∀ l ∈ e.lines h, Text.Within q l := by
  have hfixed {t : Text} (ht : t.all Text.isVisible = true) := hq.within_of_all ht
  have hindent (level : Nat) := h.within_indent hq level
  cases e with
  | blank => exact List.forall_mem_singleton.mpr Text.within_nil
  | echo text comment =>
    refine List.forall_mem_singleton.mpr (Text.within_append.mpr ⟨hindent 1, ?_⟩)
    exact h.within_withComment hq (h.within_comment hq he.1) he.2
  | step slot s comment =>
    have hcode : ∀ l ∈ (s.linesWithComment h comment).map (h.indent 2 ++ ·), Text.Within q l := by
      intro l hl
      obtain ⟨t, ht, rfl⟩ := List.mem_map.mp hl
      exact Text.within_append.mpr ⟨hindent 2, s.within_linesWithComment hq he.1 he.2 t ht⟩
    have hnumber (n : Int) := hq.within_decimal n
    cases h with
    | javascript =>
      refine List.forall_mem_cons.mpr ⟨?_, hcode⟩
      simp only [Text.within_append]
      exact ⟨⟨⟨⟨⟨hindent 1, hfixed (by decide)⟩, hnumber _⟩, hfixed (by decide)⟩, hnumber _⟩,
        hfixed (by decide)⟩
    | python =>
      refine List.forall_mem_cons.mpr ⟨?_, ?_⟩
      · simp only [Text.within_append]
        exact ⟨⟨⟨hindent 1, hfixed (by decide)⟩, hnumber _⟩, hfixed (by decide)⟩
      · split
        · exact hcode
        · refine List.forall_mem_append.mpr ⟨hcode, List.forall_mem_singleton.mpr ?_⟩
          simp only [Text.within_append]
          exact ⟨⟨hindent 2, hfixed (by decide)⟩, hnumber _⟩

namespace Dispatch

variable {h : Host}

theorem within_opening (hq : Admits q) {name : Text} (hname : Within q name) (h : Host) :
    ∀ l ∈ opening h name, Within q l := by
  have hfixed {t : Text} (ht : t.all Text.isVisible = true) := hq.within_of_all ht
  cases h with
  | javascript =>
    simp only [opening, List.forall_mem_cons, Text.within_append]
    exact ⟨⟨⟨hfixed (by decide), hname⟩, hfixed (by decide)⟩,
      ⟨Host.within_indent _ hq 1, hfixed (by decide)⟩,
      ⟨Host.within_indent _ hq 1, hfixed (by decide)⟩, List.forall_mem_nil _⟩
  | python =>
    simp only [opening, List.forall_mem_cons, Text.within_append]
    exact ⟨⟨⟨hfixed (by decide), hname⟩, hfixed (by decide)⟩, List.forall_mem_nil _⟩

theorem within_closing (hq : Admits q) (h : Host) (slotCount : Nat) :
    ∀ l ∈ closing h slotCount, Within q l := by
  have hfixed {t : Text} (ht : t.all Text.isVisible = true) := hq.within_of_all ht
  have hnumber (n : Int) := hq.within_decimal n
  cases h with
  | javascript =>
    simp only [closing, List.forall_mem_cons, Text.within_append]
    exact ⟨⟨⟨⟨⟨⟨Host.within_indent _ hq 1, hfixed (by decide)⟩, hnumber _⟩, hfixed (by decide)⟩,
        hnumber _⟩, hfixed (by decide)⟩, ⟨Host.within_indent _ hq 1, hfixed (by decide)⟩,
      ⟨Host.within_indent _ hq 1, hfixed (by decide)⟩, hfixed (by decide), List.forall_mem_nil _⟩
  | python =>
    simp only [closing, List.forall_mem_cons, Text.within_append]
    exact ⟨⟨Host.within_indent _ hq 1, hfixed (by decide)⟩, List.forall_mem_nil _⟩

/-- The procedure is within every class that holds its name and its entries. -/
theorem within_lines (hq : Admits q) {name : Text} (hname : Within q name) {es : List Entry}
    (hes : ∀ e ∈ es, e.Within q) (slotCount : Nat) :
    ∀ l ∈ lines h name slotCount es, Within q l := by
  refine List.forall_mem_append.mpr ⟨List.forall_mem_append.mpr
    ⟨within_opening hq hname h, fun l hl => ?_⟩, within_closing hq h slotCount⟩
  by_cases hne : l = []
  · rw [hne]
    exact Text.within_nil
  · obtain ⟨e, he, hl⟩ := List.mem_flatMap.mp ((mem_collapseAfter_iff hne true _).mp hl)
    exact e.within_lines hq (hes e he) h l hl

end Dispatch

/-! ## Records -/

/-- What the record shows is within the class. -/
def Record.Within (q : Char → Bool) : Record → Prop
  | .comment text => Text.Within q text
  | .definition d => ∀ u ∈ d.comment, Text.Within q u
  | .directive d =>
    Text.Within q d.name ∧ Text.Within q d.operand ∧ ∀ u ∈ d.comment, Text.Within q u
  | .label d => Text.Within q d.name ∧ ∀ u ∈ d.comment, Text.Within q u
  | .instruction i =>
    Text.Within q i.mnemonic ∧ Text.Within q i.operand ∧ ∀ u ∈ i.comment, Text.Within q u

/-- A record is within the class of the line that it was recognised in. -/
theorem Record.ReadFrom.within (hq : Admits q) (hcase : KeepsCase q) {t : Text} {r : Record}
    (hr : r.ReadFrom t) (ht : Text.Within q t) : r.Within q := by
  have hnote {remark : Option Text} (hremark : Form.NoteFrom t remark) :
      ∀ u ∈ remark, Text.Within q u := fun u hu => ht.subset (hremark u hu).1
  cases hr with
  | comment hsub _ => exact ht.subset hsub
  | definition _ hremark => exact hnote hremark
  | directive hname hoperand hremark =>
    exact ⟨ht.subset hname, ht.subset hoperand, hnote hremark⟩
  | label hname _ hremark => exact ⟨hq.within_of_isWordRun hname, hnote hremark⟩
  | instruction hword hoperand hremark =>
    refine ⟨hcase.within_upper (ht.subset ?_), ht.subset ?_, hnote hremark⟩
    · exact List.Subset.trans (Text.strip_subset _) hword
    · exact List.Subset.trans (Text.strip_subset _) hoperand

namespace Line

variable {m : Line} {h : Host} {symbols : Symbols} {slot : Nat} {e : Entry}

theorem within_echo (hq : Admits q) (hm : m.record.Within q) : m.echo.Within q := by
  unfold echo
  split
  · trivial
  · next hrecord =>
    rw [hrecord] at hm
    exact ⟨hm, fun _ hu => nomatch hu⟩
  · next d hrecord =>
    rw [hrecord] at hm
    refine ⟨Text.Within.subset ?_ (Text.stripEnd_subset _), hm.2.2⟩
    simp only [Text.within_append]
    exact ⟨⟨hm.1, hq.within_of_all (by decide)⟩, hm.2.1⟩
  · next d hrecord =>
    rw [hrecord] at hm
    refine ⟨?_, hm.2⟩
    simp only [Text.within_append]
    refine ⟨⟨⟨hm.1, hq.within_of_all (by decide)⟩, ?_⟩, hq.within_of_all (by decide)⟩
    split
    · exact hq.within_hex _
    · exact hq.within_decimal _
  · trivial
  · trivial

theorem within_entry (hq : Admits q) (hcase : KeepsCase q) (hm : m.record.Within q)
    (he : m.entry h symbols slot = .ok e) : e.Within q := by
  rcases entry_eq_ok_iff.mp he with ⟨i, s, hi, hs, rfl⟩ | ⟨-, rfl⟩
  · rw [hi] at hm
    exact ⟨i.within_statement hq hcase hm.1 hm.2.1 hs, hm.2.2⟩
  · exact within_echo hq hm

end Line

/-- The lines of a program and the entries of its body, one for each. -/
theorem Body.forall₂_entries {h : Host} {symbols : Symbols} {slot : Nat} {ls : List Line}
    {es : List Entry} (hes : (ofLinesFrom h symbols slot ls).entries = .ok es) :
    List.Forall₂ (fun l e => ∃ n, (Line.stamp n l).entry h symbols n = .ok e) ls es := by
  induction ls generalizing slot es with
  | nil =>
    cases hes
    exact .nil
  | cons l ls ih =>
    obtain ⟨e, es', he, hes', rfl⟩ := entries_cons_eq_ok_iff.mp hes
    exact .cons ⟨slot, he⟩ (ih hes')

theorem Body.within_entries (hq : Admits q) (hcase : KeepsCase q) {h : Host} {symbols : Symbols}
    {slot : Nat} {ls : List Line} {es : List Entry} (hls : ∀ l ∈ ls, l.record.Within q)
    (hes : (ofLinesFrom h symbols slot ls).entries = .ok es) : ∀ e ∈ es, e.Within q := by
  intro e he
  obtain ⟨l, hl, n, hentry⟩ := Outcome.exists_mem_of_forall₂ (forall₂_entries hes).flip he
  have hstamp : (Line.stamp n l).record.Within q := by
    rw [Line.record_stamp]
    exact hls l hl
  exact Line.within_entry hq hcase hstamp hentry

/-! ## The output -/

namespace Compilation

variable {c : Config} {l : Listing} {h : Host} {p : Product}

/-- Preparing a program keeps what does not depend on the flags of the labels. -/
theorem map_prepare {α : Type} {f : Record → α}
    (hf : ∀ d : Label, f (.label { d with isData := true }) = f (.label d)) (c : Config)
    (l : Listing) :
    (prepare c l).lines.map (fun m => f m.record) = l.lines.map fun m => f m.record := by
  have hstamp := Line.filterMap_stampFrom (f := fun m => some (f m.record))
    (fun slot m => by rw [Line.record_stamp]) 0 (Region.analyze c.romBase l.lines).1
  have hanalyze := Region.filterMap_analyze (f := fun m => some (f m.record))
    (fun m d a hm => by simp only [hm, hf]) c.romBase l.lines
  simpa only [List.filterMap_eq_map', lines_prepare, Line.stampAll] using hstamp.trans hanalyze

theorem within_prepare (hl : ∀ m ∈ l.lines, m.record.Within q) :
    ∀ m ∈ (prepare c l).lines, m.record.Within q := by
  intro m hm
  have hmem : m.record.Within q ∈ (prepare c l).lines.map fun m => m.record.Within q :=
    List.mem_map_of_mem hm
  rw [map_prepare (f := Record.Within q) (fun _ => rfl)] at hmem
  obtain ⟨m', hm', heq⟩ := List.mem_map.mp hmem
  exact heq ▸ hl m' hm'

/-- The output is within every class that holds its names and the lines of the source. -/
theorem within_lines (hq : Admits q) (hcase : KeepsCase q) {filename : Text} {source : List Text}
    (hy : Yields c (Listing.ofLines filename source) h p) (hstep : Within q c.stepName)
    (htable : Within q c.tableName) (hsource : ∀ t ∈ source, Within q t) :
    ∀ t ∈ p.output.lines, Within q t := by
  have hrecords : ∀ m ∈ (Listing.ofLines filename source).lines, m.record.Within q := by
    intro m hm
    obtain ⟨t, ht, hfrom⟩ := Listing.exists_readFrom_of_mem hm
    exact hfrom.within hq hcase (hsource t ht)
  have htables := isSolid_tables hq (Listing.isRead_ofLines filename source) hy htable
    fun d hd u hu => by
      obtain ⟨t, ht, hremark⟩ := Listing.exists_noteFrom_of_mem_definitions hd
      exact (hsource t ht).subset (hremark u hu).1
  obtain ⟨es, hes, hdispatch⟩ := hy.dispatch
  have hbody : ∀ t ∈ p.output.dispatch, Within q t := by
    rw [hdispatch]
    have hentries := Body.within_entries hq hcase (within_prepare hrecords) hes
    exact Dispatch.within_lines hq hstep hentries _
  simp only [Output.tables, List.forall_mem_cons] at htables
  obtain ⟨hlabels, hdefinitions, haddresses, hdata, -⟩ := htables
  simp only [Output.lines, Output.constantLines, List.forall_mem_append, List.forall_mem_cons]
  exact ⟨⟨fun t ht => (hlabels.line t ht).2, Text.within_nil,
      fun t ht => (hdefinitions.line t ht).2, Text.within_nil,
      fun t ht => (haddresses.line t ht).2⟩,
    Text.within_nil, fun t ht => (hdata.line t ht).2, Text.within_nil, hbody⟩

end Compilation

end AsmDispatch
