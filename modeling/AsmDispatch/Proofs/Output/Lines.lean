import AsmDispatch.Proofs.Output.Constants
import AsmDispatch.Proofs.Region.Table
import AsmDispatch.Proofs.Text.Lines

/-!
# Lines and blocks of the output

The tables are written with names, rendered literals, numerals and comments of definitions.  None of
these holds a line feed, even where a line of the source does, and no line of a table is empty.  So
the empty lines that separate the blocks are the first four of the output, whatever the dispatch
procedure looks like.

## Main statements

* `Output.text_eq`: the lines of the output, from the first block to the last.
* `Compilation.isSolid_tables`: the characters of the tables.
* `Compilation.blocks_cut_apart`: the output can be cut into its blocks again.
-/

namespace AsmDispatch

open Text (Within Admits IsSolid isNoFeed)

variable {q : Char → Bool}

/-! ## Parts of lines -/

namespace Literal

theorem AtomDerivation.within_render (hq : Admits q) (a : AtomDerivation) :
    Within q a.atom.render := by
  induction a with
  | hex ds => exact fun c hc => hq.word c (isWord_of_mem_render_hex ds hc)
  | bin ds => exact fun c hc => hq.word c (isWord_of_mem_render_bin ds hc)
  | word cs => exact fun c hc => hq.word c (cs.all c hc)
  | low gap a ih | high gap a ih =>
    simp only [atom, Atom.render, Text.within_append]
    exact ⟨⟨hq.within_of_all (by decide), ih⟩, hq.within_of_all (by decide)⟩

theorem ExprDerivation.within_render (hq : Admits q) (e : ExprDerivation) :
    Within q e.expr.render := by
  induction e with
  | atom a => exact a.within_render hq
  | chain left before op after right ih =>
    have hop : Within q [' ', op.symbol, ' '] := hq.within_of_all (by cases op <;> decide)
    simp only [expr, Expr.render, Text.within_append]
    refine ⟨⟨left.within_render hq, hop⟩, ?_⟩
    split
    · simp only [Text.within_append]
      exact ⟨⟨hq.within_of_all (by decide), ih⟩, hq.within_of_all (by decide)⟩
    · exact ih

theorem within_of_format (hq : Admits q) {t v : Text} {location : Option Location}
    (h : format t location = .ok v) : Within q v := by
  obtain ⟨d, -, rfl⟩ := format_eq_ok_iff.mp h
  exact d.body.within_render hq

end Literal

namespace Host

variable (h : Host) {t u : Text}

theorem within_indent (hq : Admits q) (level : Nat) : Within q (h.indent level) := by
  cases h <;> exact hq.within_spaces _

theorem within_comment (hq : Admits q) (ht : Within q t) : Within q (h.comment t) := by
  have hmark : Within q h.commentMark := by
    cases h <;> exact hq.within_of_all (by decide)
  unfold comment
  split
  · exact hmark
  · simp only [Text.within_append]
    exact ⟨⟨hmark, hq.within_of_all (by decide)⟩, ht⟩

theorem comment_ne_nil (t : Text) : h.comment t ≠ [] := by
  have hmark : h.commentMark ≠ [] := by cases h <;> decide
  unfold comment
  split
  · exact hmark
  · simp [hmark]

theorem within_withComment (hq : Admits q) (ht : Within q t) {remark : Option Text}
    (hremark : ∀ u ∈ remark, Within q u) : Within q (h.withComment t remark) := by
  unfold withComment
  split
  · exact ht
  · exact ht
  · simp only [Text.within_append]
    exact ⟨⟨ht, hq.within_of_all (by decide)⟩, h.within_comment hq (hremark _ rfl)⟩

theorem withComment_ne_nil (ht : t ≠ []) (remark : Option Text) : h.withComment t remark ≠ [] := by
  unfold withComment
  split
  · exact ht
  · exact ht
  · simp [ht]

theorem within_constant (hq : Admits q) (ht : Within q t) (hu : Within q u) :
    Within q (h.constant t u) := by
  cases h <;> simp only [constant, Text.within_append]
  · exact ⟨⟨⟨hq.within_of_all (by decide), ht⟩, hq.within_of_all (by decide)⟩, hu⟩
  · exact ⟨⟨ht, hq.within_of_all (by decide)⟩, hu⟩

theorem constant_ne_nil (t u : Text) : h.constant t u ≠ [] := by
  cases h <;> simp [constant]

end Host

/-! ## Lines of the tables -/

namespace Output

variable {o : Output} {h : Host}

theorem isSolid_labelLines (hq : Admits q) {symbols : Symbols} {ls : List Line}
    (hls : ∀ name ∈ Line.labelNames ls, Text.IsWordRun name) :
    IsSolid q (labelLines h symbols ls) := by
  refine ⟨List.cons_ne_nil _ _, List.forall_mem_cons.mpr ⟨⟨h.comment_ne_nil _, ?_⟩, ?_⟩⟩
  · exact h.within_comment hq (hq.within_of_all (by decide))
  · intro t ht
    obtain ⟨e, he, rfl⟩ := List.mem_map.mp ht
    obtain ⟨l, hl, he⟩ := List.mem_filterMap.mp (List.mem_eraseDups.mp he)
    have hname := hls _ (Line.mem_labelNames_iff.mpr ⟨l, hl, (codeLabel?_eq_some_iff.mp he).1⟩)
    exact ⟨h.constant_ne_nil _ _,
      h.within_constant hq (hq.within_of_isWordRun hname) (hq.within_decimal _)⟩

theorem isSolid_definitionLines (hq : Admits q) {ls : List Line} {ts : List Text}
    (hls : ∀ d ∈ Line.definitions ls,
      Text.IsWordRun d.2.name ∧ ∀ u ∈ d.2.comment, Within q u)
    (hts : definitionLines h ls = .ok ts) : IsSolid q ts := by
  obtain ⟨rest, rfl, hrest⟩ := exists_of_definitionLines hts
  refine ⟨List.cons_ne_nil _ _, List.forall_mem_cons.mpr ⟨⟨h.comment_ne_nil _, ?_⟩, ?_⟩⟩
  · exact h.within_comment hq (hq.within_of_all (by decide))
  · intro t ht
    obtain ⟨d, hd, v, hv, rfl⟩ := Outcome.exists_mem_of_forall₂ hrest.flip ht
    obtain ⟨hname, hremark⟩ := hls d hd
    have hconstant := h.within_constant hq (hq.within_of_isWordRun hname)
      (Literal.within_of_format hq hv)
    exact ⟨h.withComment_ne_nil (h.constant_ne_nil _ _) _,
      h.within_withComment hq hconstant hremark⟩

theorem isSolid_addressLines (hq : Admits q) {symbols : Symbols} {rs : List Region}
    (hrs : ∀ r ∈ rs, Text.IsWordRun r.name) : IsSolid q (addressLines h symbols rs) := by
  refine ⟨List.cons_ne_nil _ _, List.forall_mem_cons.mpr ⟨⟨h.comment_ne_nil _, ?_⟩, ?_⟩⟩
  · exact h.within_comment hq (hq.within_of_all (by decide))
  · intro t ht
    obtain ⟨e, he, rfl⟩ := List.mem_map.mp ht
    obtain ⟨r, hr, rfl⟩ := List.mem_map.mp (List.mem_eraseDups.mp he)
    have hname := hrs r (List.mem_of_mem_filter hr)
    exact ⟨h.constant_ne_nil _ _,
      h.within_constant hq (hq.within_of_isWordRun hname) (hq.within_hex _)⟩

theorem line_of_mem_regionText (hq : Admits q) {r : Region} {vs : List Text}
    (hname : Text.IsWordRun r.name) (hvs : regionValues r = .ok vs) {t : Text}
    (ht : t ∈ regionText h r vs) : t ≠ [] ∧ Within q t := by
  have hindent := h.within_indent hq 1
  simp only [regionText, List.mem_cons, List.not_mem_nil, or_false] at ht
  rcases ht with rfl | rfl
  · have htitle : Within q (r.name ++ ": " ++ Text.hex r.address) := by
      simp only [Text.within_append]
      exact ⟨⟨hq.within_of_isWordRun hname, hq.within_of_all (by decide)⟩, hq.within_hex _⟩
    exact ⟨by simp [h.comment_ne_nil], Text.within_append.mpr ⟨hindent, h.within_comment hq htitle⟩⟩
  · split
    · have hempty := h.within_comment hq (t := "Empty") (hq.within_of_all (by decide))
      exact ⟨by simp [h.comment_ne_nil], Text.within_append.mpr ⟨hindent, hempty⟩⟩
    · have hvalues : Within q (Text.join ", " vs) := by
        refine Text.within_join (hq.within_of_all (by decide)) fun v hv => ?_
        obtain ⟨t, hformat⟩ := exists_format_of_mem_regionValues hvs hv
        exact Literal.within_of_format hq hformat
      exact ⟨by simp, Text.within_append.mpr
        ⟨hindent, Text.within_append.mpr ⟨hvalues, hq.within_of_all (by decide)⟩⟩⟩

theorem isSolid_dataLines (hq : Admits q) {name : Text} {rs : List Region} {ts : List Text}
    (hname : Within q name) (hrs : ∀ r ∈ rs, Text.IsWordRun r.name)
    (hts : dataLines h name rs = .ok ts) : IsSolid q ts := by
  obtain ⟨vss, hvss, rfl⟩ := dataLines_eq_ok_iff.mp hts
  have htotal : Within q
      (h.comment ("Total size: " ++ Text.decimal (Region.totalSize rs))) :=
    h.within_comment hq (Text.within_append.mpr
      ⟨hq.within_of_all (by decide), hq.within_decimal _⟩)
  refine ⟨List.cons_ne_nil _ _, List.forall_mem_append.mpr ⟨List.forall_mem_append.mpr ⟨?_, ?_⟩,
    List.forall_mem_singleton.mpr ⟨by simp, ?_⟩⟩⟩
  · simp only [List.mem_cons, List.not_mem_nil, or_false, forall_eq_or_imp, forall_eq]
    exact ⟨⟨h.comment_ne_nil _, h.within_comment hq (hq.within_of_all (by decide))⟩,
      h.constant_ne_nil _ _, h.within_constant hq hname (hq.within_of_all (by decide))⟩
  · clear hts htotal
    induction hvss with
    | nil => exact List.forall_mem_nil _
    | @cons r vs rs vss hvs _ ih =>
      obtain ⟨hr, htail⟩ := List.forall_mem_cons.mp hrs
      rw [groupLines, List.zipWith_cons_cons, List.flatten_cons, List.forall_mem_append]
      exact ⟨fun t ht => line_of_mem_regionText hq hr hvs ht, ih htail⟩
  · exact Text.within_append.mpr ⟨hq.within_of_all (by decide), htotal⟩

/-! ## Lines of the output -/

/-- The lines of the three blocks of constants. -/
def constantLines (o : Output) : List Text :=
  o.labels ++ [] :: (o.definitions ++ [] :: o.addresses)

/-- All lines of the output. -/
def lines (o : Output) : List Text := o.constantLines ++ [] :: (o.data ++ [] :: o.dispatch)

/-- The output is its lines one after the other, if no block is empty. -/
theorem text_eq (hblocks : ∀ b ∈ [o.labels, o.definitions, o.addresses, o.data, o.dispatch],
    b ≠ []) : o.text = Text.joinLines o.lines ++ "\n" := by
  simp only [List.forall_mem_cons] at hblocks
  obtain ⟨hlabels, hdefinitions, haddresses, hdata, hdispatch, -⟩ := hblocks
  have hlines : o.lines = o.labels ++ [] :: (o.definitions ++ [] :: (o.addresses ++
      [] :: (o.data ++ [] :: o.dispatch))) := by
    simp [lines, constantLines]
  rw [hlines, Text.joinLines_append hlabels (by simp),
    Text.joinLines_append hdefinitions (by simp), Text.joinLines_append haddresses (by simp),
    Text.joinLines_append hdata hdispatch]
  simp [text, blocks, Text.join, List.intercalate]

/-- The blocks in front of the dispatch procedure. -/
def tables (o : Output) : List (List Text) := [o.labels, o.definitions, o.addresses, o.data]

/-- Solid tables are found again in the output. -/
theorem cutAt_text (ho : ∀ b ∈ o.tables, IsSolid isNoFeed b) :
    ∃ body, o.text = body ++ "\n" ∧ Text.cutAt "\n\n" 4 body = o.blocks :=
  ⟨_, rfl, Text.cutAt_join ho (Text.joinLines o.dispatch)⟩

end Output

/-! ## Compiled sources -/

theorem Config.isIdentifier_of_validate {c : Config} (hc : c.validate = .ok ()) :
    Text.isIdentifier c.stepName = true ∧ Text.isIdentifier c.tableName = true :=
  (validate_eq_ok_iff.mp hc).2.2

theorem Listing.exists_noteFrom_of_mem_definitions {filename : Text} {source : List Text}
    {d : Option Location × Definition}
    (hd : d ∈ Line.definitions (Listing.ofLines filename source).lines) :
    ∃ t ∈ source, Form.NoteFrom t d.2.comment := by
  obtain ⟨m, hm, hd⟩ := List.mem_filterMap.mp hd
  obtain ⟨t, ht, hfrom⟩ := Listing.exists_readFrom_of_mem hm
  unfold Line.definition? at hd
  split at hd
  · next definition hrecord =>
    cases hd
    rw [hrecord] at hfrom
    cases hfrom with
    | definition _ hremark => exact ⟨t, ht, hremark⟩
  · cases hd

namespace Compilation

variable {c : Config} {verbose : Bool} {filename : Text} {source : List Text} {l : Listing}
  {h : Host} {p : Product}

/-- Every block has a title or the head of a procedure. -/
theorem text_output_eq (hy : Yields c l h p) :
    p.output.text = Text.joinLines p.output.lines ++ "\n" := by
  obtain ⟨rest, hdefinitions, -⟩ := Output.exists_of_definitionLines hy.definitions
  obtain ⟨vss, -, hdata⟩ := Output.dataLines_eq_ok_iff.mp hy.data
  obtain ⟨es, -, hdispatch⟩ := hy.dispatch
  apply Output.text_eq
  simp only [List.forall_mem_cons, hy.labels, hdefinitions, hy.addresses, hdata, hdispatch]
  refine ⟨List.cons_ne_nil _ _, List.cons_ne_nil _ _, List.cons_ne_nil _ _, List.cons_ne_nil _ _,
    ?_, fun _ hnil => nomatch hnil⟩
  cases h <;> exact List.cons_ne_nil _ _

/-- The tables are within every class that holds the comments of the definitions and the name of the
table of data. -/
theorem isSolid_tables (hq : Admits q) (hl : l.IsRead) (hy : Yields c l h p)
    (hname : Within q c.tableName)
    (hremarks : ∀ d ∈ Line.definitions l.lines, ∀ u ∈ d.2.comment, Within q u) :
    ∀ b ∈ p.output.tables, IsSolid q b := by
  have hlabels : ∀ name ∈ Line.labelNames (prepare c l).lines, Text.IsWordRun name := by
    rw [labelNames_prepare]
    exact fun name => hl.isWordRun_of_mem_labelNames
  have hdefinitions : ∀ d ∈ Line.definitions (prepare c l).lines,
      Text.IsWordRun d.2.name ∧ ∀ u ∈ d.2.comment, Within q u := by
    rw [definitions_prepare]
    exact fun d hd => ⟨hl.isWordRun_of_mem_definitions hd, hremarks d hd⟩
  have hregions : ∀ r ∈ (prepare c l).regions, Text.IsWordRun r.name :=
    fun r hr => isWordRun_of_mem_regions hl hr
  simp only [Output.tables, List.forall_mem_cons]
  refine ⟨?_, Output.isSolid_definitionLines hq hdefinitions hy.definitions, ?_,
    Output.isSolid_dataLines hq hname hregions hy.data, List.forall_mem_nil _⟩
  · rw [hy.labels]
    exact Output.isSolid_labelLines hq hlabels
  · rw [hy.addresses]
    exact Output.isSolid_addressLines hq hregions

/-- No table of a compiled source has an empty line, nor does it start or end with a line feed.  So
the output without its last line feed, cut at the first four places where two line feeds follow each
other, gives the five blocks. -/
theorem blocks_cut_apart (hc : c.validate = .ok ())
    (hp : (ofLines c verbose filename source).result = .ok p) :
    (∀ b ∈ p.output.blocks.take 4, (∀ t ∈ Text.pieces '\n' b, t ≠ []) ∧
        b.head? ≠ some '\n' ∧ b.getLast? ≠ some '\n') ∧
      ∃ body, p.output.text = body ++ "\n" ∧ Text.cutAt "\n\n" 4 body = p.output.blocks := by
  obtain ⟨h, hy⟩ := result_eq_ok_iff.mp hp
  have hname : Within isNoFeed c.tableName := fun d hd => Text.isNoFeed_of_isInLine
    (Text.within_isInLine_of_isIdentifier (Config.isIdentifier_of_validate hc).2 d hd)
  have hsolid := isSolid_tables Text.admits_isNoFeed (Listing.isRead_ofLines filename source) hy
    hname fun d hd u hu => by
      obtain ⟨t, -, hremark⟩ := Listing.exists_noteFrom_of_mem_definitions hd
      exact Text.within_isNoFeed_iff.mpr (hremark u hu).2
  refine ⟨fun b hb => ?_, Output.cutAt_text hsolid⟩
  obtain ⟨ls, hls, rfl⟩ : ∃ ls ∈ p.output.tables, Text.joinLines ls = b := List.mem_map.mp hb
  obtain ⟨hne, hlines⟩ := hsolid ls hls
  have hpieces : ∀ t ∈ Text.pieces '\n' (Text.joinLines ls), t ≠ [] := by
    rw [Text.pieces_joinLines hne fun t ht => (hlines t ht).2]
    exact fun t ht => (hlines t ht).1
  exact ⟨hpieces, Text.head?_and_getLast?_ne hpieces⟩

/-- A source with line feeds inside its lines, and with blank lines between its instructions. -/
def feedingSource : List Text :=
  ["SIZE = \n 2 ; two", "start:", "  LDA #\nSIZE", "", "table:\n", "  .db 1,\n 2 ; bytes", "; end"]

/-- The dispatch procedure has an empty line of its own. -/
theorem blocks_cut_apart_of_feeding :
    ∃ p, ({} : Config).validate = .ok () ∧
      (ofLines {} false "feeding.asm" feedingSource).result = .ok p ∧
      (Text.breakAt? "\n\n" (Text.joinLines p.output.dispatch)).isSome = true ∧
      (∀ b ∈ p.output.blocks.take 4, (∀ t ∈ Text.pieces '\n' b, t ≠ []) ∧
        b.head? ≠ some '\n' ∧ b.getLast? ≠ some '\n') ∧
      ∃ body, p.output.text = body ++ "\n" ∧ Text.cutAt "\n\n" 4 body = p.output.blocks := by
  have hvalid : ({} : Config).validate = .ok () := by rfl
  have hempty : (ofLines {} false "feeding.asm" feedingSource).result.map
      (fun p => (Text.breakAt? "\n\n" (Text.joinLines p.output.dispatch)).isSome) = .ok true := by
    decide +kernel
  obtain ⟨p, hp, hsome⟩ := Outcome.map_eq_ok_iff.mp hempty
  exact ⟨p, hvalid, hp, hsome, blocks_cut_apart hvalid hp⟩

end Compilation

end AsmDispatch
