import AsmDispatch.Proofs.Literal.Grouping
import AsmDispatch.Proofs.Output.Constants
import AsmDispatch.Proofs.Output.Lines
import AsmDispatch.Proofs.Region.Table

/-!
# Constants in the order of the output

A host takes the lines of the output from the first to the last and needs every constant before it
evaluates an expression with its name.  The blocks are in a fixed order, labels, definitions,
addresses, data, so the items of the data have all constants in front of them.  Within the block of
definitions the order is that of the source, which may name a definition that comes later, or a
label of data, whose address comes in a later block.

## Main statements

* `Output.declaredNames_take_definitionPlace`: what is declared in front of a definition.
* `Compilation.constants_in_order_iff`: when every constant comes before its uses.
-/

namespace AsmDispatch

/-- A word of the expression is the name. -/
def HostExpr.Mentions (v name : Text) : Prop := ∃ ts, lex v = some ts ∧ Token.word name ∈ ts

theorem Literal.exists_lex_of_format {t v : Text} {location : Option Location}
    (hv : format t location = .ok v) : ∃ ts, HostExpr.lex v = some ts := by
  obtain ⟨d, -, rfl⟩ := format_eq_ok_iff.mp hv
  exact ⟨_, d.body.lexes_render.lex_eq⟩

namespace Line

/-- The last label of a name leads to code. -/
def NamesCode (ls : List Line) (name : Text) : Prop :=
  ∃ before l behind, IsLastLabel ls name before l behind ∧ leadToData behind = false

/-- The last label of a name leads to data. -/
def NamesData (ls : List Line) (name : Text) : Prop :=
  ∃ before l behind, IsLastLabel ls name before l behind ∧ leadToData behind = true

/-- Whatever a definition mentions, if it is the name of a definition that is not before it or of a
label that leads to data, is also the name of a label that leads to code or of a definition before
it. -/
def DefinesInOrder (ls : List Line) : Prop :=
  ∀ k location d v name, (definitions ls)[k]? = some (location, d) →
    Literal.format d.literal location = .ok v → HostExpr.Mentions v name →
    name ∈ (definitionNames ls).drop k ∨ NamesData ls name →
    NamesCode ls name ∨ name ∈ (definitionNames ls).take k

end Line

namespace Output

variable {h : Host} {o : Output} {name : Text} {k : Nat}

/-! ## What is declared in front of a line -/

theorem declaredNames_cons_nil (ts : List Text) :
    declaredNames h ([] :: ts) = declaredNames h ts := by
  have hnone : h.declaration? [] = none := by cases h <;> rfl
  rw [declaredNames, declarations, List.filterMap_cons_none hnone]
  rfl

theorem declaredNames_constantLines (h : Host) (o : Output) :
    declaredNames h o.constantLines = declaredNames h o.labels ++
      (declaredNames h o.definitions ++ declaredNames h o.addresses) := by
  rw [constantLines, declaredNames_append, declaredNames_cons_nil, declaredNames_append,
    declaredNames_cons_nil]

/-- The line of a definition among the lines of the output: behind the labels, an empty line and
the title. -/
def definitionPlace (o : Output) (k : Nat) : Nat := o.labels.length + (k + 2)

/-- The line with the items of a region: behind the constants, an empty line, the first two lines of
the table, and two lines for each region before it, of which the second one has the items. -/
def itemPlace (o : Output) (k : Nat) : Nat := o.constantLines.length + (2 * k + 4)

variable {rest : List Text}

theorem lines_eq_of_definitions (ho : o.definitions = h.comment "Definitions" :: rest) :
    o.lines = o.labels ++ ([] :: h.comment "Definitions" :: (rest ++
      ([] :: (o.addresses ++ [] :: (o.data ++ [] :: o.dispatch))))) := by
  simp [lines, constantLines, ho]

theorem getElem?_definitionPlace (ho : o.definitions = h.comment "Definitions" :: rest)
    {t : Text} (ht : rest[k]? = some t) : o.lines[o.definitionPlace k]? = some t := by
  have hk : k < rest.length := (List.getElem?_eq_some_iff.mp ht).1
  rw [lines_eq_of_definitions ho, definitionPlace,
    List.getElem?_append_right (Nat.le_add_right _ _), Nat.add_sub_cancel_left,
    List.getElem?_cons_succ, List.getElem?_cons_succ, List.getElem?_append_left hk, ht]

/-- In front of a definition are the labels and the definitions before it. -/
theorem declaredNames_take_definitionPlace {qs : List (Option Location × Definition)}
    (ho : o.definitions = h.comment "Definitions" :: rest)
    (hwords : ∀ q ∈ qs, Text.IsWordRun q.2.name)
    (hrest : List.Forall₂ (IsDefinitionLine h) qs rest) (hk : k ≤ qs.length) :
    declaredNames h (o.lines.take (o.definitionPlace k)) =
      declaredNames h o.labels ++ (qs.map (·.2.name)).take k := by
  have hfront : o.lines.take (o.definitionPlace k) =
      o.labels ++ [] :: h.comment "Definitions" :: rest.take k := by
    rw [lines_eq_of_definitions ho, definitionPlace, List.take_length_add_append,
      List.take_succ_cons, List.take_succ_cons, List.take_append_of_le_length]
    exact hrest.length_eq ▸ hk
  have hnames := declaredNames_of_forall₂ (fun q hq => hwords q (List.mem_of_mem_take hq))
    (List.forall₂_take k hrest)
  rw [hfront, declaredNames_append, declaredNames_cons_nil, declaredNames_cons_comment, hnames,
    List.map_take]

/-- In front of the items of every region are all constants. -/
theorem mem_declaredNames_take_itemPlace (hname : name ∈ declaredNames h o.constantLines) :
    name ∈ declaredNames h (o.lines.take (o.itemPlace k)) := by
  rw [lines, itemPlace, List.take_length_add_append, declaredNames_append]
  exact List.mem_append_left _ hname

/-- The line with the items of a region. -/
def itemLine (h : Host) (vs : List Text) : Text := h.indent 1 ++ (Text.join ", " vs ++ ",")

theorem getElem?_groupLines {rs : List Region} {vss : List (List Text)} {r : Region}
    {vs : List Text} (hvss : List.Forall₂ (fun r vs => regionValues r = .ok vs) rs vss)
    (hr : rs[k]? = some r) (hvs : regionValues r = .ok vs) (hne : vs ≠ []) :
    (groupLines h rs vss)[2 * k + 1]? = some (itemLine h vs) := by
  induction hvss generalizing k with
  | nil => cases hr
  | @cons s us rs vss hus _ ih =>
    rw [groupLines, List.zipWith_cons_cons, List.flatten_cons]
    cases k with
    | zero =>
      cases hr
      rw [hvs] at hus
      cases hus
      have hsize : r.size ≠ 0 := by
        rw [← length_of_regionValues hvs]
        exact mt List.length_eq_zero_iff.mp hne
      rw [regionText, if_neg hsize]
      rfl
    | succ k => exact ih hr

theorem getElem?_itemPlace {table : Text} {rs : List Region} {r : Region} {vs : List Text}
    (ho : dataLines h table rs = .ok o.data) (hr : rs[k]? = some r)
    (hvs : regionValues r = .ok vs) (hne : vs ≠ []) :
    o.lines[o.itemPlace k]? = some (itemLine h vs) := by
  obtain ⟨vss, hvss, hdata⟩ := dataLines_eq_ok_iff.mp ho
  have hgroup := getElem?_groupLines (h := h) hvss hr hvs hne
  have hk := (List.getElem?_eq_some_iff.mp hgroup).1
  rw [lines, itemPlace, List.getElem?_append_right (Nat.le_add_right _ _),
    Nat.add_sub_cancel_left, hdata]
  simp only [List.cons_append, List.nil_append, List.append_assoc, List.getElem?_cons_succ]
  rw [List.getElem?_append_left hk, hgroup]

/-! ## Order -/

/-- A line of the output, by its number, holds an expression that the host evaluates when it comes
to the line: the value of a definition, or an item of a region. -/
inductive Evaluates (h : Host) (ls : List Line) (rs : List Region) (o : Output) :
    Nat → Text → Text → Prop
  | definition {k : Nat} {location : Option Location} {d : Definition} {v : Text}
      (get : (Line.definitions ls)[k]? = some (location, d))
      (value : Literal.format d.literal location = .ok v) :
      Evaluates h ls rs o (o.definitionPlace k)
        (h.withComment (h.constant d.name v) d.comment) v
  | item {k : Nat} {r : Region} {vs : List Text} {v : Text} (get : rs[k]? = some r)
      (values : regionValues r = .ok vs) (mem : v ∈ vs) :
      Evaluates h ls rs o (o.itemPlace k) (itemLine h vs) v

/-- Every constant that an expression mentions is declared on a line in front of it. -/
def InOrder (h : Host) (ls : List Line) (rs : List Region) (o : Output) : Prop :=
  ∀ n t v name, Evaluates h ls rs o n t v → HostExpr.Mentions v name →
    name ∈ declaredNames h o.constantLines → name ∈ declaredNames h (o.lines.take n)

end Output

namespace Compilation

open Output (declaredNames)

variable {c : Config} {verbose : Bool} {filename : Text} {source : List Text} {l : Listing}
  {h : Host} {p : Product} {name : Text}

theorem mem_declaredNames_labels_iff (hl : l.IsRead) (hy : Yields c l h p) :
    name ∈ declaredNames h p.output.labels ↔ Line.NamesCode l.lines name := by
  rw [mem_declaredNames_iff]
  simp only [mem_declarations_labels_iff hl hy]
  constructor
  · rintro ⟨_, slot, hslot, -⟩
    cases resolved hl c name with
    | unknown _ hvalues | data _ _ _ hvalues =>
      have hnone := congrArg Prod.fst hvalues
      rw [Symbols.labelValues, hslot] at hnone
      cases hnone
    | code hlast hleads _ => exact ⟨_, _, _, hlast, hleads⟩
  · rintro ⟨before, m, behind, hlast, hleads⟩
    have hvalues :=
      labelValues_prepare_of_code hlast (hl.isDataLabel_eq_false hlast.mem) hleads c
    exact ⟨_, _, congrArg Prod.fst hvalues, rfl⟩

theorem mem_declaredNames_addresses_iff (hl : l.IsRead) (hy : Yields c l h p) :
    name ∈ declaredNames h p.output.addresses ↔ Line.NamesData l.lines name := by
  rw [mem_declaredNames_iff]
  simp only [mem_declarations_addresses_iff hl hy]
  constructor
  · rintro ⟨_, address, haddress, -⟩
    cases resolved hl c name with
    | unknown _ hvalues | code _ _ hvalues =>
      have hnone := congrArg Prod.snd hvalues
      rw [Symbols.labelValues, haddress] at hnone
      cases hnone
    | data hlast hleads _ _ => exact ⟨_, _, _, hlast, hleads⟩
  · rintro ⟨before, m, behind, hlast, hleads⟩
    obtain ⟨r, -, hvalues⟩ := labelValues_prepare_of_data hlast hleads c
    exact ⟨_, _, congrArg Prod.snd hvalues, rfl⟩

/-- The definitions are behind their title, in the order of the source. -/
theorem exists_definitions (hy : Yields c l h p) :
    ∃ rest, p.output.definitions = h.comment "Definitions" :: rest ∧
      List.Forall₂ (Output.IsDefinitionLine h) (Line.definitions l.lines) rest := by
  have hrest := Output.exists_of_definitionLines hy.definitions
  rwa [definitions_prepare] at hrest

/-- The lines that hold an expression are where they are said to be, and the host can read it. -/
theorem getElem?_lines_of_evaluates (hy : Yields c l h p) {n : Nat} {t v : Text}
    (hv : Output.Evaluates h l.lines p.regions p.output n t v) :
    p.output.lines[n]? = some t ∧ ∃ ts, HostExpr.lex v = some ts := by
  cases hv with
  | @definition k location d v hget hv =>
    obtain ⟨rest, hdefinitions, hrest⟩ := exists_definitions hy
    obtain ⟨hk, hq⟩ := List.getElem?_eq_some_iff.mp hget
    have hk' : k < rest.length := hrest.length_eq ▸ hk
    have hline : Output.IsDefinitionLine h (location, d) (rest.get ⟨k, hk'⟩) :=
      hq ▸ hrest.get hk hk'
    obtain ⟨v', hv', ht⟩ := hline
    obtain rfl : v = v' := Except.ok.inj (hv.symm.trans hv')
    refine ⟨Output.getElem?_definitionPlace hdefinitions ?_, Literal.exists_lex_of_format hv⟩
    rw [List.getElem?_eq_getElem hk', ← ht]
    rfl
  | @item k r vs v hr hvs hmem =>
    have hdata := hy.data
    rw [← hy.regions] at hdata
    refine ⟨Output.getElem?_itemPlace hdata hr hvs (List.ne_nil_of_mem hmem), ?_⟩
    obtain ⟨t, hv⟩ := Output.exists_format_of_mem_regionValues hvs hmem
    exact Literal.exists_lex_of_format hv

/-- What is declared in front of a definition. -/
theorem mem_declaredNames_take_iff (hl : l.IsRead) (hy : Yields c l h p) {k : Nat}
    (hk : k ≤ (Line.definitions l.lines).length) :
    name ∈ declaredNames h (p.output.lines.take (p.output.definitionPlace k)) ↔
      Line.NamesCode l.lines name ∨ name ∈ (Line.definitionNames l.lines).take k := by
  obtain ⟨rest, hdefinitions, hrest⟩ := exists_definitions hy
  rw [Output.declaredNames_take_definitionPlace hdefinitions
    (fun q => hl.isWordRun_of_mem_definitions) hrest hk, List.mem_append,
    mem_declaredNames_labels_iff hl hy]
  rfl

theorem mem_declaredNames_constantLines_iff (hl : l.IsRead) (hy : Yields c l h p) :
    name ∈ declaredNames h p.output.constantLines ↔ Line.NamesCode l.lines name ∨
      name ∈ Line.definitionNames l.lines ∨ Line.NamesData l.lines name := by
  rw [Output.declaredNames_constantLines, List.mem_append, List.mem_append,
    mem_declaredNames_labels_iff hl hy, declaredNames_definitions hl hy,
    mem_declaredNames_addresses_iff hl hy]

theorem inOrder_iff (hl : l.IsRead) (hy : Yields c l h p) :
    Output.InOrder h l.lines p.regions p.output ↔ Line.DefinesInOrder l.lines := by
  constructor
  · intro hall k location d v name hget hv hmentions hahead
    have hk := (List.getElem?_eq_some_iff.mp hget).1
    have hdeclared : name ∈ declaredNames h p.output.constantLines := by
      refine (mem_declaredNames_constantLines_iff hl hy).mpr (Or.inr ?_)
      exact hahead.imp_left List.mem_of_mem_drop
    exact (mem_declaredNames_take_iff hl hy hk.le).mp
      (hall _ _ v name (.definition hget hv) hmentions hdeclared)
  · intro hall n t v name hv hmentions hdeclared
    cases hv with
    | @definition k location d v hget hv =>
      have hk := (List.getElem?_eq_some_iff.mp hget).1
      apply (mem_declaredNames_take_iff hl hy hk.le).mpr
      rcases (mem_declaredNames_constantLines_iff hl hy).mp hdeclared with hcode | hname | hdata
      · exact Or.inl hcode
      · -- a definition is in front of this one, or it is this one or behind it
        rw [← List.take_append_drop k (Line.definitionNames l.lines), List.mem_append] at hname
        rcases hname with hbefore | hbehind
        · exact Or.inr hbefore
        · exact hall k location d v name hget hv hmentions (Or.inl hbehind)
      · exact hall k location d v name hget hv hmentions (Or.inr hdata)
    | item => exact Output.mem_declaredNames_take_itemPlace hdeclared

/-- The output of a compiled source is its lines one after the other, and the expressions of
definitions and items are on the lines that `Evaluates` says.  Each of them has the constants that
it mentions in front of it exactly if no definition mentions itself, a later definition or a label
that leads to data, except under a name that has been declared before.  Items have all constants in
front of them and play no part in it. -/
theorem constants_in_order_iff
    (hp : (ofLines { c with target := h.name } verbose filename source).result = .ok p) :
    p.output.text = Text.joinLines p.output.lines ++ "\n" ∧
      (∀ n t v, Output.Evaluates h (Listing.ofLines filename source).lines p.regions p.output
          n t v →
        p.output.lines[n]? = some t ∧ ∃ ts, HostExpr.lex v = some ts) ∧
      (Output.InOrder h (Listing.ofLines filename source).lines p.regions p.output ↔
        Line.DefinesInOrder (Listing.ofLines filename source).lines) := by
  have hy := yields_of_result hp
  have hl := Listing.isRead_ofLines filename source
  exact ⟨text_output_eq hy, fun n t v hv => getElem?_lines_of_evaluates hy hv, inOrder_iff hl hy⟩

/-- A source with a definition of a code label, one of a definition before it, and an item of a
later label. -/
def orderedSource : List Text :=
  ["BASE = start", "TWICE = BASE+BASE", "start:", "  JMP start", "table:", "  .db <TWICE, table"]

theorem namesCode_orderedSource :
    Line.NamesCode (Listing.ofLines "ordered.asm" orderedSource).lines "start" := by
  have hlabel : ((Listing.ofLines "ordered.asm" orderedSource).lines[2]?.bind
      Line.labelName?) = some "start" := by decide +kernel
  obtain ⟨m, hm, hname⟩ := Option.bind_eq_some_iff.mp hlabel
  obtain ⟨hlength, rfl⟩ := List.getElem?_eq_some_iff.mp hm
  have hlines := List.take_append_drop 2 (Listing.ofLines "ordered.asm" orderedSource).lines
  rw [List.drop_eq_getElem_cons hlength] at hlines
  exact ⟨_, _, _, ⟨hlines.symm, hname, by decide +kernel⟩, by decide +kernel⟩

theorem definesInOrder_orderedSource :
    Line.DefinesInOrder (Listing.ofLines "ordered.asm" orderedSource).lines := by
  have hdefinitions : Line.definitions (Listing.ofLines "ordered.asm" orderedSource).lines =
      [(some ⟨"ordered.asm", 1, 1⟩, ⟨"BASE", "start", none⟩),
        (some ⟨"ordered.asm", 2, 1⟩, ⟨"TWICE", "BASE+BASE", none⟩)] := by decide +kernel
  rintro k location d v name hget hv ⟨ts, hts, hmem⟩ -
  rw [hdefinitions] at hget
  match k with
  | 0 =>
    cases hget
    have hvalue : (Literal.format "start" (some ⟨"ordered.asm", 1, 1⟩)).toOption.bind
        HostExpr.lex = some [.word "start"] := by decide +kernel
    rw [hv] at hvalue
    cases hts.symm.trans hvalue
    cases List.mem_singleton.mp hmem
    exact Or.inl namesCode_orderedSource
  | 1 =>
    cases hget
    have hvalue : (Literal.format "BASE+BASE" (some ⟨"ordered.asm", 2, 1⟩)).toOption.bind
        HostExpr.lex = some [.word "BASE", .operator .add, .word "BASE"] := by decide +kernel
    rw [hv] at hvalue
    cases hts.symm.trans hvalue
    obtain rfl : name = "BASE" := by simpa using hmem
    exact Or.inr (by decide +kernel)
  | k + 2 => cases hget

/-- Both definitions and the item have their constants in front of them. -/
theorem constants_in_order_iff_of_ordered :
    ∃ p, (ofLines { ({} : Config) with target := Host.python.name } false "ordered.asm"
        orderedSource).result = .ok p ∧
      Output.InOrder .python (Listing.ofLines "ordered.asm" orderedSource).lines p.regions
        p.output := by
  have hok : (ofLines { ({} : Config) with target := Host.python.name } false "ordered.asm"
      orderedSource).result.isOk = true := by decide +kernel
  obtain ⟨p, hp⟩ := Outcome.exists_eq_ok_of_isOk hok
  exact ⟨p, hp, (constants_in_order_iff hp).2.2.mpr definesInOrder_orderedSource⟩

/-- A definition comes before the definition that it mentions. -/
theorem definition_before_its_constant :
    ∃ p, (ofLines { ({} : Config) with target := Host.javascript.name } false "ahead.asm"
        ["A = B", "B = 1"]).result = .ok p ∧
      p.output.definitions = ["// Definitions", "const A = B", "const B = 1"] ∧
      ¬ Output.InOrder .javascript (Listing.ofLines "ahead.asm" ["A = B", "B = 1"]).lines p.regions
        p.output := by
  have hlines : (ofLines { ({} : Config) with target := Host.javascript.name } false "ahead.asm"
      ["A = B", "B = 1"]).result.map (fun p => p.output.definitions) =
        .ok ["// Definitions", "const A = B", "const B = 1"] := by decide +kernel
  obtain ⟨p, hp, hdefinitions⟩ := Outcome.map_eq_ok_iff.mp hlines
  have hl := Listing.isRead_ofLines "ahead.asm" ["A = B", "B = 1"]
  refine ⟨p, hp, hdefinitions, ?_⟩
  rw [inOrder_iff hl (yields_of_result hp)]
  intro hall
  have hmentions : HostExpr.Mentions "B" "B" := ⟨[.word "B"], by decide, by decide⟩
  have hget : (Line.definitions (Listing.ofLines "ahead.asm" ["A = B", "B = 1"]).lines)[0]? =
      some (some ⟨"ahead.asm", 1, 1⟩, ⟨"A", "B", none⟩) := by decide +kernel
  have hname := hall 0 _ _ "B" "B" hget (by decide +kernel) hmentions
    (Or.inl (by decide +kernel))
  rcases hname with ⟨before, m, behind, hlast, -⟩ | hbefore
  · have hnone : Line.labelNames (Listing.ofLines "ahead.asm" ["A = B", "B = 1"]).lines = [] := by
      decide +kernel
    have hlabel := hlast.mem_labelNames
    rw [hnone] at hlabel
    cases hlabel
  · cases hbefore

end Compilation

end AsmDispatch
