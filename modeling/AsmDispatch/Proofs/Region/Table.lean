import AsmDispatch.Proofs.Compilation
import AsmDispatch.Proofs.Literal.Element
import AsmDispatch.Proofs.Output
import AsmDispatch.Proofs.Region.Layout

/-!
# Addresses index the table

Addresses come from the number of items, long before the items are written.  The table is read back
here from the text of its block, as the elements between the commas, so that the two can be
compared: an item stands in the table where its address says.

## Main statements

* `Output.tableElements_eq`: the elements that are read are the values of the regions in order.
* `Region.Consecutive.getElem?_flatten`: regions that lie one behind the other index these values.
* `Compilation.addresses_index_table`: both together, for every compiled source.
-/

namespace AsmDispatch

open Literal (Element)

namespace Output

/-- Whether a line holds nothing but a comment. -/
def isNote (h : Host) (l : Text) : Bool := h.commentMark.isPrefixOf (Text.stripStart l)

/-- The elements of a line, each of which has a comma behind it. -/
def lineElements (l : Text) : List Text := (Text.pieces ',' l).dropLast.map Text.strip

/-- The elements between the brackets of a block of data. -/
def tableElements (h : Host) (block : List Text) : List Text :=
  ((block.drop 2).dropLast.filter fun l => !isNote h l).flatMap lineElements

variable {h : Host}

theorem isBlank_of_mem_indent {level : Nat} {c : Char} (hc : c ∈ h.indent level) :
    Text.isBlank c = true := by
  have hspace : c = ' ' := by
    cases h with
    | javascript => exact List.eq_of_mem_replicate hc
    | python => exact List.eq_of_mem_replicate hc
  rw [hspace]
  decide

theorem stripStart_indent_append {t : Text} (ht : Text.Stops Text.isBlank t) (level : Nat) :
    Text.stripStart (h.indent level ++ t) = t :=
  Text.dropWhile_append_stops (fun _ => isBlank_of_mem_indent) ht

theorem isNote_commentMark_append (level : Nat) (u : Text) :
    isNote h (h.indent level ++ (h.commentMark ++ u)) = true := by
  have hstops : Text.Stops Text.isBlank (h.commentMark ++ u) := by
    cases h with
    | javascript => exact Text.stops_cons.mpr (by decide)
    | python => exact Text.stops_cons.mpr (by decide)
  rw [isNote, stripStart_indent_append hstops]
  exact List.isPrefixOf_iff_prefix.mpr (List.prefix_append _ _)

theorem exists_comment_eq (t : Text) : ∃ u, h.comment t = h.commentMark ++ u := by
  cases t with
  | nil => exact ⟨[], (List.append_nil _).symm⟩
  | cons c t => exact ⟨" " ++ c :: t, List.append_assoc _ _ _⟩

theorem isNote_comment (level : Nat) (t : Text) :
    isNote h (h.indent level ++ h.comment t) = true := by
  obtain ⟨u, hu⟩ := exists_comment_eq (h := h) t
  rw [hu]
  exact isNote_commentMark_append level u

theorem isNote_element {v : Text} (hv : Element v) (level : Nat) (t : Text) :
    isNote h (h.indent level ++ (v ++ t)) = false := by
  rw [isNote, stripStart_indent_append (hv.stopsBlank.append hv.ne_nil t)]
  obtain ⟨c, u, rfl, hc⟩ := hv.start
  rw [Bool.eq_false_iff]
  intro hprefix
  obtain ⟨r, hr⟩ := List.isPrefixOf_iff_prefix.mp hprefix
  cases h with
  | javascript =>
    obtain ⟨rfl, -⟩ := List.cons.inj hr
    exact absurd hc (by decide)
  | python =>
    obtain ⟨rfl, -⟩ := List.cons.inj hr
    exact absurd hc (by decide)

/-- The elements of a line are found again, whatever blanks stand in front. -/
theorem lineElements_join {u : Text} (hu : ∀ c ∈ u, Text.isBlank c = true) {vs : List Text}
    (hne : vs ≠ []) (hvs : ∀ v ∈ vs, Element v) :
    lineElements (u ++ (Text.join ", " vs ++ ",")) = vs := by
  induction vs generalizing u with
  | nil => exact absurd rfl hne
  | cons v vs ih =>
    obtain ⟨hv, htail⟩ := List.forall_mem_cons.mp hvs
    have hcomma : ',' ∉ u ++ v := by
      intro hmem
      rcases List.mem_append.mp hmem with hmem | hmem
      · exact absurd (hu _ hmem) (by decide)
      · exact hv.comma hmem
    have hstrip : Text.strip (u ++ v) = v := hv.strip_append hu
    cases vs with
    | nil =>
      have hline : u ++ (Text.join ", " [v] ++ ",") = u ++ v ++ ',' :: [] := by
        simp [Text.join]
      rw [hline, lineElements, Text.pieces_append hcomma]
      exact congrArg ([·]) hstrip
    | cons w vs =>
      have hline : u ++ (Text.join ", " (v :: w :: vs) ++ ",") =
          u ++ v ++ ',' :: ([' '] ++ (Text.join ", " (w :: vs) ++ ",")) := by
        simp [Text.join, List.intercalate]
      have hspace : ∀ c ∈ [' '], Text.isBlank c = true := by
        intro c hc
        rw [List.mem_singleton.mp hc]
        decide
      have hrest := ih hspace (List.cons_ne_nil _ _) htail
      rw [hline, lineElements, Text.pieces_append hcomma,
        List.dropLast_cons_of_ne_nil (Text.pieces_ne_nil _ _), List.map_cons, hstrip]
      exact congrArg (v :: ·) hrest

theorem length_of_regionValues {r : Region} {vs : List Text} (hvs : regionValues r = .ok vs) :
    vs.length = r.size :=
  (Outcome.mapM_eq_ok_iff.mp hvs).length_eq.symm

theorem format_of_regionValues {r : Region} {vs : List Text} (hvs : regionValues r = .ok vs)
    {k : Nat} (hk : k < r.size) :
    ∃ v, Literal.format (r.items.get ⟨k, hk⟩) r.location = .ok v ∧ vs[k]? = some v := by
  have hlength := length_of_regionValues hvs
  have hkvs : k < vs.length := by omega
  have hformat := (Outcome.mapM_eq_ok_iff.mp hvs).get hk hkvs
  exact ⟨_, hformat, List.getElem?_eq_getElem hkvs⟩

theorem exists_format_of_mem_regionValues {r : Region} {vs : List Text}
    (hvs : regionValues r = .ok vs) {v : Text} (hv : v ∈ vs) :
    ∃ t, Literal.format t r.location = .ok v := by
  obtain ⟨k, hk, rfl⟩ := List.getElem_of_mem hv
  have hlength := length_of_regionValues hvs
  obtain ⟨v, hformat, hget⟩ := format_of_regionValues hvs (hlength ▸ hk)
  rw [List.getElem?_eq_getElem hk] at hget
  rw [Option.some.inj hget]
  exact ⟨_, hformat⟩

theorem element_of_regionValues {r : Region} {vs : List Text} (hvs : regionValues r = .ok vs) :
    ∀ v ∈ vs, Element v := by
  intro v hv
  obtain ⟨t, hformat⟩ := exists_format_of_mem_regionValues hvs hv
  exact Literal.element_of_format hformat

theorem exists_join_eq_append (sep v : Text) (vs : List Text) :
    ∃ t, Text.join sep (v :: vs) = v ++ t := by
  cases vs with
  | nil => exact ⟨[], by simp [Text.join]⟩
  | cons w vs => exact ⟨sep ++ Text.join sep (w :: vs), by simp [Text.join, List.intercalate]⟩

/-- The lines of a region hold its values and no other elements. -/
theorem elements_regionText {r : Region} {vs : List Text} (hvs : regionValues r = .ok vs) :
    ((regionText h r vs).filter fun l => !isNote h l).flatMap lineElements = vs := by
  have hlength := length_of_regionValues hvs
  have hall := element_of_regionValues hvs
  rw [regionText, List.filter_cons_of_neg (by simp [isNote_comment])]
  cases vs with
  | nil =>
    have hsize : r.size = 0 := hlength.symm
    rw [if_pos hsize, List.filter_cons_of_neg (by simp [isNote_comment])]
    rfl
  | cons v vs =>
    have hsize : r.size ≠ 0 := by
      rw [← hlength]
      exact Nat.succ_ne_zero _
    obtain ⟨t, ht⟩ := exists_join_eq_append ", " v vs
    have hnote : isNote h (h.indent 1 ++ (Text.join ", " (v :: vs) ++ ",")) = false := by
      rw [ht, List.append_assoc]
      exact isNote_element (hall v List.mem_cons_self) 1 _
    rw [if_neg hsize, List.filter_cons_of_pos (by simp only [hnote, Bool.not_false]),
      List.filter_nil, List.flatMap_cons, List.flatMap_nil, List.append_nil]
    exact lineElements_join (fun _ => isBlank_of_mem_indent) (List.cons_ne_nil v vs) hall

theorem elements_groupLines {rs : List Region} {vss : List (List Text)}
    (hvss : List.Forall₂ (fun r vs => regionValues r = .ok vs) rs vss) :
    ((groupLines h rs vss).filter fun l => !isNote h l).flatMap lineElements = vss.flatten := by
  induction hvss with
  | nil => rfl
  | cons hvs _ ih =>
    rw [groupLines, List.zipWith_cons_cons, List.flatten_cons, List.filter_append,
      List.flatMap_append, elements_regionText hvs, List.flatten_cons]
    exact congrArg _ ih

/-- The table of a block of data holds the values of the regions in order. -/
theorem tableElements_eq {name : Text} {rs : List Region} {vss : List (List Text)}
    (hvss : List.Forall₂ (fun r vs => regionValues r = .ok vs) rs vss) (total : Text) :
    tableElements h
      ([h.comment "Rom data", h.constant name "["] ++ groupLines h rs vss ++ [total]) =
      vss.flatten := by
  rw [← elements_groupLines (h := h) hvss, tableElements, List.append_assoc]
  simp

theorem length_flatten_of_regionValues {rs : List Region} {vss : List (List Text)}
    (hvss : List.Forall₂ (fun r vs => regionValues r = .ok vs) rs vss) :
    vss.flatten.length = Region.totalSize rs := by
  induction hvss with
  | nil => rfl
  | cons hvs _ ih =>
    rw [List.flatten_cons, List.length_append, length_of_regionValues hvs, ih,
      Region.totalSize]

end Output

/-- The address of an item, taken from the first address, is its place among the values. -/
theorem Region.Consecutive.getElem?_flatten {a : Int} {rs : List Region} {vss : List (List Text)}
    (hrs : Region.Consecutive a rs)
    (hvss : List.Forall₂ (fun r vs => Output.regionValues r = .ok vs) rs vss) {r : Region}
    (hr : r ∈ rs) {k : Nat} (hk : k < r.size) :
    ∃ v, Literal.format (r.items.get ⟨k, hk⟩) r.location = .ok v ∧
      vss.flatten[(r.address - a + k).toNat]? = some v := by
  induction hvss generalizing a with
  | nil => cases hr
  | @cons s vs rs vss hvs _ ih =>
    obtain ⟨hs, htail⟩ := hrs
    have hlength := Output.length_of_regionValues hvs
    -- a later region starts behind this one, so its place is behind the values of this one
    rcases List.mem_cons.mp hr with rfl | hr
    · obtain ⟨v, hformat, hget⟩ := Output.format_of_regionValues hvs hk
      have hplace : (r.address - a + k).toNat = k := by omega
      refine ⟨v, hformat, ?_⟩
      rw [List.flatten_cons, hplace, List.getElem?_append_left (by omega), hget]
    · obtain ⟨v, hformat, hget⟩ := ih htail hr
      have hle := htail.le_address hr
      have hplace : (r.address - a + k).toNat =
          vs.length + (r.address - (a + s.size) + k).toNat := by omega
      refine ⟨v, hformat, ?_⟩
      rw [List.flatten_cons, hplace, List.getElem?_append_right (Nat.le_add_right _ _),
        Nat.add_sub_cancel_left, hget]

/-- The block of addresses declares the addresses of regions and nothing else. -/
theorem Output.mem_addressLines {h : Host} {symbols : Symbols} {rs : List Region} {l : Text}
    (hl : l ∈ addressLines h symbols rs) :
    l = h.comment "Rom data addresses" ∨ ∃ r ∈ rs, l = h.constant r.name (Text.hex r.address) := by
  rcases List.mem_cons.mp hl with rfl | hl
  · exact Or.inl rfl
  · obtain ⟨e, he, rfl⟩ := List.mem_map.mp hl
    obtain ⟨r, hr, rfl⟩ := List.mem_map.mp (List.mem_eraseDups.mp he)
    exact Or.inr ⟨r, (List.mem_filter.mp hr).1, rfl⟩

namespace Compilation

variable {c : Config} {verbose : Bool} {filename : Text} {source : List Text} {p : Product}

/-- The table of a compiled source is read from its block of data.  It has as many elements as the
block says and the regions have items.  The regions lie one behind the other from the base on and
share out the addresses of the table.  Each item stands in the table at its address, and the block
of addresses declares no other address than those of regions. -/
theorem addresses_index_table (hp : (ofLines c verbose filename source).result = .ok p) :
    ∃ h, Host.ofName? c.target = some h ∧
      (Output.tableElements h p.output.data).length = Region.totalSize p.regions ∧
      p.output.data.getLast? = some ("]  " ++ h.comment ("Total size: " ++
        Text.decimal (Output.tableElements h p.output.data).length)) ∧
      (∀ n r, p.regions[n]? = some r →
        r.address = c.romBase + Region.totalSize (p.regions.take n)) ∧
      (p.regions.Pairwise fun r s : Region => r.address + r.size ≤ s.address) ∧
      (∀ x, (∃ r ∈ p.regions, r.Holds x) ↔
        c.romBase ≤ x ∧ x < c.romBase + (Output.tableElements h p.output.data).length) ∧
      (∀ r ∈ p.regions, ∀ k, ∀ hk : k < r.size,
        ∃ v, Literal.format (r.items.get ⟨k, hk⟩) r.location = .ok v ∧
          (Output.tableElements h p.output.data)[(r.address - c.romBase + k).toNat]? = some v) ∧
      ∀ l ∈ p.output.addresses, l = h.comment "Rom data addresses" ∨
        ∃ r ∈ p.regions, l = h.constant r.name (Text.hex r.address) := by
  obtain ⟨h, hy⟩ := result_eq_ok_iff.mp hp
  obtain ⟨vss, hvss, hdata⟩ := Output.dataLines_eq_ok_iff.mp hy.data
  have hrs : Region.Consecutive c.romBase p.regions := by
    rw [hy.regions, regions_prepare]
    exact Region.consecutive_analyze _ _
  rw [← hy.regions] at hvss hdata
  have htable : Output.tableElements h p.output.data = vss.flatten := by
    rw [hdata]
    exact Output.tableElements_eq hvss _
  have hlength := Output.length_flatten_of_regionValues hvss
  refine ⟨h, hy.host, ?_⟩
  rw [htable, hlength]
  refine ⟨rfl, ?_, fun n r hr => hrs.address_eq hr, hrs.pairwise, fun x => hrs.exists_holds_iff,
    fun r hr k hk => hrs.getElem?_flatten hvss hr hk, ?_⟩
  · rw [hdata, List.getLast?_concat]
  · intro l hl
    rw [hy.addresses, ← hy.regions] at hl
    exact Output.mem_addressLines hl

/-- A source with two regions and an alias of the first. -/
def dataSource : List Text :=
  ["bytes:", "masks:", "  .db $01, %10, <main+1", "main:", "  LDA bytes", "  RTS", "tail:",
    "  .DB 7"]

theorem addresses_index_table_of_data :
    ∃ p, (ofLines {} false "data.asm" dataSource).result = .ok p ∧
      ∃ h, Host.ofName? ({} : Config).target = some h ∧
        (Output.tableElements h p.output.data).length = Region.totalSize p.regions ∧
        p.output.data.getLast? = some ("]  " ++ h.comment ("Total size: " ++
          Text.decimal (Output.tableElements h p.output.data).length)) ∧
        (∀ n r, p.regions[n]? = some r →
          r.address = ({} : Config).romBase + Region.totalSize (p.regions.take n)) ∧
        (p.regions.Pairwise fun r s : Region => r.address + r.size ≤ s.address) ∧
        (∀ x, (∃ r ∈ p.regions, r.Holds x) ↔ ({} : Config).romBase ≤ x ∧
          x < ({} : Config).romBase + (Output.tableElements h p.output.data).length) ∧
        (∀ r ∈ p.regions, ∀ k, ∀ hk : k < r.size,
          ∃ v, Literal.format (r.items.get ⟨k, hk⟩) r.location = .ok v ∧
            (Output.tableElements h p.output.data)[
              (r.address - ({} : Config).romBase + k).toNat]? = some v) ∧
        ∀ l ∈ p.output.addresses, l = h.comment "Rom data addresses" ∨
          ∃ r ∈ p.regions, l = h.constant r.name (Text.hex r.address) := by
  have hok : (ofLines {} false "data.asm" dataSource).result.isOk = true := by decide +kernel
  obtain ⟨p, hp⟩ := Outcome.exists_eq_ok_of_isOk hok
  exact ⟨p, hp, addresses_index_table hp⟩

end Compilation

end AsmDispatch
