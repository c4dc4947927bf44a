import AsmDispatch.Proofs.Output.Declaration

/-!
# Which constants are declared

The blocks of labels and of addresses share out the names of the labels: each name is declared in
one of them, once, with the value that its last label has.  Definitions are not compared with
anything.  So a constant is declared twice exactly if a definition repeats a name, or if one of the
two names of the configuration is taken.

## Main statements

* `Compilation.mem_declarations_labels_iff`, `Compilation.mem_declarations_addresses_iff`: the two
  blocks declare the two tables of labels.
* `Compilation.label_constants_declared_once`: the constant of every label.
* `Compilation.declared_names_nodup_iff`: when no constant is declared twice.
-/

namespace AsmDispatch

namespace Compilation

open Output (declarations declaredNames)

variable {c : Config} {verbose : Bool} {filename : Text} {source : List Text} {l : Listing}
  {h : Host} {p : Product} {name v : Text}

/-! ## The two blocks of labels -/

theorem codeLabels_prepare (c : Config) (l : Listing) :
    (prepare c l).lines.filterMap (Output.codeLabel? (prepare c l).symbols) =
      (Region.analyze c.romBase l.lines).1.filterMap (Output.codeLabel? (prepare c l).symbols) :=
  Line.filterMap_stampFrom (fun slot m => by simp [Output.codeLabel?]) 0 _

theorem labelNames_prepare (c : Config) (l : Listing) :
    Line.labelNames (prepare c l).lines = Line.labelNames l.lines :=
  (Line.filterMap_stampFrom (fun slot m => by simp [Line.labelName?]) 0 _).trans
    (Region.labelNames_analyze _ _)

theorem isWordRun_of_mem_regions (hl : l.IsRead) {r : Region} (hr : r ∈ (prepare c l).regions) :
    Text.IsWordRun r.name :=
  hl.isWordRun_of_mem_labelNames (Region.name_mem_of_mem_analyze hr)

/-- The block of labels declares the code labels of the symbols. -/
theorem mem_declarations_labels_iff (hl : l.IsRead) (hy : Yields c l h p) :
    (name, v) ∈ declarations h p.output.labels ↔
      ∃ slot : Nat, (prepare c l).symbols.codeLabels.get? name = some slot ∧
        v = Text.decimal slot := by
  have hwords : ∀ name ∈ Line.labelNames (prepare c l).lines, Text.IsWordRun name := by
    rw [labelNames_prepare]
    exact fun name => hl.isWordRun_of_mem_labelNames
  rw [hy.labels, Output.declarations_labelLines hwords, codeLabels_prepare]
  simp only [List.mem_map, List.mem_eraseDups, List.mem_filterMap,
    Output.codeLabel?_eq_some_iff]
  constructor
  · rintro ⟨⟨name, slot⟩, ⟨m, -, -, -, hslot⟩, heq⟩
    cases heq
    exact ⟨slot, hslot, rfl⟩
  · rintro ⟨slot, hslot, rfl⟩
    refine ⟨(name, slot), ?_, rfl⟩
    -- a name with a slot has a label that was not flagged: its last one
    cases resolved hl c name with
    | unknown _ hvalues | data _ _ _ hvalues =>
      have hnone := congrArg Prod.fst hvalues
      rw [Symbols.labelValues, hslot] at hnone
      cases hnone
    | @code before m behind hlast hleads _ =>
      obtain ⟨before', behind', hlast', -⟩ :=
        Region.analyze_of_isLastLabel_code hlast hleads c.romBase
      exact ⟨m, hlast'.mem, hlast.labelName, hl.isDataLabel_eq_false hlast.mem, hslot⟩

/-- The block of addresses declares the data labels of the symbols. -/
theorem mem_declarations_addresses_iff (hl : l.IsRead) (hy : Yields c l h p) :
    (name, v) ∈ declarations h p.output.addresses ↔
      ∃ address, (prepare c l).symbols.dataLabels.get? name = some address ∧
        v = Text.hex address := by
  rw [hy.addresses, Output.declarations_addressLines fun r hr => isWordRun_of_mem_regions hl hr]
  simp only [List.mem_map, List.mem_eraseDups, List.mem_filter, Output.isCurrent, beq_iff_eq]
  constructor
  · rintro ⟨e, ⟨r, ⟨-, haddress⟩, rfl⟩, heq⟩
    cases heq
    exact ⟨r.address, haddress, rfl⟩
  · rintro ⟨address, haddress, rfl⟩
    refine ⟨(name, address), ?_, rfl⟩
    cases resolved hl c name with
    | unknown _ hvalues | code _ _ hvalues =>
      have hnone := congrArg Prod.snd hvalues
      rw [Symbols.labelValues, haddress] at hnone
      cases hnone
    | @data before m behind r _ _ hr hvalues =>
      obtain ⟨rs, rs', hrs, -⟩ := hr.exists_eq_append
      rw [Symbols.labelValues, haddress] at hvalues
      obtain rfl : address = r.address := Option.some.inj (congrArg Prod.snd hvalues)
      refine ⟨r, ⟨?_, ?_⟩, ?_⟩
      · rw [hrs]
        exact List.mem_append_right _ List.mem_cons_self
      · rw [hr.name_eq]
        exact haddress
      · rw [hr.name_eq]

theorem mem_declaredNames_iff {block : List Text} :
    name ∈ declaredNames h block ↔ ∃ v, (name, v) ∈ declarations h block := by
  simp [declaredNames]

/-- A name is declared by the two blocks exactly if it has a label. -/
theorem mem_declaredNames_iff_mem_labelNames (hl : l.IsRead) (hy : Yields c l h p) :
    name ∈ declaredNames h p.output.labels ++ declaredNames h p.output.addresses ↔
      name ∈ Line.labelNames l.lines := by
  simp only [List.mem_append, mem_declaredNames_iff, mem_declarations_labels_iff hl hy,
    mem_declarations_addresses_iff hl hy]
  cases resolved hl c name with
  | unknown hname hvalues =>
    obtain ⟨hcode, hdata⟩ := Prod.mk.inj hvalues
    simp [hname, hcode, hdata]
  | code hlast _ hvalues | data hlast _ _ hvalues =>
    obtain ⟨hcode, hdata⟩ := Prod.mk.inj hvalues
    simp [hlast.mem_labelNames, hcode, hdata]

/-- No name of a label is declared twice. -/
theorem nodup_declaredNames_labels (hl : l.IsRead) (hy : Yields c l h p) :
    (declaredNames h p.output.labels ++ declaredNames h p.output.addresses).Nodup := by
  refine List.nodup_append.mpr ⟨?_, ?_, ?_⟩
  · rw [hy.labels]
    refine Output.nodup_declaredNames_labelLines ?_
    rw [labelNames_prepare]
    exact fun name => hl.isWordRun_of_mem_labelNames
  · rw [hy.addresses]
    exact Output.nodup_declaredNames_addressLines fun r => isWordRun_of_mem_regions hl
  · rintro name hcode _ hdata rfl
    obtain ⟨v, hv⟩ := mem_declaredNames_iff.mp hcode
    obtain ⟨w, hw⟩ := mem_declaredNames_iff.mp hdata
    obtain ⟨slot, hslot, -⟩ := (mem_declarations_labels_iff hl hy).mp hv
    obtain ⟨address, haddress, -⟩ := (mem_declarations_addresses_iff hl hy).mp hw
    cases resolved hl c name with
    | unknown _ hvalues | code _ _ hvalues | data _ _ _ hvalues =>
      rw [Symbols.labelValues, hslot, haddress] at hvalues
      cases hvalues

/-- In a compiled source the names of labels, and no others, are declared by the blocks of labels
and of addresses, each of them once.  If the last label of a name does not lead to data, the
constant is in the first block and is the number of instructions in front of that label.  If it
does, the constant is in the second block and is the address of the region of that label. -/
theorem label_constants_declared_once
    (hp : (ofLines { c with target := h.name } verbose filename source).result = .ok p) :
    (declaredNames h p.output.labels ++ declaredNames h p.output.addresses).Nodup ∧
      (∀ name, name ∈ declaredNames h p.output.labels ++ declaredNames h p.output.addresses ↔
        name ∈ Line.labelNames (Listing.ofLines filename source).lines) ∧
      ∀ name before m behind,
        Line.IsLastLabel (Listing.ofLines filename source).lines name before m behind →
          (Line.leadToData behind = false →
            (name, Text.decimal (Line.slotCount before)) ∈ declarations h p.output.labels) ∧
          (Line.leadToData behind = true → ∃ r, Region.IsLastOf p.regions name m behind r ∧
            (name, Text.hex r.address) ∈ declarations h p.output.addresses) := by
  have hy := yields_of_result hp
  have hl := Listing.isRead_ofLines filename source
  refine ⟨nodup_declaredNames_labels hl hy, fun name => mem_declaredNames_iff_mem_labelNames hl hy,
    fun name before m behind hlast => ⟨fun hcode => ?_, fun hdata => ?_⟩⟩
  · have hvalues := labelValues_prepare_of_code hlast (hl.isDataLabel_eq_false hlast.mem) hcode
      { c with target := h.name }
    exact (mem_declarations_labels_iff hl hy).mpr ⟨_, congrArg Prod.fst hvalues, rfl⟩
  · obtain ⟨r, hr, hvalues⟩ :=
      labelValues_prepare_of_data hlast hdata { c with target := h.name }
    refine ⟨r, ?_, (mem_declarations_addresses_iff hl hy).mpr ⟨_, congrArg Prod.snd hvalues, rfl⟩⟩
    rw [hy.regions]
    exact hr

/-- A source in which a name goes from data to code and another from code to data. -/
def switchingSource : List Text :=
  ["first:", "  .db 1", "second:", "  NOP", "first:", "  JMP first", "second:", "alias:",
    "  .db 2, 3", "end:"]

theorem label_constants_declared_once_of_switching :
    ∃ p, (ofLines { ({} : Config) with target := Host.javascript.name } false "switch.asm"
        switchingSource).result = .ok p ∧
      (declaredNames .javascript p.output.labels ++
        declaredNames .javascript p.output.addresses).Nodup ∧
      (∀ name, name ∈ declaredNames .javascript p.output.labels ++
          declaredNames .javascript p.output.addresses ↔
        name ∈ Line.labelNames (Listing.ofLines "switch.asm" switchingSource).lines) ∧
      ∀ name before m behind,
        Line.IsLastLabel (Listing.ofLines "switch.asm" switchingSource).lines name before m
            behind →
          (Line.leadToData behind = false → (name, Text.decimal (Line.slotCount before)) ∈
            declarations .javascript p.output.labels) ∧
          (Line.leadToData behind = true → ∃ r, Region.IsLastOf p.regions name m behind r ∧
            (name, Text.hex r.address) ∈ declarations .javascript p.output.addresses) := by
  have hok : (ofLines { ({} : Config) with target := Host.javascript.name } false "switch.asm"
      switchingSource).result.isOk = true := by decide +kernel
  obtain ⟨p, hp⟩ := Outcome.exists_eq_ok_of_isOk hok
  exact ⟨p, hp, label_constants_declared_once hp⟩

/-! ## All constants -/

theorem declaredNames_definitions (hl : l.IsRead) (hy : Yields c l h p) :
    declaredNames h p.output.definitions = Line.definitionNames l.lines := by
  have hwords : ∀ q ∈ Line.definitions (prepare c l).lines, Text.IsWordRun q.2.name := by
    rw [definitions_prepare]
    exact fun q => hl.isWordRun_of_mem_definitions
  rw [Output.declaredNames_definitionLines hwords hy.definitions, definitions_prepare,
    Line.definitionNames]

/-- The names that the generated source declares: the constants of three blocks, the table of data
and the procedure. -/
def allNames (c : Config) (h : Host) (o : Output) : List Text :=
  declaredNames h o.labels ++ declaredNames h o.definitions ++ declaredNames h o.addresses ++
    [c.tableName, c.stepName]

/-- No name is declared twice exactly if the definitions have names of their own, none of which is
also the name of a label, and the table and the procedure have names that nothing else has. -/
theorem declared_names_nodup_iff
    (hp : (ofLines { c with target := h.name } verbose filename source).result = .ok p) :
    (allNames c h p.output).Nodup ↔
      (Line.definitionNames (Listing.ofLines filename source).lines).Nodup ∧
        (∀ name ∈ Line.definitionNames (Listing.ofLines filename source).lines,
          name ∉ Line.labelNames (Listing.ofLines filename source).lines) ∧
        c.tableName ≠ c.stepName ∧
        ∀ name ∈ [c.tableName, c.stepName],
          name ∉ Line.definitionNames (Listing.ofLines filename source).lines ∧
            name ∉ Line.labelNames (Listing.ofLines filename source).lines := by
  have hy := yields_of_result hp
  have hl := Listing.isRead_ofLines filename source
  have hlabels := nodup_declaredNames_labels hl hy
  -- with the two blocks of labels side by side, the parts can be compared one with the other
  have hperm : (allNames c h p.output).Perm
      ((declaredNames h p.output.labels ++ declaredNames h p.output.addresses) ++
        (Line.definitionNames (Listing.ofLines filename source).lines ++
          [c.tableName, c.stepName])) := by
    rw [allNames, declaredNames_definitions hl hy]
    simp only [List.append_assoc]
    refine List.Perm.append_left _ ?_
    simp only [← List.append_assoc]
    exact List.Perm.append_right _ List.perm_append_comm
  rw [hperm.nodup_iff, List.nodup_append', List.disjoint_right]
  simp only [hlabels, mem_declaredNames_iff_mem_labelNames hl hy, true_and]
  rw [List.nodup_append', List.disjoint_right]
  constructor
  · rintro ⟨⟨hdefinitions, hfixed, hnew⟩, hdisjoint⟩
    refine ⟨hdefinitions, fun name hname => hdisjoint (List.mem_append_left _ hname), ?_,
      fun name hname => ⟨hnew hname, hdisjoint (List.mem_append_right _ hname)⟩⟩
    simpa using hfixed
  · rintro ⟨hdefinitions, hdisjoint, hfixed, hnew⟩
    refine ⟨⟨hdefinitions, by simpa using hfixed, fun name hname => (hnew name hname).1⟩, ?_⟩
    intro name hname
    rcases List.mem_append.mp hname with hname | hname
    · exact hdisjoint name hname
    · exact (hnew name hname).2

/-- A source whose constants come from all three blocks. -/
def distinctSource : List Text :=
  ["WIDTH = 8", "loop:", "  JMP loop", "table:", "  .db 1", "SIZE = $10"]

theorem declared_names_nodup_iff_of_distinct :
    ∃ p, (ofLines { ({} : Config) with target := Host.javascript.name } false "distinct.asm"
        distinctSource).result = .ok p ∧
      (allNames {} .javascript p.output).Nodup := by
  have hok : (ofLines { ({} : Config) with target := Host.javascript.name } false "distinct.asm"
      distinctSource).result.isOk = true := by decide +kernel
  obtain ⟨p, hp⟩ := Outcome.exists_eq_ok_of_isOk hok
  refine ⟨p, hp, (declared_names_nodup_iff hp).mpr ⟨?_, ?_, ?_, ?_⟩⟩
  all_goals decide +kernel

/-- A definition is declared again each time its name is repeated. -/
theorem declared_names_repeat :
    ∃ p, (ofLines { ({} : Config) with target := Host.javascript.name } false "repeat.asm"
        ["X = 1", "X = 2"]).result = .ok p ∧
      ¬ (allNames {} .javascript p.output).Nodup := by
  have hnames : (ofLines { ({} : Config) with target := Host.javascript.name } false "repeat.asm"
      ["X = 1", "X = 2"]).result.map (fun p => allNames {} .javascript p.output) =
        .ok ["X", "X", "ROM_DATA", "step"] := by decide +kernel
  obtain ⟨p, hp, hall⟩ := Outcome.map_eq_ok_iff.mp hnames
  refine ⟨p, hp, ?_⟩
  rw [hall]
  decide +kernel

end Compilation

end AsmDispatch
