import AsmDispatch.Proofs.Dispatch.Code

/-!
# Moving the data

The base is the address of the first region.  To move it by some distance is to move the regions,
their labels and the entries of the labels in the symbols by that distance, and nothing else: each
stage commutes with the move, and what does not show an address stays as it is.

## Main statements

* `Region.analyze_add`, `Symbols.collectFrom_map_moved`: the stages that place data and names.
* `Output.addressEntries_map_moved`, `Output.agree_dataLines`: the blocks that show addresses.
* `Session.base_moves_data`: sessions that differ in their base.
-/

namespace AsmDispatch

open Outcome (Agree)

/-- An injective map may come before or after repetitions are dropped. -/
theorem eraseDups_map {α β : Type} [BEq α] [LawfulBEq α] [BEq β] [LawfulBEq β] {f : α → β}
    (hf : Function.Injective f) (xs : List α) : (xs.map f).eraseDups = xs.eraseDups.map f := by
  -- what is left of the tail is shorter, but it is not the tail
  induction hn : xs.length using Nat.strongRecOn generalizing xs with
  | ind n ih =>
    cases xs with
    | nil => rfl
    | cons x xs =>
      have hshort : (xs.filter fun y => !y == x).length < n := by
        rw [← hn]
        exact Nat.lt_succ_of_le (List.length_filter_le _ _)
      have hfilter : (xs.map f).filter (fun y => !y == f x) =
          (xs.filter fun y => !y == x).map f := by
        rw [List.filter_map]
        refine congrArg (List.map f) (List.filter_congr fun y _ => ?_)
        rw [Function.comp, Bool.not_inj_iff, Bool.eq_iff_iff, beq_iff_eq, beq_iff_eq, hf.eq_iff]
      rw [List.map_cons, List.eraseDups_cons, hfilter, ih _ hshort _ rfl, List.eraseDups_cons,
        List.map_cons]

namespace Table

variable {α β : Type} (f : α → β) (t : Table α) (name : Text)

def mapValues : Table β := t.map fun e => (e.1, f e.2)

theorem has_mapValues : (t.mapValues f).has name = t.has name := List.any_map

theorem get?_mapValues : (t.mapValues f).get? name = (t.get? name).map f := by
  induction t with
  | nil => rfl
  | cons e t ih =>
    change Table.get? ((e.1, f e.2) :: mapValues f t) name = _
    rw [get?_cons, get?_cons, ih]
    split
    · rfl
    · rfl

theorem erase_mapValues : (t.mapValues f).erase name = (t.erase name).mapValues f :=
  List.filter_map

theorem set_mapValues (a : α) : (t.mapValues f).set name (f a) = (t.set name a).mapValues f := by
  unfold set
  rw [has_mapValues]
  split
  · unfold mapValues
    rw [List.map_map, List.map_map]
    refine List.map_congr_left fun e _ => ?_
    simp only [Function.comp]
    split
    · rfl
    · rfl
  · unfold mapValues
    rw [List.map_append]
    rfl

end Table

/-! ## Analysis -/

variable {δ : Int}

/-- A line with its address moved, if it is a data label. -/
def Line.moved (δ : Int) (l : Line) : Line :=
  if l.isDataLabel then { l with slot := l.slot + δ } else l

@[simp] theorem Line.record_moved (δ : Int) (l : Line) : (l.moved δ).record = l.record := by
  unfold moved
  split
  · rfl
  · rfl

@[simp] theorem Line.location_moved (δ : Int) (l : Line) : (l.moved δ).location = l.location := by
  unfold moved
  split
  · rfl
  · rfl

namespace Region

def moved (δ : Int) (r : Region) : Region := { r with address := r.address + δ }

/-- All regions are moved with the first one. -/
theorem analyze_add {ls : List Line} (hls : ∀ l ∈ ls, l.isDataLabel = false) (a δ : Int) :
    analyze (a + δ) ls =
      ((analyze a ls).1.map (Line.moved δ), (analyze a ls).2.map (moved δ)) := by
  induction ls generalizing a with
  | nil => rfl
  | cons l ls ih =>
    obtain ⟨hl, htail⟩ := List.forall_mem_cons.mp hls
    rcases none_or_data l ls with hnone | ⟨d, items, hd, hitems⟩
    · have hstays : l.moved δ = l := by
        rw [Line.moved, hl]
        rfl
      rw [analyze_cons_of_none hnone, analyze_cons_of_none hnone, ih htail, List.map_cons, hstays]
    · have hnext : a + δ + items.length = a + items.length + δ := Int.add_right_comm ..
      rw [analyze_cons_of_data hd hitems, analyze_cons_of_data hd hitems, hnext, ih htail]
      rfl

theorem totalSize_map_moved (rs : List Region) : totalSize (rs.map (moved δ)) = totalSize rs := by
  induction rs with
  | nil => rfl
  | cons r rs ih => exact congrArg (r.size + ·) ih

end Region

/-! ## Symbols -/

namespace Symbols

def moved (δ : Int) (s : Symbols) : Symbols :=
  { s with dataLabels := s.dataLabels.mapValues (· + δ) }

theorem hasLabel_moved (δ : Int) (s : Symbols) (name : Text) :
    (s.moved δ).hasLabel name = s.hasLabel name := by
  rw [hasLabel, hasLabel, moved, Table.has_mapValues]

theorem declare_moved (s : Symbols) (slot : Nat) (l : Line) :
    (s.moved δ).declare slot (l.moved δ) = (s.declare slot l).moved δ := by
  unfold declare
  rw [Line.record_moved]
  cases hl : l.record with
  | label d =>
    cases hd : d.isData with
    | true =>
      have hflag : l.isDataLabel = true := by
        rw [Line.isDataLabel, hl]
        exact hd
      simp only [addLabel, hd, if_true, Line.moved, hflag, moved, Table.erase_mapValues,
        ← Table.set_mapValues]
    | false =>
      simp only [addLabel, hd, Bool.false_eq_true, if_false, moved, Table.erase_mapValues]
  | comment | definition | directive | instruction => rfl

theorem duplicate?_moved (s : Symbols) (l : Line) :
    (s.moved δ).duplicate? (l.moved δ) = s.duplicate? l := by
  unfold duplicate?
  rw [Line.record_moved, Line.location_moved]
  simp only [hasLabel_moved]

/-- The names of moved lines stand for moved addresses, and are repeated where they were. -/
theorem collectFrom_map_moved (slot : Nat) (s : Symbols) (ls : List Line) :
    collectFrom slot (s.moved δ) (ls.map (Line.moved δ)) =
      ((collectFrom slot s ls).1.moved δ, (collectFrom slot s ls).2) := by
  induction ls generalizing slot s with
  | nil => rfl
  | cons l ls ih =>
    have hnext : (l.moved δ).nextSlot slot = l.nextSlot slot := by
      rw [Line.nextSlot, Line.isInstruction, Line.record_moved]
      rfl
    rw [List.map_cons, collectFrom, hnext, declare_moved, duplicate?_moved, ih, collectFrom]

end Symbols

/-! ## Blocks -/

namespace Output

variable {h : Host}

/-- No line of the block of labels shows an address. -/
theorem labelLines_map_moved (h : Host) (symbols : Symbols) (ls : List Line) :
    labelLines h (symbols.moved δ) (Line.stampAll (ls.map (Line.moved δ))) =
      labelLines h symbols (Line.stampAll ls) := by
  have hstamp : ∀ (s : Symbols) (slot : Nat) (l : Line),
      codeLabel? s (l.stamp slot) = codeLabel? s l := by
    intro s slot l
    rw [codeLabel?, Line.record_stamp, codeLabel?]
  have hmoved : codeLabel? (symbols.moved δ) ∘ Line.moved δ = codeLabel? symbols := by
    funext l
    rw [Function.comp, codeLabel?, Line.record_moved, codeLabel?]
    rfl
  rw [labelLines, labelLines, Line.stampAll, Line.stampAll,
    Line.filterMap_stampFrom (hstamp _), Line.filterMap_stampFrom (hstamp _),
    List.filterMap_map, hmoved]

/-- The names and addresses that the block of addresses declares. -/
def addressEntries (symbols : Symbols) (rs : List Region) : List (Text × Int) :=
  ((rs.filter (isCurrent symbols)).map fun r => (r.name, r.address)).eraseDups

/-- The block that declares some addresses. -/
def addressBlock (h : Host) (entries : List (Text × Int)) : List Text :=
  h.comment "Rom data addresses" :: entries.map fun e => h.constant e.1 (Text.hex e.2)

theorem addressLines_eq (h : Host) (symbols : Symbols) (rs : List Region) :
    addressLines h symbols rs = addressBlock h (addressEntries symbols rs) := rfl

/-- The names that stand for an address are the same, in the same order. -/
theorem addressEntries_map_moved (symbols : Symbols) (rs : List Region) :
    addressEntries (symbols.moved δ) (rs.map (Region.moved δ)) =
      (addressEntries symbols rs).map fun e => (e.1, e.2 + δ) := by
  have hcurrent : isCurrent (symbols.moved δ) ∘ Region.moved δ = isCurrent symbols := by
    funext r
    have haddress : some (r.moved δ).address = (some r.address).map (· + δ) := rfl
    rw [Function.comp, isCurrent, isCurrent, Symbols.moved, Table.get?_mapValues, haddress,
      Bool.eq_iff_iff, beq_iff_eq, beq_iff_eq]
    exact Option.map_inj_right fun _ _ => (Int.add_left_inj δ).mp
  have hinjective : Function.Injective fun e : Text × Int => (e.1, e.2 + δ) := by
    intro e e' heq
    obtain ⟨hname, haddress⟩ := Prod.mk.inj heq
    exact Prod.ext hname ((Int.add_left_inj δ).mp haddress)
  rw [addressEntries, List.filter_map, hcurrent, List.map_map, addressEntries,
    ← eraseDups_map hinjective, List.map_map]
  rfl

/-- The address of a region stands in a remark. -/
theorem agree_regionLines (h : Host) (δ : Int) (r : Region) :
    Agree (fun ts ts' => codeLines h ts = codeLines h ts')
      (regionLines h r) (regionLines h (r.moved δ)) := by
  have hvalues : regionValues (r.moved δ) = regionValues r := rfl
  unfold regionLines
  rw [hvalues]
  cases regionValues r with
  | error f => exact .error f
  | ok values =>
    refine .ok ?_
    rw [codeLines_cons_of_isRemark (isRemark_comment h _),
      codeLines_cons_of_isRemark (isRemark_comment h _)]
    rfl

theorem codeLines_flatten {tss tss' : List (List Text)}
    (htss : List.Forall₂ (fun ts ts' => codeLines h ts = codeLines h ts') tss tss') :
    codeLines h tss.flatten = codeLines h tss'.flatten := by
  induction htss with
  | nil => rfl
  | cons hts _ ih =>
    rw [List.flatten_cons, List.flatten_cons, codeLines_append, codeLines_append, hts, ih]

/-- The table has the same elements, or the same fault. -/
theorem agree_dataLines (h : Host) (name : Text) (δ : Int) (rs : List Region) :
    Agree (fun ts ts' => codeLines h ts = codeLines h ts')
      (dataLines h name rs) (dataLines h name (rs.map (Region.moved δ))) := by
  have hrs : List.Forall₂ (fun r r' => r' = Region.moved δ r) rs (rs.map (Region.moved δ)) :=
    List.forall₂_map_right_iff.mpr (List.forall₂_same.mpr fun _ _ => rfl)
  have hgroups : Agree (List.Forall₂ fun ts ts' => codeLines h ts = codeLines h ts')
      (rs.mapM (regionLines h)) ((rs.map (Region.moved δ)).mapM (regionLines h)) := by
    refine Agree.mapM ?_ hrs
    rintro r - rfl
    exact agree_regionLines h δ r
  unfold dataLines
  rw [Region.totalSize_map_moved]
  refine hgroups.bind fun tss tss' htss => .ok ?_
  rw [codeLines_append, codeLines_append, codeLines_flatten htss, ← codeLines_append,
    ← codeLines_append]

/-- The second output is the first one with its data moved, where `entries` are the names and
addresses that the first one declares. -/
structure MovedBy (h : Host) (δ : Int) (entries : List (Text × Int)) (o o' : Output) : Prop where
  labels : o'.labels = o.labels
  definitions : o'.definitions = o.definitions
  addresses : o.addresses = addressBlock h entries
  /-- The same names are declared in the same order. -/
  addresses_moved : o'.addresses = addressBlock h (entries.map fun e => (e.1, e.2 + δ))
  data : codeLines h o'.data = codeLines h o.data
  dispatch : codeLines h o'.dispatch = codeLines h o.dispatch

end Output

/-! ## Compilations -/

/-- The second product is the first one with its data moved. -/
structure Product.MovedBy (h : Host) (δ : Int) (p p' : Product) : Prop where
  output : p.output.MovedBy h δ (Output.addressEntries p.symbols p.regions) p'.output
  /-- Regions keep their names and their items. -/
  regions : p'.regions = p.regions.map (Region.moved δ)
  symbols : p'.symbols = p.symbols.moved δ
  slotCount : p'.slotCount = p.slotCount
  unknown : p'.unknown = p.unknown

/-- A configuration with its base moved. -/
def Config.moved (δ : Int) (c : Config) : Config := { c with romBase := c.romBase + δ }

/-- Bases are as good as each other unless they are negative. -/
theorem Config.validate_moved {c : Config} (hc : 0 ≤ c.romBase) (hmoved : 0 ≤ c.romBase + δ) :
    (c.moved δ).validate = c.validate := by
  have hdefect : (c.moved δ).defect? = c.defect? := by
    change (if _ then _ else if c.romBase + δ < 0 then _ else _) = _
    rw [defect?, if_neg (Int.not_lt.mpr hc), if_neg (Int.not_lt.mpr hmoved)]
    rfl
  rw [validate, hdefect, validate]

namespace Compilation

variable {c : Config} {l : Listing} {h : Host}

theorem analyze_moved (hl : l.IsRead) (c : Config) (δ : Int) :
    Region.analyze (c.moved δ).romBase l.lines =
      ((Region.analyze c.romBase l.lines).1.map (Line.moved δ),
        (Region.analyze c.romBase l.lines).2.map (Region.moved δ)) :=
  Region.analyze_add (fun _ => hl.isDataLabel_eq_false) c.romBase δ

theorem regions_prepare_moved (hl : l.IsRead) (c : Config) (δ : Int) :
    (prepare (c.moved δ) l).regions = (prepare c l).regions.map (Region.moved δ) := by
  rw [regions_prepare, analyze_moved hl, regions_prepare]

theorem symbols_prepare_moved (hl : l.IsRead) (c : Config) (δ : Int) :
    (prepare (c.moved δ) l).symbols = (prepare c l).symbols.moved δ := by
  rw [symbols_prepare, analyze_moved hl, symbols_prepare, Symbols.collect]
  exact congrArg Prod.fst (Symbols.collectFrom_map_moved 0 {} _)

theorem sameCode_moved (hl : l.IsRead) (c : Config) (δ : Int) :
    (prepare c l).SameCode (prepare (c.moved δ) l) := by
  refine sameCode_prepare rfl rfl rfl ?_
  rw [symbols_prepare_moved hl]
  rfl

theorem agree_tables_moved (hl : l.IsRead) (h : Host) (c : Config) (δ : Int) :
    Agree
      (Output.MovedBy h δ (Output.addressEntries (prepare c l).symbols (prepare c l).regions))
      ((prepare c l).tables h c) ((prepare (c.moved δ) l).tables h c) := by
  have hlabels : Output.labelLines h (prepare (c.moved δ) l).symbols (prepare (c.moved δ) l).lines =
      Output.labelLines h (prepare c l).symbols (prepare c l).lines := by
    rw [symbols_prepare_moved hl, lines_prepare, analyze_moved hl, lines_prepare]
    exact Output.labelLines_map_moved h _ _
  have haddresses : Output.addressEntries (prepare (c.moved δ) l).symbols
      (prepare (c.moved δ) l).regions =
        (Output.addressEntries (prepare c l).symbols (prepare c l).regions).map
          fun e => (e.1, e.2 + δ) := by
    rw [symbols_prepare_moved hl, regions_prepare_moved hl, Output.addressEntries_map_moved]
  unfold Workbench.tables
  rw [Output.definitionLines_congr (sameCode_moved hl c δ).definitions, hlabels,
    Output.addressLines_eq, Output.addressLines_eq, haddresses, regions_prepare_moved hl]
  cases Output.definitionLines h (prepare (c.moved δ) l).lines with
  | error f => exact .error f
  | ok definitions =>
    refine (Output.agree_dataLines h c.tableName δ _).bind fun data data' hdata => .ok ?_
    exact ⟨rfl, rfl, rfl, rfl, hdata.symm, rfl⟩

theorem agree_emit_moved (hl : l.IsRead) (h : Host) (c : Config) (δ : Int) :
    Agree
      (Output.MovedBy h δ (Output.addressEntries (prepare c l).symbols (prepare c l).regions))
      ((prepare c l).emit h c).2 ((prepare (c.moved δ) l).emit h (c.moved δ)).2 := by
  refine ((sameCode_moved hl c δ).agree_emit (agree_tables_moved hl h c δ)).mono ?_
  rintro o o' ⟨hdispatch, t, t', ht, ho, ho'⟩
  rw [ho, ho']
  exact ⟨ht.labels, ht.definitions, ht.addresses, ht.addresses_moved, ht.data, hdispatch.symm⟩

variable (verbose : Bool) (filename : Text) (source : List Text)

/-- Under another base a source compiles to the same product with its data moved, or fails in the
same way. -/
theorem agree_result_moved (hhost : Host.ofName? c.target = some h) (δ : Int) :
    Agree (Product.MovedBy h δ) (ofLines c verbose filename source).result
      (ofLines (c.moved δ) verbose filename source).result := by
  have hl := Listing.isRead_ofLines filename source
  have hhost' : Host.ofName? (c.moved δ).target = some h := hhost
  rw [result_of_host hhost, result_of_host hhost']
  refine (agree_emit_moved hl h c δ).map fun o o' ho => ?_
  exact ⟨ho, regions_prepare_moved hl c δ, symbols_prepare_moved hl c δ,
    (sameCode_moved hl c δ).slotCount_eq.symm, rfl⟩

theorem diagnostics_moved (hhost : Host.ofName? c.target = some h) (δ : Int) :
    (ofLines (c.moved δ) verbose filename source).diagnostics =
      (ofLines c verbose filename source).diagnostics := by
  have hl := Listing.isRead_ofLines filename source
  have hhost' : Host.ofName? (c.moved δ).target = some h := hhost
  have hwarnings : ((prepare c (Listing.ofLines filename source)).emit h c).1.warnings =
      ((prepare (c.moved δ) (Listing.ofLines filename source)).emit h (c.moved δ)).1.warnings :=
    (sameCode_moved hl c δ).warnings_emit_eq (agree_tables_moved hl h c δ)
  unfold ofLines emit Workbench.withHost
  simp only [hhost, hhost', hwarnings]

end Compilation

namespace Session

/-- Sessions under two bases start both or are both refused, and whatever they compile, they report
the same and fail alike.  If they do not fail, the second product is the first one with its data
moved by the difference of the bases. -/
theorem base_moves_data (c : Config) (target : Option Text) {b b' : Int} (hb : 0 ≤ b)
    (hb' : 0 ≤ b') :
    Agree
      (fun s s' => ∀ filename source,
        (s'.compileLines filename source).1.diagnostics =
            (s.compileLines filename source).1.diagnostics ∧
          ∃ h, Host.ofName? s.config.target = some h ∧
            Agree (Product.MovedBy h (b' - b)) (s.compileLines filename source).2
              (s'.compileLines filename source).2)
      (start c target (some b)) (start c target (some b')) := by
  have hbase : b + (b' - b) = b' := by omega
  have hmoved : c.override target (some b') = (c.override target (some b)).moved (b' - b) := by
    change _ = { c.override target (some b) with romBase := b + (b' - b) }
    rw [hbase]
    rfl
  have hvalidate : (c.override target (some b')).validate =
      (c.override target (some b)).validate := by
    rw [hmoved]
    refine Config.validate_moved hb ?_
    change 0 ≤ b + (b' - b)
    rw [hbase]
    exact hb'
  unfold start
  simp only [hvalidate]
  cases hvalid : (c.override target (some b)).validate with
  | error e => exact .error e
  | ok _ =>
    obtain ⟨h, hhost⟩ := Compilation.exists_host_of_validate hvalid
    refine .ok fun filename source => ?_
    rw [hmoved]
    exact ⟨Compilation.diagnostics_moved false filename source hhost (b' - b), h, hhost,
      Compilation.agree_result_moved false filename source hhost (b' - b)⟩

/-- A source with a table, an alias of it, a label that first leads to code and then to data, and
instructions that mention data. -/
def movingSource : List Text :=
  ["SIZE = 2", "main: LDA table, X", "  JMP (vector)", "vector:", "table: .db 1, SIZE", "  RTS",
    "main:", "  .db $FF", "  NOP"]

theorem base_moves_data_of_moving :
    (0 : Int) ≤ 0x8000 ∧ (0 : Int) ≤ 0xC000 ∧
      ∃ s s' h p p', start {} (some "Python") (some 0x8000) = .ok s ∧
        start {} (some "Python") (some 0xC000) = .ok s' ∧
        (s'.compileLines "moving.asm" movingSource).1.diagnostics =
          (s.compileLines "moving.asm" movingSource).1.diagnostics ∧
        Host.ofName? s.config.target = some h ∧
        (s.compileLines "moving.asm" movingSource).2 = .ok p ∧
        (s'.compileLines "moving.asm" movingSource).2 = .ok p' ∧
        Product.MovedBy h (0xC000 - 0x8000) p p' := by
  have hb : (0 : Int) ≤ 0x8000 := by decide
  have hb' : (0 : Int) ≤ 0xC000 := by decide
  have hstart : start {} (some "Python") (some 0x8000) =
      .ok { config := ({} : Config).override (some "Python") (some 0x8000) } := by rfl
  have hok : (compileLines { config := ({} : Config).override (some "Python") (some 0x8000) }
      "moving.asm" movingSource).2.isOk = true := by decide +kernel
  obtain ⟨p, hp⟩ := Outcome.exists_eq_ok_of_isOk hok
  obtain ⟨s', hs', hmoves⟩ := (base_moves_data {} (some "Python") hb hb').exists_of_eq_ok hstart
  obtain ⟨hdiagnostics, h, hhost, hagree⟩ := hmoves "moving.asm" movingSource
  obtain ⟨p', hp', hmoved⟩ := hagree.exists_of_eq_ok hp
  exact ⟨hb, hb', _, s', h, p, p', hstart, hs', hdiagnostics, hhost, hp, hp', hmoved⟩

end Session

end AsmDispatch
