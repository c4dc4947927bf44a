import AsmDispatch.Proofs.Literal.Acceptance
import AsmDispatch.Proofs.Output
import AsmDispatch.Proofs.Prepared

/-!
# Which literal decides

The blocks are made one after the other, and the first literal that cannot be written ends the work.
So the literals of a program have an order of their own: first those of the definitions, then the
items of the data, then those of the instructions.  A compilation fails exactly if one of them is at
fault, and it fails with the first that is.  The host has no say in it: its escape evaluates
nothing, and as a plain mnemonic neither does the escape of another host.

## Main statements

* `Listing.sites`: the literals in the order in which they count.
* `Compilation.failure?_result`: what a compilation fails with.
* `Compilation.first_fault_decides`: the same as two equivalences, for every usable configuration.
-/

namespace AsmDispatch

/-! ## Literals with their places -/

/-- A literal of a program, with the place at which it is reported. -/
structure Literal.Site where
  location : Option Location
  text : Text
deriving DecidableEq, Repr

namespace Literal.Site

variable {s : Site} {f : Fault}

/-- The literal can be written for a host. -/
def Accepted (s : Site) : Prop := ∃ v, format s.text s.location = .ok v

def fault? (s : Site) : Option Fault := Outcome.failure? (format s.text s.location)

theorem fault?_eq_none_iff : s.fault? = none ↔ s.Accepted := Outcome.failure?_eq_none_iff

theorem fault?_eq_some_iff :
    s.fault? = some f ↔ ∃ r, parse s.text = .error r ∧
      f = { cause := .illegalExpression s.text r, location := s.location } := by
  rw [fault?, Outcome.failure?_eq_some_iff, format]
  cases parse s.text with
  | ok e => simp
  | error r => simp [eq_comm]

instance (s : Site) : Decidable s.Accepted := decidable_of_iff (s.fault? = none) fault?_eq_none_iff

end Literal.Site

open Literal (Site)

/-- The literal that an instruction evaluates. A jump through memory and every instruction with an
addressing mode evaluate what stands inside their operand, other transfers the whole operand. -/
def Instruction.literal? (i : Instruction) : Option Text :=
  match Family.ofMnemonic [] i.mnemonic with
  | .loadStore | .arithmetic => (Operand.ofText i.operand).literal?
  | .jump => if i.isIndirect then (Operand.ofText i.operand).literal? else some i.operand
  | .branch | .call => some i.operand
  | .leave | .escape | .generic => none

def Definition.site (location : Option Location) (d : Definition) : Site := ⟨location, d.literal⟩

def Region.sites (r : Region) : List Site := r.items.map fun item => ⟨r.location, item⟩

def Instruction.site? (location : Option Location) (i : Instruction) : Option Site :=
  i.literal?.map fun literal => ⟨location, literal⟩

/-- The literals of a program in the order in which they count. -/
def Listing.sites (base : Int) (l : Listing) : List Site :=
  (Line.definitions l.lines).map (fun q => q.2.site q.1) ++
    (Region.analyze base l.lines).2.flatMap Region.sites ++
    (Line.instructions l.lines).filterMap fun q => q.2.site? q.1

/-! ## Failures of the tables -/

theorem findSome?_filterMap {α β γ : Type} (g : α → Option β) (f : β → Option γ) (xs : List α) :
    (xs.filterMap g).findSome? f = xs.findSome? fun x => (g x).bind f := by
  rw [← List.head?_filterMap, List.filterMap_filterMap, List.head?_filterMap]

theorem findSome?_flatMap {α β γ : Type} (g : α → List β) (f : β → Option γ) (xs : List α) :
    (xs.flatMap g).findSome? f = xs.findSome? fun x => (g x).findSome? f := by
  rw [← List.head?_filterMap, List.filterMap_flatMap, List.head?_flatMap]
  simp only [List.head?_filterMap]

namespace Output

variable (h : Host) (name : Text)

theorem failure?_definitionLine? (l : Line) :
    Outcome.failure? (definitionLine? h l) =
      l.definition?.bind fun q => (q.2.site q.1).fault? := by
  unfold definitionLine? Line.definition?
  cases l.record with
  | definition d => exact Outcome.failure?_map_pure _ _
  | comment | directive | label | instruction => rfl

theorem failure?_definitionLines (ls : List Line) :
    Outcome.failure? (definitionLines h ls) =
      ((Line.definitions ls).map fun q => q.2.site q.1).findSome? Site.fault? := by
  unfold definitionLines Line.definitions
  rw [Outcome.failure?_map_pure, Outcome.failure?_mapM, List.findSome?_map, findSome?_filterMap]
  simp only [failure?_definitionLine?]
  rfl

theorem failure?_regionLines (r : Region) :
    Outcome.failure? (regionLines h r) = r.sites.findSome? Site.fault? := by
  unfold regionLines regionValues Region.sites
  rw [Outcome.failure?_map_pure, Outcome.failure?_mapM, List.findSome?_map]
  rfl

theorem failure?_dataLines (rs : List Region) :
    Outcome.failure? (dataLines h name rs) =
      (rs.flatMap Region.sites).findSome? Site.fault? := by
  unfold dataLines
  rw [Outcome.failure?_map_pure, Outcome.failure?_mapM, findSome?_flatMap]
  simp only [failure?_regionLines]

end Output

/-! ## Failures of the instructions -/

namespace Instruction

variable {h : Host} {symbols : Symbols} {location : Option Location} {i : Instruction}

/-- A host changes the family of its own escape only, which is generic elsewhere. -/
theorem family_eq_or_escape (h : Host) (i : Instruction) :
    i.family h = Family.ofMnemonic [] i.mnemonic ∨
      i.family h = .escape ∧ Family.ofMnemonic [] i.mnemonic = .generic := by
  unfold family Family.ofMnemonic
  by_cases hescape : Text.upper i.mnemonic = Text.upper h.escape
  · right
    simp only [hescape]
    cases h <;> exact ⟨by decide, by decide⟩
  · left
    simp [hescape]

theorem failure?_addressed (location : Option Location) (i : Instruction) :
    Outcome.failure? (i.addressed location) =
      (Operand.ofText i.operand).literal?.bind fun t => Site.fault? ⟨location, t⟩ := by
  unfold addressed
  cases hliteral : (Operand.ofText i.operand).literal? with
  | none =>
    simp only [hliteral]
    rfl
  | some t =>
    simp only [hliteral, Outcome.failure?_map_pure]
    rfl

/-- A target that is a code label cannot fail, and as a literal it could not either. -/
theorem failure?_target
    (hsymbols : ∀ name slot, symbols.codeLabels.get? name = some slot → Text.IsWordRun name) :
    Outcome.failure? (i.target symbols location) = Site.fault? ⟨location, i.operand⟩ := by
  unfold target
  cases hslot : symbols.codeLabels.get? i.operand with
  | none => rfl
  | some slot =>
    rw [Site.fault?, Literal.format_of_isWordRun (hsymbols _ _ hslot)]
    rfl

theorem failure?_statement
    (hsymbols : ∀ name slot, symbols.codeLabels.get? name = some slot → Text.IsWordRun name) :
    Outcome.failure? (i.statement h symbols location) = (i.site? location).bind Site.fault? := by
  unfold statement site? literal?
  rcases family_eq_or_escape h i with hfamily | ⟨hfamily, hgeneric⟩
  · rw [hfamily]
    cases Family.ofMnemonic [] i.mnemonic with
    | loadStore | arithmetic =>
      simp only [Outcome.failure?_map_pure, failure?_addressed, Option.bind_map]
      rfl
    | branch | call =>
      simp only [Outcome.failure?_map_pure, failure?_target hsymbols]
      rfl
    | jump =>
      simp only
      split
      · simp only [Outcome.failure?_map_pure, failure?_addressed, Option.bind_map]
        rfl
      · simp only [Outcome.failure?_map_pure, failure?_target hsymbols]
        rfl
    | leave | escape | generic => rfl
  · rw [hfamily, hgeneric]
    rfl

end Instruction

namespace Body

variable {h : Host} {symbols : Symbols}

theorem failure?_entry
    (hsymbols : ∀ name slot, symbols.codeLabels.get? name = some slot → Text.IsWordRun name)
    (slot : Nat) (l : Line) :
    Outcome.failure? (l.entry h symbols slot) =
      l.instruction?.bind fun q => (q.2.site? q.1).bind Site.fault? := by
  unfold Line.entry Line.instruction?
  cases l.record with
  | instruction i =>
    simp only [Outcome.failure?_map_pure, Instruction.failure?_statement hsymbols]
    rfl
  | comment | definition | directive | label => rfl

/-- A body fails with the first literal of its instructions that is at fault. -/
theorem failure?_entries
    (hsymbols : ∀ name slot, symbols.codeLabels.get? name = some slot → Text.IsWordRun name)
    (slot : Nat) (ls : List Line) :
    Outcome.failure? (ofLinesFrom h symbols slot ls).entries =
      ((Line.instructions ls).filterMap fun q => q.2.site? q.1).findSome? Site.fault? := by
  unfold Line.instructions
  rw [findSome?_filterMap, findSome?_filterMap]
  induction ls generalizing slot with
  | nil => rfl
  | cons l ls ih =>
    have hentry := failure?_entry (h := h) hsymbols slot (l.stamp slot)
    rw [Line.instruction?_stamp] at hentry
    rw [ofLinesFrom, List.findSome?_cons, ← hentry]
    cases (l.stamp slot).entry h symbols slot with
    | error f => rfl
    | ok e =>
      simp only [Outcome.failure?_map]
      exact ih _

end Body

/-! ## Failures of compilations -/

namespace Workbench

variable {w : Workbench} {h : Host} {c : Config}

theorem failure?_tables (w : Workbench) (h : Host) (c : Config) :
    Outcome.failure? (w.tables h c) =
      (Outcome.failure? (Output.definitionLines h w.lines)).or
        (Outcome.failure? (Output.dataLines h c.tableName w.regions)) :=
  Outcome.failure?_bind fun _ _ => Outcome.failure?_map_pure _ _

theorem failure?_emit (hw : w.resolved = true) (hcount : Line.slotCount w.lines = w.slotCount) :
    Outcome.failure? (w.emit h c).2 =
      ((Outcome.failure? (w.tables h c)).or
        (Outcome.failure? (Body.ofLines h w.symbols w.lines).entries)).map .fault := by
  rw [emit_snd_eq hw hcount]
  cases w.tables h c with
  | error f => rfl
  | ok tables =>
    cases (Body.ofLines h w.symbols w.lines).entries with
    | error f => rfl
    | ok es => rfl

end Workbench

namespace Compilation

variable {c : Config} {verbose : Bool} {filename : Text} {source : List Text}

/-- A compilation fails with the first literal at fault, and with nothing else. -/
theorem failure?_result {h : Host} (hhost : Host.ofName? c.target = some h) :
    Outcome.failure? (ofLines c verbose filename source).result =
      (((Listing.ofLines filename source).sites c.romBase).findSome? Site.fault?).map
        .fault := by
  have hsymbols : ∀ name slot,
      (prepare c (Listing.ofLines filename source)).symbols.codeLabels.get? name = some slot →
        Text.IsWordRun name := fun name slot hslot =>
    (Listing.isRead_ofLines filename source).isWordRun_of_mem_labelNames
      (mem_labelNames_of_codeLabel hslot)
  rw [result_of_host hhost, Outcome.failure?_map,
    Workbench.failure?_emit rfl (slotCount_lines_prepare _ _), Workbench.failure?_tables,
    Output.failure?_definitionLines, Output.failure?_dataLines, Body.ofLines,
    Body.failure?_entries hsymbols, definitions_prepare, instructions_prepare, regions_prepare,
    Listing.sites, List.findSome?_append, List.findSome?_append]

theorem exists_host_of_validate (hc : c.validate = .ok ()) :
    ∃ h, Host.ofName? c.target = some h :=
  Option.isSome_iff_exists.mp (Config.validate_eq_ok_iff.mp hc).1

/-- Under a usable configuration a source compiles exactly if all its literals are accepted.  If
not, the first one that is not accepted is reported at its place, whatever comes behind it, and
nothing else can go wrong.  For every host the outcome is the same. -/
theorem first_fault_decides (hc : c.validate = .ok ()) :
    ((∃ p, (ofLines c verbose filename source).result = .ok p) ↔
        ∀ s ∈ (Listing.ofLines filename source).sites c.romBase, s.Accepted) ∧
      (∀ e, (ofLines c verbose filename source).result = .error e ↔
        ∃ before s behind r,
          (Listing.ofLines filename source).sites c.romBase = before ++ s :: behind ∧
            (∀ b ∈ before, b.Accepted) ∧ Literal.parse s.text = .error r ∧
            e = .fault { cause := .illegalExpression s.text r, location := s.location }) ∧
      ∀ h : Host, (ofLines { c with target := h.name } verbose filename source).result.map
          (fun _ => ()) =
        (ofLines c verbose filename source).result.map fun _ => () := by
  obtain ⟨host, hhost⟩ := exists_host_of_validate hc
  have hresult : Outcome.failure? (ofLines c verbose filename source).result = _ :=
    failure?_result hhost
  refine ⟨?_, fun e => ?_, fun h => ?_⟩
  · rw [← Outcome.failure?_eq_none_iff, hresult, Option.map_eq_none_iff,
      List.findSome?_eq_none_iff]
    exact forall₂_congr fun s _ => Site.fault?_eq_none_iff
  · rw [← Outcome.failure?_eq_some_iff, hresult, Option.map_eq_some_iff]
    simp only [List.findSome?_eq_some_iff, Site.fault?_eq_some_iff, Site.fault?_eq_none_iff]
    constructor
    · rintro ⟨f, ⟨before, s, behind, hsites, ⟨r, hr, rfl⟩, hbefore⟩, rfl⟩
      exact ⟨before, s, behind, r, hsites, hbefore, hr, rfl⟩
    · rintro ⟨before, s, behind, r, hsites, hbefore, hr, rfl⟩
      exact ⟨_, ⟨before, s, behind, hsites, ⟨r, hr, rfl⟩, hbefore⟩, rfl⟩
  · have hother : Host.ofName? ({ c with target := h.name } : Config).target = some h :=
      Host.ofName?_name h
    exact Outcome.map_unit_eq_iff.mpr ((failure?_result hother).trans hresult.symm)

/-- A source whose first fault is an item of its data, behind one in an instruction. -/
def faultySource : List Text :=
  ["SIZE = $10", "main:", "  JMP (table", "table:", "  .db 1, $, 2", "  LDA #%2", "  RTS ("]

def faultyFirst : Literal.Site := ⟨some { filename := "faulty.asm", line := 4 }, "$"⟩

/-- The literals in front of it: a definition, and an item of the same data. -/
def faultyBefore : List Literal.Site :=
  [⟨some { filename := "faulty.asm", line := 1 }, "$10"⟩,
    ⟨some { filename := "faulty.asm", line := 4 }, "1"⟩]

def faultyBehind : List Literal.Site :=
  [⟨some { filename := "faulty.asm", line := 4 }, "2"⟩,
    ⟨some { filename := "faulty.asm", line := 3 }, "(table"⟩,
    ⟨some { filename := "faulty.asm", line := 6 }, "%2"⟩]

theorem first_fault_decides_of_faulty :
    (Listing.ofLines "faulty.asm" faultySource).sites 0x8000 =
        faultyBefore ++ faultyFirst :: faultyBehind ∧
      (ofLines {} false "faulty.asm" faultySource).result =
        .error (.fault { cause := .illegalExpression "$" "$", location := faultyFirst.location }) ∧
      ∀ h : Host, (ofLines { ({} : Config) with target := h.name } false "faulty.asm"
          faultySource).result.map (fun _ => ()) =
        .error (.fault
          { cause := .illegalExpression "$" "$", location := faultyFirst.location }) := by
  have hvalid : ({} : Config).validate = .ok () := by rfl
  have hsites : (Listing.ofLines "faulty.asm" faultySource).sites ({} : Config).romBase =
      faultyBefore ++ faultyFirst :: faultyBehind := by decide +kernel
  have hnone : faultyBefore.findSome? Site.fault? = none := by decide +kernel
  have hbefore : ∀ s ∈ faultyBefore, s.Accepted := fun s hs =>
    Site.fault?_eq_none_iff.mp (List.findSome?_eq_none_iff.mp hnone s hs)
  have hfirst : Literal.parse faultyFirst.text = .error "$" := by decide +kernel
  obtain ⟨-, hfault, hhosts⟩ := first_fault_decides hvalid
  have hresult := (hfault _).mpr ⟨_, _, _, _, hsites, hbefore, hfirst, rfl⟩
  refine ⟨hsites, hresult, fun h => (hhosts h).trans ?_⟩
  rw [hresult]
  rfl

end Compilation

end AsmDispatch
