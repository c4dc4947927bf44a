import AsmDispatch.Proofs.Dispatch.Body
import AsmDispatch.Session

/-!
# What a compilation gives

A compilation prepares its program, then makes the blocks from what was prepared.  The second pass
always agrees with the first about the number of slots, so the only thing that can go wrong once
the host is known is a literal.

## Main statements

* `Workbench.emit_snd_eq`: the output of a prepared program, block by block.
* `Compilation.result_eq_ok_iff`: a compilation has a product exactly if every block can be made,
  and then these are the blocks.
-/

namespace AsmDispatch

namespace Workbench

variable {w : Workbench} {h : Host} {c : Config}

/-- The procedure numbers the lines as far as it can be made, and adds its warnings. -/
theorem dispatch_fst (w : Workbench) (h : Host) (c : Config) :
    (w.dispatch h c).1 = { w with
      lines := (Body.ofLines h w.symbols w.lines).lines
      warnings := w.warnings ++ (Body.ofLines h w.symbols w.lines).warnings } := by
  unfold dispatch endPass
  simp only
  split
  · rfl
  · rw [if_neg (by decide)]
    split
    · rfl
    · next heq =>
      split at heq
      · cases heq
        rfl
      · cases heq

/-- Emission changes neither regions nor symbols nor the number of slots. -/
theorem emit_fst_eq (hw : w.resolved = true) :
    (w.emit h c).1.regions = w.regions ∧ (w.emit h c).1.symbols = w.symbols ∧
      (w.emit h c).1.slotCount = w.slotCount := by
  unfold emit
  simp only [hw, if_true]
  split
  · exact ⟨rfl, rfl, rfl⟩
  · rw [dispatch_fst]
    exact ⟨rfl, rfl, rfl⟩

/-- The second pass meets as many instructions as the first. -/
theorem dispatch_snd_eq (hcount : Line.slotCount w.lines = w.slotCount) :
    (w.dispatch h c).2 =
      match (Body.ofLines h w.symbols w.lines).entries with
      | .error f => .error (.fault f)
      | .ok es => .ok (Dispatch.lines h c.stepName w.slotCount es) := by
  unfold dispatch
  cases hes : (Body.ofLines h w.symbols w.lines).entries with
  | error f => simp only [hes]
  | ok es =>
    -- a complete body has numbered every line, so the count of this pass is that of the first
    have hlines := Body.lines_eq_stampFrom hes
    have hfound : Line.slotCount (Body.ofLines h w.symbols w.lines).lines = w.slotCount := by
      rw [Body.ofLines, hlines, Line.slotCount_stampFrom, hcount]
    simp only [hes, endPass, hfound]
    rw [if_neg (by decide), if_pos trivial]

/-- The output of a resolved program: the tables, and the dispatch procedure behind them. -/
theorem emit_snd_eq (hw : w.resolved = true) (hcount : Line.slotCount w.lines = w.slotCount) :
    (w.emit h c).2 =
      match w.tables h c with
      | .error f => .error (.fault f)
      | .ok tables =>
        match (Body.ofLines h w.symbols w.lines).entries with
        | .error f => .error (.fault f)
        | .ok es =>
          .ok { tables with dispatch := Dispatch.lines h c.stepName w.slotCount es } := by
  unfold emit
  simp only [hw, if_true]
  cases htables : w.tables h c with
  | error f => simp only
  | ok tables =>
    simp only [dispatch_snd_eq hcount]
    split <;> rfl

theorem tables_eq_ok_iff {o : Output} :
    w.tables h c = .ok o ↔
      Output.definitionLines h w.lines = .ok o.definitions ∧
        Output.dataLines h c.tableName w.regions = .ok o.data ∧
        o.labels = Output.labelLines h w.symbols w.lines ∧
        o.addresses = Output.addressLines h w.symbols w.regions ∧ o.dispatch = [] := by
  unfold tables
  rw [Outcome.bind_eq_ok_iff]
  constructor
  · rintro ⟨definitions, hdef, hrest⟩
    obtain ⟨data, hdata, hout⟩ := Outcome.bind_eq_ok_iff.mp hrest
    cases hout
    exact ⟨hdef, hdata, rfl, rfl, rfl⟩
  · rintro ⟨hdef, hdata, hlabels, haddresses, hdispatch⟩
    refine ⟨_, hdef, Outcome.bind_eq_ok_iff.mpr ⟨_, hdata, ?_⟩⟩
    rw [← hlabels, ← haddresses, ← hdispatch]
    rfl

end Workbench

namespace Compilation

variable {c : Config} {l : Listing} {verbose : Bool} {filename : Text} {source : List Text}
  {p : Product}

@[simp] theorem lines_prepare : (prepare c l).lines =
    Line.stampAll (Region.analyze c.romBase l.lines).1 := rfl

@[simp] theorem regions_prepare : (prepare c l).regions =
    (Region.analyze c.romBase l.lines).2 := rfl

@[simp] theorem slotCount_prepare : (prepare c l).slotCount = Line.slotCount l.lines := by
  exact Region.slotCount_analyze c.romBase l.lines

theorem instructions_prepare (c : Config) (l : Listing) :
    Line.instructions (prepare c l).lines = Line.instructions l.lines := by
  rw [lines_prepare, Line.stampAll, Line.instructions_stampFrom, Region.instructions_analyze]

theorem definitions_prepare (c : Config) (l : Listing) :
    Line.definitions (prepare c l).lines = Line.definitions l.lines := by
  rw [lines_prepare, Line.stampAll, Line.definitions_stampFrom, Region.definitions_analyze]

theorem slotCount_lines_prepare (c : Config) (l : Listing) :
    Line.slotCount (prepare c l).lines = (prepare c l).slotCount := by
  rw [← Line.length_instructions, instructions_prepare, Line.length_instructions,
    slotCount_prepare]

/-- The product of a listing under a configuration for a host, part by part. -/
structure Yields (c : Config) (l : Listing) (h : Host) (p : Product) : Prop where
  host : Host.ofName? c.target = some h
  labels : p.output.labels = Output.labelLines h (prepare c l).symbols (prepare c l).lines
  definitions : Output.definitionLines h (prepare c l).lines = .ok p.output.definitions
  addresses : p.output.addresses = Output.addressLines h (prepare c l).symbols (prepare c l).regions
  data : Output.dataLines h c.tableName (prepare c l).regions = .ok p.output.data
  dispatch : ∃ es, (Body.ofLines h (prepare c l).symbols (prepare c l).lines).entries = .ok es ∧
    p.output.dispatch = Dispatch.lines h c.stepName (prepare c l).slotCount es
  regions : p.regions = (prepare c l).regions
  symbols : p.symbols = (prepare c l).symbols
  slotCount : p.slotCount = (prepare c l).slotCount
  unknown : p.unknown = l.unknown

theorem result_of_host {h : Host} (hhost : Host.ofName? c.target = some h) :
    (ofLines c verbose filename source).result =
      ((prepare c (Listing.ofLines filename source)).emit h c).2.map fun output =>
        { output
          regions := (prepare c (Listing.ofLines filename source)).regions
          symbols := (prepare c (Listing.ofLines filename source)).symbols
          slotCount := (prepare c (Listing.ofLines filename source)).slotCount
          unknown := (Listing.ofLines filename source).unknown } := by
  obtain ⟨hregions, hsymbols, hcount⟩ :=
    Workbench.emit_fst_eq (w := prepare c (Listing.ofLines filename source)) (h := h) (c := c) rfl
  unfold ofLines emit Workbench.withHost
  simp only [hhost, hregions, hsymbols, hcount]

/-- A compilation has a product exactly if the target is known and every block can be made. -/
theorem result_eq_ok_iff :
    (ofLines c verbose filename source).result = .ok p ↔
      ∃ h, Yields c (Listing.ofLines filename source) h p := by
  cases hhost : Host.ofName? c.target with
  | none =>
    constructor
    · intro hp
      unfold ofLines emit Workbench.withHost at hp
      simp only [hhost] at hp
      cases hp
    · rintro ⟨h, hy⟩
      rw [hy.host] at hhost
      cases hhost
  | some h =>
    rw [result_of_host hhost, Workbench.emit_snd_eq rfl (slotCount_lines_prepare _ _),
      Outcome.map_eq_ok_iff]
    constructor
    · rintro ⟨o, ho, rfl⟩
      split at ho
      · cases ho
      · next tables htables =>
        obtain ⟨hdef, hdata, hlabels, haddresses, -⟩ := Workbench.tables_eq_ok_iff.mp htables
        split at ho
        · cases ho
        · next es hes =>
          cases ho
          exact ⟨h, hhost, hlabels, hdef, haddresses, hdata, ⟨es, hes, rfl⟩, rfl, rfl, rfl, rfl⟩
    · rintro ⟨h', hy⟩
      obtain rfl : h = h' := by
        have := hy.host
        rw [hhost] at this
        exact Option.some.inj this
      obtain ⟨es, hes, hdispatch⟩ := hy.dispatch
      have htables : (prepare c (Listing.ofLines filename source)).tables h c =
          .ok { p.output with dispatch := [] } :=
        Workbench.tables_eq_ok_iff.mpr ⟨hy.definitions, hy.data, hy.labels, hy.addresses, rfl⟩
      refine ⟨p.output, ?_, ?_⟩
      · simp only [htables, hes]
        rw [← hdispatch]
      · rw [← hy.regions, ← hy.symbols, ← hy.slotCount, ← hy.unknown]

theorem yields_of_result
    (hp : (ofLines { c with target := h.name } verbose filename source).result = .ok p) :
    Yields { c with target := h.name } (Listing.ofLines filename source) h p := by
  obtain ⟨h', hy⟩ := result_eq_ok_iff.mp hp
  obtain rfl : h = h' := by
    have hhost := hy.host
    rw [Host.ofName?_name] at hhost
    exact Option.some.inj hhost
  exact hy

end Compilation

end AsmDispatch
