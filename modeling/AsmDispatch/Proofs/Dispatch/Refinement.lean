import AsmDispatch.Proofs.Compilation
import AsmDispatch.Proofs.Dispatch.Chain
import AsmDispatch.Proofs.Dispatch.Switch
import AsmDispatch.Proofs.Output

/-!
# Both procedures take the same step

Hosts differ only in their own escapes.  A program without escapes has one body for all hosts, so
the switch and the chain that are emitted for it are two spellings of one step function.

## Main statements

* `Instruction.becomes_of_statement`: which kind of statement a family has.
* `Body.entries_eq_of_noEscape`: the body does not depend on the host.
* `Compilation.dispatch_refines_step`: what either procedure does at every number.
-/

namespace AsmDispatch

namespace Instruction

variable {h : Host} {symbols : Symbols} {location : Option Location} {i : Instruction}
  {s : Statement}

/-- The kind of statement that an instruction becomes. A call hands its own slot to the helper. -/
def Becomes (h : Host) (i : Instruction) (s : Statement) : Prop :=
  match i.family h with
  | .jump | .leave => ∃ target, s = .transfer target
  | .call => ∃ target, s = .transfer (helper i.mnemonic ("pc, " ++ target))
  | .branch => ∃ target, s = .branch (helper i.mnemonic []) target
  | .loadStore | .arithmetic | .generic | .escape => ∃ source, s = .plain source

theorem becomes_of_statement (hs : i.statement h symbols location = .ok s) : i.Becomes h s := by
  unfold statement at hs
  unfold Becomes
  cases hfamily : i.family h with
  | loadStore | arithmetic | branch | call =>
    simp only [hfamily] at hs
    obtain ⟨t, -, hs⟩ := Outcome.bind_eq_ok_iff.mp hs
    cases hs
    exact ⟨t, rfl⟩
  | jump =>
    simp only [hfamily] at hs
    split at hs
    · obtain ⟨t, -, hs⟩ := Outcome.bind_eq_ok_iff.mp hs
      cases hs
      exact ⟨t, rfl⟩
    · obtain ⟨t, -, hs⟩ := Outcome.bind_eq_ok_iff.mp hs
      cases hs
      exact ⟨t, rfl⟩
  | leave | escape | generic =>
    simp only [hfamily] at hs
    cases hs
    exact ⟨_, rfl⟩

/-- The instruction is no escape of any host. -/
def NoEscape (i : Instruction) : Prop := ∀ h : Host, Text.upper i.mnemonic ≠ h.escape

instance (i : Instruction) : Decidable i.NoEscape :=
  decidable_of_iff (∀ h ∈ Host.all, Text.upper i.mnemonic ≠ h.escape)
    ⟨fun hall h => hall h (by cases h <;> decide), fun hi h _ => hi h⟩

theorem family_eq_of_noEscape (hi : i.NoEscape) (h h' : Host) : i.family h = i.family h' := by
  have hshared : ∀ h : Host, i.family h =
      (Family.shared.find? (·.mnemonics.contains (Text.upper i.mnemonic))).getD .generic := by
    intro h
    have hupper : Text.upper h.escape = h.escape := by cases h <;> decide
    rw [family, Family.ofMnemonic, hupper]
    exact if_neg fun hand => hi h hand.2
  rw [hshared h, hshared h']

theorem statement_eq_of_noEscape (hi : i.NoEscape) (h h' : Host) :
    i.statement h symbols location = i.statement h' symbols location := by
  unfold statement
  rw [family_eq_of_noEscape hi h h']

end Instruction

/-- No instruction of the program is an escape of any host. -/
def Line.NoEscapes (ls : List Line) : Prop := ∀ q ∈ Line.instructions ls, q.2.NoEscape

instance (ls : List Line) : Decidable (Line.NoEscapes ls) :=
  inferInstanceAs (Decidable (∀ q ∈ Line.instructions ls, q.2.NoEscape))

namespace Body

theorem entry_eq_of_noEscape {l : Line} (hl : ∀ i, l.record = .instruction i → i.NoEscape)
    (symbols : Symbols) (slot : Nat) (h h' : Host) :
    l.entry h symbols slot = l.entry h' symbols slot := by
  unfold Line.entry
  cases hrecord : l.record with
  | instruction i =>
    simp only
    rw [Instruction.statement_eq_of_noEscape (hl i hrecord) h h']
  | comment | definition | directive | label => rfl

/-- A program without escapes has the same body for every host. -/
theorem entries_eq_of_noEscape {ls : List Line} (hls : Line.NoEscapes ls) (symbols : Symbols)
    (slot : Nat) (h h' : Host) :
    (ofLinesFrom h symbols slot ls).entries = (ofLinesFrom h' symbols slot ls).entries := by
  induction ls generalizing slot with
  | nil => rfl
  | cons l ls ih =>
    have htail : Line.NoEscapes ls := by
      intro q hq
      obtain ⟨l', hl', hq'⟩ := List.mem_filterMap.mp hq
      exact hls q (List.mem_filterMap.mpr ⟨l', List.mem_cons_of_mem _ hl', hq'⟩)
    have hentry : (l.stamp slot).entry h symbols slot = (l.stamp slot).entry h' symbols slot := by
      refine entry_eq_of_noEscape (fun i hi => ?_) symbols slot h h'
      rw [Line.record_stamp] at hi
      apply hls (l.location, i)
      rw [Line.instructions_cons_of_record hi]
      exact List.mem_cons_self
    rw [ofLinesFrom, ofLinesFrom, hentry]
    cases (l.stamp slot).entry h' symbols slot with
    | error f => rfl
    | ok e => simp only [ih htail]

end Body

namespace Compilation

variable {c : Config} {verbose : Bool} {filename : Text} {source : List Text} {host : Host}
  {p : Product}

/-- A program without escapes that can be compiled for one host can be compiled for all, with the
same body. -/
theorem Yields.exists_of_noEscape {l : Listing} {es : List Entry}
    (hp : Yields { c with target := host.name } l host p) (hl : Line.NoEscapes l.lines)
    (hes : (Body.ofLines host (prepare c l).symbols (prepare c l).lines).entries = .ok es)
    (h : Host) : ∃ q, Yields { c with target := h.name } l h q ∧
      q.output.dispatch = Dispatch.lines h c.stepName p.slotCount es := by
  obtain ⟨definitions, hdefinitions⟩ := Output.exists_definitionLines_of_eq_ok hp.definitions h
  obtain ⟨data, hdata⟩ := Output.exists_dataLines_of_eq_ok hp.data h
  have hlines : Line.NoEscapes (prepare c l).lines := by
    unfold Line.NoEscapes
    rw [instructions_prepare]
    exact hl
  have hes' : (Body.ofLines h (prepare c l).symbols (prepare c l).lines).entries = .ok es :=
    (Body.entries_eq_of_noEscape hlines _ 0 h host).trans hes
  refine ⟨⟨⟨_, definitions, _, data, _⟩, _, _, _, _⟩,
    ⟨Host.ofName?_name h, rfl, hdefinitions, rfl, hdata, ⟨es, hes', rfl⟩, rfl, rfl, rfl, rfl⟩, ?_⟩
  rw [hp.slotCount]
  rfl

/-- A program without escapes that can be compiled for one host can be compiled for both, from one
body.  Its steps are the statements of the instructions in order.  What is emitted is a switch and
a chain of that body, and both take the step of those statements from every number.  The switch
alone has a label in front, which leads to the first slot. -/
theorem dispatch_refines_step
    (hp : (ofLines { c with target := host.name } verbose filename source).result = .ok p)
    (hsource : Line.NoEscapes (Listing.ofLines filename source).lines) :
    ∃ es : List Entry,
      List.Forall₂
          (fun q s => ∀ h, q.2.statement h p.symbols q.1 = .ok s ∧ q.2.Becomes h s)
          (Line.instructions (Listing.ofLines filename source).lines) (Entry.statements es) ∧
        (Entry.statements es).length = p.slotCount ∧
        (∃ q, (ofLines { c with target := Host.javascript.name } verbose filename source).result =
            .ok q ∧ q.output.dispatch = (Switch.ofEntries c.stepName p.slotCount es).lines) ∧
        (∃ q, (ofLines { c with target := Host.python.name } verbose filename source).result =
            .ok q ∧ q.output.dispatch = (Chain.ofEntries c.stepName es).lines) ∧
        ∀ {σ : Type} (m : Machine σ) (pc : Int) (x : σ),
          (Switch.ofEntries c.stepName p.slotCount es).run m pc x =
              (if pc = -1 then (0, x) else Statement.stepAt m (Entry.statements es) pc x) ∧
            (Chain.ofEntries c.stepName es).run m pc x =
              Statement.stepAt m (Entry.statements es) pc x := by
  obtain ⟨h, hy⟩ := result_eq_ok_iff.mp hp
  obtain rfl : host = h := by
    have hhost := hy.host
    rw [Host.ofName?_name] at hhost
    exact Option.some.inj hhost
  -- the body made for `host` serves both procedures
  obtain ⟨es, hes, -⟩ := hy.dispatch
  obtain ⟨hnum, hstatements⟩ := Body.numberedFrom_and_statements hes
  have hcount : (Entry.statements es).length = p.slotCount := by
    rw [← hstatements.length_eq, Line.length_instructions, slotCount_lines_prepare, hy.slotCount]
  rw [instructions_prepare, ← hy.symbols] at hstatements
  have hemitted : ∀ h : Host, ∃ q,
      (ofLines { c with target := h.name } verbose filename source).result = .ok q ∧
        q.output.dispatch = Dispatch.lines h c.stepName p.slotCount es := by
    intro h
    obtain ⟨q, hq, hdispatch⟩ := hy.exists_of_noEscape hsource hes h
    exact ⟨q, result_eq_ok_iff.mpr ⟨h, hq⟩, hdispatch⟩
  refine ⟨Entry.tidy es, ?_, ?_, ?_, ?_, ?_⟩
  · rw [Entry.statements_tidy]
    refine ((List.forall₂_and_left _ _).mpr ⟨hsource, hstatements⟩).imp ?_
    rintro q s ⟨hq, hs⟩ h
    rw [Instruction.statement_eq_of_noEscape hq host h] at hs
    exact ⟨hs, Instruction.becomes_of_statement hs⟩
  · rw [Entry.statements_tidy, hcount]
  · rw [Switch.lines_ofEntries]
    exact hemitted .javascript
  · rw [Chain.lines_ofEntries _ p.slotCount]
    exact hemitted .python
  · intro σ m pc x
    have hlength : (Entry.statements (Entry.tidy es)).length = p.slotCount := by
      rw [Entry.statements_tidy, hcount]
    rw [← hlength]
    exact ⟨Switch.run_ofEntries m hnum.tidy _ pc x, Chain.run_ofEntries m hnum.tidy _ pc x⟩

/-- A source with a label, a branch back to it, a call and a return. -/
def loopSource : List Text := ["loop:", "  LDA #$01", "  BNE loop ; again", "  JSR loop", "  RTS"]

def loopStatements : List Statement :=
  [.plain "LDA_immediate(0x01)", .branch "BNE()" "0", .transfer "JSR(pc, 0)", .transfer "RTS()"]

def loopSwitch : List Text :=
  ["function step(pc) \x7b", "  switch (pc) \x7b", "  case -1:  // Dummy", "  // loop: (0)",
    "  pc=0; break; case 0:", "    LDA_immediate(0x01)",
    "  pc=1; break; case 1:", "    if (BNE()) \x7b pc=0; break \x7d  // again",
    "  pc=2; break; case 2:", "    pc=JSR(pc, 0); break",
    "  pc=3; break; case 3:", "    pc=RTS(); break",
    "  pc=4; case 4: break", "  \x7d", "  return pc", "\x7d"]

def loopChain : List Text :=
  ["def step(pc):", "    # loop: (0)",
    "    if pc == 0:", "        LDA_immediate(0x01)", "        return 1",
    "    if pc == 1:", "        if BNE():  # again", "            return 0", "        return 2",
    "    if pc == 2:", "        return JSR(pc, 0)",
    "    if pc == 3:", "        return RTS()",
    "    return pc"]

theorem dispatch_refines_step_of_loop :
    Line.NoEscapes (Listing.ofLines "loop.asm" loopSource).lines ∧
      ∃ es : List Entry, Entry.statements es = loopStatements ∧
        (Switch.ofEntries "step" 4 es).lines = loopSwitch ∧
        (Chain.ofEntries "step" es).lines = loopChain ∧
        ∀ {σ : Type} (m : Machine σ) (pc : Int) (x : σ),
          (Switch.ofEntries "step" 4 es).run m pc x =
              (if pc = -1 then (0, x) else Statement.stepAt m loopStatements pc x) ∧
            (Chain.ofEntries "step" es).run m pc x = Statement.stepAt m loopStatements pc x := by
  have hsource : Line.NoEscapes (Listing.ofLines "loop.asm" loopSource).lines := by
    decide +kernel
  have hmade : (ofLines { ({} : Config) with target := Host.python.name } false "loop.asm"
      loopSource).result.map (fun p =>
        (Line.instructions (Listing.ofLines "loop.asm" loopSource).lines).mapM fun q =>
          q.2.statement .python p.symbols q.1) = .ok (.ok loopStatements) := by decide +kernel
  have hswitch : (ofLines { ({} : Config) with target := Host.javascript.name } false "loop.asm"
      loopSource).result.map (·.output.dispatch) = .ok loopSwitch := by decide +kernel
  have hchain : (ofLines { ({} : Config) with target := Host.python.name } false "loop.asm"
      loopSource).result.map (·.output.dispatch) = .ok loopChain := by decide +kernel
  obtain ⟨p, hp, hmade⟩ := Outcome.map_eq_ok_iff.mp hmade
  obtain ⟨es, hes, hcount, ⟨js, hjs, hjsLines⟩, ⟨py, hpy, hpyLines⟩, hrun⟩ :=
    dispatch_refines_step (c := {}) hp hsource
  have hstatements : Entry.statements es = loopStatements := by
    have hmapM := Outcome.mapM_eq_ok_iff.mpr (hes.imp fun q s hs => (hs .python).1)
    exact Except.ok.inj (hmapM.symm.trans hmade)
  rw [hjs] at hswitch
  rw [hpy] at hchain
  rw [hstatements] at hcount hrun
  rw [← hcount] at hjsLines hrun
  exact ⟨hsource, es, hstatements, hjsLines.symm.trans (Except.ok.inj hswitch),
    hpyLines.symm.trans (Except.ok.inj hchain), hrun⟩

end Compilation

end AsmDispatch
