import AsmDispatch.Proofs.Command.Console

/-!
# Where the output goes

A run has one outcome with output in it, the one at its very end.  Everything that can stop it comes
before, reports on standard error only and leaves the files alone; a write that fails changes
nothing either.  A file gets the output as it is, standard output gets what the toolkit prints of
it.

## Main statements

* `Toolkit.runOn_cases`: the toolkit ends a run, the run fails, or it delivers.
* `failed_run_leaves_nothing`: what each of these leaves behind.
-/

namespace AsmDispatch.Command

theorem Status.code_eq_zero_iff {s : Status} : s.code = 0 ↔ s = .success := by
  cases s <;> decide

theorem Failure.status_ne_success (f : Failure) : f.status ≠ .success := by
  unfold status
  split <;> decide

/-- The text of a product is where the options ask for it, and nowhere else: on standard output, as
it is printed, or in the file that the path leads to. -/
structure Streams.Delivered (s : Streams) (t : Tree) (o : Options) (text stdout : Text)
    (t' : Tree) : Prop where
  printed : o.output = none →
    t' = t ∧ s.print text = .ok stdout ∧ (¬ Text.HoldsControl text → stdout = text)
  written : ∀ path, o.output = some path → stdout = [] ∧
    ∃ place, t.locate (Path.normalize path) = .ok place ∧
      t.IsWritten place (Text.Utf8.encode text) t'

variable {k : Toolkit (StateM Tree)} {t : Tree} {inv : Invocation} {call : Call} {c : Config}
  {p : Product}

namespace Toolkit

/-- A run whose source compiles delivers the output, or it fails at standard output or at the
write. -/
theorem delivered_of_ok (hk : k.Lawful) (hr : k.Reaches t inv call c)
    (hp : (call.compilation c).result = .ok p) :
    (∃ before f, k.runOn t inv = (k.failure call.options before f, t)) ∨
      (k.runOn t inv).1.status = .success ∧
        k.Delivered t call.options p.output.text (k.runOn t inv).1.stdout (k.runOn t inv).2 := by
  cases houtput : call.options.output with
  | none =>
    cases hprint : k.print p.output.text with
    | error message => exact Or.inl ⟨_, _, runOn_of_unprinted hr hp houtput hprint⟩
    | ok stdout =>
      rw [runOn_of_printed hr hp houtput hprint]
      refine Or.inr ⟨rfl, fun _ => ⟨rfl, hprint, hk.prints hprint⟩, fun path hpath => ?_⟩
      rw [houtput] at hpath
      cases hpath
  | some path =>
    cases hwrite : t.write (Path.normalize path) (Text.Utf8.encode p.output.text) with
    | error kind => exact Or.inl ⟨_, _, runOn_of_unwritten hr hp houtput hwrite⟩
    | ok t' =>
      rw [runOn_of_written hr hp houtput hwrite]
      refine Or.inr ⟨rfl, fun hnone => ?_, fun path' hpath' => ?_⟩
      · rw [houtput] at hnone
        cases hnone
      · rw [houtput] at hpath'
        cases hpath'
        exact ⟨rfl, Tree.isWritten_of_write hwrite⟩

/-- The toolkit ends a run, or the run fails with all files as they were, or its source has compiled
and the output is delivered. -/
theorem runOn_cases (hk : k.Lawful) (t : Tree) (inv : Invocation) :
    (∃ r, k.Ends t inv.args r ∧ k.runOn t inv = (r, t)) ∨
      (∃ o before f, k.runOn t inv = (k.failure o before f, t)) ∨
      ∃ call c p, k.Reaches t inv call c ∧ (call.compilation c).result = .ok p ∧
        (k.runOn t inv).1.status = .success ∧
        k.Delivered t call.options p.output.text (k.runOn t inv).1.stdout (k.runOn t inv).2 := by
  rcases hk.calls_or_ends t inv.args with ⟨call, hcalls⟩ | ⟨r, hends⟩
  · cases hc : configOf inv.env call.options with
    | error e => exact Or.inr (Or.inl ⟨_, _, _, runOn_of_misconfigured hcalls hc⟩)
    | ok c =>
      have hr : k.Reaches t inv call c := ⟨hcalls, hc⟩
      cases hresult : (call.compilation c).result with
      | error e => exact Or.inr (Or.inl ⟨_, _, _, runOn_of_error hr hresult⟩)
      | ok p =>
        rcases delivered_of_ok hk hr hresult with ⟨before, f, hrun⟩ | hdelivered
        · exact Or.inr (Or.inl ⟨_, _, _, hrun⟩)
        · exact Or.inr (Or.inr ⟨call, c, p, hr, hresult, hdelivered⟩)
  · exact Or.inl ⟨r, hends, runOn_of_ends hends⟩

end Toolkit

/-- A run that fails prints nothing and leaves the files as they were.  A run that succeeds has been
ended by the toolkit, or its source has compiled and the text of the five blocks is in the one place
that was asked for.  In a file it is complete; on standard output it is so at least if it holds no
control sequence. -/
theorem failed_run_leaves_nothing (hk : k.Lawful) (t : Tree) (inv : Invocation) :
    ((k.runOn t inv).1.status.code ≠ 0 →
        (k.runOn t inv).1.stdout = [] ∧ (k.runOn t inv).2 = t) ∧
      ((k.runOn t inv).1.status.code = 0 →
        (k.Ends t inv.args (k.runOn t inv).1 ∧ (k.runOn t inv).2 = t) ∨
        ∃ call c p, k.Reaches t inv call c ∧ (call.compilation c).result = .ok p ∧
          k.Delivered t call.options p.output.text (k.runOn t inv).1.stdout
            (k.runOn t inv).2) := by
  rcases Toolkit.runOn_cases hk t inv with ⟨r, hends, hrun⟩ | ⟨o, before, f, hrun⟩ |
    ⟨call, c, p, hr, hp, hstatus, hdelivered⟩
  · rw [hrun]
    refine ⟨fun hcode => ⟨hk.silent hends ?_, rfl⟩, fun _ => Or.inl ⟨hends, rfl⟩⟩
    exact fun hstatus => hcode (Status.code_eq_zero_iff.mpr hstatus)
  · rw [hrun]
    refine ⟨fun _ => ⟨rfl, rfl⟩, fun hcode => ?_⟩
    exact absurd (Status.code_eq_zero_iff.mp hcode) f.status_ne_success
  · refine ⟨fun hcode => ?_, fun _ => Or.inr ⟨call, c, p, hr, hp, hdelivered⟩⟩
    exact absurd (Status.code_eq_zero_iff.mpr hstatus) hcode

/-- A source in one directory, with another one to work in. -/
def shelfTree : Tree where
  files := [(["shelf", "a.asm"], Text.Utf8.encode " NOP\n")]
  working := ["desk"]

def shelfInvocation : Invocation := { args := ["-o", "/shelf/a.js", "../shelf/a.asm"] }

def shelfCall : Call where
  options := { output := some "/shelf/a.js" }
  source := { filename := "../shelf/a.asm", chunks := [Text.Utf8.encode " NOP\n"] }

def shelfText : Text :=
  unlines ["// Labels", [], "// Definitions", [], "// Rom data addresses", [],
    "// Rom data", "const ROM_DATA = [", "]  // Total size: 0", [],
    "function step(pc) \x7b", "  switch (pc) \x7b", "  case -1:  // Dummy",
    "  pc=0; break; case 0:", "    NOP()", "  pc=1; case 1: break", "  \x7d", "  return pc", "\x7d"]

/-- What the run leaves: one file more. -/
def shelfAfter : Tree where
  files := [(["shelf", "a.asm"], Text.Utf8.encode " NOP\n"),
    (["shelf", "a.js"], Text.Utf8.encode shelfText)]
  working := ["desk"]

theorem failed_run_leaves_nothing_of_shelf :
    (console (Tree.fileSystem [])).runOn shelfTree shelfInvocation =
        ({ status := .success }, shelfAfter) ∧
      shelfTree.locate "/shelf/a.js" = .ok ["shelf", "a.js"] ∧
      (console (Tree.fileSystem [])).Delivered shelfTree shelfCall.options shelfText []
        shelfAfter := by
  have hrun : (console (Tree.fileSystem [])).runOn shelfTree shelfInvocation =
      ({ status := .success }, shelfAfter) := by decide +kernel
  have hcalls : (console (Tree.fileSystem [])).Calls shelfTree shelfInvocation.args shelfCall := by
    decide +kernel
  have hconfig : configOf shelfInvocation.env shelfCall.options = .ok {} := by decide +kernel
  have htext : (shelfCall.compilation {}).result.map (·.output.text) = .ok shelfText := by
    decide +kernel
  refine ⟨hrun, by decide +kernel, ?_⟩
  obtain ⟨-, hsuccess⟩ := failed_run_leaves_nothing (lawful_console []) shelfTree shelfInvocation
  rw [hrun] at hsuccess
  rcases hsuccess rfl with ⟨hends, -⟩ | ⟨call, c, p, hr, hp, hdelivered⟩
  · exact absurd hends hcalls.not_ends
  · obtain rfl := hcalls.unique hr.calls
    obtain rfl := Except.ok.inj (hconfig.symm.trans hr.configured)
    rw [hp] at htext
    rwa [← Except.ok.inj htext]

/-! ## What is printed -/

/-- Standard output does not get what would steer a terminal, as it is when it is none. -/
def Streams.DropsControl (s : Streams) : Prop :=
  ∀ text, Text.HoldsControl text → s.print text ≠ .ok text

theorem dropsControl_console (stdin : Text.Bytes) :
    (console (Tree.fileSystem stdin)).DropsControl :=
  fun _ hholds hprint => Text.plain_eq_self_iff.mp (Except.ok.inj hprint) hholds

/-- A source whose comment holds a control sequence. -/
def colouredSource : Text := "; \x1b[1mx\n"

def colouredCall : Call where
  source := { filename := "<stdin>", chunks := [Text.Utf8.encode colouredSource] }

def colouredText : Text :=
  unlines ["// Labels", [], "// Definitions", [], "// Rom data addresses", [],
    "// Rom data", "const ROM_DATA = [", "]  // Total size: 0", [],
    "function step(pc) \x7b", "  switch (pc) \x7b", "  case -1:  // Dummy", "  // \x1b[1mx",
    "  pc=0; case 0: break", "  \x7d", "  return pc", "\x7d"]

/-- What is printed of a text with a control sequence is not complete, though the run succeeds. -/
theorem printed_text_incomplete :
    (∀ (k : Toolkit (StateM Tree)) (t : Tree) (args : List Text) (stdout : Text), k.DropsControl →
        k.Calls t args colouredCall → k.print colouredText = .ok stdout →
        (k.runOn t { args }).1.status.code = 0 ∧ (k.runOn t { args }).1.stdout = stdout ∧
          stdout ≠ colouredText) ∧
      compile colouredSource "javascript" none = .ok colouredText ∧
      (console (Tree.fileSystem (Text.Utf8.encode colouredSource))).DropsControl ∧
      (console (Tree.fileSystem (Text.Utf8.encode colouredSource))).Calls {} [] colouredCall := by
  have hholds : Text.HoldsControl colouredText := by decide +kernel
  have hconfig : configOf {} colouredCall.options = .ok {} := by decide +kernel
  have htext : (colouredCall.compilation {}).result.map (·.output.text) = .ok colouredText := by
    decide +kernel
  obtain ⟨p, hp, hout⟩ := Outcome.map_eq_ok_iff.mp htext
  refine ⟨fun k t args stdout hdrops hcalls hprint => ?_, by decide +kernel,
    dropsControl_console _, by decide +kernel⟩
  have hr : k.Reaches t { args } colouredCall {} := ⟨hcalls, hconfig⟩
  rw [Toolkit.runOn_of_printed hr hp rfl (hout ▸ hprint)]
  refine ⟨rfl, rfl, ?_⟩
  rintro rfl
  exact hdrops _ hholds hprint

end AsmDispatch.Command
