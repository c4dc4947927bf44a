import AsmDispatch.Proofs.Command.Console
import AsmDispatch.Proofs.Failure
import AsmDispatch.Proofs.Places

/-!
# The command and the library

The command and `compile` make the same configuration from the same target and base, and places do
not show in the output.  Two differences remain.  The command cuts its source at the line ends of
files, `compile` at every line end that text can have.  And standard output takes of the text what
the toolkit prints.

## Main statements

* `answers_compileCut`: what the command does with lines that have been cut.
* `answers_console`: the same for the console and its words.
* `command_agrees_with_compile`: the agreement, as far as it goes.
-/

namespace AsmDispatch

/-- What the library gives for the lines of a source. -/
def compileCut (source : List Text) (target : Text) (romBase : Option Int) : Except Error Text := do
  let s ← Session.start {} (some target) romBase
  return (← (s.compileLines "<input>" source).2).output.text

theorem compile_eq_compileCut {source : Text} (hsource : Text.HasFileEnds source) (target : Text)
    (romBase : Option Int) :
    compile source target romBase = compileCut (Text.fileLines source) target romBase := by
  rw [← Text.lines_eq_fileLines hsource]
  rfl

/-- A base that is not negative can be used with every host. -/
theorem Config.validate_eq_ok (h : Host) {base : Int} (hbase : 0 ≤ base) :
    Config.validate { target := h.name, romBase := base } = .ok () := by
  refine validate_eq_ok_iff.mpr ⟨?_, hbase, (validate_eq_ok_iff.mp validate_default).2.2⟩
  rw [Host.ofName?_name, Option.isSome_some]

theorem Session.start_eq_ok (h : Host) {base : Int} (hbase : 0 ≤ base) :
    Session.start {} (some h.name) (some base) =
      .ok { config := { target := h.name, romBase := base } } := by
  have hlower : Text.lower h.name = h.name := by cases h <;> decide +kernel
  have hconfig : Config.override {} (some h.name) (some base) =
      { target := h.name, romBase := base } := by
    rw [Config.override, Option.map_some, hlower]
    rfl
  rw [start, hconfig, Config.validate_eq_ok h hbase]
  rfl

theorem compileCut_eq (h : Host) {base : Int} (hbase : 0 ≤ base) (source : List Text) :
    compileCut source h.name (some base) =
      (Compilation.ofLines { target := h.name, romBase := base } false "<input>"
        source).result.map (·.output.text) := by
  rw [compileCut, Session.start_eq_ok h hbase]
  change (Compilation.ofLines _ false "<input>" source).result >>= _ = _
  cases (Compilation.ofLines _ false "<input>" source).result <;> rfl

/-- A compilation for a known host fails with a literal at fault, if it fails. -/
theorem Compilation.exists_literal_of_error {c : Config} {h : Host} {verbose : Bool}
    {filename : Text} {source : List Text} {e : Error} (hhost : Host.ofName? c.target = some h)
    (he : (ofLines c verbose filename source).result = .error e) :
    ∃ literal remainder location,
      e = .fault { cause := .illegalExpression literal remainder, location } := by
  have hfail := (failure?_result hhost).symm.trans (Outcome.failure?_eq_some_iff.mpr he)
  obtain ⟨f, hf, rfl⟩ := Option.map_eq_some_iff.mp hfail
  obtain ⟨s, -, hs⟩ := List.exists_of_findSome?_eq_some hf
  obtain ⟨r, -, rfl⟩ := Literal.Site.fault?_eq_some_iff.mp hs
  exact ⟨s.text, r, s.location, rfl⟩

namespace Command

variable {k : Toolkit (StateM Tree)} {t : Tree} {inv : Invocation} {call : Call} {source : Text}
  {h : Host} {base : Int}

/-- The command is called for a host and a base, and with nothing else but a wish for details. -/
structure Call.Asks (call : Call) (h : Host) (base : Int) : Prop where
  target : call.options.target = some h.name
  romBase : call.options.romBase = some base
  output : call.options.output = none
  stepName : call.options.stepName = none

/-- The outcome of a run says what the library gives: a text, which is printed if standard output
takes it, or a literal that cannot be read. -/
inductive Streams.Answers (s : Streams) : Outcome → Except Error Text → Prop
  | text {r : Outcome} {out : Text} (hcode : r.status.code = 0)
      (hprint : s.print out = .ok r.stdout) (hsame : ¬ Text.HoldsControl out → r.stdout = out) :
      Answers s r (.ok out)
  | unprinted {r : Outcome} {out message : Text} (hcode : r.status.code = 3)
      (hstdout : r.stdout = []) (hprint : s.print out = .error message) : Answers s r (.ok out)
  | fault {r : Outcome} {literal remainder : Text} {location : Option Location}
      (hcode : r.status.code = 1) (hstdout : r.stdout = []) :
      Answers s r (.error (.fault { cause := .illegalExpression literal remainder, location }))

theorem Streams.Answers.code_eq_one_iff {s : Streams} {r : Outcome} {x : Except Error Text}
    (hr : s.Answers r x) : r.status.code = 1 ↔ x.isOk = false := by
  cases hr with
  | text hcode | unprinted hcode | fault hcode => simp [hcode, Except.isOk, Except.toBool]

theorem Call.Asks.reaches (hasks : call.Asks h base) (hbase : 0 ≤ base) (henv : inv.env = {})
    (hcalls : k.Calls t inv.args call) :
    k.Reaches t inv call { target := h.name, romBase := base } where
  calls := hcalls
  configured := by
    rw [configOf, henv, hasks.target, hasks.romBase, hasks.stepName]
    change (Session.start {} _ _ >>= _) = _
    rw [Session.start_eq_ok h hbase]
    rfl

/-- The command answers as the library does for the lines of a file. -/
theorem answers_compileCut (hk : k.Lawful) (hasks : call.Asks h base) (hbase : 0 ≤ base)
    (hr : k.Reaches t inv call { target := h.name, romBase := base })
    (hholds : call.source.Holds source) :
    (k.runOn t inv).2 = t ∧
      k.Answers (k.runOn t inv).1
        (compileCut (Text.fileLines source) h.name (some base)) := by
  have hhost : Host.ofName? ({ target := h.name, romBase := base } : Config).target = some h :=
    Host.ofName?_name h
  have hcompilation := Call.compilation_of_holds hholds { target := h.name, romBase := base }
  have hsame : (call.compilation { target := h.name, romBase := base }).output? =
      (Compilation.ofLines { target := h.name, romBase := base } false "<input>"
        (Text.fileLines source)).output? := by
    rw [hcompilation]
    exact Compilation.output?_ofLines _ _ false _ "<input>" _
  rw [compileCut_eq h hbase]
  cases hresult : (call.compilation { target := h.name, romBase := base }).result with
  | ok p =>
    rw [Compilation.output?, hresult] at hsame
    obtain ⟨p', hp', hout⟩ := Option.map_eq_some_iff.mp hsame.symm
    rw [Outcome.toOption_eq_some_iff.mp hp', Except.map, hout]
    cases hprint : k.print p.output.text with
    | ok stdout =>
      rw [Toolkit.runOn_of_printed hr hresult hasks.output hprint]
      exact ⟨rfl, .text rfl hprint (hk.prints hprint)⟩
    | error message =>
      rw [Toolkit.runOn_of_unprinted hr hresult hasks.output hprint]
      exact ⟨rfl, .unprinted rfl rfl hprint⟩
  | error e =>
    rw [Compilation.output?, hresult] at hsame
    have hnone := Option.map_eq_none_iff.mp hsame.symm
    rw [Toolkit.runOn_of_error hr hresult]
    cases hother : (Compilation.ofLines { target := h.name, romBase := base } false "<input>"
        (Text.fileLines source)).result with
    | ok p =>
      rw [hother] at hnone
      cases hnone
    | error e' =>
      rw [hcompilation] at hresult
      obtain ⟨_, _, _, rfl⟩ := Compilation.exists_literal_of_error hhost hresult
      obtain ⟨_, _, _, rfl⟩ := Compilation.exists_literal_of_error hhost hother
      exact ⟨rfl, .fault rfl rfl⟩

/-- The program as it runs: words that ask for a host and a base are answered with what the library
gives for the text on standard input or in the file that they name. -/
theorem answers_console {stdin : Text.Bytes} {w : Words} {filename : Text}
    (hs : Starts stdin t inv.args w (.ofBytes filename (Text.Utf8.encode source)))
    (henv : inv.env = {})
    (hasks : Call.Asks { options := w.chosen, source := .ofBytes filename (Text.Utf8.encode source) }
      h base) (hbase : 0 ≤ base) :
    ((console (Tree.fileSystem stdin)).runOn t inv).2 = t ∧
      (console (Tree.fileSystem stdin)).Answers ((console (Tree.fileSystem stdin)).runOn t inv).1
        (compileCut (Text.fileLines source) h.name (some base)) := by
  have hr := hasks.reaches hbase henv (calls_console hs)
  exact answers_compileCut (lawful_console stdin) hasks hbase hr (Source.holds_ofBytes _ _)

/-- Called with a host and a base on a source that holds a text, the command leaves all files alone
and answers as the library does for the lines of the text as a file.  If the text has no line end
but line feeds and carriage returns, it answers as `compile` does: status 0 and the output, as far
as it is printed, or status 1 exactly if a literal of the source cannot be read. -/
theorem command_agrees_with_compile (hk : k.Lawful) (henv : inv.env = {})
    (hcalls : k.Calls t inv.args call) (hasks : call.Asks h base) (hbase : 0 ≤ base)
    (hholds : call.source.Holds source) :
    (k.runOn t inv).2 = t ∧
      k.Answers (k.runOn t inv).1 (compileCut (Text.fileLines source) h.name (some base)) ∧
      (Text.HasFileEnds source →
        k.Answers (k.runOn t inv).1 (compile source h.name (some base))) := by
  have hr := hasks.reaches hbase henv hcalls
  obtain ⟨htree, hanswers⟩ := answers_compileCut hk hasks hbase hr hholds
  refine ⟨htree, hanswers, fun hends => ?_⟩
  rw [compile_eq_compileCut hends]
  exact hanswers

/-- A source with line ends of both kinds, data and a repeated name. -/
def crossSource : Text := "start:\r\n  LDA #<table ; low\n  BNE start\rtable:\n  .db 1, 2\r\n"

def crossText : Text :=
  unlines ["# Labels", "start = 0", [], "# Definitions", [],
    "# Rom data addresses", "table = 0x9000", [],
    "# Rom data", "ROM_DATA = [", "    # table: 0x9000", "    1, 2,", "]  # Total size: 2", [],
    "def step(pc):", "    # start: (0)",
    "    if pc == 0:", "        LDA_immediate(LO(table))  # low", "        return 1",
    "    if pc == 1:", "        if BNE():", "            return 0", "        return 2",
    "    # table: (0x9000)", "    # .db 1, 2", "    return pc"]

def crossTree : Tree where
  files := [(["src", "cross.asm"], Text.Utf8.encode crossSource)]
  working := ["tmp"]

def crossInvocation : Invocation :=
  { args := ["-t", "PYTHON", "--rom-base=$9000", "/src/cross.asm"] }

def crossCall : Call where
  options := { target := some "python", romBase := some 0x9000 }
  source := { filename := "/src/cross.asm", chunks := [Text.Utf8.encode crossSource] }

theorem hasFileEnds_cross : Text.HasFileEnds crossSource := by
  have hall : crossSource.all (fun c => !Text.endsLine c || c == '\n' || c == '\r') = true := by
    decide +kernel
  intro c hc hends
  have hchar := List.all_eq_true.mp hall c hc
  simpa [hends] using hchar

theorem command_agrees_with_compile_of_cross :
    compile crossSource "python" (some 0x9000) = .ok crossText ∧
      ((console (Tree.fileSystem [])).runOn crossTree crossInvocation).1.status.code = 0 ∧
      ((console (Tree.fileSystem [])).runOn crossTree crossInvocation).1.stdout = crossText ∧
      ((console (Tree.fileSystem [])).runOn crossTree crossInvocation).2 = crossTree := by
  have hcompile : compile crossSource "python" (some 0x9000) = .ok crossText := by decide +kernel
  have hplain : ¬ Text.HoldsControl crossText := by decide +kernel
  have hcalls : (console (Tree.fileSystem [])).Calls crossTree crossInvocation.args crossCall := by
    decide +kernel
  have hasks : crossCall.Asks .python 0x9000 := ⟨rfl, rfl, rfl, rfl⟩
  have hholds : crossCall.source.Holds crossSource := List.append_nil _
  obtain ⟨htree, -, hanswers⟩ :=
    command_agrees_with_compile (lawful_console []) rfl hcalls hasks (by decide) hholds
  have hanswers := hanswers hasFileEnds_cross
  have hname : Host.python.name = "python" := rfl
  rw [hname, hcompile] at hanswers
  cases hanswers with
  | text hcode _ hsame => exact ⟨hcompile, hcode, hsame hplain, htree⟩
  | unprinted _ _ hprint => cases hprint

/-- Two definitions with a form feed between them. -/
def pagedSource : Text := "A = 1\x0cB = 2\n"

def pagedCall : Call where
  options := { target := some "javascript", romBase := some 0x8000 }
  source := { filename := "<stdin>", chunks := [Text.Utf8.encode pagedSource] }

/-- The library compiles a source that the command refuses, whatever the toolkit; the console makes
this call for standard input. -/
theorem command_differs_at_form_feed :
    (∃ out, compile pagedSource "javascript" (some 0x8000) = .ok out) ∧
      (∀ (k : Toolkit (StateM Tree)) (t : Tree) (args : List Text), k.Lawful →
        k.Calls t args pagedCall → (k.runOn t { args }).1.status.code = 1) ∧
      (console (Tree.fileSystem (Text.Utf8.encode pagedSource))).Lawful ∧
      (console (Tree.fileSystem (Text.Utf8.encode pagedSource))).Calls {}
        ["-t", "javascript", "--rom-base", "32768"] pagedCall := by
  have hok : (compile pagedSource "javascript" (some 0x8000)).isOk = true := by decide +kernel
  have hasks : pagedCall.Asks .javascript 0x8000 := ⟨rfl, rfl, rfl, rfl⟩
  have hholds : pagedCall.source.Holds pagedSource := List.append_nil _
  refine ⟨Outcome.exists_eq_ok_of_isOk hok, fun k t args hk hcalls => ?_, lawful_console _,
    by decide +kernel⟩
  have hr : k.Reaches t { args } pagedCall _ := hasks.reaches (by decide) rfl hcalls
  obtain ⟨-, hanswers⟩ := answers_compileCut hk hasks (by decide) hr hholds
  exact hanswers.code_eq_one_iff.mpr (by decide +kernel)

end Command

end AsmDispatch
