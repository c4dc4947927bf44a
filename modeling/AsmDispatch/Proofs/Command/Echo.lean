import AsmDispatch.Proofs.Command.Console
import AsmDispatch.Proofs.Diagnostics

/-!
# Which diagnostics reach standard error

The command shows the log of a compilation without its warnings, since each of them is a diagnostic
and the command shows the diagnostics itself.  It does so when the source has compiled.  If the
compilation fails, at a literal or because the source stops being a text, the failure is all that is
reported: warnings that were logged before are lost.

## Main statements

* `stderr_of_ok`, `stderr_of_error`: what a run writes to standard error, line by line.
* `warnings_echoed_once`: every warning is shown once if the source compiles, and otherwise not at
  all.
-/

namespace AsmDispatch

namespace Compilation

variable {c : Config} {verbose : Bool} {filename : Text} {r : Text.Reading}

/-- A source that compiles has been read to its end. -/
theorem ofReading_of_ok {p : Product} (hp : (ofReading c verbose filename r).result = .ok p) :
    ofReading c verbose filename r = ofLines c verbose filename r.lines := by
  unfold ofReading at hp ⊢
  split at hp
  · rfl
  · cases hp

/-- The log is shown without its warnings, also when the source cannot be read to its end. -/
theorem isShown_eq_false_of_mem_log_ofReading {record : LogRecord}
    (hr : record ∈ (ofReading c verbose filename r).log) (hwarning : record.isWarning = true) :
    LogRecord.isShown record.level record.logger = false := by
  unfold ofReading at hr
  split at hr
  · exact isShown_eq_false_of_mem_log hr hwarning
  · obtain ⟨f, -, rfl⟩ := List.mem_map.mp hr
    exact LogRecord.isShown_warning .listing _

end Compilation

namespace Command

variable {k : Toolkit (StateM Tree)} {t : Tree} {inv : Invocation} {call : Call} {c : Config}
  {p : Product} {e : Error}

/-! ## The log -/

/-- The warnings of the log are not shown. -/
theorem shownLog_compilation (call : Call) (c : Config) :
    call.options.shownLog (call.compilation c).log =
      call.options.shownLog ((call.compilation c).log.filter fun r => !r.isWarning) := by
  unfold Options.shownLog
  simp only [List.filter_filter]
  refine congrArg _ (List.filter_congr fun r hr => ?_)
  cases hwarning : r.isWarning with
  | false => simp
  | true => simp [Compilation.isShown_eq_false_of_mem_log_ofReading hr hwarning]

/-- The lines of the diagnostics show the warnings of the log, if the source compiles. -/
theorem echoes_of_ok (hp : (call.compilation c).result = .ok p) :
    List.Forall₂ LogRecord.Echoes ((call.compilation c).log.filter LogRecord.isWarning)
      (call.compilation c).diagnostics.lines := by
  rw [Call.compilation, Compilation.ofReading_of_ok hp]
  exact Compilation.forall₂_echoes

/-! ## Standard error -/

/-- What is reported behind the diagnostics: where the output went, if details are asked for, or why
it is nowhere. -/
def Streams.closingLines (s : Streams) (t : Tree) (o : Options) (p : Product) : List Text :=
  match o.output with
  | none =>
    match s.print p.output.text with
    | .ok _ => s.detail o [summaryLine p]
    | .error message => s.report o.verbose "Translation" (.unforeseen message)
  | some path =>
    let path := Path.normalize path
    match t.write path (Text.Utf8.encode p.output.text) with
    | .ok _ => s.detail o [wroteLine path p, summaryLine p]
    | .error kind => s.report o.verbose "Translation" (.ofError (.file { kind, path }))

theorem progress_eq (k : Toolkit (StateM Tree)) (hp : (call.compilation c).result = .ok p) :
    k.progress call c p =
      k.headerLines call.options c ++ call.options.shownLog (call.compilation c).log ++
        (call.compilation c).diagnostics.lines.map k.say := by
  have hdropped : (call.compilation c).diagnostics.dropped = p.unknown := by
    have hreading := Compilation.ofReading_of_ok hp
    rw [Call.compilation, hreading]
    exact Compilation.dropped_diagnostics (hreading ▸ hp)
  rw [Toolkit.progress, Streams.reportLines, Diagnostics.lines, hdropped, List.append_assoc]

theorem stderr_of_ok (hr : k.Reaches t inv call c) (hp : (call.compilation c).result = .ok p) :
    (k.runOn t inv).1.stderr =
      unlines (k.headerLines call.options c ++ call.options.shownLog (call.compilation c).log ++
        (call.compilation c).diagnostics.lines.map k.say ++ k.closingLines t call.options p) := by
  rw [← progress_eq k hp, Streams.closingLines]
  cases houtput : call.options.output with
  | none =>
    cases hprint : k.print p.output.text with
    | ok stdout => rw [Toolkit.runOn_of_printed hr hp houtput hprint]
    | error message =>
      rw [Toolkit.runOn_of_unprinted hr hp houtput hprint]
      rfl
  | some path =>
    cases hwrite : t.write (Path.normalize path) (Text.Utf8.encode p.output.text) with
    | ok t' =>
      rw [Toolkit.runOn_of_written hr hp houtput hwrite]
      simp only [hwrite]
    | error kind =>
      rw [Toolkit.runOn_of_unwritten hr hp houtput hwrite]
      simp only [hwrite]
      rfl

theorem stderr_of_error (hr : k.Reaches t inv call c)
    (he : (call.compilation c).result = .error e) :
    (k.runOn t inv).1.stderr =
      unlines (k.headerLines call.options c ++ call.options.shownLog (call.compilation c).log ++
        k.report call.options.verbose "Translation" (.ofError e)) := by
  rw [Toolkit.runOn_of_error hr he]
  rfl

/-- The warnings of a run that comes to its source.  The log shows none of them.  If the source
compiles, each has one line of its own among those that show the diagnostics, and these lines stand
once on standard error, whatever becomes of the output.  If it does not compile, they are not there:
the report of the failure follows the log. -/
theorem warnings_echoed_once (hr : k.Reaches t inv call c) :
    call.options.shownLog (call.compilation c).log =
        call.options.shownLog ((call.compilation c).log.filter fun r => !r.isWarning) ∧
      (∀ p, (call.compilation c).result = .ok p →
        List.Forall₂ LogRecord.Echoes ((call.compilation c).log.filter LogRecord.isWarning)
            (call.compilation c).diagnostics.lines ∧
          (k.runOn t inv).1.stderr =
            unlines (k.headerLines call.options c ++
              call.options.shownLog (call.compilation c).log ++
              (call.compilation c).diagnostics.lines.map k.say ++
              k.closingLines t call.options p)) ∧
      ∀ e, (call.compilation c).result = .error e →
        (k.runOn t inv).1.stderr =
          unlines (k.headerLines call.options c ++
            call.options.shownLog (call.compilation c).log ++
            k.report call.options.verbose "Translation" (.ofError e)) :=
  ⟨shownLog_compilation call c, fun _ hp => ⟨echoes_of_ok hp, stderr_of_ok hr hp⟩,
    fun _ => stderr_of_error hr⟩

/-- A source with a warning of each stage: a line of no known form, a label given twice, and a jump
to a name that is not there. -/
def noisySource : Text := "nonsense line\nloop:\nloop:\n  JMP nowhere\n"

def noisyTree : Tree where
  files := [(["src", "noisy.asm"], Text.Utf8.encode noisySource)]
  working := ["tmp"]

def noisyInvocation : Invocation := { args := ["-v", "/src/noisy.asm"] }

def noisyCall : Call where
  options := { verbose := true }
  source := { filename := "/src/noisy.asm", chunks := [Text.Utf8.encode noisySource] }

def noisyHeader : List Text := ["Target: javascript", "ROM base: 0x8000"]

def noisyLog : List Text :=
  ["DEBUG asm2host.translator.classifier: Classified 3 records from /src/noisy.asm " ++
     "(1 unknown lines)",
   "DEBUG asm2host.translator.resolver: Pass 0: 1 slots",
   "DEBUG asm2host.translator.resolver: Pass 1: 1 slots",
   "INFO asm2host.translator.translator: Translated /src/noisy.asm: 1 slots, 1 labels, " ++
     "0 data regions (0 bytes)"]

def noisyWarnings : List Text :=
  ["/src/noisy.asm:1:1: warning: unknown line: nonsense line",
   "warning: /src/noisy.asm:3:1: label 'loop' defined more than once",
   "warning: /src/noisy.asm:4:1: JMP target 'nowhere' is not a defined label"]

def noisySummary : List Text :=
  ["Translation complete: 1 slots, 0 data regions (0 bytes), 1 unknown lines"]

theorem reaches_noisy :
    (console (Tree.fileSystem [])).Reaches noisyTree noisyInvocation noisyCall {} where
  calls := by decide +kernel
  configured := by decide +kernel

theorem warnings_echoed_once_of_noisy :
    List.Forall₂ LogRecord.Echoes ((noisyCall.compilation {}).log.filter LogRecord.isWarning)
        noisyWarnings ∧
      ((console (Tree.fileSystem [])).runOn noisyTree noisyInvocation).1.stderr =
        unlines (noisyHeader ++ noisyLog ++ noisyWarnings ++ noisySummary) := by
  have hheader : (console (Tree.fileSystem [])).headerLines noisyCall.options {} = noisyHeader := by
    refine Eq.trans (congrArg (List.map consoleStreams.say) ?_) (map_say_consoleStreams ?_)
    · decide +kernel
    · decide +kernel
  have hlog : noisyCall.options.shownLog ((noisyCall.compilation {}).log.filter
      fun r => !r.isWarning) = noisyLog := by decide +kernel
  have hlines : (noisyCall.compilation {}).diagnostics.lines = noisyWarnings := by decide +kernel
  have hsaid : noisyWarnings.map (console (Tree.fileSystem [])).say = noisyWarnings :=
    map_say_consoleStreams (by decide +kernel)
  have hsummary : (noisyCall.compilation {}).result.map (fun p => [summaryLine p]) =
      .ok noisySummary := by decide +kernel
  obtain ⟨p, hp, hsummary⟩ := Outcome.map_eq_ok_iff.mp hsummary
  have hclosing : (console (Tree.fileSystem [])).closingLines noisyTree noisyCall.options p =
      noisySummary := by
    refine Eq.trans (congrArg (List.map consoleStreams.say) hsummary) (map_say_consoleStreams ?_)
    decide +kernel
  obtain ⟨hshown, hok, -⟩ := warnings_echoed_once reaches_noisy
  obtain ⟨hechoes, hstderr⟩ := hok p hp
  rw [hlines] at hechoes
  rw [hstderr, hheader, hshown, hlog, hlines, hsaid, hclosing]
  exact ⟨hechoes, rfl⟩

/-! ## Warnings that are lost -/

/-- A failure is all that a run reports which has nothing to show before. -/
theorem stderr_of_silent_error (hr : k.Reaches t inv call c)
    (he : (call.compilation c).result = .error e) (hverbose : call.options.verbose = false)
    (hlog : call.options.shownLog (call.compilation c).log = []) :
    (k.runOn t inv).1.stderr = unlines (k.report false "Translation" (.ofError e)) := by
  have hheader : k.headerLines call.options c = [] := by
    rw [Streams.headerLines, Streams.detail, hverbose]
    rfl
  rw [stderr_of_error hr he, hheader, hlog, hverbose]
  rfl

/-- A source with a line of no known form in front of a literal that cannot be read. -/
def lostSource : Text := "nonsense line\nX = $1G\n"

def lostCall : Call where
  source := { filename := "<stdin>", chunks := [Text.Utf8.encode lostSource] }

def lostReport : Text :=
  "Translation error: <stdin>:2:1: error: illegal expression '$1G' (unparsed: 'G')"

/-- A source with such a line that stops being a text behind it. -/
def brokenCall : Call where
  source := { filename := "<stdin>", chunks := [Text.Utf8.encode "nonsense line\n", [0xff]] }

def brokenReport : Text :=
  "Internal error: 'utf-8' codec can't decode byte 0xff in position 0: invalid start byte"

/-- A run that fails has a warning in its log and reports nothing but the failure, under every
toolkit; the console makes such a call for standard input. -/
theorem warning_lost_on_failure :
    ((lostCall.compilation {}).log.filter LogRecord.isWarning).map LogRecord.message =
        ["<stdin>:1:1: unknown line: nonsense line"] ∧
      (∀ (k : Toolkit (StateM Tree)) (t : Tree) (args : List Text), k.Calls t args lostCall →
        (k.runOn t { args }).1.stderr = unlines [k.say lostReport]) ∧
      ((brokenCall.compilation {}).log.filter LogRecord.isWarning).map LogRecord.message =
        ["<stdin>:1:1: unknown line: nonsense line"] ∧
      (∀ (k : Toolkit (StateM Tree)) (t : Tree) (args : List Text), k.Calls t args brokenCall →
        (k.runOn t { args }).1.stderr = unlines [k.say brokenReport]) ∧
      (console (Tree.fileSystem (Text.Utf8.encode lostSource))).Calls {} [] lostCall ∧
      ((console (Tree.fileSystem (Text.Utf8.encode lostSource))).runOn {} { args := [] }).1.stderr =
        unlines [lostReport] := by
  have hconfig : configOf {} {} = .ok {} := by decide +kernel
  have hlost {k : Toolkit (StateM Tree)} {t : Tree} {args : List Text}
      (hcalls : k.Calls t args lostCall) :
      (k.runOn t { args }).1.stderr = unlines [k.say lostReport] := by
    have he : Outcome.failure? (lostCall.compilation {}).result = some (.fault
        { cause := .illegalExpression "$1G" "G",
          location := some { filename := "<stdin>", line := 2 } }) := by decide +kernel
    rw [stderr_of_silent_error ⟨hcalls, hconfig⟩ (Outcome.failure?_eq_some_iff.mp he) rfl
      (by decide +kernel)]
    exact congrArg (fun l => unlines [k.say l]) (by decide +kernel)
  have hbroken {k : Toolkit (StateM Tree)} {t : Tree} {args : List Text}
      (hcalls : k.Calls t args brokenCall) :
      (k.runOn t { args }).1.stderr = unlines [k.say brokenReport] := by
    have he : Outcome.failure? (brokenCall.compilation {}).result = some (.undecodable
        { first := 0xff, start := 0, length := 1, reason := .invalidStart }) := by decide +kernel
    rw [stderr_of_silent_error ⟨hcalls, hconfig⟩ (Outcome.failure?_eq_some_iff.mp he) rfl
      (by decide +kernel)]
    exact congrArg (fun l => unlines [k.say l]) (by decide +kernel)
  have hcalls : (console (Tree.fileSystem (Text.Utf8.encode lostSource))).Calls {} [] lostCall := by
    decide +kernel
  have hsaid : [lostReport].map consoleStreams.say = [lostReport] :=
    map_say_consoleStreams (by decide +kernel)
  exact ⟨by decide +kernel, fun _ _ _ => hlost, by decide +kernel, fun _ _ _ => hbroken, hcalls,
    (hlost hcalls).trans (congrArg unlines hsaid)⟩

end Command

end AsmDispatch
