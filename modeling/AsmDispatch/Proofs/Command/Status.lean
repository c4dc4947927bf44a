import AsmDispatch.Proofs.Command.Delivery
import AsmDispatch.Proofs.Failure

/-!
# What the exit status says

Every way in which a run can end is listed here with the status that it gets.  Success and a literal
at fault have a status of their own, and so has what is wrong with the words, the configuration or a
path.  An internal error stands for what was not foreseen.  There are four such cases, and all of
them can be brought about from outside: a negative base that is too long to be shown, a source that
holds no text, an output that standard output does not take, and an output path that fails in
another way than by a missing directory or a missing permission.

## Main statements

* `status_of_succeeds`, `status_of_illegal`, `status_of_refused`, `status_of_overlooked`: the status
  of every ending.
* `succeeds_or_fails`: there is no other ending.
* `status_by_ending`: both together.
-/

namespace AsmDispatch

/-- A compilation has a product exactly if all its literals are accepted. -/
theorem Compilation.exists_product_iff {c : Config} {h : Host} {verbose : Bool} {filename : Text}
    {source : List Text} (hhost : Host.ofName? c.target = some h) :
    (∃ p, (ofLines c verbose filename source).result = .ok p) ↔
      ∀ s ∈ (Listing.ofLines filename source).sites c.romBase, s.Accepted := by
  rw [← Outcome.failure?_eq_none_iff, failure?_result hhost, Option.map_eq_none_iff,
    List.findSome?_eq_none_iff]
  exact forall₂_congr fun s _ => Literal.Site.fault?_eq_none_iff

/-- The defect cannot be put into a message: the number in it is too long. -/
def Config.Defect.Unspeakable : Config.Defect → Prop
  | .negativeBase n => Text.maxDecimalDigits < (Nat.toDigits 10 n.natAbs).length
  | _ => False

theorem Config.Defect.error_of_unspeakable {d : Config.Defect} (hd : d.Unspeakable) :
    d.error = .numeralTooLong := by
  cases d with
  | negativeBase n => exact if_pos hd
  | unknownTarget | badName => exact hd.elim

theorem Config.Defect.exists_fault_of_not_unspeakable {d : Config.Defect} (hd : ¬ d.Unspeakable) :
    ∃ message hint, d.error = .fault { cause := .configuration message, hint } := by
  cases d with
  | negativeBase n => exact ⟨_, _, if_neg hd⟩
  | unknownTarget | badName => exact ⟨_, _, rfl⟩

namespace Command

/-- The configuration that environment and options ask for, usable or not. -/
def settings (env : Environment) (o : Options) : Config :=
  let c := Config.ofEnvironment env
  ({ c with stepName := o.stepName.getD c.stepName } : Config).override o.target o.romBase

section Configuration

variable {env : Environment} {o : Options}

theorem configOf_eq (env : Environment) (o : Options) :
    configOf env o = (settings env o).validate.map fun _ => settings env o := by
  unfold configOf Session.start settings
  simp only [bind_assoc, pure_bind]
  cases (Config.validate _) <;> rfl

theorem configOf_of_defect {d : Config.Defect} (hd : (settings env o).defect? = some d) :
    configOf env o = .error d.error := by
  rw [configOf_eq, Config.validate, hd]
  rfl

theorem configOf_of_no_defect (hd : (settings env o).defect? = none) :
    configOf env o = .ok (settings env o) := by
  rw [configOf_eq, Config.validate, hd]
  rfl

/-- A configuration that a run works with is usable. -/
theorem validate_of_configOf {c : Config} (hc : configOf env o = .ok c) : c.validate = .ok () := by
  rw [configOf_eq, Outcome.map_eq_ok_iff] at hc
  obtain ⟨_, hvalid, rfl⟩ := hc
  exact hvalid

end Configuration

/-! ## Endings -/

section Endings

variable (k : Toolkit (StateM Tree)) (t : Tree) (inv : Invocation)

/-- The source compiles to a product. -/
def Compiles (call : Call) (p : Product) : Prop :=
  ∃ c, k.Reaches t inv call c ∧ (call.compilation c).result = .ok p

/-- The toolkit has answered, or the run has its output where it was asked for. -/
inductive Succeeds : Prop
  | ended {r : Outcome} (ends : k.Ends t inv.args r) (status : r.status = .success)
  | printed {call : Call} {p : Product} {stdout : Text} (compiles : Compiles k t inv call p)
      (output : call.options.output = none) (print : k.print p.output.text = .ok stdout)
  | written {call : Call} {p : Product} {path : Text} {t' : Tree}
      (compiles : Compiles k t inv call p) (output : call.options.output = some path)
      (write : t.write (Path.normalize path) (Text.Utf8.encode p.output.text) = .ok t')

/-- A literal of the source is at fault. -/
inductive Illegal : Prop
  | intro {call : Call} {c : Config} {text : Text} {s : Literal.Site}
      (reaches : k.Reaches t inv call c) (holds : call.source.Holds text)
      (site : s ∈ (Listing.ofLines call.source.filename (Text.fileLines text)).sites c.romBase)
      (rejected : ¬ s.Accepted)

/-- The words, the configuration or the output path are at fault. -/
inductive Refused : Prop
  | ended {r : Outcome} (ends : k.Ends t inv.args r) (status : r.status ≠ .success)
  | misconfigured {call : Call} {d : Config.Defect} (calls : k.Calls t inv.args call)
      (defect : (settings inv.env call.options).defect? = some d) (speakable : ¬ d.Unspeakable)
  | unwritten {call : Call} {p : Product} {path : Text} {kind : FileError.Kind}
      (compiles : Compiles k t inv call p) (output : call.options.output = some path)
      (write : t.write (Path.normalize path) (Text.Utf8.encode p.output.text) = .error kind)
      (kind_eq : kind = .notFound ∨ kind = .permissionDenied)

/-- Something is at fault that was not foreseen. -/
inductive Overlooked : Prop
  | misconfigured {call : Call} {d : Config.Defect} (calls : k.Calls t inv.args call)
      (defect : (settings inv.env call.options).defect? = some d) (unspeakable : d.Unspeakable)
  | undecodable {call : Call} {c : Config} (reaches : k.Reaches t inv call c)
      (no_text : ∀ text, ¬ call.source.Holds text)
  | unprinted {call : Call} {p : Product} {message : Text} (compiles : Compiles k t inv call p)
      (output : call.options.output = none) (print : k.print p.output.text = .error message)
  | unwritten {call : Call} {p : Product} {path : Text} {kind : FileError.Kind}
      (compiles : Compiles k t inv call p) (output : call.options.output = some path)
      (write : t.write (Path.normalize path) (Text.Utf8.encode p.output.text) = .error kind)
      (kind_ne : kind ≠ .notFound ∧ kind ≠ .permissionDenied)

end Endings

variable {k : Toolkit (StateM Tree)} {t : Tree} {inv : Invocation} {call : Call} {p : Product}

/-! ## The status of each ending -/

theorem status_of_succeeds (h : Succeeds k t inv) : (k.runOn t inv).1.status = .success := by
  cases h with
  | ended hends hstatus =>
    rw [Toolkit.runOn_of_ends hends]
    exact hstatus
  | printed hcompiles houtput hprint =>
    obtain ⟨c, hr, hp⟩ := hcompiles
    rw [Toolkit.runOn_of_printed hr hp houtput hprint]
  | written hcompiles houtput hwrite =>
    obtain ⟨c, hr, hp⟩ := hcompiles
    rw [Toolkit.runOn_of_written hr hp houtput hwrite]

theorem status_of_failure {o : Options} {before : List Text} {f : Failure}
    (hrun : k.runOn t inv = (k.failure o before f, t)) :
    (k.runOn t inv).1.status = f.status := by
  rw [hrun]
  rfl

theorem status_of_illegal (h : Illegal k t inv) : (k.runOn t inv).1.status = .buildError := by
  obtain @⟨call, c, text, s, hr, hholds, hsite, hrejected⟩ := h
  obtain ⟨h, hhost⟩ := Compilation.exists_host_of_validate (validate_of_configOf hr.configured)
  have hcompilation := Call.compilation_of_holds hholds c
  cases hresult : (call.compilation c).result with
  | ok p =>
    rw [hcompilation] at hresult
    exact absurd ((Compilation.exists_product_iff hhost).mp ⟨p, hresult⟩ s hsite) hrejected
  | error e =>
    have hfail := Outcome.failure?_eq_some_iff.mpr hresult
    rw [hcompilation, Compilation.failure?_result hhost] at hfail
    obtain ⟨f, hf, rfl⟩ := Option.map_eq_some_iff.mp hfail
    obtain ⟨s, -, hs⟩ := List.exists_of_findSome?_eq_some hf
    obtain ⟨r, -, rfl⟩ := Literal.Site.fault?_eq_some_iff.mp hs
    exact status_of_failure (Toolkit.runOn_of_error hr hresult)

theorem status_of_overlooked (h : Overlooked k t inv) :
    (k.runOn t inv).1.status = .internalError := by
  cases h with
  | misconfigured hcalls hdefect hunspeakable =>
    rw [status_of_failure (Toolkit.runOn_of_misconfigured hcalls (configOf_of_defect hdefect)),
      Config.Defect.error_of_unspeakable hunspeakable]
    rfl
  | @undecodable call c hr hno =>
    obtain ⟨e, he⟩ := Call.exists_undecodable hno c
    exact status_of_failure (Toolkit.runOn_of_error hr he)
  | unprinted hcompiles houtput hprint =>
    obtain ⟨c, hr, hp⟩ := hcompiles
    exact status_of_failure (Toolkit.runOn_of_unprinted hr hp houtput hprint)
  | @unwritten call p path kind hcompiles houtput hwrite hkind =>
    obtain ⟨c, hr, hp⟩ := hcompiles
    rw [status_of_failure (Toolkit.runOn_of_unwritten hr hp houtput hwrite)]
    cases kind with
    | notFound => exact absurd rfl hkind.1
    | permissionDenied => exact absurd rfl hkind.2
    | inputOutput | notDirectory | isDirectory | nameTooLong => rfl

/-- What is refused is reported, except for a null character in the command line. -/
theorem status_of_refused (hk : k.Lawful) (h : Refused k t inv) :
    (k.runOn t inv).1.status = .invalidArguments ∨
      (k.runOn t inv).1.status = .aborted ∧ ∃ word ∈ inv.args, '\x00' ∈ word := by
  cases h with
  | ended hends hstatus =>
    rw [Toolkit.runOn_of_ends hends]
    exact hk.refuses hends hstatus
  | misconfigured hcalls hdefect hspeakable =>
    obtain ⟨message, hint, herror⟩ := Config.Defect.exists_fault_of_not_unspeakable hspeakable
    rw [status_of_failure (Toolkit.runOn_of_misconfigured hcalls (configOf_of_defect hdefect)),
      herror]
    exact Or.inl rfl
  | unwritten hcompiles houtput hwrite hkind =>
    obtain ⟨c, hr, hp⟩ := hcompiles
    rw [status_of_failure (Toolkit.runOn_of_unwritten hr hp houtput hwrite)]
    rcases hkind with rfl | rfl
    · exact Or.inl rfl
    · exact Or.inl rfl

/-! ## All endings -/

/-- A run whose source compiles succeeds or cannot get rid of its output. -/
theorem succeeds_or_fails_of_compiles (h : Compiles k t inv call p) :
    Succeeds k t inv ∨ Refused k t inv ∨ Overlooked k t inv := by
  cases houtput : call.options.output with
  | none =>
    cases hprint : k.print p.output.text with
    | ok stdout => exact Or.inl (.printed h houtput hprint)
    | error message => exact Or.inr (Or.inr (.unprinted h houtput hprint))
  | some path =>
    cases hwrite : t.write (Path.normalize path) (Text.Utf8.encode p.output.text) with
    | ok t' => exact Or.inl (.written h houtput hwrite)
    | error kind =>
      by_cases hkind : kind = .notFound ∨ kind = .permissionDenied
      · exact Or.inr (Or.inl (.unwritten h houtput hwrite hkind))
      · exact Or.inr (Or.inr (.unwritten h houtput hwrite (not_or.mp hkind)))

/-- A run that comes to its source can fail there or later. -/
theorem succeeds_or_fails_of_reaches {c : Config} (hr : k.Reaches t inv call c) :
    Succeeds k t inv ∨ Illegal k t inv ∨ Refused k t inv ∨ Overlooked k t inv := by
  by_cases hholds : ∃ text, call.source.Holds text
  · obtain ⟨text, hholds⟩ := hholds
    obtain ⟨h, hhost⟩ := Compilation.exists_host_of_validate (validate_of_configOf hr.configured)
    by_cases haccepted : ∀ s ∈ (Listing.ofLines call.source.filename
        (Text.fileLines text)).sites c.romBase, s.Accepted
    · obtain ⟨p, hp⟩ := (Compilation.exists_product_iff hhost).mpr haccepted
      have hcompiles : Compiles k t inv call p :=
        ⟨c, hr, (congrArg _ (Call.compilation_of_holds hholds c)).trans hp⟩
      exact (succeeds_or_fails_of_compiles hcompiles).imp_right Or.inr
    · simp only [not_forall] at haccepted
      obtain ⟨s, hsite, hrejected⟩ := haccepted
      exact Or.inr (Or.inl ⟨hr, hholds, hsite, hrejected⟩)
  · exact Or.inr (Or.inr (Or.inr (.undecodable hr (not_exists.mp hholds))))

theorem succeeds_or_fails (hk : k.Lawful) (t : Tree) (inv : Invocation) :
    Succeeds k t inv ∨ Illegal k t inv ∨ Refused k t inv ∨ Overlooked k t inv := by
  rcases hk.calls_or_ends t inv.args with ⟨call, hcalls⟩ | ⟨r, hends⟩
  · cases hdefect : (settings inv.env call.options).defect? with
    | some d =>
      by_cases hd : d.Unspeakable
      · exact Or.inr (Or.inr (Or.inr (.misconfigured hcalls hdefect hd)))
      · exact Or.inr (Or.inr (Or.inl (.misconfigured hcalls hdefect hd)))
    | none => exact succeeds_or_fails_of_reaches ⟨hcalls, configOf_of_no_defect hdefect⟩
  · by_cases hstatus : r.status = .success
    · exact Or.inl (.ended hends hstatus)
    · exact Or.inr (Or.inr (Or.inl (.ended hends hstatus)))

/-- What each status says about a run. -/
def Ending (k : Toolkit (StateM Tree)) (t : Tree) (inv : Invocation) : Status → Prop
  | .success => Succeeds k t inv
  | .buildError => Illegal k t inv
  | .invalidArguments => Refused k t inv
  | .aborted => Refused k t inv ∧ ∃ word ∈ inv.args, '\x00' ∈ word
  | .internalError => Overlooked k t inv

theorem ending_status (hk : k.Lawful) (t : Tree) (inv : Invocation) :
    Ending k t inv (k.runOn t inv).1.status := by
  rcases succeeds_or_fails hk t inv with h | h | h | h
  · rw [status_of_succeeds h]
    exact h
  · rw [status_of_illegal h]
    exact h
  · rcases status_of_refused hk h with hstatus | ⟨hstatus, hnull⟩
    · rw [hstatus]
      exact h
    · rw [hstatus]
      exact ⟨h, hnull⟩
  · rw [status_of_overlooked h]
    exact h

/-- The exit status of every run.  A run succeeds exactly if it has answered or delivered, and it
has a build error exactly if a literal of its source is at fault.  It refuses its words, its
configuration or its output path with invalid arguments, or without a report, which needs a null
character in the command line.  An internal error remains exactly for what was overlooked. -/
theorem status_by_ending (hk : k.Lawful) (t : Tree) (inv : Invocation) :
    ((k.runOn t inv).1.status = .success ↔ Succeeds k t inv) ∧
      ((k.runOn t inv).1.status = .buildError ↔ Illegal k t inv) ∧
      (((k.runOn t inv).1.status = .invalidArguments ∨ (k.runOn t inv).1.status = .aborted) ↔
        Refused k t inv) ∧
      ((k.runOn t inv).1.status = .aborted → ∃ word ∈ inv.args, '\x00' ∈ word) ∧
      ((k.runOn t inv).1.status = .internalError ↔ Overlooked k t inv) := by
  have hending {s : Status} (hs : (k.runOn t inv).1.status = s) : Ending k t inv s :=
    hs ▸ ending_status hk t inv
  refine ⟨⟨hending, status_of_succeeds⟩, ⟨hending, status_of_illegal⟩, ⟨?_, ?_⟩, ?_,
    ⟨hending, status_of_overlooked⟩⟩
  · rintro (hs | hs)
    · exact hending hs
    · exact (hending hs).1
  · exact fun h => (status_of_refused hk h).imp_right And.left
  · exact fun hs => (hending hs).2

/-- A directory to work in with a file where a path would need a directory. -/
def blockedTree : Tree where
  files := [(["tmp", "run", "f"], [])]
  working := ["tmp", "run"]

def blockedCall : Call where
  options := { output := some "f/x" }
  source := { filename := "<stdin>", chunks := [] }

theorem status_by_ending_of_blocked :
    ((console (Tree.fileSystem [])).runOn blockedTree { args := ["-o", "f/x"] }).1.status =
        .internalError ∧
      Overlooked (console (Tree.fileSystem [])) blockedTree { args := ["-o", "f/x"] } ∧
      ((console (Tree.fileSystem [])).runOn blockedTree { args := ["-o", "../d/x"] }).1.status =
        .invalidArguments ∧
      Refused (console (Tree.fileSystem [])) blockedTree { args := ["-o", "../d/x"] } ∧
      ((console (Tree.fileSystem [])).runOn blockedTree { args := ["/tmp/run/f"] }).1.status =
        .success ∧
      Succeeds (console (Tree.fileSystem [])) blockedTree { args := ["/tmp/run/f"] } := by
  have hblocked : ((console (Tree.fileSystem [])).runOn blockedTree
      { args := ["-o", "f/x"] }).1.status = .internalError := by decide +kernel
  have hmissing : ((console (Tree.fileSystem [])).runOn blockedTree
      { args := ["-o", "../d/x"] }).1.status = .invalidArguments := by decide +kernel
  have hempty : ((console (Tree.fileSystem [])).runOn blockedTree
      { args := ["/tmp/run/f"] }).1.status = .success := by decide +kernel
  obtain ⟨-, -, -, -, hoverlooked⟩ :=
    status_by_ending (lawful_console []) blockedTree { args := ["-o", "f/x"] }
  obtain ⟨-, -, hrefused, -⟩ :=
    status_by_ending (lawful_console []) blockedTree { args := ["-o", "../d/x"] }
  obtain ⟨hsucceeds, -⟩ :=
    status_by_ending (lawful_console []) blockedTree { args := ["/tmp/run/f"] }
  exact ⟨hblocked, hoverlooked.mp hblocked, hmissing, hrefused.mp (Or.inl hmissing), hempty,
    hsucceeds.mp hempty⟩

/-- A source of one byte that begins no character. -/
def garbledCall : Call where
  source := { filename := "<stdin>", chunks := [[0xff]] }

/-- Under every toolkit, a path that goes through a file and a source that is no text are reported
as internal errors; the console makes these calls for a command line and for standard input. -/
theorem internal_error_from_outside :
    (∀ (k : Toolkit (StateM Tree)) (args : List Text), k.Calls blockedTree args blockedCall →
        (k.runOn blockedTree { args }).1.status.code = 3) ∧
      (∀ (k : Toolkit (StateM Tree)) (t : Tree) (args : List Text), k.Calls t args garbledCall →
        (k.runOn t { args }).1.status.code = 3) ∧
      (console (Tree.fileSystem [])).Calls blockedTree ["-o", "f/x"] blockedCall ∧
      (console (Tree.fileSystem [0xff])).Calls {} [] garbledCall := by
  have hblocked : configOf {} blockedCall.options = .ok {} := by decide +kernel
  have hgarbled : configOf {} garbledCall.options = .ok {} := by decide +kernel
  refine ⟨fun k args hcalls => ?_, fun k t args hcalls => ?_, by decide +kernel, by decide +kernel⟩
  · have hok : (blockedCall.compilation {}).result.isOk = true := by decide +kernel
    obtain ⟨p, hp⟩ := Outcome.exists_eq_ok_of_isOk hok
    have hr : k.Reaches blockedTree { args } blockedCall {} := ⟨hcalls, hblocked⟩
    have hwrite : blockedTree.write (Path.normalize "f/x") (Text.Utf8.encode p.output.text) =
        .error .notDirectory := rfl
    have hoverlooked : Overlooked k blockedTree { args } :=
      .unwritten ⟨_, hr, hp⟩ rfl hwrite (by decide)
    rw [status_of_overlooked hoverlooked]
    rfl
  · have hr : k.Reaches t { args } garbledCall {} := ⟨hcalls, hgarbled⟩
    have hfail : Outcome.failure? (garbledCall.compilation {}).result = some (.undecodable
        { first := 0xff, start := 0, length := 1, reason := .invalidStart }) := by decide +kernel
    rw [status_of_failure (Toolkit.runOn_of_error hr (Outcome.failure?_eq_some_iff.mp hfail))]
    rfl

end Command

end AsmDispatch
