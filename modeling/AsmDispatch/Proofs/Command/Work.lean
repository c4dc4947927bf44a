import AsmDispatch.Command.Work
import AsmDispatch.Proofs.File.Tree
import AsmDispatch.Proofs.Text.Stream

/-!
# How a run of the command goes

A run is in the hands of its toolkit until the command is called.  Nothing is known of the toolkit
except what is assumed of it by name; the streams are as the toolkit has them.  From the call on,
this file says what a run does: it fails before its source is read, or at its source, or it has
something to deliver.

## Main statements

* `Toolkit.Lawful`: what is assumed of a toolkit.
* `Toolkit.runOn_of_ends`, `Toolkit.runOn_of_calls`: who decides about a run.
* `Toolkit.runOn_of_misconfigured`, `Toolkit.runOn_of_error`, `Toolkit.runOn_of_printed`,
  `Toolkit.runOn_of_unprinted`, `Toolkit.runOn_of_written`, `Toolkit.runOn_of_unwritten`: all ways
  that a call can go.
-/

namespace AsmDispatch.Command

open Text (Bytes)

theorem run_bind_of_run_eq {α β : Type} {t t' : Tree} {x : StateM Tree α} {a : α}
    (hx : x.run t = (a, t')) (f : α → StateM Tree β) : (x >>= f).run t = (f a).run t' := by
  change (f (x.run t).1).run (x.run t).2 = _
  rw [hx]

/-! ## The source -/

/-- The bytes of the source are those of a text, in whatever chunks they arrive. -/
def Source.Holds (s : Source) (text : Text) : Prop := s.chunks.flatten = Text.Utf8.encode text

theorem Call.compilation_of_holds {call : Call} {text : Text} (h : call.source.Holds text)
    (c : Config) :
    call.compilation c =
      .ofLines c call.options.verbose call.source.filename (Text.fileLines text) := by
  rw [compilation, Text.Reading.ofChunks_of_flatten h]
  rfl

/-- A source that holds no text cannot be compiled. -/
theorem Call.exists_undecodable {call : Call} (h : ∀ text, ¬ call.source.Holds text) (c : Config) :
    ∃ e, (call.compilation c).result = .error (.undecodable e) := by
  have hsome : (Text.Reading.ofChunks call.source.chunks).error? ≠ none := fun hnone =>
    let ⟨text, htext⟩ := Text.Reading.error?_ofChunks_eq_none_iff.mp hnone
    h text htext
  obtain ⟨e, he⟩ := Option.ne_none_iff_exists'.mp hsome
  refine ⟨e, ?_⟩
  rw [compilation, Compilation.ofReading, he]

namespace Toolkit

/-- A run on a tree of files: its outcome, and the tree that it leaves. -/
def runOn (k : Toolkit (StateM Tree)) (t : Tree) (inv : Invocation) : Outcome × Tree :=
  (k.run Tree.writeFile inv).run t

/-- The toolkit calls the command. -/
def Calls (k : Toolkit (StateM Tree)) (t : Tree) (args : List Text) (call : Call) : Prop :=
  (k.start readBase args).run t = (.ok call, t)

/-- The toolkit ends the run without calling the command. -/
def Ends (k : Toolkit (StateM Tree)) (t : Tree) (args : List Text) (r : Outcome) : Prop :=
  (k.start readBase args).run t = (.error r, t)

instance (k : Toolkit (StateM Tree)) (t : Tree) (args : List Text) (call : Call) :
    Decidable (k.Calls t args call) :=
  inferInstanceAs (Decidable (@Eq (Except Outcome Call × Tree) _ _))

/-- What is assumed of a toolkit, beyond which it may do as it likes. -/
structure Lawful (k : Toolkit (StateM Tree)) : Prop where
  /-- It changes no file. -/
  keeps : ∀ args t, ((k.start readBase args).run t).2 = t
  /-- When it refuses the words, it prints nothing. -/
  silent : ∀ {args t r}, k.Ends t args r → r.status ≠ .success → r.stdout = []
  /-- It refuses them as invalid arguments; without a report only for a null character, which no
  path can hold. -/
  refuses : ∀ {args t r}, k.Ends t args r → r.status ≠ .success →
    r.status = .invalidArguments ∨ r.status = .aborted ∧ ∃ word ∈ args, '\x00' ∈ word
  /-- It prints a text as it is, if it prints it and there is nothing in it that would steer a
  terminal. -/
  prints : ∀ {text stdout}, k.print text = .ok stdout → ¬ Text.HoldsControl text → stdout = text

variable {k : Toolkit (StateM Tree)} {t : Tree} {inv : Invocation} {call : Call} {c : Config}
  {p : Product} {e : Error}

theorem Lawful.calls_or_ends (hk : k.Lawful) (t : Tree) (args : List Text) :
    (∃ call, k.Calls t args call) ∨ ∃ r, k.Ends t args r := by
  have hkeeps := hk.keeps args t
  cases hstart : (k.start readBase args).run t with
  | mk x t' =>
    rw [hstart] at hkeeps
    subst hkeeps
    cases x with
    | ok call => exact Or.inl ⟨call, hstart⟩
    | error r => exact Or.inr ⟨r, hstart⟩

/-- A run that the toolkit ends is not one in which it calls the command. -/
theorem Calls.not_ends {args : List Text} (hcalls : k.Calls t args call) {r : Outcome} :
    ¬ k.Ends t args r := by
  intro hends
  cases hcalls.symm.trans hends

theorem Calls.unique {args : List Text} (hcalls : k.Calls t args call) {call' : Call}
    (hcalls' : k.Calls t args call') : call = call' := by
  cases hcalls.symm.trans hcalls'
  rfl

theorem runOn_of_ends {r : Outcome} (hends : k.Ends t inv.args r) : k.runOn t inv = (r, t) := by
  rw [runOn, run, run_bind_of_run_eq hends]
  rfl

theorem runOn_of_calls (hcalls : k.Calls t inv.args call) :
    k.runOn t inv = (work k.toStreams Tree.writeFile inv.env call).run t := by
  rw [runOn, run, run_bind_of_run_eq hcalls]

/-! ## The settings -/

theorem runOn_of_misconfigured (hcalls : k.Calls t inv.args call)
    (he : configOf inv.env call.options = .error e) :
    k.runOn t inv = (k.failure call.options [] (.ofError e), t) := by
  rw [runOn_of_calls hcalls, work, he]
  rfl

/-- The run comes to its source, with all settings in place. -/
structure Reaches (k : Toolkit (StateM Tree)) (t : Tree) (inv : Invocation) (call : Call)
    (c : Config) : Prop where
  calls : k.Calls t inv.args call
  configured : configOf inv.env call.options = .ok c

/-! ## The source -/

theorem runOn_of_error (hr : k.Reaches t inv call c)
    (he : (call.compilation c).result = .error e) :
    k.runOn t inv =
      (k.failure call.options
        (k.headerLines call.options c ++ call.options.shownLog (call.compilation c).log)
        (.ofError e), t) := by
  rw [runOn_of_calls hr.calls, work]
  simp only [hr.configured, he]
  rfl

/-- What has been reported when there is something to deliver. -/
def progress (k : Toolkit (StateM Tree)) (call : Call) (c : Config) (p : Product) : List Text :=
  k.headerLines call.options c ++ k.reportLines call.options (call.compilation c) p

theorem runOn_of_ok (hr : k.Reaches t inv call c) (hp : (call.compilation c).result = .ok p) :
    k.runOn t inv =
      (deliver k.toStreams Tree.writeFile call.options (k.progress call c p) p).run t := by
  rw [runOn_of_calls hr.calls, work]
  simp only [hr.configured, hp]
  rfl

/-! ## The output -/

theorem runOn_of_printed (hr : k.Reaches t inv call c)
    (hp : (call.compilation c).result = .ok p) (houtput : call.options.output = none)
    {stdout : Text} (hprint : k.print p.output.text = .ok stdout) :
    k.runOn t inv =
      ({ status := .success, stdout,
         stderr := unlines (k.progress call c p ++ k.detail call.options [summaryLine p]) },
        t) := by
  rw [runOn_of_ok hr hp, deliver]
  simp only [houtput, hprint]
  rfl

theorem runOn_of_unprinted (hr : k.Reaches t inv call c)
    (hp : (call.compilation c).result = .ok p) (houtput : call.options.output = none)
    {message : Text} (hprint : k.print p.output.text = .error message) :
    k.runOn t inv =
      (k.failure call.options (k.progress call c p) (.unforeseen message), t) := by
  rw [runOn_of_ok hr hp, deliver]
  simp only [houtput, hprint]
  rfl

variable {path : Text}

theorem runOn_of_written (hr : k.Reaches t inv call c)
    (hp : (call.compilation c).result = .ok p) (houtput : call.options.output = some path)
    {t' : Tree}
    (hwrite : t.write (Path.normalize path) (Text.Utf8.encode p.output.text) = .ok t') :
    k.runOn t inv =
      ({ status := .success,
         stderr := unlines (k.progress call c p ++
           k.detail call.options [wroteLine (Path.normalize path) p, summaryLine p]) }, t') := by
  have hrun := Tree.run_writeFile t (Path.normalize path) (Text.Utf8.encode p.output.text)
  rw [hwrite] at hrun
  rw [runOn_of_ok hr hp, deliver]
  simp only [houtput]
  rw [run_bind_of_run_eq hrun]
  rfl

theorem runOn_of_unwritten (hr : k.Reaches t inv call c)
    (hp : (call.compilation c).result = .ok p) (houtput : call.options.output = some path)
    {kind : FileError.Kind}
    (hwrite : t.write (Path.normalize path) (Text.Utf8.encode p.output.text) = .error kind) :
    k.runOn t inv =
      (k.failure call.options (k.progress call c p)
        (.ofError (.file { kind, path := Path.normalize path })), t) := by
  have hrun := Tree.run_writeFile t (Path.normalize path) (Text.Utf8.encode p.output.text)
  rw [hwrite] at hrun
  rw [runOn_of_ok hr hp, deliver]
  simp only [houtput]
  rw [run_bind_of_run_eq hrun]
  rfl

end Toolkit

end AsmDispatch.Command
