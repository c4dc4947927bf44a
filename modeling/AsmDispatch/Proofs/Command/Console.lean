import AsmDispatch.Command.Run
import AsmDispatch.Proofs.Command.Words
import AsmDispatch.Proofs.Command.Work

/-!
# The console

The console keeps what is assumed of a toolkit.  What the words ask for is said here without going
through the options one by one: each option has the value that was given last.  If all values can be
had and the source can be opened, the command is called with them; in every other case the console
ends the run and leaves the files alone.

## Main statements

* `takeOptions_settled`, `takeOptions_settled_cases`: all values are taken if each is accepted, and
  otherwise the run stops at one.
* `calls_console`: what the command is called with.
* `lawful_console`: the console as a toolkit.
-/

namespace AsmDispatch.Command

open Text (Bytes)

/-! ## Taking options -/

/-- The address that a value for the base is read as. -/
def baseOfText? (v : Text) : Option Int := (readBase v).toOption

/-- The options with the given values, as far as these can be read. -/
def Options.ofValues (value? : Switch → Option Text) : Options where
  output := value? .output
  target := (value? .target).bind fun v => (hostOfText? v).map Host.name
  romBase := (value? .romBase).bind baseOfText?
  stepName := value? .stepName
  verbose := (value? .verbose).isSome

/-- What the words ask for. -/
def Words.chosen (w : Words) : Options := Options.ofValues w.value?

/-- A value that an option can have. -/
def Accepts (t : Tree) : Switch → Text → Prop
  | .output, v => Path.isPath v = true ∧ t.isDirectory v = false
  | .target, v => (hostOfText? v).isSome
  | .romBase, v => (readBase v).isOk = true
  | .stepName, _ | .verbose, _ | .version, _ | .help, _ => True

/-- Values of options with one more given. -/
def withValue (value? : Switch → Option Text) (e : Switch × Text) (s : Switch) : Option Text :=
  if e.1 = s then some e.2 else value? s

theorem foldl_withValue (value? : Switch → Option Text) (es : List (Switch × Text)) (s : Switch) :
    es.foldl withValue value? s =
      ((es.reverse.find? (·.1 == s)).map (·.2)).or (value? s) := by
  induction es generalizing value? with
  | nil => rfl
  | cons e es ih =>
    rw [List.foldl_cons, ih, List.reverse_cons, List.find?_append]
    cases hfind : es.reverse.find? (·.1 == s) with
    | some e' => rfl
    | none =>
      by_cases he : e.1 = s
      · simp [withValue, he]
      · simp [withValue, he]

theorem foldl_withValue_settled (w : Words) :
    w.settled.foldl withValue (fun _ => none) = w.value? := by
  funext s
  rw [foldl_withValue, Words.find?_settled, Option.or_none]

section Files

variable {stdin : Bytes} {t : Tree} {value? : Switch → Option Text} {s : Switch} {v : Text}
  {es : List (Switch × Text)} {w : Words} {source : Source}

/-- The only option that looks at the files. -/
theorem run_takeOption_output (o : Options) (v : Text) :
    (takeOption (Tree.fileSystem stdin) readBase o .output v).run t =
      (if !Path.isPath v then .error .nullInPath
        else if t.isDirectory v then
          .error (.badValue Switch.output.hint ("File " ++ Text.quoted v ++ " is a directory."))
        else .ok { o with output := some v }, t) := by
  unfold takeOption
  simp only
  split
  · rfl
  · change (if t.isDirectory v then _ else _ : StateM Tree _).run t = _
    split <;> rfl

theorem takeOption_of_accepts (hv : Accepts t s v) :
    (takeOption (Tree.fileSystem stdin) readBase (.ofValues value?) s v).run t =
      (.ok (.ofValues (withValue value? (s, v))), t) := by
  cases s with
  | output =>
    obtain ⟨hpath, hfile⟩ := hv
    rw [run_takeOption_output, hpath, hfile]
    rfl
  | target =>
    obtain ⟨h, hh⟩ := Option.isSome_iff_exists.mp hv
    simp only [takeOption, hh, Options.ofValues, withValue, if_true, Option.bind_some,
      Option.map_some]
    rfl
  | romBase =>
    obtain ⟨n, hn⟩ := Outcome.exists_eq_ok_of_isOk hv
    simp only [takeOption, hn, Options.ofValues, withValue, if_true, Option.bind_some, baseOfText?]
    rfl
  | stepName | verbose | version | help => rfl

theorem mem_of_isPath_eq_false (hv : Path.isPath v = false) : '\x00' ∈ v := by
  simpa [Path.isPath] using hv

/-- A value that cannot be taken stops the run; it is given up without a report only for a null
character in it. -/
theorem takeOption_of_not_accepts (hv : ¬ Accepts t s v) (stdin : Bytes) (o : Options) :
    ∃ e, (takeOption (Tree.fileSystem stdin) readBase o s v).run t = (.error e, t) ∧
      (e = .nullInPath → '\x00' ∈ v) := by
  cases s with
  | output =>
    rw [run_takeOption_output]
    cases hpath : Path.isPath v with
    | false => exact ⟨_, rfl, fun _ => mem_of_isPath_eq_false hpath⟩
    | true =>
      cases hfile : t.isDirectory v with
      | false => exact absurd ⟨hpath, hfile⟩ hv
      | true => exact ⟨_, rfl, UsageError.noConfusion⟩
  | target =>
    have hnone : hostOfText? v = none := by simpa [Accepts] using hv
    simp only [takeOption, hnone]
    exact ⟨_, rfl, UsageError.noConfusion⟩
  | romBase =>
    cases hread : readBase v with
    | ok n =>
      rw [Accepts, hread] at hv
      exact absurd rfl hv
    | error message =>
      simp only [takeOption, hread]
      exact ⟨_, rfl, UsageError.noConfusion⟩
  | stepName | verbose | version | help => exact absurd trivial hv

theorem takeOptions_of_accepts (hes : ∀ e ∈ es, Accepts t e.1 e.2) (stdin : Bytes)
    (value? : Switch → Option Text) :
    (takeOptions (Tree.fileSystem stdin) readBase (.ofValues value?) es).run t =
      (.ok (.ofValues (es.foldl withValue value?)), t) := by
  induction es generalizing value? with
  | nil => rfl
  | cons e es ih =>
    obtain ⟨he, htail⟩ := List.forall_mem_cons.mp hes
    rw [takeOptions, run_bind_of_run_eq (takeOption_of_accepts he)]
    exact ih htail _

/-- The first value that cannot be taken ends it. -/
theorem takeOptions_of_not_accepts (hes : ¬ ∀ e ∈ es, Accepts t e.1 e.2) (stdin : Bytes)
    (value? : Switch → Option Text) :
    ∃ err, (takeOptions (Tree.fileSystem stdin) readBase (.ofValues value?) es).run t =
        (.error err, t) ∧
      (err = .nullInPath → ∃ e ∈ es, '\x00' ∈ e.2) := by
  induction es generalizing value? with
  | nil => exact absurd (List.forall_mem_nil _) hes
  | cons e es ih =>
    by_cases he : Accepts t e.1 e.2
    · have htail : ¬ ∀ e ∈ es, Accepts t e.1 e.2 :=
        fun htail => hes (List.forall_mem_cons.mpr ⟨he, htail⟩)
      obtain ⟨err, herr, hnull⟩ := ih htail (withValue value? e)
      rw [takeOptions, run_bind_of_run_eq (takeOption_of_accepts he)]
      refine ⟨err, herr, fun h => ?_⟩
      obtain ⟨e', he', hmem⟩ := hnull h
      exact ⟨e', List.mem_cons_of_mem _ he', hmem⟩
    · obtain ⟨err, herr, hnull⟩ := takeOption_of_not_accepts he stdin (.ofValues value?)
      rw [takeOptions, run_bind_of_run_eq herr]
      exact ⟨err, rfl, fun h => ⟨e, List.mem_cons_self, hnull h⟩⟩

theorem takeOptions_settled (haccepted : ∀ s v, w.value? s = some v → Accepts t s v) :
    (takeOptions (Tree.fileSystem stdin) readBase {} w.settled).run t = (.ok w.chosen, t) := by
  have hes : ∀ e ∈ w.settled, Accepts t e.1 e.2 :=
    fun e he => haccepted e.1 e.2 (Words.mem_settled_iff.mp he)
  have htake := takeOptions_of_accepts hes stdin fun _ => none
  rw [foldl_withValue_settled] at htake
  exact htake

theorem takeOptions_settled_cases (stdin : Bytes) (t : Tree) (w : Words) :
    (∃ e, (takeOptions (Tree.fileSystem stdin) readBase {} w.settled).run t = (.error e, t) ∧
        (e = .nullInPath → ∃ s v, w.value? s = some v ∧ '\x00' ∈ v)) ∨
      ∀ s v, w.value? s = some v → Accepts t s v := by
  by_cases haccepted : ∀ s v, w.value? s = some v → Accepts t s v
  · exact Or.inr haccepted
  · have hes : ¬ ∀ e ∈ w.settled, Accepts t e.1 e.2 :=
      fun hes => haccepted fun s v hv => hes (s, v) (Words.mem_settled_iff.mpr hv)
    obtain ⟨e, herr, hnull⟩ := takeOptions_of_not_accepts hes stdin fun _ => none
    refine Or.inl ⟨e, herr, fun h => ?_⟩
    obtain ⟨⟨s, v⟩, hmem, hv⟩ := hnull h
    exact ⟨s, v, Words.mem_settled_iff.mp hmem, hv⟩

/-! ## The source -/

theorem Source.holds_ofBytes (filename text : Text) :
    (ofBytes filename (Text.Utf8.encode text)).Holds text :=
  Text.Utf8.flatten_chunks (Nat.le_refl _)

/-- The source that the arguments name. -/
inductive Opens (stdin : Bytes) (t : Tree) : List Text → Source → Prop
  | standard : Opens stdin t [] (.ofBytes "<stdin>" stdin)
  | dash : Opens stdin t [['-']] (.ofBytes "<stdin>" stdin)
  | file {path : Text} {content : Bytes} (hdash : path ≠ ['-']) (hpath : Path.isPath path = true)
      (hread : t.read path = .ok content) : Opens stdin t [path] (.ofBytes path content)

theorem Opens.drop_one_eq_nil {arguments : List Text} (hs : Opens stdin t arguments source) :
    arguments.drop 1 = [] := by
  cases hs <;> rfl

theorem run_openSource_path {path : Text} (hdash : path ≠ ['-']) (more : List Text) :
    (openSource (Tree.fileSystem stdin) (path :: more)).run t =
      (if !Path.isPath path then .error .nullInPath
        else match t.read path with
          | .ok content => .ok (.ofBytes path content)
          | .error kind =>
            .error (.badValue "'[INPUT_FILE]'" ("'" ++ path ++ "': " ++ kind.text)), t) := by
  have hread : ((Tree.fileSystem stdin).read path).run t = (t.read path, t) := rfl
  unfold openSource
  rw [List.headD_cons, if_neg hdash]
  split
  · rfl
  · rw [run_bind_of_run_eq hread]
    cases t.read path <;> rfl

theorem openSource_of_opens {arguments : List Text}
    (hs : Opens stdin t arguments source) :
    (openSource (Tree.fileSystem stdin) arguments).run t = (.ok source, t) := by
  cases hs with
  | standard | dash => rfl
  | file hdash hpath hread =>
    rw [run_openSource_path hdash, hpath, hread]
    rfl

/-- One argument at most is a source; a source that cannot be opened is reported first. -/
theorem openSource_cases (stdin : Bytes) (t : Tree) (arguments : List Text) :
    (∃ e, (openSource (Tree.fileSystem stdin) arguments).run t = (.error e, t) ∧
        (e = .nullInPath → ∃ a ∈ arguments, '\x00' ∈ a)) ∨
      ∃ source, (openSource (Tree.fileSystem stdin) arguments).run t = (.ok source, t) := by
  cases arguments with
  | nil => exact Or.inr ⟨_, rfl⟩
  | cons path more =>
    by_cases hdash : path = ['-']
    · subst hdash
      exact Or.inr ⟨_, rfl⟩
    · rw [run_openSource_path hdash]
      by_cases hpath : Path.isPath path = true
      · rw [hpath]
        cases hread : t.read path with
        | error kind => exact Or.inl ⟨_, rfl, UsageError.noConfusion⟩
        | ok content => exact Or.inr ⟨_, rfl⟩
      · have hnull := mem_of_isPath_eq_false (Bool.eq_false_iff.mpr hpath)
        rw [Bool.eq_false_iff.mpr hpath]
        exact Or.inl ⟨_, rfl, fun _ => ⟨path, List.mem_cons_self, hnull⟩⟩

/-! ## The words -/

theorem findSome?_final?_eq_none_iff :
    w.settled.findSome? (final? ·.1) = none ↔ ∀ s, (final? s).isSome → w.value? s = none := by
  rw [List.findSome?_eq_none_iff]
  constructor
  · intro hall s hs
    cases hv : w.value? s with
    | none => rfl
    | some v =>
      rw [hall (s, v) (Words.mem_settled_iff.mpr hv)] at hs
      cases hs
  · rintro hall ⟨s, v⟩ hmem
    rw [← Option.not_isSome_iff_eq_none]
    intro hs
    have hnone := hall s hs
    rw [Words.mem_settled_iff.mp hmem] at hnone
    cases hnone

/-- All that the words name can be had, and they ask for nothing that the console answers. -/
structure Starts (stdin : Bytes) (t : Tree) (args : List Text) (w : Words) (source : Source) :
    Prop where
  parsed : Words.parse args = .ok w
  not_final : ∀ s, (final? s).isSome → w.value? s = none
  accepted : ∀ s v, w.value? s = some v → Accepts t s v
  opened : Opens stdin t w.arguments source

/-- The command is called with the last value of each option and with the source. -/
theorem calls_console {args : List Text} (hs : Starts stdin t args w source) :
    (console (Tree.fileSystem stdin)).Calls t args { options := w.chosen, source } := by
  have hfollow : (followWords (Tree.fileSystem stdin) readBase w).run t =
      (.ok { options := w.chosen, source }, t) := by
    rw [followWords, run_bind_of_run_eq (takeOptions_settled hs.accepted)]
    simp only
    rw [run_bind_of_run_eq (openSource_of_opens hs.opened)]
    simp only [hs.opened.drop_one_eq_nil]
    rfl
  unfold Toolkit.Calls console
  simp only [hs.parsed, findSome?_final?_eq_none_iff.mpr hs.not_final]
  rw [run_bind_of_run_eq hfollow]
  rfl

/-- Words that are followed lead to a call or to an error, with the files as they were. -/
theorem followWords_cases (stdin : Bytes) (t : Tree) (w : Words) :
    (∃ call, (followWords (Tree.fileSystem stdin) readBase w).run t = (.ok call, t)) ∨
      ∃ e, (followWords (Tree.fileSystem stdin) readBase w).run t = (.error e, t) ∧
        (e = .nullInPath →
          (∃ s v, w.value? s = some v ∧ '\x00' ∈ v) ∨ ∃ a ∈ w.arguments, '\x00' ∈ a) := by
  rw [followWords]
  rcases takeOptions_settled_cases stdin t w with ⟨e, he, hnull⟩ | haccepted
  · rw [run_bind_of_run_eq he]
    exact Or.inr ⟨e, rfl, fun h => Or.inl (hnull h)⟩
  rw [run_bind_of_run_eq (takeOptions_settled haccepted)]
  simp only
  rcases openSource_cases stdin t w.arguments with ⟨e, he, hnull⟩ | ⟨source, hopen⟩
  · rw [run_bind_of_run_eq he]
    exact Or.inr ⟨e, rfl, fun h => Or.inr (hnull h)⟩
  rw [run_bind_of_run_eq hopen]
  cases hmore : w.arguments.drop 1 with
  | nil => exact Or.inl ⟨_, rfl⟩
  | cons a more => exact Or.inr ⟨_, rfl, UsageError.noConfusion⟩

/-- The console calls the command, answers a question about the program, or refuses the words. -/
theorem start_console_cases (stdin : Bytes) (t : Tree) (args : List Text) :
    (∃ call, (console (Tree.fileSystem stdin)).Calls t args call) ∨
      (∃ s r, final? s = some r ∧ (console (Tree.fileSystem stdin)).Ends t args r) ∨
      ∃ e, (console (Tree.fileSystem stdin)).Ends t args (usageOutcome e) ∧
        (e = .nullInPath → ∃ word ∈ args, '\x00' ∈ word) := by
  have hwords := Words.fromWords_parse args
  unfold Toolkit.Calls Toolkit.Ends console
  simp only
  cases hparse : Words.parse args with
  | error e =>
    rw [hparse] at hwords
    exact Or.inr (Or.inr ⟨e, rfl, fun h => absurd h hwords⟩)
  | ok w =>
    rw [hparse] at hwords
    simp only
    cases hfinal : w.settled.findSome? (final? ·.1) with
    | some r =>
      obtain ⟨e, -, he⟩ := List.exists_of_findSome?_eq_some hfinal
      exact Or.inr (Or.inl ⟨e.1, r, he, rfl⟩)
    | none =>
      simp only
      rcases followWords_cases stdin t w with ⟨call, hcall⟩ | ⟨e, he, hnull⟩
      · rw [run_bind_of_run_eq hcall]
        exact Or.inl ⟨call, rfl⟩
      · rw [run_bind_of_run_eq he]
        refine Or.inr (Or.inr ⟨e, rfl, fun h => ?_⟩)
        rcases hnull h with ⟨s, v, hv, hmem⟩ | ⟨a, ha, hmem⟩
        · obtain ⟨word, hword, hsub⟩ := Words.exists_word_of_value? hparse hv
          exact ⟨word, hword, hsub hmem⟩
        · exact ⟨a, hwords.2 a ha, hmem⟩

end Files

/-! ## The console as a toolkit -/

theorem status_of_final? {s : Switch} {r : Outcome} (hr : final? s = some r) :
    r.status = .success := by
  cases s <;> cases hr <;> rfl

theorem stdout_usageOutcome (e : UsageError) : (usageOutcome e).stdout = [] := by
  unfold usageOutcome
  split <;> rfl

theorem status_usageOutcome (e : UsageError) :
    (usageOutcome e).status = .invalidArguments ∨
      (usageOutcome e).status = .aborted ∧ e = .nullInPath := by
  unfold usageOutcome
  split
  · next he => exact Or.inr ⟨rfl, he⟩
  · exact Or.inl rfl

/-- A run that the console ends without success is one in which it refuses the words. -/
theorem exists_usageOutcome_of_ends {stdin : Bytes} {t : Tree} {args : List Text} {r : Outcome}
    (hends : (console (Tree.fileSystem stdin)).Ends t args r) (hr : r.status ≠ .success) :
    ∃ e, r = usageOutcome e ∧ (e = .nullInPath → ∃ word ∈ args, '\x00' ∈ word) := by
  rcases start_console_cases stdin t args with ⟨call, hcalls⟩ | ⟨s, r', hfinal, hends'⟩ |
    ⟨e, hends', hnull⟩
  · cases hcalls.symm.trans hends
  · cases hends'.symm.trans hends
    exact absurd (status_of_final? hfinal) hr
  · cases hends'.symm.trans hends
    exact ⟨e, rfl, hnull⟩

theorem lawful_console (stdin : Bytes) : (console (Tree.fileSystem stdin)).Lawful where
  keeps := fun args t => by
    rcases start_console_cases stdin t args with ⟨call, h⟩ | ⟨s, r, -, h⟩ | ⟨e, h, -⟩
    all_goals exact congrArg Prod.snd h
  silent := fun hends hr => by
    obtain ⟨e, rfl, -⟩ := exists_usageOutcome_of_ends hends hr
    exact stdout_usageOutcome e
  refuses := fun hends hr => by
    obtain ⟨e, rfl, hnull⟩ := exists_usageOutcome_of_ends hends hr
    exact (status_usageOutcome e).imp_right fun he => ⟨he.1, hnull he.2⟩
  prints := fun hprint hplain => by
    rw [← Except.ok.inj hprint]
    exact Text.plain_eq_self_iff.mpr hplain

/-- Lines without an escape are said as they are. -/
theorem map_say_consoleStreams {ls : List Text} (hls : ls.all (!·.contains '\x1b') = true) :
    ls.map consoleStreams.say = ls := by
  refine List.map_congr_left (fun l hl => ?_) |>.trans (List.map_id ls)
  have hl := List.all_eq_true.mp hls l hl
  exact Text.plain_eq_self (by simpa using hl)

end AsmDispatch.Command
