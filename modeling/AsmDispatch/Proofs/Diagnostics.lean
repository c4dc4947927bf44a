import AsmDispatch.Proofs.Compilation

/-!
# Every warning is a diagnostic

A warning takes two ways out of a compilation: as a record of the log, under the name of its stage,
and as a diagnostic.  This file puts the two side by side: the warnings of the log and the lines
that the diagnostics are shown with correspond one to one and in order, also when the compilation
fails.

## Main statements

* `Compilation.forall₂_echoes`: the warnings of the log and the lines of the diagnostics.
-/

namespace AsmDispatch

namespace Listing

/-- A line that was dropped is reported with its text at its place. -/
theorem exists_eq_of_mem_unknown {filename : Text} {number : Nat} {ts : List Text} {f : Fault}
    (hf : f ∈ (ofLinesFrom filename number ts).unknown) :
    ∃ t location, f = { cause := .unknownLine t, location } := by
  induction ts generalizing number with
  | nil => cases hf
  | cons t ts ih =>
    rw [ofLinesFrom] at hf
    unfold readLine at hf
    cases hread : classify? (Text.dropLineEnd t) with
    | some rs =>
      simp only [hread] at hf
      exact ih hf
    | none =>
      simp only [hread] at hf
      rcases List.mem_cons.mp hf with rfl | hf
      · exact ⟨_, _, rfl⟩
      · exact ih hf

end Listing

namespace Workbench

variable {w : Workbench} {h : Host} {c : Config}

theorem prefix_warnings_emit (hw : w.resolved = true) :
    w.warnings <+: (w.emit h c).1.warnings := by
  unfold emit
  simp only [hw, if_true]
  split
  · exact List.prefix_refl _
  · rw [dispatch_fst]
    exact List.prefix_append _ _

end Workbench

/-- The record is a warning. -/
def LogRecord.isWarning (r : LogRecord) : Bool := r.level == LogRecord.warningLevel

/-- A line on standard error shows the warning of a record: for a dropped line with the word
`warning` behind its place, for any other warning with that word in front. -/
inductive LogRecord.Echoes : LogRecord → Text → Prop
  | dropped (location : Option Location) (line : Text) :
      Echoes (.warning .listing (Location.label location ("unknown line: " ++ line)))
        (Location.label location ("warning: unknown line: " ++ line))
  | symbols (message : Text) : Echoes (.warning .symbols message) ("warning: " ++ message)
  | output (message : Text) : Echoes (.warning .output message) ("warning: " ++ message)

/-- The lines that show the diagnostics. -/
def Diagnostics.lines (d : Diagnostics) : List Text :=
  d.dropped.map Fault.message ++ d.warnings.map Diagnostics.warningLine

namespace Compilation

variable {c : Config} {verbose : Bool} {filename : Text} {source : List Text} {l : Listing}

theorem prefix_warnings_emit (c : Config) (l : Listing) :
    (prepare c l).warnings <+: (emit (prepare c l) c).1.warnings := by
  unfold emit Workbench.withHost
  split
  · exact Workbench.prefix_warnings_emit rfl
  · exact List.prefix_refl _

/-! ## The warnings of the log -/

theorem filter_isWarning_map {α : Type} (stage : Stage) (message : α → Text) (xs : List α) :
    (xs.map fun x => LogRecord.warning stage (message x)).filter LogRecord.isWarning =
      xs.map fun x => LogRecord.warning stage (message x) := by
  rw [List.filter_eq_self]
  intro r hr
  obtain ⟨x, -, rfl⟩ := List.mem_map.mp hr
  rfl

theorem filter_isWarning_regions (rs : List Region) :
    (rs.map regionRecord).filter LogRecord.isWarning = [] := by
  rw [List.filter_eq_nil_iff]
  intro r hr
  obtain ⟨region, -, rfl⟩ := List.mem_map.mp hr
  exact Bool.false_ne_true

theorem isWarning_productRecord (verbose : Bool) (filename : Text) (p : Product) :
    (productRecord verbose filename p).isWarning = false := by
  cases verbose <;> rfl

/-- The warnings of the log, stage by stage. -/
theorem filter_isWarning_log :
    (ofLines c verbose filename source).log.filter LogRecord.isWarning =
      (Listing.ofLines filename source).unknown.map unknownRecord ++
        (prepare c (Listing.ofLines filename source)).warnings.map (.warning .symbols) ++
        ((emit (prepare c (Listing.ofLines filename source)) c).1.warnings.drop
          (prepare c (Listing.ofLines filename source)).warnings.length).map
            (.warning .output) := by
  have hdropped (fs : List Fault) :
      (fs.map unknownRecord).filter LogRecord.isWarning = fs.map unknownRecord :=
    filter_isWarning_map .listing _ fs
  have hwarnings (stage : Stage) (ws : List Text) :
      (ws.map (LogRecord.warning stage)).filter LogRecord.isWarning =
        ws.map (LogRecord.warning stage) := filter_isWarning_map stage id ws
  have hlisting (l : Listing) : [listingRecord filename l].filter LogRecord.isWarning = [] := rfl
  have hpass (n : Nat) : [passRecord 0 n].filter LogRecord.isWarning = [] := rfl
  unfold ofLines
  simp only [List.filter_append, hdropped, hwarnings, hlisting, filter_isWarning_regions, hpass,
    List.append_nil]
  rw [List.append_right_eq_self]
  split
  · rw [List.filter_cons_of_neg Bool.false_ne_true,
      List.filter_cons_of_neg (by simp [isWarning_productRecord]), List.filter_nil]
  · rfl

/-- The log is shown without its warnings. -/
theorem isShown_eq_false_of_mem_log {r : LogRecord}
    (hr : r ∈ (ofLines c verbose filename source).log) (hwarning : r.isWarning = true) :
    LogRecord.isShown r.level r.logger = false := by
  have hmem := List.mem_filter.mpr ⟨hr, hwarning⟩
  rw [filter_isWarning_log] at hmem
  simp only [List.mem_append, List.mem_map] at hmem
  rcases hmem with (⟨f, -, rfl⟩ | ⟨message, -, rfl⟩) | ⟨message, -, rfl⟩
  · exact LogRecord.isShown_warning .listing _
  · exact LogRecord.isShown_warning .symbols message
  · exact LogRecord.isShown_warning .output message

/-- The message of a line that was dropped is its record's, with the word behind the place. -/
theorem echoes_unknownRecord {f : Fault} (hf : f ∈ (Listing.ofLines filename source).unknown) :
    (unknownRecord f).Echoes f.message := by
  obtain ⟨t, location, rfl⟩ := Listing.exists_eq_of_mem_unknown hf
  have hmessage : Fault.message { cause := .unknownLine t, location } =
      Location.label location ("warning: unknown line: " ++ t) := by
    cases location <;>
      simp [Fault.message, Fault.excerpt, Fault.advice, Cause.severity, Severity.text,
        Cause.description, Text.joinLines, Text.join]
  rw [hmessage]
  exact .dropped location t

/-- The warnings of the log are shown by the lines of the diagnostics, one for each and in order. -/
theorem forall₂_echoes :
    List.Forall₂ LogRecord.Echoes
      ((ofLines c verbose filename source).log.filter LogRecord.isWarning)
      (ofLines c verbose filename source).diagnostics.lines := by
  have hlines : (ofLines c verbose filename source).diagnostics.lines =
      (Listing.ofLines filename source).unknown.map Fault.message ++
        (prepare c (Listing.ofLines filename source)).warnings.map Diagnostics.warningLine ++
        ((emit (prepare c (Listing.ofLines filename source)) c).1.warnings.drop
          (prepare c (Listing.ofLines filename source)).warnings.length).map
            Diagnostics.warningLine := by
    obtain ⟨more, hmore⟩ := prefix_warnings_emit c (Listing.ofLines filename source)
    change _ ++ (emit (prepare c (Listing.ofLines filename source)) c).1.warnings.map _ = _
    rw [← hmore, List.drop_left, List.map_append, List.append_assoc]
    rfl
  rw [filter_isWarning_log, hlines]
  refine List.rel_append (List.rel_append ?_ ?_) ?_
  · exact List.forall₂_map_left_iff.mpr (List.forall₂_map_right_iff.mpr
      (List.forall₂_same.mpr fun f hf => echoes_unknownRecord hf))
  · exact List.forall₂_map_left_iff.mpr (List.forall₂_map_right_iff.mpr
      (List.forall₂_same.mpr fun w _ => .symbols w))
  · exact List.forall₂_map_left_iff.mpr (List.forall₂_map_right_iff.mpr
      (List.forall₂_same.mpr fun w _ => .output w))

theorem dropped_diagnostics {p : Product}
    (hp : (ofLines c verbose filename source).result = .ok p) :
    (ofLines c verbose filename source).diagnostics.dropped = p.unknown := by
  obtain ⟨h, hy⟩ := result_eq_ok_iff.mp hp
  exact hy.unknown.symm

end Compilation

end AsmDispatch
