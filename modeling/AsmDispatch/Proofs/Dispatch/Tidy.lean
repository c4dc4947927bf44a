import AsmDispatch.Proofs.Dispatch.Body
import AsmDispatch.Proofs.Dispatch.Collapse

/-!
# Blank lines of a body

Only blank entries give blank lines, so runs of blank lines can be dropped before the body is
written as well as after.  The steps stay what they are.
-/

namespace AsmDispatch.Entry

variable {h : Host}

/-- Drop a blank entry after another one; `blank` says whether the last entry kept is blank. -/
def tidyAfter (blank : Bool) : List Entry → List Entry
  | [] => []
  | .blank :: es => if blank then tidyAfter true es else .blank :: tidyAfter true es
  | .echo text comment :: es => .echo text comment :: tidyAfter false es
  | .step slot s comment :: es => .step slot s comment :: tidyAfter false es

def tidy (es : List Entry) : List Entry := tidyAfter true es

theorem indent_append_ne_nil {level : Nat} (hlevel : 0 < level) (t : Text) :
    h.indent level ++ t ≠ [] := by
  obtain ⟨level, rfl⟩ := Nat.exists_eq_succ_of_ne_zero (Nat.ne_of_gt hlevel)
  cases h <;> simp [Host.indent, Text.spaces, Nat.mul_succ, List.replicate_succ]

theorem ne_nil_of_mem_lines_step {slot : Nat} {s : Statement} {comment : Option Text} {l : Text}
    (hl : l ∈ (step slot s comment).lines h) : l ≠ [] := by
  have hcode : ∀ l ∈ (s.linesWithComment h comment).map (h.indent 2 ++ ·), l ≠ [] := by
    intro l hl
    obtain ⟨t, -, rfl⟩ := List.mem_map.mp hl
    exact indent_append_ne_nil (by decide) t
  cases h with
  | javascript =>
    rcases List.mem_cons.mp hl with rfl | hl
    · simp only [List.append_assoc]
      exact indent_append_ne_nil (by decide) _
    · exact hcode l hl
  | python =>
    rcases List.mem_cons.mp hl with rfl | hl
    · simp only [List.append_assoc]
      exact indent_append_ne_nil (by decide) _
    · split at hl
      · exact hcode l hl
      · rcases List.mem_append.mp hl with hl | hl
        · exact hcode l hl
        · rw [List.mem_singleton.mp hl]
          simp only [List.append_assoc]
          exact indent_append_ne_nil (by decide) _

theorem lines_step_ne_nil {slot : Nat} {s : Statement} {comment : Option Text} :
    (step slot s comment).lines h ≠ [] := by
  cases h <;> exact List.cons_ne_nil _ _

/-- Lines that are not blank stay, and what follows them follows a line that is not blank. -/
theorem collapseAfter_append {ls ms : List Text} (hls : ls ≠ []) (hne : ∀ l ∈ ls, l ≠ [])
    (blank : Bool) :
    Dispatch.collapseAfter blank (ls ++ ms) = ls ++ Dispatch.collapseAfter false ms := by
  induction ls generalizing blank with
  | nil => exact absurd rfl hls
  | cons l ls ih =>
    obtain ⟨hl, htail⟩ := List.forall_mem_cons.mp hne
    rw [List.cons_append, Dispatch.collapseAfter_cons hl, List.cons_append]
    cases ls with
    | nil => rfl
    | cons l' ls => rw [ih (List.cons_ne_nil _ _) htail]

theorem collapseAfter_lines (blank : Bool) (es : List Entry) :
    Dispatch.collapseAfter blank (es.flatMap (·.lines h)) =
      (tidyAfter blank es).flatMap (·.lines h) := by
  induction es generalizing blank with
  | nil => rfl
  | cons e es ih =>
    rw [List.flatMap_cons]
    cases e with
    | blank =>
      rw [tidyAfter, lines, List.singleton_append, Dispatch.collapseAfter]
      cases blank with
      | true => exact ih true
      | false =>
        rw [if_neg (by decide), if_neg (by decide), ih true]
        rfl
    | echo text comment =>
      rw [tidyAfter, List.flatMap_cons, ← ih false]
      refine collapseAfter_append (List.cons_ne_nil _ _) ?_ blank
      intro l hl
      rw [List.mem_singleton.mp hl]
      exact indent_append_ne_nil (by decide) _
    | step slot s comment =>
      rw [tidyAfter, List.flatMap_cons, ← ih false]
      exact collapseAfter_append lines_step_ne_nil (fun _ hl => ne_nil_of_mem_lines_step hl) blank

/-- The body of the procedure is the body without its superfluous blank entries. -/
theorem collapse_lines (es : List Entry) :
    Dispatch.collapse (es.flatMap (·.lines h)) = (tidy es).flatMap (·.lines h) :=
  collapseAfter_lines true es

theorem statements_tidyAfter (blank : Bool) (es : List Entry) :
    statements (tidyAfter blank es) = statements es := by
  unfold statements
  induction es generalizing blank with
  | nil => rfl
  | cons e es ih =>
    cases e with
    | blank =>
      rw [tidyAfter]
      split
      · exact ih true
      · exact ih true
    | echo text comment => exact ih false
    | step slot s comment => exact congrArg (s :: ·) (ih false)

theorem statements_tidy (es : List Entry) : statements (tidy es) = statements es :=
  statements_tidyAfter true es

theorem NumberedFrom.tidyAfter {slot : Nat} {es : List Entry} (hes : NumberedFrom slot es)
    (blank : Bool) : NumberedFrom slot (tidyAfter blank es) := by
  induction es generalizing slot blank with
  | nil => trivial
  | cons e es ih =>
    cases e with
    | blank =>
      rw [Entry.tidyAfter]
      split
      · exact ih hes true
      · exact ih hes true
    | echo text comment => exact ih hes false
    | step n s comment => exact ⟨hes.1, ih hes.2 false⟩

theorem NumberedFrom.tidy {slot : Nat} {es : List Entry} (hes : NumberedFrom slot es) :
    NumberedFrom slot (tidy es) := hes.tidyAfter true

end AsmDispatch.Entry
