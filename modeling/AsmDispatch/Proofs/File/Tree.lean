import AsmDispatch.File.Tree
import AsmDispatch.Proofs.Outcome

/-!
# What writing a file changes

A write changes the content of one file, which may be new, or it fails and changes nothing.
-/

namespace AsmDispatch.Tree

open Text (Bytes)

variable {t t' : Tree} {content : Bytes}

theorem lookup_cons_eq_ite (f : List Text × Bytes) (fs : List (List Text × Bytes))
    (q : List Text) : (f :: fs).lookup q = if q = f.1 then some f.2 else fs.lookup q := by
  rw [List.lookup_cons]
  by_cases hq : q = f.1
  · rw [if_pos hq, hq, beq_self_eq_true]
  · rw [if_neg hq, beq_eq_false_iff_ne.mpr hq]

theorem lookup_map_replace (fs : List (List Text × Bytes)) (p q : List Text) (content : Bytes) :
    (fs.map fun f => if f.1 = p then (p, content) else f).lookup q =
      if q = p then (fs.lookup p).map fun _ => content else fs.lookup q := by
  induction fs with
  | nil => split <;> rfl
  | cons f fs ih =>
    rw [List.map_cons, lookup_cons_eq_ite, lookup_cons_eq_ite, lookup_cons_eq_ite, ih]
    by_cases hq : q = p
    · subst hq
      by_cases hf : f.1 = q
      · simp [hf]
      · simp [hf, Ne.symm hf]
    · by_cases hf : f.1 = p
      · simp [hq, hf]
      · simp [hq, hf]

theorem lookup_files_put (t : Tree) (p q : List Text) (content : Bytes) :
    (t.put p content).files.lookup q = if q = p then some content else t.files.lookup q := by
  unfold put
  split
  · next hsome =>
    obtain ⟨old, hold⟩ := Option.isSome_iff_exists.mp hsome
    rw [lookup_map_replace, hold, Option.map_some]
  · next hnone =>
    rw [List.lookup_append, lookup_cons_eq_ite, List.lookup_nil]
    by_cases hq : q = p
    · rw [hq, Option.not_isSome_iff_eq_none.mp hnone, if_pos rfl, Option.none_or]
    · rw [if_neg hq, if_neg hq, Option.or_none]

theorem put_eq (t : Tree) (p : List Text) (content : Bytes) :
    t.put p content = { t with files := (t.put p content).files } := by
  unfold put
  split <;> rfl

/-- The second tree is the first with a content put at one place. -/
structure IsWritten (t : Tree) (place : List Text) (content : Bytes) (t' : Tree) : Prop where
  lookup_place : t'.files.lookup place = some content
  lookup_other : ∀ q, q ≠ place → t'.files.lookup q = t.files.lookup q
  rest : t' = { t with files := t'.files }

theorem isWritten_put (t : Tree) (p : List Text) (content : Bytes) :
    t.IsWritten p content (t.put p content) where
  lookup_place := by rw [lookup_files_put, if_pos rfl]
  lookup_other := fun q hq => by rw [lookup_files_put, if_neg hq]
  rest := put_eq t p content

/-- A write that succeeds changes the file that its path leads to, and nothing else. -/
theorem isWritten_of_write {path : Text} (hwrite : t.write path content = .ok t') :
    ∃ place, t.locate path = .ok place ∧ t.IsWritten place content t' := by
  unfold write at hwrite
  obtain ⟨place, hplace, hwrite⟩ := Outcome.bind_eq_ok_iff.mp hwrite
  refine ⟨place, hplace, ?_⟩
  cases hnode : t.node place with
  | directory =>
    rw [hnode] at hwrite
    cases hwrite
  | file _ | missing =>
    rw [hnode] at hwrite
    simp only at hwrite
    split at hwrite
    · cases hwrite
      exact t.isWritten_put place content
    · cases hwrite

/-- The state monad passes the tree on as the write leaves it. -/
theorem run_writeFile (t : Tree) (path : Text) (content : Bytes) :
    (writeFile path content).run t =
      match t.write path content with
      | .ok t' => (.ok (), t')
      | .error e => (.error e, t) := by
  change (match t.write path content with
    | .ok t' => do set t'; pure (.ok ())
    | .error e => pure (.error e) : StateM Tree (Except FileError.Kind Unit)).run t = _
  split <;> rfl

end AsmDispatch.Tree
