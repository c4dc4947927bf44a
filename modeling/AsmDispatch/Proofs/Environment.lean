import AsmDispatch.Proofs.Address
import AsmDispatch.Proofs.Text.Within

/-!
# Settings from the environment

A setting can be used if the default configuration can be used with it in place of its own.  Of the
variables, those for the target and for the name are taken only if they can be used.  The one for
the base is taken if it can be read, and so a negative base is taken as well.

## Main statements

* `Config.usable_eq`: what can be used of the environment, against what is taken from it.
* `Config.environment_usable_iff`: when the outcome can be used.
-/

namespace AsmDispatch

/-! ## Numerals without a sign -/

theorem Text.unpad_subset (t : Text) : unpad t ⊆ t := by
  intro c hc
  have hmem := (List.dropWhile_sublist _).subset (List.mem_reverse.mp hc)
  exact (List.dropWhile_sublist _).subset (List.mem_reverse.mp hmem)

theorem Text.nonneg_of_integer? {base : Nat} {t : Text} {a : Int} (ht : '-' ∉ t)
    (ha : integer? base t = some a) : 0 ≤ a := by
  have hnat {r : Text} (ha : (magnitude? base r).map Int.ofNat = some a) : 0 ≤ a := by
    obtain ⟨n, -, rfl⟩ := Option.map_eq_some_iff.mp ha
    exact Int.natCast_nonneg n
  unfold integer? at ha
  split at ha
  · exact hnat ha
  · next r hr => exact absurd (unpad_subset t (hr ▸ List.mem_cons_self)) ht
  · exact hnat ha

/-- Only a minus sign makes an address negative. -/
theorem Address.nonneg_of_ofText? {t : Text} {a : Int} (ht : '-' ∉ t) (ha : ofText? t = some a) :
    0 ≤ a := by
  have hstrip : '-' ∉ Text.strip t := fun h => ht (Text.strip_subset t h)
  unfold ofText? at ha
  split at ha
  · next r hr =>
    rw [hr, List.mem_cons, not_or] at hstrip
    exact Text.nonneg_of_integer? hstrip.2 ha
  · next r hr =>
    simp only [hr, List.mem_cons, not_or] at hstrip
    exact Text.nonneg_of_integer? hstrip.2.2 ha
  · next r hr =>
    simp only [hr, List.mem_cons, not_or] at hstrip
    exact Text.nonneg_of_integer? hstrip.2.2 ha
  · exact Text.nonneg_of_integer? hstrip ha

/-! ## Settings that can be used -/

namespace Setting

/-- Whether the default configuration can be used with the setting in place of its own. -/
def isUsable (s : Setting) : Bool := (({} : Config).set s).validate.isOk

theorem isUsable_iff {s : Setting} : s.isUsable = true ↔ (({} : Config).set s).validate = .ok () := by
  unfold isUsable
  constructor
  · intro hs
    obtain ⟨_, hs⟩ := Outcome.exists_eq_ok_of_isOk hs
    exact hs
  · intro hs
    rw [hs]
    rfl

theorem isUsable_target (t : Text) : (target t).isUsable = (Host.ofName? t).isSome := by
  obtain ⟨-, hrest⟩ := Config.validate_eq_ok_iff.mp Config.validate_default
  rw [Bool.eq_iff_iff, isUsable_iff, Config.validate_eq_ok_iff]
  exact ⟨fun ht => ht.1, fun ht => ⟨ht, hrest⟩⟩

theorem isUsable_romBase (a : Int) : (romBase a).isUsable = decide (0 ≤ a) := by
  obtain ⟨hhost, -, hrest⟩ := Config.validate_eq_ok_iff.mp Config.validate_default
  rw [Bool.eq_iff_iff, isUsable_iff, Config.validate_eq_ok_iff, decide_eq_true_iff]
  exact ⟨fun ha => ha.2.1, fun ha => ⟨hhost, ha, hrest⟩⟩

theorem isUsable_stepName (t : Text) : (stepName t).isUsable = Text.isIdentifier t := by
  obtain ⟨hhost, hbase, -, htable⟩ := Config.validate_eq_ok_iff.mp Config.validate_default
  rw [Bool.eq_iff_iff, isUsable_iff, Config.validate_eq_ok_iff]
  exact ⟨fun ht => ht.2.2.1, fun ht => ⟨hhost, hbase, ht, htable⟩⟩

end Setting

/-- The settings that the variables hold, as far as they can be read. -/
def Environment.settings (env : Environment) : List Setting :=
  (env.target.map fun t => Setting.target (Text.lower t)).toList ++
    ((env.romBase.bind Address.ofText?).map Setting.romBase).toList ++
    (env.stepName.map Setting.stepName).toList

namespace Config

/-- The default configuration with all settings of the environment that can be used. -/
def usable (env : Environment) : Config := (env.settings.filter Setting.isUsable).foldl set {}

variable {c : Config} {env : Environment}

theorem foldl_set_toList {α : Type} (k : α → Setting) (o : Option α) (c : Config) :
    ((o.map k).toList.filter Setting.isUsable).foldl set c =
      ((o.filter fun x => (k x).isUsable).map fun x => c.set (k x)).getD c := by
  cases o with
  | none => rfl
  | some x => cases hx : (k x).isUsable <;> simp [hx, Option.filter]

/-- What can be used is what is taken, except that a negative base is taken as well. -/
theorem usable_eq (env : Environment) : usable env =
    { ofEnvironment env with
      romBase := ((env.romBase.bind Address.ofText?).filter (0 ≤ ·)).getD ({} : Config).romBase } := by
  have htarget : (env.target.map fun t => Setting.target (Text.lower t)) =
      (env.target.map Text.lower).map Setting.target := by
    rw [Option.map_map]
    rfl
  rw [usable, Environment.settings, List.filter_append, List.filter_append, List.foldl_append,
    List.foldl_append, htarget, foldl_set_toList, foldl_set_toList, foldl_set_toList]
  simp only [Setting.isUsable_target, Setting.isUsable_romBase, Setting.isUsable_stepName]
  unfold ofEnvironment
  -- no setting depends on another one, so only the three values that are taken matter
  generalize ((env.target.map Text.lower).filter fun t => (Host.ofName? t).isSome) = target
  generalize (env.romBase.bind Address.ofText?).filter (fun a => decide (0 ≤ a)) = base
  generalize env.stepName.filter (fun t => Text.isIdentifier t) = name
  cases target <;> cases base <;> cases name <;> rfl

/-! ## The outcome -/

/-- A value that is taken only if it has a property has it, if the default has it. -/
theorem holds_getD_filter {α : Type} {p : α → Bool} {x : α} (hx : p x = true) (o : Option α) :
    p ((o.filter p).getD x) = true := by
  cases ho : o.filter p with
  | none => exact hx
  | some y => exact (Option.filter_eq_some_iff.mp ho).2

theorem validate_usable (env : Environment) : (usable env).validate = .ok () := by
  obtain ⟨hhost, hbase, hstep, htable⟩ := validate_eq_ok_iff.mp validate_default
  rw [usable_eq, validate_eq_ok_iff]
  refine ⟨?_, of_decide_eq_true ?_, ?_, htable⟩
  · exact holds_getD_filter (p := fun t => (Host.ofName? t).isSome) hhost _
  · exact holds_getD_filter (p := fun a => decide (0 ≤ a)) (decide_eq_true hbase) _
  · exact holds_getD_filter hstep _

/-- A negative base is what is wrong with a configuration that could be used without it. -/
theorem validate_set_romBase {a : Int} (hc : c.validate = .ok ()) (ha : a < 0) :
    (c.set (.romBase a)).validate = .error (Defect.negativeBase a).error := by
  have hhost : (Host.ofName? c.target).isNone = false := by
    rw [← Option.not_isSome, (validate_eq_ok_iff.mp hc).1]
    rfl
  have hdefect : (c.set (.romBase a)).defect? = some (.negativeBase a) := by
    change (if (Host.ofName? c.target).isNone then _ else if a < 0 then _ else _) = _
    rw [hhost, if_neg Bool.false_ne_true, if_pos ha]
    rfl
  rw [validate, hdefect]

/-- Without a negative base only settings are taken that can be used. -/
theorem ofEnvironment_of_nonneg (hbase : ∀ a ∈ env.romBase.bind Address.ofText?, 0 ≤ a) :
    ofEnvironment env = usable env := by
  have hfilter : (env.romBase.bind Address.ofText?).filter (0 ≤ ·) =
      env.romBase.bind Address.ofText? := by
    cases hread : env.romBase.bind Address.ofText? with
    | none => rfl
    | some a => exact if_pos (decide_eq_true (hbase a hread))
  rw [usable_eq, hfilter]
  rfl

/-- A base that can be read is taken, and all else is what can be used. -/
theorem ofEnvironment_of_read {a : Int} (hread : env.romBase.bind Address.ofText? = some a) :
    ofEnvironment env = (usable env).set (.romBase a) := by
  have hbase : (ofEnvironment env).romBase = a := by
    change (env.romBase.bind Address.ofText?).getD _ = a
    rw [hread, Option.getD_some]
  rw [usable_eq, set, ← hbase]

/-- The default with all settings that can be used is always usable.  The outcome is that, and can
be used, unless the variable for the base is read as a negative number, for which it has to hold a
minus sign.  Then the outcome has this base and cannot be used. -/
theorem environment_usable_iff (env : Environment) :
    (usable env).validate = .ok () ∧
      ((ofEnvironment env).validate = .ok () ↔ ofEnvironment env = usable env) ∧
      ((ofEnvironment env).validate = .ok () ↔
        ∀ t ∈ env.romBase, ∀ a ∈ Address.ofText? t, 0 ≤ a) ∧
      (∀ t ∈ env.romBase, ∀ a ∈ Address.ofText? t, a < 0 →
        ofEnvironment env = (usable env).set (.romBase a) ∧
          (ofEnvironment env).validate = .error (Defect.negativeBase a).error) ∧
      ((∀ t ∈ env.romBase, '-' ∉ t) → (ofEnvironment env).validate = .ok ()) := by
  have hread {t : Text} {a : Int} (ht : t ∈ env.romBase) (ha : a ∈ Address.ofText? t) :
      env.romBase.bind Address.ofText? = some a := Option.bind_eq_some_iff.mpr ⟨t, ht, ha⟩
  have husable (hbase : ∀ t ∈ env.romBase, ∀ a ∈ Address.ofText? t, 0 ≤ a) :
      ofEnvironment env = usable env := by
    apply ofEnvironment_of_nonneg
    intro a ha
    obtain ⟨t, ht, ha⟩ := Option.bind_eq_some_iff.mp ha
    exact hbase t ht a ha
  have hbase (hvalid : (ofEnvironment env).validate = .ok ()) :
      ∀ t ∈ env.romBase, ∀ a ∈ Address.ofText? t, 0 ≤ a := by
    intro t ht a ha
    by_contra hneg
    rw [ofEnvironment_of_read (hread ht ha),
      validate_set_romBase (validate_usable env) (Int.not_le.mp hneg)] at hvalid
    cases hvalid
  have hvalid (heq : ofEnvironment env = usable env) : (ofEnvironment env).validate = .ok () := by
    rw [heq, validate_usable]
  refine ⟨validate_usable env, ?_, ?_, ?_, ?_⟩
  · exact ⟨fun h => husable (hbase h), hvalid⟩
  · exact ⟨hbase, fun h => hvalid (husable h)⟩
  · intro t ht a ha hneg
    have heq := ofEnvironment_of_read (hread ht ha)
    refine ⟨heq, ?_⟩
    rw [heq, validate_set_romBase (validate_usable env) hneg]
  · intro hdash
    refine hvalid (husable fun t ht a ha => ?_)
    exact Address.nonneg_of_ofText? (hdash t ht) ha

/-- A target and a base in unusual spellings, and a name that cannot be used. -/
def mixedEnvironment : Environment where
  target := some "PyThon"
  romBase := some "\u3000$0X_c_000"
  stepName := some "2step"

theorem environment_usable_iff_of_mixed :
    (∀ t ∈ mixedEnvironment.romBase, '-' ∉ t) ∧
      ofEnvironment mixedEnvironment = { target := "python", romBase := 0xc000 } ∧
      (ofEnvironment mixedEnvironment).validate = .ok () := by
  have hdash : ∀ t ∈ mixedEnvironment.romBase, '-' ∉ t := by
    rintro t ⟨⟩
    decide
  exact ⟨hdash, by decide +kernel, (environment_usable_iff mixedEnvironment).2.2.2.2 hdash⟩

/-- A negative base is taken, and the configuration cannot be used. -/
theorem negative_base_taken :
    ofEnvironment { romBase := some "-1" } = { romBase := -1 } ∧
      (ofEnvironment { romBase := some "-1" }).validate =
        .error (.fault { cause := .configuration "ROM base must not be negative (-1)" }) := by
  exact ⟨by decide +kernel, by rfl⟩

end Config

end AsmDispatch
