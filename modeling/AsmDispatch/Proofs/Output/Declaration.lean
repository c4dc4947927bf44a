import AsmDispatch.Proofs.Output
import AsmDispatch.Proofs.Prepared
import Mathlib.Data.List.Nodup

/-!
# Constants of a block

The constants that a block declares are read back from its lines.  The blocks of labels and of
addresses each drop what they have declared before, so they declare the current names of their
table, each once; the block of definitions declares every definition.

## Main statements

* `Output.declarations_labelLines`, `Output.declarations_addressLines`: the constants of the two
  blocks.
* `Output.declaredNames_definitionLines`: the names of the third one.
-/

namespace AsmDispatch

namespace Host

/-- A name and its value: a word, an equals sign between spaces, and the rest. -/
def binding? (t : Text) : Option (Text × Text) := do
  match ← Text.run? Text.isWord t with
  | (name, ' ' :: '=' :: ' ' :: value) => some (name, value)
  | _ => none

/-- The name and the value that a line declares, with a comment still behind the value. -/
def declaration? (h : Host) (l : Text) : Option (Text × Text) :=
  match h with
  | .python => binding? l
  | .javascript =>
    match l with
    | 'c' :: 'o' :: 'n' :: 's' :: 't' :: ' ' :: t => binding? t
    | _ => none

variable {name : Text}

theorem binding?_append (hname : Text.IsWordRun name) (value : Text) :
    binding? (name ++ ' ' :: '=' :: ' ' :: value) = some (name, value) := by
  have hstops : Text.Stops Text.isWord (' ' :: '=' :: ' ' :: value) :=
    Text.stops_cons.mpr (by decide)
  rw [binding?, Text.run?_append hname.all_word hname.ne_nil hstops]
  rfl

theorem declaration?_constant (h : Host) (hname : Text.IsWordRun name) (value : Text) :
    h.declaration? (h.constant name value) = some (name, value) := by
  have hbinding := binding?_append hname value
  cases h with
  | javascript =>
    have hline : Host.javascript.constant name value =
        'c' :: 'o' :: 'n' :: 's' :: 't' :: ' ' :: (name ++ ' ' :: '=' :: ' ' :: value) := by
      simp [constant]
    rw [hline]
    exact hbinding
  | python =>
    have hline : Host.python.constant name value = name ++ ' ' :: '=' :: ' ' :: value := by
      simp [constant]
    rw [hline]
    exact hbinding

/-- A comment behind a constant does not change its name. -/
theorem declaration?_withComment (h : Host) (hname : Text.IsWordRun name) (value : Text)
    (comment : Option Text) :
    ∃ v, h.declaration? (h.withComment (h.constant name value) comment) = some (name, v) := by
  have hline : ∃ v, h.withComment (h.constant name value) comment = h.constant name v := by
    unfold withComment
    split
    · exact ⟨value, rfl⟩
    · exact ⟨value, rfl⟩
    · next c _ =>
      refine ⟨value ++ "  " ++ h.comment c, ?_⟩
      cases h <;> simp [constant]
  obtain ⟨v, hv⟩ := hline
  rw [hv]
  exact ⟨v, declaration?_constant h hname v⟩

theorem declaration?_comment (h : Host) (t : Text) : h.declaration? (h.comment t) = none := by
  cases h <;> cases t <;> rfl

end Host

/-! ## Lists of pairs -/

theorem nodup_eraseDups {α : Type} [BEq α] [LawfulBEq α] (xs : List α) : xs.eraseDups.Nodup := by
  -- what is left of the tail is shorter, but it is not the tail
  induction hn : xs.length using Nat.strongRecOn generalizing xs with
  | ind n ih =>
    cases xs with
    | nil => simp
    | cons x xs =>
      have hshort : (xs.filter fun y => !y == x).length < n := by
        rw [← hn]
        exact Nat.lt_succ_of_le (List.length_filter_le _ _)
      have hnew : x ∉ (xs.filter fun y => !y == x).eraseDups := by simp
      rw [List.eraseDups_cons]
      exact List.nodup_cons.mpr ⟨hnew, ih _ hshort _ rfl⟩

namespace Output

variable {h : Host} {symbols : Symbols} {ls : List Line} {rs : List Region}

/-- The names and values that a block declares. -/
def declarations (h : Host) (block : List Text) : List (Text × Text) :=
  block.filterMap h.declaration?

def declaredNames (h : Host) (block : List Text) : List Text :=
  (declarations h block).map Prod.fst

theorem declaredNames_append (xs ys : List Text) :
    declaredNames h (xs ++ ys) = declaredNames h xs ++ declaredNames h ys := by
  simp [declaredNames, declarations]

theorem declarations_cons_comment (t : Text) (block : List Text) :
    declarations h (h.comment t :: block) = declarations h block :=
  List.filterMap_cons_none (h.declaration?_comment t)

theorem declaredNames_cons_comment (t : Text) (ts : List Text) :
    declaredNames h (h.comment t :: ts) = declaredNames h ts := by
  rw [declaredNames, declarations_cons_comment]
  rfl

theorem declarations_constants {α : Type} {name value : α → Text} {xs : List α}
    (hname : ∀ x ∈ xs, Text.IsWordRun (name x)) :
    declarations h (xs.map fun x => h.constant (name x) (value x)) =
      xs.map fun x => (name x, value x) := by
  induction xs with
  | nil => rfl
  | cons x xs ih =>
    obtain ⟨hx, htail⟩ := List.forall_mem_cons.mp hname
    have hhead := h.declaration?_constant hx (value x)
    rw [List.map_cons, declarations, List.filterMap_cons_some hhead]
    exact congrArg _ (ih htail)

/-- Names that determine their values are declared once if each pair is. -/
theorem nodup_map_fst_of_get? {α : Type} [DecidableEq α] {t : Table α} {xs : List (Text × α)}
    (hxs : ∀ e ∈ xs, t.get? e.1 = some e.2) : (xs.eraseDups.map Prod.fst).Nodup := by
  refine List.Nodup.map_on ?_ (nodup_eraseDups xs)
  rintro ⟨name, a⟩ ha ⟨name', a'⟩ ha' (rfl : name = name')
  have hget := hxs _ (List.mem_eraseDups.mp ha)
  have hget' := hxs _ (List.mem_eraseDups.mp ha')
  rw [hget] at hget'
  cases hget'
  rfl

/-! ## Labels -/

theorem codeLabel?_eq_some_iff {l : Line} {e : Text × Nat} :
    codeLabel? symbols l = some e ↔ l.labelName? = some e.1 ∧ l.isDataLabel = false ∧
      symbols.codeLabels.get? e.1 = some e.2 := by
  obtain ⟨name, slot⟩ := e
  unfold codeLabel? Line.labelName? Line.isDataLabel
  cases l.record with
  | label d =>
    by_cases hd : d.isData = true
    · simp [hd]
    · simp only [hd, Bool.false_eq_true, if_false, Option.map_eq_some_iff, Prod.mk.injEq,
        Option.some.injEq, true_and]
      constructor
      · rintro ⟨slot', hslot, rfl, rfl⟩
        exact ⟨rfl, hslot⟩
      · rintro ⟨rfl, hslot⟩
        exact ⟨slot, hslot, rfl, rfl⟩
  | comment | definition | directive | instruction => simp

theorem declarations_labelLines (hls : ∀ name ∈ Line.labelNames ls, Text.IsWordRun name) :
    declarations h (labelLines h symbols ls) =
      (ls.filterMap (codeLabel? symbols)).eraseDups.map fun e => (e.1, Text.decimal e.2) := by
  rw [labelLines, declarations_cons_comment]
  refine declarations_constants fun e he => ?_
  obtain ⟨l, hl, he⟩ := List.mem_filterMap.mp (List.mem_eraseDups.mp he)
  exact hls _ (Line.mem_labelNames_iff.mpr ⟨l, hl, (codeLabel?_eq_some_iff.mp he).1⟩)

theorem nodup_declaredNames_labelLines
    (hls : ∀ name ∈ Line.labelNames ls, Text.IsWordRun name) :
    (declaredNames h (labelLines h symbols ls)).Nodup := by
  rw [declaredNames, declarations_labelLines hls, List.map_map]
  apply nodup_map_fst_of_get? (t := symbols.codeLabels)
  intro e he
  obtain ⟨l, -, he⟩ := List.mem_filterMap.mp he
  exact (codeLabel?_eq_some_iff.mp he).2.2

/-! ## Addresses -/

theorem declarations_addressLines (hrs : ∀ r ∈ rs, Text.IsWordRun r.name) :
    declarations h (addressLines h symbols rs) =
      ((rs.filter (isCurrent symbols)).map fun r => (r.name, r.address)).eraseDups.map
        fun e => (e.1, Text.hex e.2) := by
  rw [addressLines, declarations_cons_comment]
  refine declarations_constants fun e he => ?_
  obtain ⟨r, hr, rfl⟩ := List.mem_map.mp (List.mem_eraseDups.mp he)
  exact hrs r (List.mem_filter.mp hr).1

theorem nodup_declaredNames_addressLines (hrs : ∀ r ∈ rs, Text.IsWordRun r.name) :
    (declaredNames h (addressLines h symbols rs)).Nodup := by
  rw [declaredNames, declarations_addressLines hrs, List.map_map]
  apply nodup_map_fst_of_get? (t := symbols.dataLabels)
  intro e he
  obtain ⟨r, hr, rfl⟩ := List.mem_map.mp he
  exact eq_of_beq (List.mem_filter.mp hr).2

/-! ## Definitions -/

/-- The line that a definition makes, given with its location. -/
def IsDefinitionLine (h : Host) (q : Option Location × Definition) (t : Text) : Prop :=
  ∃ v, Literal.format q.2.literal q.1 = .ok v ∧
    t = h.withComment (h.constant q.2.name v) q.2.comment

/-- A line of the program makes the line of its definition, and none if it has no definition. -/
theorem forall₂_of_definitionLine? {l : Line} {ts : List Text}
    (hts : definitionLine? h l = .ok ts) :
    List.Forall₂ (IsDefinitionLine h) l.definition?.toList ts := by
  rcases definitionLine?_eq_ok_iff.mp hts with ⟨d, v, hd, hv, rfl⟩ | ⟨hnot, rfl⟩
  · have hdefinition : l.definition? = some (l.location, d) := by simp [Line.definition?, hd]
    rw [hdefinition]
    exact .cons ⟨v, hv, rfl⟩ .nil
  · have hdefinition : l.definition? = none := by
      unfold Line.isDefinition at hnot
      unfold Line.definition?
      split
      · next d hd => simp [hd] at hnot
      · rfl
    rw [hdefinition]
    exact .nil

/-- Behind its title the block has one line for each definition. -/
theorem exists_of_definitionLines {ts : List Text} (hts : definitionLines h ls = .ok ts) :
    ∃ rest, ts = h.comment "Definitions" :: rest ∧
      List.Forall₂ (IsDefinitionLine h) (Line.definitions ls) rest := by
  obtain ⟨tss, htss, hrest⟩ := Outcome.bind_eq_ok_iff.mp hts
  cases hrest
  refine ⟨tss.flatten, rfl, ?_⟩
  replace htss := Outcome.mapM_eq_ok_iff.mp htss
  clear hts
  induction htss with
  | nil => exact .nil
  | cons hl _ ih =>
    rw [Line.definitions_cons, List.flatten_cons]
    exact List.rel_append (forall₂_of_definitionLine? hl) ih

theorem declaredNames_of_forall₂ {qs : List (Option Location × Definition)} {ts : List Text}
    (hwords : ∀ q ∈ qs, Text.IsWordRun q.2.name)
    (hts : List.Forall₂ (IsDefinitionLine h) qs ts) :
    declaredNames h ts = qs.map (·.2.name) := by
  induction hts with
  | nil => rfl
  | @cons q t qs ts ht _ ih =>
    obtain ⟨hq, htail⟩ := List.forall_mem_cons.mp hwords
    obtain ⟨v, -, rfl⟩ := ht
    obtain ⟨v', hv'⟩ := h.declaration?_withComment hq v q.2.comment
    rw [declaredNames, declarations, List.filterMap_cons_some hv', List.map_cons, List.map_cons]
    exact congrArg _ (ih htail)

/-- Every definition is declared, also under a name that has been declared before. -/
theorem declaredNames_definitionLines {ts : List Text}
    (hls : ∀ q ∈ Line.definitions ls, Text.IsWordRun q.2.name)
    (hts : definitionLines h ls = .ok ts) :
    declaredNames h ts = (Line.definitions ls).map (·.2.name) := by
  obtain ⟨rest, rfl, hrest⟩ := exists_of_definitionLines hts
  rw [declaredNames_cons_comment, declaredNames_of_forall₂ hls hrest]

end Output

end AsmDispatch
