import AsmDispatch.Proofs.Compilation
import AsmDispatch.Proofs.Listing
import AsmDispatch.Proofs.Symbols

/-!
# Names of a prepared program

The analysis decides which labels name data, and the symbols are collected afterwards.  Together
they make a name stand for what the last of its labels in the listing says.
-/

namespace AsmDispatch.Compilation

variable {l : Listing} {name : Text} {before behind : List Line} {m : Line}

theorem symbols_prepare (c : Config) (l : Listing) : (prepare c l).symbols =
    (Symbols.collect (Region.analyze c.romBase l.lines).1).1 := rfl

/-- A label that does not lead to data stands for the number of instructions in front of it. -/
theorem labelValues_prepare_of_code (h : Line.IsLastLabel l.lines name before m behind)
    (hm : m.isDataLabel = false) (hcode : Line.leadToData behind = false) (c : Config) :
    (prepare c l).symbols.labelValues name = (some (Line.slotCount before), none) := by
  obtain ⟨before', behind', hlast, hcount⟩ :=
    Region.analyze_of_isLastLabel_code h hcode c.romBase
  rw [symbols_prepare, Symbols.labelValues_collect_of_isLastLabel hlast, hcount,
    Symbols.valuesOf, hm, if_neg Bool.false_ne_true]

/-- A label that leads to data stands for the address of its region. -/
theorem labelValues_prepare_of_data (h : Line.IsLastLabel l.lines name before m behind)
    (hdata : Line.leadToData behind = true) (c : Config) :
    ∃ r, Region.IsLastOf (prepare c l).regions name m behind r ∧
      (prepare c l).symbols.labelValues name = (none, some r.address) := by
  obtain ⟨before', m', behind', r, hlast, hflag, hslot, hr⟩ :=
    Region.analyze_of_isLastLabel_data h hdata c.romBase
  refine ⟨r, hr, ?_⟩
  rw [symbols_prepare, Symbols.labelValues_collect_of_isLastLabel hlast, Symbols.valuesOf, hflag,
    if_pos rfl, hslot]

theorem labelValues_prepare_of_not_mem (h : name ∉ Line.labelNames l.lines) (c : Config) :
    (prepare c l).symbols.labelValues name = (none, none) := by
  rw [symbols_prepare]
  refine Symbols.labelValues_collect_of_not_mem ?_
  rw [Region.labelNames_analyze]
  exact h

theorem mem_labelNames_of_codeLabel {c : Config} {slot : Nat}
    (h : (prepare c l).symbols.codeLabels.get? name = some slot) :
    name ∈ Line.labelNames l.lines := by
  by_contra hname
  have hnone := congrArg Prod.fst (labelValues_prepare_of_not_mem hname c)
  rw [Symbols.labelValues, h] at hnone
  cases hnone

/-- What a name stands for: nothing if it has no label, or what its last label says. -/
inductive Resolved (c : Config) (l : Listing) (name : Text) : Prop
  | unknown (not_mem : name ∉ Line.labelNames l.lines)
      (values : (prepare c l).symbols.labelValues name = (none, none))
  | code {before : List Line} {m : Line} {behind : List Line}
      (last : Line.IsLastLabel l.lines name before m behind)
      (leads : Line.leadToData behind = false)
      (values : (prepare c l).symbols.labelValues name = (some (Line.slotCount before), none))
  | data {before : List Line} {m : Line} {behind : List Line} {r : Region}
      (last : Line.IsLastLabel l.lines name before m behind)
      (leads : Line.leadToData behind = true)
      (region : Region.IsLastOf (prepare c l).regions name m behind r)
      (values : (prepare c l).symbols.labelValues name = (none, some r.address))

theorem resolved (hl : l.IsRead) (c : Config) (name : Text) : Resolved c l name := by
  by_cases hname : name ∈ Line.labelNames l.lines
  · obtain ⟨before, m, behind, hlast⟩ := Line.exists_isLastLabel hname
    cases hleads : Line.leadToData behind with
    | false =>
      have hm := hl.isDataLabel_eq_false hlast.mem
      exact .code hlast hleads (labelValues_prepare_of_code hlast hm hleads c)
    | true =>
      obtain ⟨r, hr, hvalues⟩ := labelValues_prepare_of_data hlast hleads c
      exact .data hlast hleads hr hvalues
  · exact .unknown hname (labelValues_prepare_of_not_mem hname c)

end AsmDispatch.Compilation
