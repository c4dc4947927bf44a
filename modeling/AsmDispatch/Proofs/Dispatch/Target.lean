import AsmDispatch.Proofs.Dispatch.Case
import AsmDispatch.Proofs.Operand
import AsmDispatch.Proofs.Output.Constants

/-!
# Where transfers lead

A transfer whose operand is the name of a code label leads to the number of instructions in front of
the last label of that name, wherever that label stands.  That number is the constant of the label,
and it is a slot of the procedure or the one behind the last.  If it is a slot, its case holds the
first instruction behind the label.

## Main statements

* `Instruction.statement_of_codeLabel`: the statement of such a transfer.
* `Body.exists_step_of_getElem?`: every instruction has its step in the body.
* `Compilation.transfers_lead_to_labels`: both together, for every compiled source.
-/

namespace AsmDispatch

/-! ## Operands that are names -/

namespace Operand

variable {t : Text}

/-- A name alone is an absolute operand. -/
theorem ofText_of_isWordRun (ht : Text.IsWordRun t) : ofText t = .absolute t := by
  have hblank : ∀ c ∈ t, Text.isBlank c = false := fun c hc =>
    Text.isBlank_eq_false_of_isWord (ht.all_word c hc)
  have hstrip : Text.strip t = t :=
    Text.strip_eq_self (Text.stops_of_forall hblank) (Text.stops_reverse_of_forall hblank)
  have hfeed : '\n' ∉ t := fun hmem => absurd (hblank '\n' hmem) (by decide)
  let l : Layout := ⟨.absolute, ⟨.none, .atom (.word ⟨t, ht.ne_nil, ht.all_word⟩), .none⟩⟩
  have htext : l.literal.text = t := by
    change [] ++ t ++ [] = t
    rw [List.nil_append, List.append_nil]
  rw [l.ofText_eq hfeed (htext.trans hstrip.symm)]
  change Operand.absolute (Text.strip l.literal.text) = .absolute t
  rw [htext, hstrip]

end Operand

namespace Instruction

variable {h : Host} {symbols : Symbols} {location : Option Location} {i : Instruction}

/-- The instruction goes on at the slot that its operand names. -/
def IsTransfer (h : Host) (i : Instruction) : Prop :=
  i.family h = .branch ∨ i.family h = .jump ∨ i.family h = .call

instance (h : Host) (i : Instruction) : Decidable (i.IsTransfer h) :=
  inferInstanceAs (Decidable (_ ∨ _ ∨ _))

/-- The statement of a transfer to a target. -/
def transferTo (h : Host) (i : Instruction) (target : Text) : Statement :=
  match i.family h with
  | .branch => .branch (helper i.mnemonic []) target
  | .call => .transfer (helper i.mnemonic ("pc, " ++ target))
  | _ => .transfer target

theorem isIndirect_of_isWordRun (hi : Text.IsWordRun i.operand) : i.isIndirect = false := by
  rw [isIndirect, Operand.ofText_of_isWordRun hi]
  rfl

theorem statement_of_codeLabel {slot : Nat} (hi : i.IsTransfer h)
    (hoperand : Text.IsWordRun i.operand)
    (hslot : symbols.codeLabels.get? i.operand = some slot) :
    i.statement h symbols location = .ok (i.transferTo h (Text.decimal slot)) := by
  have htarget : i.target symbols location = .ok (Text.decimal slot) := by
    rw [target, hslot]
  unfold statement transferTo
  rcases hi with hfamily | hfamily | hfamily
  · rw [hfamily]
    simp only [htarget]
    rfl
  · rw [hfamily]
    simp only [htarget, isIndirect_of_isWordRun hoperand, Bool.false_eq_true, if_false]
    rfl
  · rw [hfamily]
    simp only [htarget]
    rfl

end Instruction

/-! ## Steps of instructions -/

/-- The instruction of a number has its step in the body, at the slot of that number. -/
theorem Body.exists_step_of_getElem? {h : Host} {symbols : Symbols} {slot k : Nat}
    {ls : List Line} {es : List Entry} {location : Option Location} {i : Instruction}
    (hes : (ofLinesFrom h symbols slot ls).entries = .ok es)
    (hk : (Line.instructions ls)[k]? = some (location, i)) :
    ∃ s, i.statement h symbols location = .ok s ∧ Entry.step (slot + k) s i.comment ∈ es := by
  -- an instruction in front takes one from the number and adds one to the slot
  induction ls generalizing slot k es with
  | nil => cases hk
  | cons l ls ih =>
    obtain ⟨e, es', he, hes', rfl⟩ := entries_cons_eq_ok_iff.mp hes
    rw [Line.entry_eq_ok_iff, Line.record_stamp, Line.location_stamp,
      Line.isInstruction_stamp] at he
    rcases he with ⟨i', s, hi', hs, rfl⟩ | ⟨hl, rfl⟩
    · have hnext : l.nextSlot slot = slot + 1 := by simp [Line.nextSlot, Line.isInstruction, hi']
      rw [Line.instructions_cons_of_record hi'] at hk
      rw [hnext] at hes'
      cases k with
      | zero =>
        cases hk
        exact ⟨s, hs, List.mem_cons_self⟩
      | succ k =>
        obtain ⟨t, ht, hmem⟩ := ih hes' hk
        have hslot : slot + (k + 1) = slot + 1 + k := by omega
        rw [hslot]
        exact ⟨t, ht, List.mem_cons_of_mem _ hmem⟩
    · have hnext : l.nextSlot slot = slot := by simp [Line.nextSlot, hl]
      rw [Line.instructions_cons_of_not hl] at hk
      rw [hnext] at hes'
      obtain ⟨t, ht, hmem⟩ := ih hes' hk
      exact ⟨t, ht, List.mem_cons_of_mem _ hmem⟩

namespace Compilation

open Output (declarations)

variable {c : Config} {verbose : Bool} {filename : Text} {source : List Text} {l : Listing}
  {h : Host} {p : Product} {k : Nat} {location : Option Location} {i : Instruction}
  {before behind : List Line} {m : Line}

/-- The dispatch procedure holds the step of a slot. -/
def HoldsStep (h : Host) (block : List Text) (k : Nat) (s : Statement) (comment : Option Text) :
    Prop :=
  ∃ front rest, block = front ++ (Entry.step k s comment).lines h ++ rest

theorem holdsStep_of_getElem? (hy : Yields c l h p)
    (hk : (Line.instructions l.lines)[k]? = some (location, i)) :
    ∃ s, i.statement h p.symbols location = .ok s ∧
      HoldsStep h p.output.dispatch k s i.comment := by
  obtain ⟨es, hes, hdispatch⟩ := hy.dispatch
  rw [← instructions_prepare c] at hk
  obtain ⟨s, hs, hmem⟩ := Body.exists_step_of_getElem? hes hk
  rw [Nat.zero_add] at hmem
  rw [hy.symbols, hdispatch]
  exact ⟨s, hs, Dispatch.exists_eq_append_of_mem hmem h _ _⟩

theorem countP_opensCase_dispatch (hy : Yields c l h p) (n : Nat) :
    p.output.dispatch.countP (Dispatch.opensCase h n) = if n < p.slotCount then 1 else 0 := by
  obtain ⟨es, hes, hdispatch⟩ := hy.dispatch
  obtain ⟨hnum, hstatements⟩ := Body.numberedFrom_and_statements hes
  have hcount : (Entry.statements es).length = p.slotCount := by
    rw [← hstatements.length_eq, Line.length_instructions, slotCount_lines_prepare, hy.slotCount]
  rw [hdispatch, Dispatch.countP_opensCase_lines hnum, hcount]

/-- If there is an instruction with the number of a label, it is the first one from there on. -/
theorem exists_head?_instructions (hlt : Line.slotCount before < Line.slotCount l.lines)
    (hl : l.lines = before ++ behind) :
    ∃ q, (Line.instructions behind).head? = some q ∧
      (Line.instructions l.lines)[Line.slotCount before]? = some q := by
  have happend : Line.instructions l.lines =
      Line.instructions before ++ Line.instructions behind := by
    rw [hl]
    exact List.filterMap_append
  have hhead : (Line.instructions l.lines)[Line.slotCount before]? =
      (Line.instructions behind).head? := by
    rw [happend, ← Line.length_instructions, List.getElem?_append_right (Nat.le_refl _),
      Nat.sub_self, List.head?_eq_getElem?]
  rw [← Line.length_instructions l.lines] at hlt
  refine ⟨(Line.instructions l.lines)[Line.slotCount before], ?_, List.getElem?_eq_getElem hlt⟩
  rw [← hhead]
  exact List.getElem?_eq_getElem hlt

/-- Let the operand of a branch, jump or call be the name of a label, and let the last label of that
name not lead to data.  Then the step of the instruction goes to the number of instructions in front
of that label.  That number is at most the number of slots, and it is the only value of the name in
the block of labels.  If it is a slot, the procedure has one case for it, and this holds the first
instruction from the label on. -/
theorem transfers_lead_to_labels
    (hp : (ofLines { c with target := h.name } verbose filename source).result = .ok p)
    (hk : (Line.instructions (Listing.ofLines filename source).lines)[k]? = some (location, i))
    (hi : i.IsTransfer h)
    (hlast : Line.IsLastLabel (Listing.ofLines filename source).lines i.operand before m behind)
    (hcode : Line.leadToData behind = false) :
    HoldsStep h p.output.dispatch k (i.transferTo h (Text.decimal (Line.slotCount before)))
        i.comment ∧
      Line.slotCount before ≤ p.slotCount ∧
      (∀ v, (i.operand, v) ∈ declarations h p.output.labels ↔
        v = Text.decimal (Line.slotCount before)) ∧
      (Line.slotCount before < p.slotCount →
        p.output.dispatch.countP (Dispatch.opensCase h (Line.slotCount before)) = 1 ∧
          ∃ location' i' s, (Line.instructions (m :: behind)).head? = some (location', i') ∧
            i'.statement h p.symbols location' = .ok s ∧
            HoldsStep h p.output.dispatch (Line.slotCount before) s i'.comment) := by
  have hy := yields_of_result hp
  have hl := Listing.isRead_ofLines filename source
  have hvalues := labelValues_prepare_of_code hlast (hl.isDataLabel_eq_false hlast.mem) hcode
    { c with target := h.name }
  obtain ⟨hslot, -⟩ := Prod.mk.inj hvalues
  refine ⟨?_, ?_, ?_, ?_⟩
  · obtain ⟨s, hs, hstep⟩ := holdsStep_of_getElem? hy hk
    -- the name of a label is a single word, so the operand has no addressing mode
    have hword := hl.isWordRun_of_mem_labelNames hlast.mem_labelNames
    rw [hy.symbols, Instruction.statement_of_codeLabel hi hword hslot] at hs
    cases hs
    exact hstep
  · rw [hy.slotCount, slotCount_prepare, hlast.eq_append, Line.slotCount, Line.slotCount,
      List.countP_append]
    exact Nat.le_add_right _ _
  · intro v
    rw [mem_declarations_labels_iff hl hy, hslot]
    simp [eq_comm]
  · intro hlt
    have hlt' := hlt
    rw [hy.slotCount, slotCount_prepare] at hlt'
    obtain ⟨⟨location', i'⟩, hhead, hget⟩ := exists_head?_instructions hlt' hlast.eq_append
    obtain ⟨s, hs, hstep⟩ := holdsStep_of_getElem? hy hget
    rw [countP_opensCase_dispatch hy, if_pos hlt]
    exact ⟨rfl, location', i', s, hhead, hs, hstep⟩

/-- A source that jumps ahead over data to a name with two labels. -/
def forwardSource : List Text :=
  ["start:", "  JMP loop ; on", "table:", "  .db 1, 2", "loop:", "  NOP", "loop:", "  BNE start",
    "  JSR loop"]

def forwardJump : Instruction := { mnemonic := "JMP", operand := "loop", comment := some "on" }

/-- The lines in front of the last label of the source, which is its seventh line. -/
def forwardLead : List Line := (Listing.ofLines "forward.asm" forwardSource).lines.take 6

def forwardLabel : Line :=
  { record := .label { name := "loop" }, location := some { filename := "forward.asm", line := 7 } }

def forwardRest : List Line := (Listing.ofLines "forward.asm" forwardSource).lines.drop 7

theorem isLastLabel_forward :
    Line.IsLastLabel (Listing.ofLines "forward.asm" forwardSource).lines forwardJump.operand
      forwardLead forwardLabel forwardRest where
  eq_append := by decide +kernel
  labelName := by decide +kernel
  not_mem_behind := by decide +kernel

theorem transfers_lead_to_labels_of_forward :
    ∃ p, (ofLines { ({} : Config) with target := Host.python.name } false "forward.asm"
        forwardSource).result = .ok p ∧
      (Line.instructions (Listing.ofLines "forward.asm" forwardSource).lines)[0]? =
        some (some { filename := "forward.asm", line := 2 }, forwardJump) ∧
      forwardJump.IsTransfer .python ∧
      Line.IsLastLabel (Listing.ofLines "forward.asm" forwardSource).lines forwardJump.operand
        forwardLead forwardLabel forwardRest ∧
      Line.leadToData forwardRest = false ∧
      HoldsStep .python p.output.dispatch 0 (.transfer "2") (some "on") ∧
      2 ≤ p.slotCount ∧
      (∀ v, (forwardJump.operand, v) ∈ declarations .python p.output.labels ↔ v = "2") ∧
      (2 < p.slotCount →
        p.output.dispatch.countP (Dispatch.opensCase .python 2) = 1 ∧
          ∃ location i s,
            (Line.instructions (forwardLabel :: forwardRest)).head? = some (location, i) ∧
            i.statement .python p.symbols location = .ok s ∧
            HoldsStep .python p.output.dispatch 2 s i.comment) := by
  have hok : (ofLines { ({} : Config) with target := Host.python.name } false "forward.asm"
      forwardSource).result.isOk = true := by decide +kernel
  have hk : (Line.instructions (Listing.ofLines "forward.asm" forwardSource).lines)[0]? =
      some (some { filename := "forward.asm", line := 2 }, forwardJump) := by decide +kernel
  have hi : forwardJump.IsTransfer .python := by decide +kernel
  have hcode : Line.leadToData forwardRest = false := by decide +kernel
  have hcount : Line.slotCount forwardLead = 2 := by decide +kernel
  have htransfer : forwardJump.transferTo .python (Text.decimal (2 : Nat)) = .transfer "2" := by
    decide +kernel
  have hdecimal : Text.decimal (2 : Nat) = "2" := by decide +kernel
  obtain ⟨p, hp⟩ := Outcome.exists_eq_ok_of_isOk hok
  have hmain := transfers_lead_to_labels hp hk hi isLastLabel_forward hcode
  rw [hcount, htransfer, hdecimal] at hmain
  exact ⟨p, hp, hk, hi, isLastLabel_forward, hcode, hmain⟩

end Compilation

end AsmDispatch
