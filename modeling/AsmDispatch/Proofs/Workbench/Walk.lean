import AsmDispatch.Proofs.Compilation

/-!
# Walks over a program

Three drivers walk over the program of a workbench: a resolution, the emission of the dispatch
procedure, and a walk as a step of its own.  They share the numbering and the check at the end, and
they differ in how far they go: a resolution always comes to its end, an emission is cut off by a
literal at fault, and a walk by its limit.  Each step of a workbench is taken apart here into the
walks that it makes, and a run of steps into all of its walks.

Between two walks the program may be edited, so a walk can meet any lines with any numbers on them.
What it leaves depends on none of them.

## Main statements

* `Body.lines_ofLinesFrom`: an emission numbers the lines up to the literal at fault.
* `Workbench.exact_of_mem_walks`: what every walk of a step does, whatever drives it.
* `Workbench.performs`: a step is its walks, or it is an edit.
* `Workbench.passes_exact`: both along every run, and where the number of slots comes from.
-/

namespace AsmDispatch

/-! ## How far an emission goes -/

namespace Line

variable {h : Host} {symbols : Symbols} {l : Line}

/-- The line is an instruction with a literal at fault. -/
def isFaulty (h : Host) (symbols : Symbols) (l : Line) : Bool :=
  match l.instruction? with
  | some q => !(q.2.statement h symbols q.1).isOk
  | none => false

@[simp] theorem isFaulty_stamp (slot : Nat) (l : Line) :
    (l.stamp slot).isFaulty h symbols = l.isFaulty h symbols := by
  rw [isFaulty, instruction?_stamp, isFaulty]

/-- A line that is not at fault leaves an entry, whatever its slot. -/
theorem exists_entry_iff (slot : Nat) :
    (∃ e, l.entry h symbols slot = .ok e) ↔ l.isFaulty h symbols = false := by
  unfold isFaulty instruction?
  simp only [entry_eq_ok_iff, isInstruction]
  cases l.record with
  | instruction i =>
    cases hs : i.statement h symbols l.location with
    | error f => simp [hs, Except.isOk, Except.toBool]
    | ok s => simp [hs, Except.isOk, Except.toBool]
  | comment | definition | directive | label => simp

end Line

namespace Body

variable {h : Host} {symbols : Symbols}

/-- The number of lines that are visited until a literal is at fault, with the line of that literal;
none if no literal is. -/
def stop? (h : Host) (symbols : Symbols) (ls : List Line) : Option Nat :=
  (ls.findIdx? (Line.isFaulty h symbols)).map (· + 1)

theorem stop?_cons (l : Line) (ls : List Line) :
    stop? h symbols (l :: ls) =
      if l.isFaulty h symbols then some 1 else (stop? h symbols ls).map (· + 1) := by
  rw [stop?, List.findIdx?_cons, stop?]
  split <;> simp

theorem exists_entries_iff {slot : Nat} {ls : List Line} :
    (∃ es, (ofLinesFrom h symbols slot ls).entries = .ok es) ↔ stop? h symbols ls = none := by
  induction ls generalizing slot with
  | nil => exact ⟨fun _ => rfl, fun _ => ⟨[], rfl⟩⟩
  | cons l ls ih =>
    rw [stop?_cons]
    cases hl : l.isFaulty h symbols with
    | true =>
      rw [if_pos rfl]
      refine ⟨?_, fun hnone => nomatch hnone⟩
      rintro ⟨es, hes⟩
      obtain ⟨e, -, he, -⟩ := entries_cons_eq_ok_iff.mp hes
      have hok := (Line.exists_entry_iff slot).mp ⟨e, he⟩
      rw [Line.isFaulty_stamp, hl] at hok
      cases hok
    | false =>
      rw [if_neg Bool.false_ne_true, Option.map_eq_none_iff, ← @ih (l.nextSlot slot)]
      have hstamp : (l.stamp slot).isFaulty h symbols = false := by rw [Line.isFaulty_stamp, hl]
      obtain ⟨e, he⟩ := (Line.exists_entry_iff slot).mpr hstamp
      constructor
      · rintro ⟨es, hes⟩
        obtain ⟨-, es', -, hes', -⟩ := entries_cons_eq_ok_iff.mp hes
        exact ⟨es', hes'⟩
      · rintro ⟨es, hes⟩
        exact ⟨e :: es, entries_cons_eq_ok_iff.mpr ⟨e, es, he, hes, rfl⟩⟩

/-- An emission numbers the lines that it visits and leaves the others alone. -/
theorem lines_ofLinesFrom (slot : Nat) (ls : List Line) :
    (ofLinesFrom h symbols slot ls).lines =
      (Line.stampFrom slot ls).take ((stop? h symbols ls).getD ls.length) ++
        ls.drop ((stop? h symbols ls).getD ls.length) := by
  induction ls generalizing slot with
  | nil => rfl
  | cons l ls ih =>
    rw [ofLinesFrom, stop?_cons, Line.stampFrom]
    cases hl : l.isFaulty h symbols with
    | true =>
      have hnot : ¬ ∃ e, (l.stamp slot).entry h symbols slot = .ok e := by
        rw [Line.exists_entry_iff slot, Line.isFaulty_stamp, hl]
        exact Bool.noConfusion
      cases he : (l.stamp slot).entry h symbols slot with
      | ok e => exact absurd ⟨e, he⟩ hnot
      | error f => rfl
    | false =>
      have hstamp : (l.stamp slot).isFaulty h symbols = false := by rw [Line.isFaulty_stamp, hl]
      obtain ⟨e, he⟩ := (Line.exists_entry_iff slot).mpr hstamp
      have hreach : ((stop? h symbols ls).map (· + 1)).getD (l :: ls).length =
          (stop? h symbols ls).getD ls.length + 1 := by
        cases stop? h symbols ls <;> rfl
      simp only [he, Bool.false_eq_true, if_false, hreach, Line.nextSlot_stamp, ih]
      rfl

end Body

/-! ## Numbering the first lines -/

theorem Line.take_stampFrom (slot n : Nat) (ls : List Line) :
    (stampFrom slot ls).take n = stampFrom slot (ls.take n) := by
  induction ls generalizing slot n with
  | nil => simp [stampFrom]
  | cons l ls ih =>
    cases n with
    | zero => rfl
    | succ n => rw [stampFrom, List.take_succ_cons, ih, List.take_succ_cons, stampFrom]

namespace Workbench

variable {w : Workbench} {n i : Nat}

theorem lines_stampFirst (w : Workbench) (n : Nat) :
    (w.stampFirst n).lines = Line.stampFrom 0 (w.lines.take n) ++ w.lines.drop n := by
  rw [stampFirst, Line.stampAll, Line.take_stampFrom]

theorem getElem?_stampFirst_of_lt (hi : i < n) :
    (w.stampFirst n).lines[i]? =
      w.lines[i]?.map (Line.stamp (Line.slotCount (w.lines.take i))) := by
  by_cases hlength : i < w.lines.length
  · have hleft : i < (Line.stampFrom 0 (w.lines.take n)).length := by
      rw [Line.length_stampFrom, List.length_take]
      omega
    rw [lines_stampFirst, List.getElem?_append_left hleft, Line.getElem?_stampFrom, Nat.zero_add,
      List.take_take, Nat.min_eq_left (Nat.le_of_lt hi), List.getElem?_take_of_lt hi]
  · have hnone : w.lines[i]? = none := List.getElem?_eq_none (Nat.le_of_not_lt hlength)
    rw [hnone, Option.map_none, List.getElem?_eq_none_iff, lines_stampFirst, List.length_append,
      Line.length_stampFrom, List.length_take, List.length_drop]
    omega

theorem getElem?_stampFirst_of_le (hi : n ≤ i) : (w.stampFirst n).lines[i]? = w.lines[i]? := by
  have hlength : (Line.stampFrom 0 (w.lines.take n)).length = min n w.lines.length := by
    rw [Line.length_stampFrom, List.length_take]
  rw [lines_stampFirst, List.getElem?_append_right (by omega), List.getElem?_drop, hlength]
  by_cases hn : n ≤ w.lines.length
  · rw [Nat.min_eq_left hn, Nat.add_sub_cancel' hi]
  · rw [List.getElem?_eq_none (by omega), List.getElem?_eq_none (by omega)]

/-- Numbering does not change how many instructions there are. -/
theorem slotCount_stampFirst (w : Workbench) (n : Nat) :
    Line.slotCount (w.stampFirst n).lines = Line.slotCount w.lines := by
  have hcut : Line.slotCount (Line.stampFrom 0 (w.lines.take n) ++ w.lines.drop n) =
      Line.slotCount (w.lines.take n) + Line.slotCount (w.lines.drop n) := by
    rw [← Line.slotCount_stampFrom 0 (w.lines.take n)]
    exact List.countP_append
  rw [lines_stampFirst, hcut]
  exact List.countP_append.symm.trans (congrArg _ (List.take_append_drop n w.lines))

end Workbench

/-! ## Walks -/

/-- What a computation fails with if a pass met another number of instructions than the first. -/
def Outcome.mismatch? {α : Type} : Except Error α → Option Error
  | .error (.passMismatch pass found expected) => some (.passMismatch pass found expected)
  | _ => none

theorem Outcome.mismatch?_map {α β : Type} (f : α → β) (x : Except Error α) :
    mismatch? (x.map f) = mismatch? x := by
  cases x with
  | ok a => rfl
  | error e => cases e <;> rfl

/-- A walk that a driver makes: its pass, the number of lines after which it is stopped if it does
not come to its end, the workbench before and after it, and what it raises. -/
structure Walk where
  before : Workbench
  pass : Int
  stop : Option Nat
  after : Workbench
  raised : Option Error

namespace Walk

/-- The number of lines that are visited. -/
def reach (k : Walk) : Nat := k.stop.getD k.before.lines.length

/-- The number of instructions that stand in the program. -/
def count (k : Walk) : Nat := Line.slotCount k.before.lines

/-- A first pass that comes to its end, which sets the number of slots. -/
def counts (k : Walk) : Bool := k.pass == 0 && k.stop.isNone

/-- What a walk does. -/
structure Exact (k : Walk) : Prop where
  /-- A line that is visited gets the number of instructions in front of it, unless it is a data
  label. -/
  visited : ∀ (i : Nat) (l : Line), k.before.lines[i]? = some l → i < k.reach →
    k.after.lines[i]? =
      some (if l.isDataLabel then l else { l with slot := Line.slotCount (k.before.lines.take i) })
  /-- All other lines are left alone. -/
  later : ∀ i : Nat, k.reach ≤ i → k.after.lines[i]? = k.before.lines[i]?
  /-- A walk that is stopped leaves everything else alone as well. -/
  stopped : k.stop.isSome = true → k.after.slotCount = k.before.slotCount ∧
    k.after.resolved = k.before.resolved ∧ k.after.symbols = k.before.symbols
  /-- A first pass that comes to its end sets the number of slots, and nothing else does. -/
  slotCount : k.after.slotCount = if k.counts then k.count else k.before.slotCount
  /-- Any other pass that comes to its end compares with it, and nothing else fails. -/
  raised : ∀ e : Error, k.raised = some e ↔ k.stop = none ∧ k.pass ≠ 0 ∧
    k.count ≠ k.before.slotCount ∧ e = .passMismatch k.pass k.count k.before.slotCount

/-- A walk is exact if it numbers the lines in its reach and treats its end as it should. -/
theorem exact_of_eq {k : Walk} (hlines : k.after.lines = (k.before.stampFirst k.reach).lines)
    (hstopped : k.stop.isSome = true →
      k.after.resolved = k.before.resolved ∧ k.after.symbols = k.before.symbols)
    (hcount : k.after.slotCount = if k.counts then k.count else k.before.slotCount)
    (hraised : ∀ e : Error, k.raised = some e ↔ k.stop = none ∧ k.pass ≠ 0 ∧
      k.count ≠ k.before.slotCount ∧ e = .passMismatch k.pass k.count k.before.slotCount) :
    k.Exact where
  visited := by
    intro i l hl hi
    rw [hlines, Workbench.getElem?_stampFirst_of_lt hi, hl]
    rfl
  later := by
    intro i hi
    rw [hlines, Workbench.getElem?_stampFirst_of_le hi]
  stopped := by
    intro hstop
    refine ⟨?_, hstopped hstop⟩
    have hcounts : k.counts = false := by
      rw [counts, ← Option.not_isSome, hstop]
      exact Bool.and_false _
    rw [hcount, hcounts, if_neg Bool.false_ne_true]
  slotCount := hcount
  raised := hraised

end Walk

/-! ## Drivers -/

namespace Workbench

variable {w : Workbench} {pass : Int} {limit : Option Nat}

/-- The walk of a walk step. A limit beyond the last line does not stop it. -/
def walking (w : Workbench) (pass : Int) (limit : Option Nat) : Walk where
  before := w
  pass := pass
  stop := limit.filter (· ≤ w.lines.length)
  after := (w.walk pass limit).1
  raised := Outcome.failure? (w.walk pass limit).2

/-- The walk of a resolution. -/
def resolving (w : Workbench) : Walk where
  before := w
  pass := 0
  stop := none
  after := w.resolve
  raised := none

/-- The walk of an emission, which is stopped by a literal at fault. -/
def dispatching (w : Workbench) (h : Host) (c : Config) : Walk where
  before := w
  pass := 1
  stop := Body.stop? h w.symbols w.lines
  after := (w.dispatch h c).1
  raised := Outcome.mismatch? (w.dispatch h c).2

/-- What the end of a pass makes of a program that has been numbered. -/
theorem endPass_stampFirst (w : Workbench) (n : Nat) (pass : Int) :
    (w.stampFirst n).endPass pass =
      if pass = 0 then .ok { w.stampFirst n with slotCount := Line.slotCount w.lines }
      else if Line.slotCount w.lines = w.slotCount then .ok (w.stampFirst n)
      else .error (.passMismatch pass (Line.slotCount w.lines) w.slotCount) := by
  rw [endPass, slotCount_stampFirst]
  rfl

theorem exact_walking (w : Workbench) (pass : Int) (limit : Option Nat) :
    (w.walking pass limit).Exact := by
  unfold walking walk
  cases hstop : limit.filter (· ≤ w.lines.length) with
  | some n =>
    refine Walk.exact_of_eq rfl (fun _ => ⟨rfl, rfl⟩) ?_ ?_
    · simp [Walk.counts, stampFirst]
    · simp [Outcome.failure?]
  | none =>
    simp only [endPass_stampFirst]
    by_cases hpass : pass = 0
    · rw [if_pos hpass]
      refine Walk.exact_of_eq rfl (fun h => absurd h Bool.false_ne_true) ?_ ?_
      · simp [Walk.counts, Walk.count, hpass]
      · simp [Outcome.failure?, hpass]
    · rw [if_neg hpass]
      by_cases hcount : Line.slotCount w.lines = w.slotCount
      · rw [if_pos hcount]
        refine Walk.exact_of_eq rfl (fun h => absurd h Bool.false_ne_true) ?_ ?_
        · simp [Walk.counts, stampFirst, hpass]
        · simp [Outcome.failure?, Walk.count, hcount]
      · rw [if_neg hcount]
        refine Walk.exact_of_eq rfl (fun h => absurd h Bool.false_ne_true) ?_ ?_
        · simp [Walk.counts, stampFirst, hpass]
        · simp [Outcome.failure?, Walk.count, hcount, hpass, eq_comm]

theorem exact_resolving (w : Workbench) : w.resolving.Exact := by
  refine Walk.exact_of_eq ?_ (fun h => absurd h Bool.false_ne_true) rfl ?_
  · change Line.stampFrom 0 w.lines = (w.stampFirst w.lines.length).lines
    rw [lines_stampFirst, List.take_length, List.drop_length, List.append_nil]
  · simp [resolving]

/-- The lines of a body are the program with the visited lines numbered. -/
theorem lines_body (w : Workbench) (h : Host) (c : Config) :
    (Body.ofLines h w.symbols w.lines).lines = (w.stampFirst (w.dispatching h c).reach).lines :=
  Body.lines_ofLinesFrom 0 w.lines

/-- The procedure is made if no literal is at fault and the second pass agrees with the first. -/
theorem dispatch_snd (w : Workbench) (h : Host) (c : Config) :
    (w.dispatch h c).2 =
      match (Body.ofLines h w.symbols w.lines).entries with
      | .error f => .error (.fault f)
      | .ok es =>
        if Line.slotCount w.lines = w.slotCount then
          .ok (Dispatch.lines h c.stepName w.slotCount es)
        else .error (.passMismatch 1 (Line.slotCount w.lines) w.slotCount) := by
  by_cases hcount : Line.slotCount w.lines = w.slotCount
  · rw [dispatch_snd_eq hcount]
    cases (Body.ofLines h w.symbols w.lines).entries with
    | error f => rfl
    | ok es => exact (if_pos hcount).symm
  · have hfound : Line.slotCount (Body.ofLines h w.symbols w.lines).lines =
        Line.slotCount w.lines := by
      rw [lines_body w h c, slotCount_stampFirst]
    unfold dispatch
    cases hes : (Body.ofLines h w.symbols w.lines).entries with
    | error f => simp only [hes]
    | ok es => simp only [hes, endPass, hfound, Int.one_ne_zero, if_false, if_neg hcount]

/-- The second pass fails by a mismatch if it comes to its end and meets another number of
instructions than the first. -/
theorem mismatch_dispatch_iff (w : Workbench) (h : Host) (c : Config) (e : Error) :
    Outcome.mismatch? (w.dispatch h c).2 = some e ↔
      Body.stop? h w.symbols w.lines = none ∧ Line.slotCount w.lines ≠ w.slotCount ∧
        e = .passMismatch 1 (Line.slotCount w.lines) w.slotCount := by
  have hstop : (∃ es, (Body.ofLines h w.symbols w.lines).entries = .ok es) ↔
      Body.stop? h w.symbols w.lines = none := Body.exists_entries_iff
  rw [← hstop, dispatch_snd]
  cases (Body.ofLines h w.symbols w.lines).entries with
  | error f => simp [Outcome.mismatch?]
  | ok es =>
    by_cases hcount : Line.slotCount w.lines = w.slotCount
    · simp [hcount, Outcome.mismatch?]
    · simp [hcount, Outcome.mismatch?, eq_comm]

theorem exact_dispatching (w : Workbench) (h : Host) (c : Config) :
    (w.dispatching h c).Exact := by
  have hafter : (w.dispatching h c).after = (w.dispatch h c).1 := rfl
  rw [dispatch_fst] at hafter
  refine Walk.exact_of_eq ?_ ?_ ?_ ?_
  · rw [hafter]
    exact lines_body w h c
  · intro _
    rw [hafter]
    exact ⟨rfl, rfl⟩
  · rw [hafter]
    rfl
  · intro e
    rw [dispatching, mismatch_dispatch_iff]
    simp [Walk.count]

/-! ## Steps and runs -/

/-- The walks of an emission: without tables there is none. -/
def emitting (w : Workbench) (h : Host) (c : Config) : List Walk :=
  match w.tables h c with
  | .ok _ => [w.dispatching h c]
  | .error _ => []

/-- The walks that a step makes, in order. -/
def walks (w : Workbench) : Step → List Walk
  | .resolve => [w.resolving]
  | .walk pass limit => [w.walking pass limit]
  | .emit target c =>
    match Host.ofName? target with
    | none => []
    | some h => if w.resolved then w.emitting h c else w.resolving :: w.resolve.emitting h c
  | .render target c .dispatch =>
    match Host.ofName? target with
    | none => []
    | some h => [w.dispatching h c]
  | .analyze _ | .append _ | .remove _ | .lookup _ | .lines | .render .. | .instruction .. => []

/-- Every walk of a step is exact, whatever drives it. -/
theorem exact_of_mem_walks {s : Step} {k : Walk} (hk : k ∈ w.walks s) : k.Exact := by
  have hemitting {w : Workbench} {h : Host} {c : Config} (hk : k ∈ w.emitting h c) : k.Exact := by
    unfold emitting at hk
    split at hk
    · rw [List.mem_singleton.mp hk]
      exact exact_dispatching w h c
    · cases hk
  unfold walks at hk
  split at hk
  · rw [List.mem_singleton.mp hk]
    exact exact_resolving w
  · rw [List.mem_singleton.mp hk]
    exact exact_walking w _ _
  · split at hk
    · cases hk
    · split at hk
      · exact hemitting hk
      · rcases List.mem_cons.mp hk with rfl | hk
        · exact exact_resolving w
        · exact hemitting hk
  · split at hk
    · cases hk
    · rw [List.mem_singleton.mp hk]
      exact exact_dispatching w _ _
  all_goals cases hk

/-- Walks that follow each other, from the first workbench to the last. -/
inductive Chain : Workbench → List Walk → Workbench → Prop
  | nil (w : Workbench) : Chain w [] w
  | cons (k : Walk) {ks : List Walk} {w : Workbench} (rest : Chain k.after ks w) :
      Chain k.before (k :: ks) w

/-- The step changes the program otherwise than by numbering it. -/
def Step.isEdit : Step → Bool
  | .analyze _ | .append _ | .remove _ => true
  | _ => false

/-- The step makes its walks one after the other and nothing else happens to the numbers; it raises
what they raise.  An edit makes no walk. -/
structure Performs (w : Workbench) (s : Step) : Prop where
  chain : ∃ w', Chain w (w.walks s) w' ∧ (w.run s).1.slotCount = w'.slotCount ∧
    (w.run s).1.symbols = w'.symbols ∧ (w.run s).1.resolved = w'.resolved ∧
    (s.isEdit = false → (w.run s).1.lines = w'.lines)
  raised : Outcome.mismatch? (w.run s).2 = (w.walks s).findSome? Walk.raised

/-- A walk step fails by a mismatch or not at all. -/
theorem failure?_walk (w : Workbench) (pass : Int) (limit : Option Nat) :
    Outcome.failure? (w.walk pass limit).2 = Outcome.mismatch? (w.walk pass limit).2 := by
  cases hresult : (w.walk pass limit).2 with
  | ok visits => rfl
  | error e =>
    have hraised : (w.walking pass limit).raised = some e :=
      Outcome.failure?_eq_some_iff.mpr hresult
    obtain ⟨-, -, -, rfl⟩ := ((exact_walking w pass limit).raised e).mp hraised
    rfl

theorem mismatch?_ofFault {α : Type} (x : Except Fault α) :
    Outcome.mismatch? (ofFault x) = none := by
  cases x <;> rfl

theorem emit_of_resolved (hw : w.resolved = true) (h : Host) (c : Config) :
    w.emit h c =
      match w.tables h c with
      | .error f => (w, .error (.fault f))
      | .ok tables =>
        ((w.dispatch h c).1, (w.dispatch h c).2.map fun dispatch => { tables with dispatch }) := by
  unfold emit
  cases htables : w.tables h c <;> simp only [hw, if_true, htables]

/-- An emission without a resolution is one after it. -/
theorem emit_of_not_resolved (hw : w.resolved = false) (h : Host) (c : Config) :
    w.emit h c = w.resolve.emit h c := by
  unfold emit
  rw [hw, if_neg Bool.false_ne_true]
  rfl

theorem chain_emitting (hw : w.resolved = true) (h : Host) (c : Config) :
    Chain w (w.emitting h c) (w.emit h c).1 ∧
      Outcome.mismatch? (w.emit h c).2 = (w.emitting h c).findSome? Walk.raised := by
  rw [emit_of_resolved hw, emitting]
  cases w.tables h c with
  | error f => exact ⟨.nil w, rfl⟩
  | ok tables =>
    refine ⟨.cons (w.dispatching h c) (.nil _), ?_⟩
    rw [Outcome.mismatch?_map, List.findSome?_singleton]
    rfl

theorem Performs.of_eq {s : Step} {w' : Workbench} {r : Except Error Answer} {ks : List Walk}
    (hrun : w.run s = (w', r)) (hwalks : w.walks s = ks) (hchain : Chain w ks w')
    (hraised : Outcome.mismatch? r = ks.findSome? Walk.raised) : w.Performs s := by
  rw [← hwalks] at hchain hraised
  constructor
  · rw [hrun]
    exact ⟨w', hchain, rfl, rfl, rfl, fun _ => rfl⟩
  · rw [hrun]
    exact hraised

theorem performs_emit (w : Workbench) (target : Text) (c : Config) :
    w.Performs (.emit target c) := by
  cases hhost : Host.ofName? target with
  | none =>
    have hrun : w.run (.emit target c) = (w, .error (.unknownHost target)) := by
      simp only [run, withHost, hhost]
    exact .of_eq hrun (by simp only [walks, hhost]) (.nil w) rfl
  | some h =>
    have hrun : w.run (.emit target c) = ((w.emit h c).1, (w.emit h c).2.map .output) := by
      simp only [run, withHost, hhost]
    have hwalks : w.walks (.emit target c) =
        if w.resolved then w.emitting h c else w.resolving :: w.resolve.emitting h c := by
      simp only [walks, hhost]
    cases hw : w.resolved with
    | true =>
      obtain ⟨hchain, hraised⟩ := chain_emitting hw h c
      rw [hw, if_pos rfl] at hwalks
      refine .of_eq hrun hwalks hchain ?_
      rw [Outcome.mismatch?_map, hraised]
    | false =>
      -- the resolution comes first, and the emission goes on with what it leaves
      obtain ⟨hchain, hraised⟩ := chain_emitting (w := w.resolve) rfl h c
      rw [hw, if_neg Bool.false_ne_true] at hwalks
      rw [emit_of_not_resolved hw] at hrun
      refine .of_eq hrun hwalks (.cons w.resolving hchain) ?_
      rw [Outcome.mismatch?_map, hraised]
      rfl

/-- The procedure alone is made by one walk, and the other blocks by none. -/
theorem performs_render (w : Workbench) (target : Text) (c : Config) (block : Block) :
    w.Performs (.render target c block) := by
  cases hhost : Host.ofName? target with
  | none =>
    have hrun : w.run (.render target c block) = (w, .error (.unknownHost target)) := by
      simp only [run, withHost, hhost]
    have hwalks : w.walks (.render target c block) = [] := by
      cases block <;> simp only [walks, hhost]
    exact .of_eq hrun hwalks (.nil w) rfl
  | some h =>
    have hrun : w.run (.render target c block) =
        ((w.render h c block).1, (w.render h c block).2.map .block) := by
      simp only [run, withHost, hhost]
    cases block with
    | labels | addresses => exact .of_eq hrun rfl (.nil w) rfl
    | definitions | data =>
      refine .of_eq hrun rfl (.nil w) ?_
      rw [Outcome.mismatch?_map]
      exact mismatch?_ofFault _
    | dispatch =>
      have hwalks : w.walks (.render target c .dispatch) = [w.dispatching h c] := by
        simp only [walks, hhost]
      refine .of_eq hrun hwalks (.cons (w.dispatching h c) (.nil _)) ?_
      rw [Outcome.mismatch?_map, List.findSome?_singleton]
      rfl

theorem performs_instruction (w : Workbench) (target : Text) (location : Option Location)
    (i : Instruction) : w.Performs (.instruction target location i) := by
  cases hhost : Host.ofName? target with
  | none =>
    have hrun : w.run (.instruction target location i) = (w, .error (.unknownHost target)) := by
      simp only [run, withHost, hhost]
    exact .of_eq hrun rfl (.nil w) rfl
  | some h =>
    have hrun : w.run (.instruction target location i) = ((w.statement h location i).1,
        (w.statement h location i).2.map fun s =>
          .statement (s.linesWithComment h i.comment) s.transfers) := by
      simp only [run, withHost, hhost]
    -- a warning may be added, which is no matter of the numbers
    refine ⟨⟨w, .nil w, ?_⟩, ?_⟩
    · rw [hrun]
      exact ⟨rfl, rfl, rfl, fun _ => rfl⟩
    · rw [hrun, Outcome.mismatch?_map]
      exact mismatch?_ofFault _

theorem performs_remove (w : Workbench) (index : Int) : w.Performs (.remove index) := by
  cases hplace : w.place? index with
  | none =>
    have hrun : w.run (.remove index) = (w, .error (.fault
        { cause := .other ("no line at index " ++ Text.decimal index) })) := by
      simp only [run, remove, hplace]
    exact .of_eq hrun rfl (.nil w) rfl
  | some i =>
    have hrun : w.run (.remove index) = ({ w with lines := w.lines.eraseIdx i },
        .ok (.count (w.lines.eraseIdx i).length)) := by
      simp only [run, remove, hplace]
    refine ⟨⟨w, .nil w, ?_⟩, ?_⟩
    · rw [hrun]
      exact ⟨rfl, rfl, rfl, fun h => nomatch h⟩
    · rw [hrun]
      rfl

/-- Every step is its walks, or it is an edit. -/
theorem performs (w : Workbench) (s : Step) : w.Performs s := by
  cases s with
  | analyze base => exact ⟨⟨w, .nil w, rfl, rfl, rfl, fun h => nomatch h⟩, rfl⟩
  | append lines => exact ⟨⟨w, .nil w, rfl, rfl, rfl, fun h => nomatch h⟩, rfl⟩
  | remove index => exact performs_remove w index
  | lookup name => exact .of_eq rfl rfl (.nil w) rfl
  | lines => exact .of_eq rfl rfl (.nil w) rfl
  | resolve => exact .of_eq rfl rfl (.cons w.resolving (.nil _)) rfl
  | walk pass limit =>
    have hrun : w.run (.walk pass limit) =
        ((w.walk pass limit).1, (w.walk pass limit).2.map .visits) := rfl
    refine .of_eq hrun rfl (.cons (w.walking pass limit) (.nil _)) ?_
    rw [Outcome.mismatch?_map, ← failure?_walk]
    exact List.findSome?_singleton.symm
  | emit target c => exact performs_emit w target c
  | render target c block => exact performs_render w target c block
  | instruction target location i => exact performs_instruction w target location i

/-! ## Where the number of slots comes from -/

/-- The number of instructions that the last first pass to come to its end has met. -/
def counted? (ks : List Walk) : Option Nat := (ks.filter Walk.counts).getLast?.map Walk.count

theorem counted?_append (ks ks' : List Walk) :
    counted? (ks ++ ks') = (counted? ks').or (counted? ks) := by
  rw [counted?, List.filter_append, List.getLast?_append, Option.map_or, counted?, counted?]

theorem counted?_singleton (k : Walk) :
    counted? [k] = if k.counts then some k.count else none := by
  cases hk : k.counts <;> simp [counted?, hk]

theorem slotCount_of_chain {ks : List Walk} {w' : Workbench} (hchain : Chain w ks w')
    (hexact : ∀ k ∈ ks, k.Exact) : w'.slotCount = (counted? ks).getD w.slotCount := by
  induction hchain with
  | nil w => rfl
  | @cons k ks w' _ ih =>
    obtain ⟨hk, hks⟩ := List.forall_mem_cons.mp hexact
    rw [ih hks, hk.slotCount, ← List.singleton_append, counted?_append, counted?_singleton]
    cases counted? ks with
    | some n => rfl
    | none => cases k.counts <;> rfl

/-- What a step makes of the number of slots. -/
theorem slotCount_run (w : Workbench) (s : Step) :
    (w.run s).1.slotCount = (counted? (w.walks s)).getD w.slotCount := by
  obtain ⟨w', hchain, hcount, -⟩ := (performs w s).chain
  rw [hcount, slotCount_of_chain hchain fun k hk => exact_of_mem_walks hk]

/-- The workbench after some steps. -/
def runAll (w : Workbench) (steps : List Step) : Workbench :=
  steps.foldl (fun w s => (w.run s).1) w

theorem runAll_cons (w : Workbench) (s : Step) (steps : List Step) :
    w.runAll (s :: steps) = (w.run s).1.runAll steps := rfl

/-- All walks that some steps make, in order. -/
def history (w : Workbench) : List Step → List Walk
  | [] => []
  | s :: steps => w.walks s ++ history (w.run s).1 steps

theorem exact_of_mem_history {steps : List Step} {k : Walk} (hk : k ∈ w.history steps) :
    k.Exact := by
  induction steps generalizing w with
  | nil => cases hk
  | cons s steps ih =>
    rcases List.mem_append.mp hk with hk | hk
    · exact exact_of_mem_walks hk
    · exact ih hk

theorem slotCount_runAll (w : Workbench) (steps : List Step) :
    (w.runAll steps).slotCount = (counted? (w.history steps)).getD w.slotCount := by
  induction steps generalizing w with
  | nil => rfl
  | cons s steps ih =>
    rw [runAll_cons, ih, slotCount_run, history, counted?_append]
    cases counted? ((w.run s).1.history steps) <;> rfl

/-- The passes of a run of steps on a new workbench. -/
structure PassesExact (ls : List Line) (steps : List Step) : Prop where
  /-- The number of slots is the number of instructions that the last first pass to come to its end
  has met, and zero before there is one. -/
  slotCount : (({ lines := ls } : Workbench).runAll steps).slotCount =
    (counted? (({ lines := ls } : Workbench).history steps)).getD 0
  /-- Every walk numbers the lines that it visits and treats its end as it should. -/
  exact : ∀ k ∈ ({ lines := ls } : Workbench).history steps, k.Exact
  /-- Apart from edits, steps are nothing but these walks. -/
  performs : ∀ (before : List Step) (s : Step) (after : List Step), steps = before ++ s :: after →
    (({ lines := ls } : Workbench).runAll before).Performs s

theorem passes_exact (ls : List Line) (steps : List Step) : PassesExact ls steps where
  slotCount := slotCount_runAll _ steps
  exact := fun _ hk => exact_of_mem_history hk
  performs := fun _ s _ _ => Workbench.performs _ s

/-- An instruction behind the program after its resolution: a second pass that is cut off does not
notice, and one that comes to its end does. -/
example :
    let nop : Line := { record := .instruction { mnemonic := "NOP" } }
    let w := runAll { lines := [nop] } [.resolve, .append [nop]]
    (w.run (.walk 1 (some 2))).2 =
        .ok (.visits [(.instruction { mnemonic := "NOP" }, 0),
          (.instruction { mnemonic := "NOP" }, 1)]) ∧
      (w.run (.walk 1 none)).2 = .error (.passMismatch 1 2 1) := by
  decide

end Workbench

end AsmDispatch
