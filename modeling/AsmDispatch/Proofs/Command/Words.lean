import AsmDispatch.Command.Words

/-!
# What the words of a command line ask for

Each option has the value that it was given last.  Values and arguments are taken from the words as
they are, so nothing stands in them that does not stand in the command line.

## Main statements

* `Words.mem_settled_iff`: an option stands among the settled ones with its last value.
* `Words.fromWords_parse`: values of options and arguments come from the words.
-/

namespace AsmDispatch.Command.Words

variable {w : Words} {s : Switch} {v : Text}

/-- The value that an option was given last. -/
def value? (w : Words) (s : Switch) : Option Text :=
  (w.options.reverse.find? (·.1 == s)).map (·.2)

theorem find?_options_eq_some_iff {e : Switch × Text} :
    w.options.reverse.find? (·.1 == s) = some e ↔ e.1 = s ∧ w.value? s = some e.2 := by
  unfold value?
  constructor
  · intro he
    have hs := List.find?_some he
    exact ⟨eq_of_beq hs, by rw [he, Option.map_some]⟩
  · rintro ⟨rfl, he⟩
    obtain ⟨e', he', hv⟩ := Option.map_eq_some_iff.mp he
    have hs := List.find?_some he'
    rw [he']
    exact congrArg some (Prod.ext (eq_of_beq hs) hv)

/-- An option is settled with its last value. -/
theorem mem_settled_iff : (s, v) ∈ w.settled ↔ w.value? s = some v := by
  unfold settled
  simp only [List.mem_filterMap, List.mem_eraseDups, find?_options_eq_some_iff]
  constructor
  · rintro ⟨s', -, rfl, hv⟩
    exact hv
  · intro hv
    refine ⟨s, ?_, rfl, hv⟩
    have hfind := find?_options_eq_some_iff (e := (s, v)).mpr ⟨rfl, hv⟩
    have hmem := List.mem_reverse.mp (List.mem_of_find?_eq_some hfind)
    exact List.mem_map.mpr ⟨(s, v), hmem, rfl⟩

theorem find?_settled (w : Words) (s : Switch) :
    (w.settled.reverse.find? (·.1 == s)).map (·.2) = w.value? s := by
  cases hfind : w.settled.reverse.find? (·.1 == s) with
  | some e =>
    have hs := List.find?_some hfind
    have hmem := List.mem_reverse.mp (List.mem_of_find?_eq_some hfind)
    rw [← eq_of_beq hs, mem_settled_iff.mp hmem, Option.map_some]
  | none =>
    cases hv : w.value? s with
    | none => rfl
    | some v =>
      have hmem := List.mem_reverse.mpr (mem_settled_iff.mpr hv)
      have hnot := List.find?_eq_none.mp hfind (s, v) hmem
      exact absurd (beq_self_eq_true s) hnot

/-! ## Origin of values -/

/-- The values of options stand in a word of the command line, and the arguments are words of it. A
line that cannot be taken apart is not given up for a null character. -/
def FromWords (args : List Text) : Except UsageError Words → Prop
  | .ok w => (∀ e ∈ w.options, ∃ word ∈ args, e.2 ⊆ word) ∧ ∀ a ∈ w.arguments, a ∈ args
  | .error e => e ≠ .nullInPath

/-- The same for the options of one word. -/
def FromWord (word : Text) : Except UsageError WordOptions → Prop
  | .ok p => ∀ e ∈ p.1, e.2 ⊆ word
  | .error e => e ≠ .nullInPath

theorem fromWord_ofLetters (t : Text) : FromWord t (ofLetters t) := by
  induction t with
  | nil => exact fun e he => absurd he List.not_mem_nil
  | cons c t ih =>
    rw [ofLetters]
    cases Switch.ofLetter? c with
    | none => exact UsageError.noConfusion
    | some s =>
      simp only
      split
      · split
        · exact fun e he => absurd he List.not_mem_nil
        · intro e he
          rw [List.mem_singleton.mp he]
          exact List.subset_cons_self c t
      · cases hletters : ofLetters t with
        | error e =>
          rw [hletters] at ih
          exact ih
        | ok p =>
          rw [hletters] at ih
          refine List.forall_mem_cons.mpr ⟨List.nil_subset _, fun e he => ?_⟩
          exact List.subset_cons_of_subset c (ih e he)

theorem fromWord_ofOptionWord (word : Text) : FromWord word (ofOptionWord word) := by
  unfold ofOptionWord
  simp only
  split
  · split
    · exact fun e he => absurd he List.not_mem_nil
    · exact List.forall_mem_singleton.mpr (List.nil_subset _)
  · next c value _ hvalue =>
    split
    · have hbehind : c :: value ⊆ word := hvalue ▸ (List.dropWhile_sublist _).subset
      exact List.forall_mem_singleton.mpr (List.subset_of_cons_subset hbehind)
    · exact UsageError.noConfusion
  · split
    · exact UsageError.noConfusion
    · have hletters := fromWord_ofLetters (word.drop 1)
      cases hresult : ofLetters (word.drop 1) with
      | error e =>
        rw [hresult] at hletters
        exact hletters
      | ok p =>
        rw [hresult] at hletters
        exact fun e he => List.Subset.trans (hletters e he) (List.drop_subset 1 word)

variable {args ws : List Text} {x : Except UsageError Words}

theorem FromWords.addOptions (hx : FromWords ws x) (hws : ws ⊆ args) {os : List (Switch × Text)}
    (hos : ∀ e ∈ os, ∃ word ∈ args, e.2 ⊆ word) :
    FromWords args (x >>= fun w => pure (w.addOptions os)) := by
  cases x with
  | error e => exact hx
  | ok w =>
    refine ⟨fun e he => ?_, fun a ha => hws (hx.2 a ha)⟩
    rcases List.mem_append.mp he with he | he
    · exact hos e he
    · obtain ⟨word, hword, hsub⟩ := hx.1 e he
      exact ⟨word, hws hword, hsub⟩

theorem FromWords.addArgument (hx : FromWords ws x) (word : Text) :
    FromWords (word :: ws) (x >>= fun w => pure (w.addArgument word)) := by
  cases x with
  | error e => exact hx
  | ok w =>
    refine ⟨fun e he => ?_, List.forall_mem_cons.mpr ⟨List.mem_cons_self, fun a ha => ?_⟩⟩
    · obtain ⟨word', hword', hsub⟩ := hx.1 e he
      exact ⟨word', List.mem_cons_of_mem _ hword', hsub⟩
    · exact List.mem_cons_of_mem _ (hx.2 a ha)

theorem fromWords_parse (args : List Text) : FromWords args (parse args) := by
  induction args using parse.induct with
  | case1 => exact ⟨fun e he => absurd he List.not_mem_nil, fun a ha => absurd ha List.not_mem_nil⟩
  | case2 ws =>
    rw [parse, if_pos rfl]
    exact ⟨fun e he => absurd he List.not_mem_nil, fun a ha => List.mem_cons_of_mem _ ha⟩
  | case3 word ws hdashes hoption ih ihrest =>
    rw [parse.eq_def]
    simp only [if_neg hdashes, if_pos hoption]
    have hword := fromWord_ofOptionWord word
    cases hoptions : ofOptionWord word with
    | error e =>
      rw [hoptions] at hword
      exact hword
    | ok p =>
      rw [hoptions] at hword
      have hos : ∀ e ∈ p.1, ∃ w ∈ word :: ws, e.2 ⊆ w :=
        fun e he => ⟨word, List.mem_cons_self, hword e he⟩
      obtain ⟨os, _ | ⟨s, name⟩⟩ := p
      · exact ih.addOptions (List.subset_cons_self word ws) hos
      · cases ws with
        | nil => exact UsageError.noConfusion
        | cons value ws =>
          refine FromWords.addOptions ihrest
            (List.subset_cons_of_subset word (List.subset_cons_self value ws)) ?_
          refine List.forall_mem_append.mpr ⟨hos, List.forall_mem_singleton.mpr ?_⟩
          exact ⟨value, List.mem_cons_of_mem _ List.mem_cons_self, List.Subset.refl value⟩
  | case4 word ws hdashes hoption ih =>
    rw [parse.eq_def]
    simp only [if_neg hdashes, if_neg hoption]
    exact ih.addArgument word

theorem exists_word_of_value? (hparse : parse args = .ok w) (hv : w.value? s = some v) :
    ∃ word ∈ args, v ⊆ word := by
  have hwords := fromWords_parse args
  rw [hparse] at hwords
  obtain ⟨e, he, rfl⟩ := Option.map_eq_some_iff.mp hv
  exact hwords.1 e (List.mem_reverse.mp (List.mem_of_find?_eq_some he))

end AsmDispatch.Command.Words
