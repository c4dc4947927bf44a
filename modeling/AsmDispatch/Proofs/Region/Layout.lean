import AsmDispatch.Region
import Mathlib.Data.List.Basic

/-!
# Where regions lie

The analysis gives each region the address behind the region before it.  From that alone follow the
address of every region, that regions do not overlap, and that they leave no gap.
-/

namespace AsmDispatch.Region

variable {a x : Int} {r : Region} {rs : List Region}

/-- The regions lie one behind the other from an address on. -/
def Consecutive (a : Int) : List Region → Prop
  | [] => True
  | r :: rs => r.address = a ∧ Consecutive (a + r.size) rs

/-- The address is one of the region's own. -/
def Holds (r : Region) (x : Int) : Prop := r.address ≤ x ∧ x < r.address + r.size

theorem consecutive_analyze (a : Int) (ls : List Line) : Consecutive a (analyze a ls).2 := by
  induction ls generalizing a with
  | nil => trivial
  | cons l ls ih =>
    rw [analyze]
    split
    · exact ⟨rfl, ih _⟩
    · exact ih a

namespace Consecutive

theorem address_eq (h : Consecutive a rs) {n : Nat} (hr : rs[n]? = some r) :
    r.address = a + totalSize (rs.take n) := by
  induction rs generalizing a n with
  | nil => cases hr
  | cons s rs ih =>
    obtain ⟨hs, htail⟩ := h
    cases n with
    | zero =>
      obtain rfl : s = r := Option.some.inj hr
      rw [hs, List.take_zero]
      exact (Int.add_zero a).symm
    | succ n =>
      have haddress := ih htail hr
      rw [List.take_succ_cons, totalSize, haddress]
      omega

theorem le_address (h : Consecutive a rs) (hr : r ∈ rs) : a ≤ r.address := by
  obtain ⟨n, hn⟩ := List.mem_iff_getElem?.mp hr
  have haddress := h.address_eq hn
  omega

/-- Each region ends before every later one starts. -/
theorem pairwise (h : Consecutive a rs) :
    rs.Pairwise fun r s : Region => r.address + r.size ≤ s.address := by
  induction rs generalizing a with
  | nil => exact .nil
  | cons r rs ih =>
    obtain ⟨rfl, htail⟩ := h
    exact .cons (fun s hs => htail.le_address hs) (ih htail)

/-- The regions leave no gap, and none reaches beyond their total size. -/
theorem exists_holds_iff (h : Consecutive a rs) :
    (∃ r ∈ rs, r.Holds x) ↔ a ≤ x ∧ x < a + totalSize rs := by
  induction rs generalizing a with
  | nil =>
    constructor
    · rintro ⟨r, hr, -⟩
      cases hr
    · rintro ⟨hle, hlt⟩
      change x < a + (0 : Nat) at hlt
      omega
  | cons s rs ih =>
    obtain ⟨rfl, htail⟩ := h
    rw [List.exists_mem_cons_iff, ih htail, totalSize, Holds]
    omega

end Consecutive

end AsmDispatch.Region
