/-!
# Ranges of code points

A class of characters is written down as the ranges of its code points, ascending.

* `CodeRanges.mem` looks a code point up; it stops at the first range that lies beyond it.
* `CodeRanges.Ascending` is the order that the tables keep, under which nothing is missed:
  `mem_iff`.
-/

namespace Crosslink.Text

/-- Closed ranges of code points, first and last of each. -/
abbrev CodeRanges := List (Nat × Nat)

namespace CodeRanges

/-- Whether a code point lies in one of the ranges, which must ascend. -/
def mem (n : Nat) : CodeRanges → Bool
  | [] => false
  | range :: rest => if n < range.1 then false else if n ≤ range.2 then true else mem n rest

/-- Each range ends before the next begins. -/
def Ascending (ranges : CodeRanges) : Prop :=
  ranges.Pairwise (fun a b => a.2 < b.1) ∧ ∀ range ∈ ranges, range.1 ≤ range.2

/-- The search stops early, but in ascending ranges it misses nothing. -/
theorem mem_iff {ranges : CodeRanges} (h : Ascending ranges) (n : Nat) :
    mem n ranges = true ↔ ∃ range ∈ ranges, range.1 ≤ n ∧ n ≤ range.2 := by
  obtain ⟨hpair, hle⟩ := h
  induction ranges with
  | nil => simp [mem]
  | cons range rest ih =>
    obtain ⟨hfirst, hrest⟩ := List.pairwise_cons.mp hpair
    have ih := ih hrest (fun r hr => hle r (List.mem_cons_of_mem _ hr))
    have hrange := hle range List.mem_cons_self
    rw [mem]
    split
    · rename_i hlt
      simp only [Bool.false_eq_true, List.mem_cons, exists_eq_or_imp, false_iff, not_or, not_and,
        not_exists]
      refine ⟨fun hle' => by omega, fun r hr hle' => ?_⟩
      have := hfirst r hr
      omega
    · split
      · simp only [List.mem_cons, exists_eq_or_imp, true_iff]
        exact .inl (by omega)
      · rw [ih]
        simp only [List.mem_cons, exists_eq_or_imp]
        exact ⟨.inr, fun h => h.resolve_left (by omega)⟩

end CodeRanges

end Crosslink.Text
