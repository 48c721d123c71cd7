/-!
# Blank characters and trimming

Trimming takes characters off the ends of a text and leaves its middle alone.

* `stripEnd`, `strip` take off the characters of any class from the end, or from both ends.
* `isBlank` is the class of the white space characters, `trim` strips it from both ends.
* `strip_strip`, `trim_trim` : a stripped text has nothing left to strip.
-/

namespace Crosslink.Text

/-- White space: the tabs, line and page breaks, and every space that separates words. -/
def isBlank (c : Char) : Bool :=
  let n := c.toNat
  (9 ≤ n && n ≤ 13) || n == 0x20 || n == 0x85 || n == 0xA0 || n == 0x1680
    || (0x2000 ≤ n && n ≤ 0x200A) || n == 0x2028 || n == 0x2029 || n == 0x202F || n == 0x205F
    || n == 0x3000

/-- `cs` without the characters of a class at its end. -/
def stripEnd (p : Char → Bool) (cs : List Char) : List Char :=
  (cs.reverse.dropWhile p).reverse

/-- `cs` without the characters of a class at either end. -/
def strip (p : Char → Bool) (cs : List Char) : List Char :=
  stripEnd p (cs.dropWhile p)

/-- `s` without the white space at its ends. -/
def trim (s : String) : String :=
  .ofList (strip isBlank s.toList)

/-! ## What is left after stripping

Of any class of characters. A stripped text neither begins nor ends with one of the class, so there is
nothing to strip a second time. -/

theorem stripEnd_append_singleton (p : Char → Bool) (cs : List Char) (c : Char) :
    stripEnd p (cs ++ [c]) = if p c then stripEnd p cs else cs ++ [c] := by
  by_cases h : p c <;> simp [stripEnd, h]

theorem stripEnd_cons (p : Char → Bool) (c : Char) (cs : List Char) :
    stripEnd p (c :: cs) =
      if stripEnd p cs = [] then (if p c then [] else [c]) else c :: stripEnd p cs := by
  rw [stripEnd, stripEnd, List.reverse_cons, List.dropWhile_append]
  by_cases h : cs.reverse.dropWhile p = []
  · by_cases hc : p c <;> simp [h, hc]
  · simp [h]

theorem stripEnd_cons_of_neg {p : Char → Bool} {c : Char} (h : p c = false) (cs : List Char) :
    stripEnd p (c :: cs) = c :: stripEnd p cs := by
  rw [stripEnd_cons]
  by_cases hcs : stripEnd p cs = [] <;> simp [hcs, h]

/-- Nothing is stripped in front of a character that is not of the class. -/
theorem strip_cons_of_neg {p : Char → Bool} {c : Char} (h : p c = false) (cs : List Char) :
    strip p (c :: cs) = c :: stripEnd p cs := by
  rw [strip, List.dropWhile_cons_of_neg (by simp [h]), stripEnd_cons_of_neg h]

/-- Stripping the end keeps a beginning. -/
theorem stripEnd_prefix (p : Char → Bool) (cs : List Char) : stripEnd p cs <+: cs := by
  have h := List.dropWhile_suffix p (l := cs.reverse)
  simpa [stripEnd] using List.reverse_prefix.mpr h

/-- What is stripped off the end is of the class. -/
theorem exists_stripEnd (p : Char → Bool) (cs : List Char) :
    ∃ rest, cs = stripEnd p cs ++ rest ∧ ∀ c ∈ rest, p c = true := by
  induction cs with
  | nil => exact ⟨[], rfl, nofun⟩
  | cons c cs ih =>
    obtain ⟨rest, hcs, hrest⟩ := ih
    rw [stripEnd_cons]
    by_cases h : stripEnd p cs = []
    · rw [h, List.nil_append] at hcs
      rw [if_pos h]
      by_cases hc : p c
      · exact ⟨c :: cs, by rw [if_pos hc, List.nil_append], by simpa [hcs, hc] using hrest⟩
      · exact ⟨rest, by rw [if_neg hc, hcs, List.singleton_append], hrest⟩
    · exact ⟨rest, by rw [if_neg h, List.cons_append, ← hcs], hrest⟩

/-- A stripped end is not of the class. -/
theorem not_of_getLast?_stripEnd {p : Char → Bool} {cs : List Char} {c : Char}
    (h : (stripEnd p cs).getLast? = some c) : p c = false := by
  have hhead := List.head?_dropWhile_not p cs.reverse
  rw [stripEnd, List.getLast?_reverse] at h
  rw [h] at hhead
  exact hhead

/-- Where the end is not of the class there is nothing to strip off it. -/
theorem stripEnd_eq_self {p : Char → Bool} {cs : List Char}
    (h : ∀ c, cs.getLast? = some c → p c = false) : stripEnd p cs = cs := by
  rcases List.eq_nil_or_concat cs with rfl | ⟨init, c, rfl⟩
  · rfl
  · have hc : p c = false := h c (by simp)
    rw [List.concat_eq_append, stripEnd_append_singleton, if_neg (by simp [hc])]

/-- A stripped text does not begin with a character of the class. -/
theorem not_of_head?_strip {p : Char → Bool} {cs : List Char} {c : Char}
    (h : (strip p cs).head? = some c) : p c = false := by
  have hhead := List.head?_dropWhile_not p cs
  obtain ⟨rest, hrest⟩ := stripEnd_prefix p (cs.dropWhile p)
  obtain ⟨others, hothers⟩ := List.head?_eq_some_iff.mp h
  rw [strip] at hothers
  rw [← hrest, hothers] at hhead
  exact hhead

/-- Where neither end is of the class there is nothing to strip. -/
theorem strip_eq_self {p : Char → Bool} {cs : List Char} (hhead : ∀ c, cs.head? = some c → p c = false)
    (hlast : ∀ c, cs.getLast? = some c → p c = false) : strip p cs = cs := by
  have hbegin : cs.dropWhile p = cs := by
    cases cs with
    | nil => rfl
    | cons c cs => exact List.dropWhile_cons_of_neg (by simp [hhead c rfl])
  rw [strip, hbegin, stripEnd_eq_self hlast]

/-- A stripped text has nothing left to strip at either end. -/
theorem strip_strip (p : Char → Bool) (cs : List Char) : strip p (strip p cs) = strip p cs :=
  strip_eq_self (fun _ => not_of_head?_strip) fun _ => not_of_getLast?_stripEnd

@[simp]
theorem trim_trim (s : String) : trim (trim s) = trim s := by
  rw [trim, trim, String.toList_ofList, strip_strip]

end Crosslink.Text
