import Crosslink.LinkTable
import Mathlib.Data.List.Basic

/-!
# Names of links

Two spellings name one link if they come to the same name. That name is itself such a spelling: nothing of
it is white space at an end, and nothing of it is a capital.

* `IsSettled` are the characters that lower case leaves as they are, whatever stands around them;
  `settled_of_mem_lowerAt` : lower case is made of them.
* `lowercase_lowercase`, `trim_lowercase_trim` : neither step undoes the other.
* `LinkName.normalize_normalize` : the name of a link is its own.
-/

namespace Crosslink

namespace Text

variable {n m : Nat} {o c : Char} {before after cs : List Char}

/-! ## Forms of letters

The table of capitals is a list of runs: the capitals from one code point to another, in steps, and the
form of the first. That a form has no form of its own is checked run by run on the ends of the runs, not
letter by letter. -/

/-- The form of the last capital of a run. -/
def lastForm (run : Nat × Nat × Nat × Nat) : Nat := run.2.2.2 + (run.2.1 - run.1)

/-- Whether no form of a run is a capital of another: they lie apart, or the ones stand between the
others. -/
def areApart (run other : Nat × Nat × Nat × Nat) : Bool :=
  lastForm run < other.1 || other.2.1 < run.2.2.2 ||
    ((run.2.2.1 = 2 || run.1 = run.2.1) && other.2.2.1 = 2 && (run.2.2.2 + other.1) % 2 = 1)

/-- Ranges of code points that are no forms: white space, the capital I with a dot, and what is no
character. -/
def formless : CodeRanges := [
  (0x09, 0x20), (0x85, 0x85), (0xA0, 0xA0), (0x130, 0x130), (0x1680, 0x1680), (0x2000, 0x205F),
  (0x3000, 0x3000), (0xD800, 0xDFFF)]

/-- Whether a run has all its forms on one side of a range. -/
def isBeside (run : Nat × Nat × Nat × Nat) (range : Nat × Nat) : Bool :=
  lastForm run < range.1 || range.2 < run.2.2.2

theorem areApart_lowerRuns : (lowerRuns.all fun run => lowerRuns.all (areApart run)) = true := by
  decide +kernel

/-- No run has a form that is white space, a capital I with a dot, or no character. -/
theorem isBeside_lowerRuns : (lowerRuns.all fun run => formless.all (isBeside run)) = true := by
  decide +kernel

theorem lastForm_lowerRuns : (lowerRuns.all fun run => lastForm run < 0x110000) = true := by
  decide +kernel

/-- A form belongs to a capital of some run. -/
theorem exists_of_lowerCode? (h : lowerCode? n = some m) :
    ∃ run ∈ lowerRuns, (run.1 ≤ n ∧ n ≤ run.2.1 ∧ (n - run.1) % run.2.2.1 = 0) ∧
      m = run.2.2.2 + (n - run.1) := by
  obtain ⟨run, hrun, hm⟩ := List.exists_of_findSome?_eq_some h
  refine ⟨run, hrun, ?_⟩
  simp only at hm
  split at hm
  · rename_i hn
    exact ⟨hn, (Option.some.inj hm).symm⟩
  · cases hm

/-- A form has no further form. -/
theorem lowerCode?_form (h : lowerCode? n = some m) : lowerCode? m = none := by
  obtain ⟨run, hrun, ⟨hfirst, hlast, hstep⟩, hm⟩ := exists_of_lowerCode? h
  cases hform : lowerCode? m with
  | none => rfl
  | some further =>
    obtain ⟨other, hother, ⟨hfirst', hlast', hstep'⟩, -⟩ := exists_of_lowerCode? hform
    have hapart := List.all_eq_true.mp (List.all_eq_true.mp areApart_lowerRuns run hrun) other hother
    simp only [areApart, Bool.or_eq_true, Bool.and_eq_true, decide_eq_true_eq] at hapart
    rw [lastForm] at hapart
    rcases hapart with (hbelow | habove) | ⟨⟨hrunStep, hotherStep⟩, hodd⟩
    · omega
    · omega
    -- the capitals of the other run are at an even distance from its first, and the forms are not
    · have heven : (n - run.1) % 2 = 0 := by
        rcases hrunStep with htwo | hone
        · rwa [htwo] at hstep
        · omega
      rw [hotherStep] at hstep'
      omega

/-- A form lies in none of the ranges that are no forms. -/
theorem beside_form (h : lowerCode? n = some m) : ∀ range ∈ formless, m < range.1 ∨ range.2 < m := by
  obtain ⟨run, hrun, ⟨hfirst, hlast, -⟩, hm⟩ := exists_of_lowerCode? h
  intro range hrange
  have hbeside := List.all_eq_true.mp (List.all_eq_true.mp isBeside_lowerRuns run hrun) range hrange
  simp only [isBeside, Bool.or_eq_true, decide_eq_true_eq] at hbeside
  rw [lastForm] at hbeside
  omega

/-- The form of a capital is a code point, as the last one of its run is. -/
theorem form_lt (h : lowerCode? n = some m) : m < 0x110000 := by
  obtain ⟨run, hrun, ⟨hfirst, hlast, -⟩, hm⟩ := exists_of_lowerCode? h
  have hform := of_decide_eq_true (List.all_eq_true.mp lastForm_lowerRuns run hrun)
  rw [lastForm] at hform
  omega

/-! ## Settled characters

A character is settled if lower case leaves it alone wherever it stands. The capital sigma is the one
letter that goes by its surroundings, and both of its forms are settled; the capital I with a dot is the
one that becomes two characters, and both of them are. -/

/-- A character that lower case leaves as it is. -/
structure IsSettled (c : Char) : Prop where
  /-- it is not the capital sigma -/
  ne_sigma : c ≠ 'Σ'
  /-- it is not the capital I with a dot -/
  ne_dotted : c ≠ 'İ'
  /-- it has no other form -/
  noForm : lowerCode? c.toNat = none

theorem IsSettled.lowerAt (h : IsSettled c) (before after : List Char) :
    Text.lowerAt before c after = [c] := by
  rw [Text.lowerAt, if_neg h.ne_sigma, if_neg h.ne_dotted, h.noForm]

/-- The form that the table gives is settled, and not blank. -/
theorem settled_of_lowerCode? (h : lowerCode? n = some m) :
    IsSettled (.ofNat m) ∧ isBlank (.ofNat m) = false := by
  have hbeside := beside_form h
  have hlast := form_lt h
  simp only [formless, List.forall_mem_cons, List.not_mem_nil, false_implies, implies_true,
    and_true] at hbeside
  obtain ⟨hcontrol, hnext, hfixed, hdotted, hogham, hspaces, hwide, hsurrogate⟩ := hbeside
  have hvalid : m.isValidChar := by
    rw [Nat.isValidChar]
    omega
  have hcode : (Char.ofNat m).toNat = m := by
    rw [Char.ofNat, dif_pos hvalid]
    rfl
  have hform := lowerCode?_form h
  refine ⟨⟨fun heq => ?_, fun heq => ?_, hcode.symm ▸ hform⟩, ?_⟩
  -- the table has the capital sigma among its capitals
  · rw [← hcode, heq] at hform
    exact absurd hform (by decide +kernel)
  · rw [heq] at hcode
    have hm : m = 0x130 := hcode.symm
    omega
  · simp [isBlank, hcode]
    omega

/-- The forms that a letter takes in lower case are settled, and blank only if it is. -/
theorem settled_of_mem_lowerAt (h : o ∈ lowerAt before c after) :
    IsSettled o ∧ (isBlank c = false → isBlank o = false) := by
  rw [lowerAt] at h
  -- the two letters with rules of their own come first, all others are read from the table
  split at h
  · have hsigmas : o = 'ς' ∨ o = 'σ' := by
      split at h
      · exact .inl (List.mem_singleton.mp h)
      · exact .inr (List.mem_singleton.mp h)
    rcases hsigmas with rfl | rfl
    · exact ⟨⟨by decide, by decide, by decide +kernel⟩, fun _ => rfl⟩
    · exact ⟨⟨by decide, by decide, by decide +kernel⟩, fun _ => rfl⟩
  · rename_i hsigma
    split at h
    · have hdotted : o = 'i' ∨ o = '\u0307' := by simpa using h
      rcases hdotted with rfl | rfl
      · exact ⟨⟨by decide, by decide, by decide +kernel⟩, fun _ => rfl⟩
      · exact ⟨⟨by decide, by decide, by decide +kernel⟩, fun _ => rfl⟩
    · rename_i hdotted
      split at h
      · rename_i m hform
        obtain rfl := List.mem_singleton.mp h
        obtain ⟨hsettled, hblank⟩ := settled_of_lowerCode? hform
        exact ⟨hsettled, fun _ => hblank⟩
      · rename_i hform
        obtain rfl := List.mem_singleton.mp h
        exact ⟨⟨hsigma, hdotted, hform⟩, id⟩

theorem lowerAt_ne_nil (before : List Char) (c : Char) (after : List Char) :
    lowerAt before c after ≠ [] := by
  unfold lowerAt
  repeat' split
  all_goals exact List.cons_ne_nil _ _

/-! ## Texts in lower case

A text in lower case is made of settled characters, so it is its own lower case. Lower case brings no
white space to an end of a text that has none there, and so a name that has been trimmed need not be
trimmed again. -/

theorem isSettled_of_mem_lowercaseFrom (h : o ∈ lowercaseFrom before cs) : IsSettled o := by
  induction cs generalizing before with
  | nil => cases h
  | cons c cs ih =>
    rw [lowercaseFrom, List.mem_append] at h
    rcases h with h | h
    · exact (settled_of_mem_lowerAt h).1
    · exact ih h

theorem lowercaseFrom_of_settled (h : ∀ c ∈ cs, IsSettled c) : lowercaseFrom before cs = cs := by
  induction cs generalizing before with
  | nil => rfl
  | cons c cs ih =>
    obtain ⟨hc, hcs⟩ := List.forall_mem_cons.mp h
    rw [lowercaseFrom, hc.lowerAt, ih hcs, List.singleton_append]

/-- A text in lower case has no further lower case. -/
@[simp]
theorem lowercase_lowercase (s : String) : lowercase (lowercase s) = lowercase s := by
  rw [lowercase, lowercase, String.toList_ofList]
  rw [lowercaseFrom_of_settled fun c => isSettled_of_mem_lowercaseFrom]

/-- Lower case begins with a form of the first letter. -/
theorem exists_head?_lowercaseFrom (h : (lowercaseFrom before cs).head? = some o) :
    ∃ c after, cs.head? = some c ∧ o ∈ lowerAt before c after := by
  cases cs with
  | nil => cases h
  | cons c cs =>
    rw [lowercaseFrom, List.head?_append_of_ne_nil _ (lowerAt_ne_nil _ _ _)] at h
    exact ⟨c, cs, rfl, List.mem_of_head? h⟩

/-- Lower case ends with a form of the last letter. -/
theorem exists_getLast?_lowercaseFrom (h : (lowercaseFrom before cs).getLast? = some o) :
    ∃ c before, cs.getLast? = some c ∧ o ∈ lowerAt before c [] := by
  induction cs generalizing before with
  | nil => cases h
  | cons c cs ih =>
    cases cs with
    | nil =>
      rw [lowercaseFrom, lowercaseFrom, List.append_nil] at h
      exact ⟨c, before, rfl, List.mem_of_getLast? h⟩
    | cons next cs =>
      have hrest : lowercaseFrom (c :: before) (next :: cs) ≠ [] :=
        List.append_ne_nil_of_left_ne_nil (lowerAt_ne_nil _ _ _) _
      rw [lowercaseFrom, List.getLast?_append_of_ne_nil _ hrest] at h
      exact ih h

/-- Lower case brings no white space to an end. -/
@[simp]
theorem trim_lowercase_trim (s : String) : trim (lowercase (trim s)) = lowercase (trim s) := by
  rw [lowercase, trim, trim, String.toList_ofList, String.toList_ofList]
  congr 1
  refine strip_eq_self (fun o ho => ?_) fun o ho => ?_
  · obtain ⟨c, after, hc, hmem⟩ := exists_head?_lowercaseFrom ho
    exact (settled_of_mem_lowerAt hmem).2 (not_of_head?_strip hc)
  · obtain ⟨c, before, hc, hmem⟩ := exists_getLast?_lowercaseFrom ho
    exact (settled_of_mem_lowerAt hmem).2 (not_of_getLast?_stripEnd hc)

end Text

namespace LinkName

/-- The name that a spelling stands for stands for itself. -/
@[simp]
theorem normalize_normalize (name : String) : normalize (normalize name) = normalize name := by
  rw [normalize, normalize, Text.trim_lowercase_trim, Text.lowercase_lowercase]

theorem normalize_anonymous : normalize anonymous = anonymous := by
  decide +kernel

end LinkName

end Crosslink
