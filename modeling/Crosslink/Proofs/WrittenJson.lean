import Crosslink.Json.Reader
import Crosslink.Json.Writer
import Mathlib.Data.List.Basic
import Mathlib.Data.List.TakeWhile

/-!
# Written JSON reads back

The writer and the reader have nothing in common but the format. What the one writes the other reads as
the value that was written, in either layout, as long as the value has a text for every string and plain
digits for every number.

* `number?_natural`, `string?_quote` : numbers and strings are read back, whatever follows them.
* `ReadsBack` is the same of a value, from any level on and with any fuel that its text is not longer
  than; `items?_write` and `members?_write` carry it over to arrays and objects.
* `IsPlain` are the values that are written without loss: `IsPlain.readsBack`, `IsPlain.parse?_write`.
-/

namespace Crosslink

namespace Text

/-! ## Digits

The digits that core writes are read back as the number. -/

variable {c : Char} {cs : List Char}

theorem digit?_of_isDigit (h : c.isDigit = true) : digit? 10 c = some (c.toNat - '0'.toNat) := by
  have hrange : 48 ≤ c.toNat ∧ c.toNat ≤ 57 := by
    simpa [Char.isDigit, UInt32.le_iff_toNat_le] using h
  have hvalue : c.toNat - 48 < 10 := by omega
  simp [digit?, hrange, hvalue]

/-- A row of them is read as the number that they write. -/
theorem readDigits?_of_isDigit (h : ∀ c ∈ cs, c.isDigit = true) :
    readDigits? 10 cs = some (Nat.ofDigitChars 10 cs 0) := by
  -- from any number that the digits in front have come to
  suffices ∀ acc, cs.foldlM (fun acc c => (digit? 10 c).map (acc * 10 + ·)) acc =
      some (Nat.ofDigitChars 10 cs acc) from this 0
  induction cs with
  | nil => exact fun _ => rfl
  | cons c cs ih =>
    intro acc
    have hrest := ih (fun d hd => h d (List.mem_cons_of_mem _ hd)) (acc * 10 + (c.toNat - '0'.toNat))
    rw [List.foldlM_cons, digit?_of_isDigit (h c List.mem_cons_self)]
    rw [Nat.mul_comm acc 10] at hrest ⊢
    exact hrest

end Text

namespace Json

variable {n fuel : Nat} {c : Char} {cs rest close : List Char} {level : Option Nat}

/-! ## Numbers

A number ends where no digit, dot or exponent follows. Nothing of that kind is ever written behind one: it
is a comma, a bracket, white space or the end of the text. -/

/-- A text does not go on with a number that stands in front of it. -/
def Ends (cs : List Char) : Prop :=
  ∀ c, cs.head? = some c → c.isDigit = false ∧ c ≠ '.' ∧ c ≠ 'e' ∧ c ≠ 'E'

theorem ends_nil : Ends [] := nofun

theorem ends_cons (h : c.isDigit = false ∧ c ≠ '.' ∧ c ≠ 'e' ∧ c ≠ 'E') : Ends (c :: cs) := by
  intro d hd
  obtain rfl : c = d := by simpa using hd
  exact h

theorem ne_of_isDigit {d : Char} (hc : c.isDigit = true) (hd : d.isDigit = false) : c ≠ d := by
  rintro rfl
  rw [hc] at hd
  cases hd

theorem isDigit_of_mem_toDigits (h : c ∈ Nat.toDigits 10 n) : c.isDigit = true :=
  Nat.isDigit_of_mem_toDigits (by decide) (by decide) h

/-- Only zero is written with a zero in front. -/
theorem head?_toDigits (h : 0 < n) : (Nat.toDigits 10 n).head? ≠ some '0' := by
  induction n using Nat.strongRecOn with
  | ind n ih =>
    rw [Nat.toDigits_eq_if (by decide)]
    split
    · rename_i hlt
      have hdigits : ∀ d < 10, 0 < d → d.digitChar ≠ '0' := by decide
      simpa using hdigits n hlt h
    · rename_i hlt
      rw [List.head?_append_of_ne_nil _ Nat.toDigits_ne_nil]
      exact ih (n / 10) (by omega) (by omega)

theorem takeWhile_isDigit (h : Ends rest) : rest.takeWhile Char.isDigit = [] := by
  cases rest with
  | nil => rfl
  | cons c rest => exact List.takeWhile_cons_of_neg (by simp [(h c rfl).1])

theorem wholePart?_toDigits (h : Ends rest) :
    wholePart? (Nat.toDigits 10 n ++ rest) = some (Nat.toDigits 10 n, rest) := by
  have hdigits : digits? (Nat.toDigits 10 n ++ rest) = some (Nat.toDigits 10 n, rest) := by
    rw [digits?, List.takeWhile_append_of_pos fun c => isDigit_of_mem_toDigits, takeWhile_isDigit h,
      List.append_nil, if_neg Nat.toDigits_ne_nil, List.drop_left]
  have hzero : ¬((Nat.toDigits 10 n).length > 1 ∧ (Nat.toDigits 10 n).head? = some '0') := by
    rintro ⟨hlength, hhead⟩
    rcases Nat.eq_zero_or_pos n with rfl | hn
    · exact absurd hlength (by decide)
    · exact head?_toDigits hn hhead
  rw [wholePart?, hdigits]
  exact if_neg hzero

theorem fraction?_of_ends (h : Ends rest) : fraction? rest = some ([], rest) := by
  unfold fraction?
  split
  · exact absurd rfl (h '.' rfl).2.1
  · rfl

theorem exponent?_of_ends (h : Ends rest) : exponent? rest = some ([], rest) := by
  unfold exponent?
  split
  · rename_i e rest
    obtain ⟨-, -, hsmall, hlarge⟩ := h e rfl
    rw [if_neg (by simp [hsmall, hlarge])]
  · rfl

/-- A written number begins with a digit. -/
theorem exists_writeNumber (n : Nat) :
    ∃ c cs, writeNumber (.natural n) = c :: cs ∧ c.isDigit = true := by
  obtain ⟨c, cs, hdigits⟩ := List.exists_cons_of_ne_nil (Nat.toDigits_ne_nil (n := n) (b := 10))
  have hwrite : writeNumber (.natural n) = Nat.toDigits 10 n := Nat.toList_repr
  exact ⟨c, cs, hwrite.trans hdigits, isDigit_of_mem_toDigits (hdigits ▸ List.mem_cons_self)⟩

/-- A number is read back. -/
theorem number?_natural (n : Nat) (h : Ends rest) :
    number? (writeNumber (.natural n) ++ rest) = some (.natural n, rest) := by
  have hwrite : writeNumber (.natural n) = Nat.toDigits 10 n := Nat.toList_repr
  have hunsigned : ∀ more, writeNumber (.natural n) ++ rest = '-' :: more → False := by
    intro more hcs
    obtain ⟨c, cs, hdigits, hdigit⟩ := exists_writeNumber n
    rw [hdigits, List.cons_append] at hcs
    exact ne_of_isDigit hdigit rfl (List.cons.inj hcs).1
  rw [number?.eq_2 _ hunsigned, hwrite, wholePart?_toDigits h]
  simp only [fraction?_of_ends h, exponent?_of_ends h, and_self, if_true]
  rw [Text.readDigits?_of_isDigit fun c => isDigit_of_mem_toDigits, Nat.ofDigitChars_ten_toDigits,
    Option.map_some]

/-! ## Strings

A character is escaped in one of three ways: by a letter, by its code point, or not at all. Each is undone
by one step of the reader, so a text needs as much fuel as it has characters. -/

/-- The four digits of a control character are read as its code point. -/
theorem unit?_low (h : n < 0x20) (rest : List Char) :
    unit? ('0' :: '0' :: hexDigit (n / 16) :: hexDigit (n % 16) :: rest) = some (n, rest) := by
  have hread : ∀ n < 0x20,
      Text.readDigits? 16 ['0', '0', hexDigit (n / 16), hexDigit (n % 16)] = some n := by decide
  rw [unit?, hread n h, Option.map_some]

/-- A character is read back, however it is escaped. -/
theorem stringRest?_escape (c : Char) (fuel : Nat) (rest : List Char) :
    stringRest? (fuel + 1) (escape c ++ rest) = (stringRest? fuel rest).map (prepend c) := by
  unfold escape
  -- seven characters have an escape of one letter
  iterate 7
    split
    · rename_i hc
      rw [hc]
      rfl
  split
  · rename_i hlow
    simp only [List.cons_append, List.nil_append]
    rw [stringRest?, unit?_low hlow]
    simp only
    rw [if_neg (by omega), if_neg (by omega), Char.ofNat_toNat]
  · rename_i hquote hbackslash _ _ _ _ _ hlow
    rw [List.singleton_append, stringRest?.eq_6 fuel c rest hquote (fun _ h => absurd h hbackslash)
      (fun _ _ h => absurd h hbackslash), if_neg (by simp [hbackslash, hlow])]

theorem stringRest?_escaped (h : cs.length < fuel) (rest : List Char) :
    stringRest? fuel (cs.flatMap escape ++ '"' :: rest) = some (some cs, rest) := by
  induction cs generalizing fuel with
  | nil =>
    obtain ⟨fuel, rfl⟩ := Nat.exists_eq_add_one.mpr h
    rw [List.flatMap_nil, List.nil_append, stringRest?]
  | cons c cs ih =>
    obtain ⟨fuel, rfl⟩ := Nat.exists_eq_add_one.mpr (Nat.zero_lt_of_lt h)
    rw [List.flatMap_cons, List.append_assoc, stringRest?_escape, ih (by simpa using h)]
    rfl

theorem escape_ne_nil (c : Char) : escape c ≠ [] := by
  unfold escape
  repeat' split
  all_goals exact List.cons_ne_nil _ _

/-- A written text is no shorter than what it stands for, so fuel for its length is enough. -/
theorem length_le_escaped (cs : List Char) : cs.length ≤ (cs.flatMap escape).length := by
  induction cs with
  | nil => exact Nat.zero_le _
  | cons c cs ih =>
    have hc := List.length_pos_iff.mpr (escape_ne_nil c)
    rw [List.flatMap_cons, List.length_append, List.length_cons]
    omega

/-- A text is read back from its quotes. -/
theorem string?_quote (s : String) (rest : List Char) :
    string? (quote s ++ rest) = some (some s, rest) := by
  have hfuel : s.toList.length < (s.toList.flatMap escape ++ '"' :: rest).length + 1 := by
    have hlength := length_le_escaped s.toList
    rw [List.length_append]
    omega
  rw [quote, List.cons_append, List.append_assoc, List.singleton_append, string?,
    stringRest?_escaped hfuel, Option.map_some, Option.map_some, String.ofList_toList]

/-! ## White space

The two layouts differ in white space only, and that is skipped. -/

theorem skipSpace_cons (h : isSpace c = false) : skipSpace (c :: cs) = c :: cs :=
  List.dropWhile_cons_of_neg (by simp [h])

theorem skipSpace_newline (level : Option Nat) (cs : List Char) :
    skipSpace (newline level ++ cs) = skipSpace cs := by
  refine List.dropWhile_append_of_pos fun c hc => ?_
  cases level with
  | none => cases hc
  | some level =>
    rcases List.mem_cons.mp hc with rfl | hc
    · rfl
    · rw [List.eq_of_mem_replicate hc]
      rfl

theorem exists_colon (level : Option Nat) (cs : List Char) :
    ∃ space, colon level ++ cs = ':' :: space ∧ skipSpace space = skipSpace cs := by
  cases level with
  | none => exact ⟨cs, rfl, rfl⟩
  | some level => exact ⟨' ' :: cs, rfl, rfl⟩

/-- How a colon is written does not depend on the level. -/
theorem colon_map (level : Option Nat) (f : Nat → Nat) : colon (level.map f) = colon level := by
  cases level <;> rfl

theorem ends_newline (level : Option Nat) (h : Ends cs) : Ends (newline level ++ cs) := by
  cases level with
  | none => exact h
  | some level => exact ends_cons (by decide)

/-! ## Values

The reader has fuel for the length of the text. A value is read back with any fuel that is not less than
the length of what it is written as, whatever follows; so the fuel that is left is enough for the rest. -/

/-- A value is read back from its text. -/
structure ReadsBack (json : Json) : Prop where
  /-- its text begins neither with white space nor like the end of an array -/
  begins : ∀ level, ∃ c cs, write level json = c :: cs ∧ isSpace c = false ∧ c ≠ ']'
  /-- its text is read as the value, whatever follows, with fuel for each of its characters -/
  value : ∀ level fuel rest, Ends rest → (write level json).length ≤ fuel →
    value? fuel (write level json ++ rest) = some (json, rest)

/-- A text is never empty, so there is fuel for one step. -/
theorem readsBack_of_succ {json : Json}
    (hbegins : ∀ level, ∃ c cs, write level json = c :: cs ∧ isSpace c = false ∧ c ≠ ']')
    (hvalue : ∀ level fuel rest, Ends rest → (write level json).length ≤ fuel + 1 →
      value? (fuel + 1) (write level json ++ rest) = some (json, rest)) : ReadsBack json := by
  refine ⟨hbegins, fun level fuel rest hends hfuel => ?_⟩
  obtain ⟨c, cs, hwrite, -⟩ := hbegins level
  have hpos : 0 < fuel := by
    rw [hwrite] at hfuel
    exact Nat.zero_lt_of_lt hfuel
  obtain ⟨fuel, rfl⟩ := Nat.exists_eq_add_one.mpr hpos
  exact hvalue level fuel rest hends hfuel

theorem ReadsBack.skipSpace_write {json : Json} (h : ReadsBack json) (level : Option Nat)
    (rest : List Char) : skipSpace (write level json ++ rest) = write level json ++ rest := by
  obtain ⟨c, cs, hwrite, hspace, -⟩ := h.begins level
  rw [hwrite, List.cons_append, skipSpace_cons hspace]

/-! ## Arrays

By induction on the items, with the closing bracket at the end. -/

section Arrays

variable {item : Json} {items : List Json}

/-- Behind an item stands a comma or the bracket, so a number ends there. -/
theorem ends_writeItems (h : Ends close) : Ends (writeItems level items ++ close) := by
  cases items with
  | nil => exact h
  | cons item items => exact ends_cons (by decide)

/-- The items of an array are read back. -/
theorem items?_write (hitem : ReadsBack item) (hitems : ∀ item ∈ items, ReadsBack item)
    (hends : Ends close) (hclose : skipSpace close = ']' :: rest)
    (hfuel : (write level item ++ writeItems level items).length < fuel) :
    items? fuel (write level item ++ (writeItems level items ++ close)) =
      some (item :: items, rest) := by
  -- on the items behind the first; each takes one unit of fuel and at least one character
  induction items generalizing item fuel with
  | nil =>
    obtain ⟨fuel, rfl⟩ := Nat.exists_eq_add_one.mpr (Nat.zero_lt_of_lt hfuel)
    rw [writeItems, List.append_nil] at hfuel
    rw [writeItems, List.nil_append, items?, hitem.value level fuel close hends (by omega)]
    simp only [hclose]
  | cons next items ih =>
    obtain ⟨hnext, hitems⟩ := List.forall_mem_cons.mp hitems
    have hskip : skipSpace (newline level ++ write level next ++ writeItems level items ++ close) =
        write level next ++ (writeItems level items ++ close) := by
      rw [List.append_assoc, List.append_assoc, skipSpace_newline, hnext.skipSpace_write]
    obtain ⟨fuel, rfl⟩ := Nat.exists_eq_add_one.mpr (Nat.zero_lt_of_lt hfuel)
    simp only [writeItems, List.length_append, List.length_cons] at hfuel
    have hrest : items? fuel (write level next ++ (writeItems level items ++ close)) =
        some (next :: items, rest) := ih hnext hitems (by rw [List.length_append]; omega)
    rw [items?, hitem.value level fuel _ (ends_writeItems hends) (by omega), writeItems,
      List.cons_append]
    simp only [skipSpace_cons (c := ',') rfl, hskip, hrest, Option.map_some]

/-- How an array with items is written, cut where the reader stops. -/
theorem write_array (level : Option Nat) (item : Json) (items : List Json) :
    write level (.array (item :: items)) =
      '[' :: (newline (level.map (· + 1)) ++ (write (level.map (· + 1)) item ++
        (writeItems (level.map (· + 1)) items ++ (newline level ++ [']'])))) := by
  rw [write]
  simp

/-- An array with items is read back if its items are. -/
theorem readsBack_array (hitem : ReadsBack item) (hitems : ∀ item ∈ items, ReadsBack item) :
    ReadsBack (.array (item :: items)) := by
  refine readsBack_of_succ (fun level => ⟨_, _, write_array level item items, rfl, by decide⟩) ?_
  intro level fuel rest hends hfuel
  obtain ⟨c, cs, hwrite, -, hopen⟩ := hitem.begins (level.map (· + 1))
  have hclose : skipSpace (newline level ++ ']' :: rest) = ']' :: rest := by
    rw [skipSpace_newline, skipSpace_cons rfl]
  have hread : items? fuel (write (level.map (· + 1)) item ++
      (writeItems (level.map (· + 1)) items ++ (newline level ++ ']' :: rest))) =
      some (item :: items, rest) := by
    refine items?_write hitem hitems (ends_newline level (ends_cons (by decide))) hclose ?_
    simp only [write_array, List.length_append, List.length_cons] at hfuel ⊢
    omega
  have htext : write level (.array (item :: items)) ++ rest =
      '[' :: (newline (level.map (· + 1)) ++ (write (level.map (· + 1)) item ++
        (writeItems (level.map (· + 1)) items ++ (newline level ++ ']' :: rest)))) := by
    simp [write_array]
  rw [htext, value?.eq_7, skipSpace_newline, hitem.skipSpace_write]
  rw [hwrite, List.cons_append] at hread ⊢
  split
  · rename_i hcs
    -- an item does not begin like the end of the array
    exact absurd (List.cons.inj hcs).1 hopen
  · rw [hread, Option.map_some]

end Arrays

/-! ## Objects

The same for members, each of which has a name in front of its value. -/

section Objects

variable {member : String × Json} {members : List (String × Json)}

/-- The members of an object that all have names. -/
def named (members : List (String × Json)) : List (Option String × Json) :=
  members.map fun (name, value) => (some name, value)

/-- How a member is written behind the beginning of its line. -/
def writeMember (level : Option Nat) (member : String × Json) : List Char :=
  quote member.1 ++ colon level ++ write level member.2

theorem writeMembers_named (level : Option Nat) (member : String × Json)
    (members : List (String × Json)) :
    writeMembers level (named (member :: members)) =
      ',' :: (newline level ++ writeMember level member ++ writeMembers level (named members)) := by
  simp [named, writeMembers, writeMember, quoteString]

theorem ends_writeMembers (h : Ends close) : Ends (writeMembers level (named members) ++ close) := by
  cases members with
  | nil => exact h
  | cons member members => exact ends_cons (by decide)

theorem skipSpace_writeMember (level : Option Nat) (member : String × Json) (rest : List Char) :
    skipSpace (writeMember level member ++ rest) = writeMember level member ++ rest :=
  skipSpace_cons rfl

/-- The first member is read back, and what stands behind it decides whether there are more. -/
theorem members?_writeMember (h : ReadsBack member.2) (hends : Ends rest)
    (hfuel : (writeMember level member).length ≤ fuel) :
    members? (fuel + 1) (writeMember level member ++ rest) =
      match skipSpace rest with
      | '\x7d' :: rest => some ([(some member.1, member.2)], rest)
      | ',' :: rest =>
        (members? fuel (skipSpace rest)).map fun (members, rest) =>
          ((some member.1, member.2) :: members, rest)
      | _ => none := by
  obtain ⟨space, hcolon, hspace⟩ := exists_colon level (write level member.2 ++ rest)
  have hname : string? (writeMember level member ++ rest) = some (some member.1, ':' :: space) := by
    rw [writeMember, List.append_assoc, List.append_assoc, hcolon, string?_quote]
  rw [writeMember, List.length_append] at hfuel
  have hvalue := h.value level fuel rest hends (by omega)
  rw [members?, hname]
  simp only [skipSpace_cons (c := ':') rfl, hspace, h.skipSpace_write]
  exact hvalue ▸ rfl

/-- The members of an object are read back. -/
theorem members?_write (hmember : ReadsBack member.2) (hmembers : ∀ member ∈ members, ReadsBack member.2)
    (hends : Ends close) (hclose : skipSpace close = '\x7d' :: rest)
    (hfuel : (writeMember level member ++ writeMembers level (named members)).length < fuel) :
    members? fuel (writeMember level member ++ (writeMembers level (named members) ++ close)) =
      some (named (member :: members), rest) := by
  -- on the members behind the first; each takes one unit of fuel and at least one character
  induction members generalizing member fuel with
  | nil =>
    obtain ⟨fuel, rfl⟩ := Nat.exists_eq_add_one.mpr (Nat.zero_lt_of_lt hfuel)
    rw [List.length_append] at hfuel
    rw [members?_writeMember hmember (ends_writeMembers hends) (by omega), named, List.map_nil,
      writeMembers, List.nil_append, hclose]
    rfl
  | cons next members ih =>
    obtain ⟨hnext, hmembers⟩ := List.forall_mem_cons.mp hmembers
    have hskip : skipSpace (newline level ++ writeMember level next ++
        writeMembers level (named members) ++ close) =
        writeMember level next ++ (writeMembers level (named members) ++ close) := by
      rw [List.append_assoc, List.append_assoc, skipSpace_newline, skipSpace_writeMember]
    obtain ⟨fuel, rfl⟩ := Nat.exists_eq_add_one.mpr (Nat.zero_lt_of_lt hfuel)
    simp only [writeMembers_named, List.length_append, List.length_cons] at hfuel
    have hrest : members? fuel (writeMember level next ++
        (writeMembers level (named members) ++ close)) = some (named (next :: members), rest) :=
      ih hnext hmembers (by rw [List.length_append]; omega)
    rw [members?_writeMember hmember (ends_writeMembers hends) (by omega), writeMembers_named,
      List.cons_append, skipSpace_cons rfl]
    simp only [hskip, hrest]
    rfl

/-- How an object with members is written, cut where the reader stops. -/
theorem write_record (level : Option Nat) (member : String × Json) (members : List (String × Json)) :
    write level (record (member :: members)) =
      '\x7b' :: (newline (level.map (· + 1)) ++ (writeMember (level.map (· + 1)) member ++
        (writeMembers (level.map (· + 1)) (named members) ++ (newline level ++ ['\x7d'])))) := by
  rw [record, List.map_cons, write]
  simp [writeMember, quoteString, named, colon_map]

/-- An object with members is read back if its members are. -/
theorem readsBack_record (hmember : ReadsBack member.2)
    (hmembers : ∀ member ∈ members, ReadsBack member.2) : ReadsBack (record (member :: members)) := by
  refine readsBack_of_succ (fun level => ⟨_, _, write_record level member members, rfl, by decide⟩) ?_
  intro level fuel rest hends hfuel
  have hclose : skipSpace (newline level ++ '\x7d' :: rest) = '\x7d' :: rest := by
    rw [skipSpace_newline, skipSpace_cons rfl]
  have hread : members? fuel (writeMember (level.map (· + 1)) member ++
      (writeMembers (level.map (· + 1)) (named members) ++ (newline level ++ '\x7d' :: rest))) =
      some (named (member :: members), rest) := by
    refine members?_write hmember hmembers (ends_newline level (ends_cons (by decide))) hclose ?_
    simp only [write_record, List.length_append, List.length_cons] at hfuel ⊢
    omega
  have htext : write level (record (member :: members)) ++ rest =
      '\x7b' :: (newline (level.map (· + 1)) ++ (writeMember (level.map (· + 1)) member ++
        (writeMembers (level.map (· + 1)) (named members) ++ (newline level ++ '\x7d' :: rest)))) := by
    simp [write_record]
  rw [htext, value?.eq_8, skipSpace_newline, skipSpace_writeMember]
  split
  · rename_i hcs
    -- a member begins with a quote
    exact absurd (List.cons.inj hcs).1 (by decide)
  · rw [hread]
    rfl

end Objects

/-! ## Plain values

By induction on the value. What is left out are numbers that are not natural and strings that no text
stands for. -/

/-- A value that is written without loss: there is a text for every string of it, and its numbers are
natural numbers. -/
inductive IsPlain : Json → Prop where
  | null : IsPlain .null
  | bool (b : Bool) : IsPlain (.bool b)
  | natural (n : Nat) : IsPlain (Json.natural n)
  | text (s : String) : IsPlain (ofText s)
  | array {items : List Json} (h : ∀ item ∈ items, IsPlain item) : IsPlain (.array items)
  | record {members : List (String × Json)} (h : ∀ member ∈ members, IsPlain member.2) :
    IsPlain (record members)

attribute [simp] IsPlain.null IsPlain.bool IsPlain.natural IsPlain.text

theorem readsBack_natural (n : Nat) : ReadsBack (Json.natural n) := by
  obtain ⟨c, cs, hdigits, hdigit⟩ := exists_writeNumber n
  have hwrite : ∀ level, write level (Json.natural n) = c :: cs := fun _ => hdigits
  have hspace : isSpace c = false := by simp [isSpace, ne_of_isDigit hdigit]
  refine readsBack_of_succ (fun level => ⟨c, cs, hwrite level, hspace, ne_of_isDigit hdigit rfl⟩) ?_
  intro level fuel rest hends _
  have hnumber := number?_natural n hends
  rw [hdigits, List.cons_append] at hnumber
  rw [hwrite, List.cons_append, value?.eq_9, hnumber]
  · rfl
  -- a digit is no beginning of another kind of value
  all_goals exact ne_of_isDigit hdigit rfl

theorem readsBack_text (s : String) : ReadsBack (ofText s) := by
  refine readsBack_of_succ (fun _ => ⟨_, _, rfl, rfl, by decide⟩) fun level fuel rest _ _ => ?_
  have hstring := string?_quote s rest
  have hwrite : write level (ofText s) = '"' :: (s.toList.flatMap escape ++ ['"']) := rfl
  rw [quote, List.cons_append] at hstring
  rw [hwrite, List.cons_append, value?.eq_6, hstring]
  rfl

/-- A plain value is read back. -/
theorem IsPlain.readsBack {json : Json} (h : IsPlain json) : ReadsBack json := by
  induction h with
  | null => exact readsBack_of_succ (fun _ => ⟨_, _, rfl, rfl, by decide⟩) fun _ _ _ _ _ => rfl
  | bool b =>
    cases b with
    | false => exact readsBack_of_succ (fun _ => ⟨_, _, rfl, rfl, by decide⟩) fun _ _ _ _ _ => rfl
    | true => exact readsBack_of_succ (fun _ => ⟨_, _, rfl, rfl, by decide⟩) fun _ _ _ _ _ => rfl
  | natural n => exact readsBack_natural n
  | text s => exact readsBack_text s
  -- empty brackets are written on one line, so they are cases of their own
  | @array items _ ih =>
    cases items with
    | nil => exact readsBack_of_succ (fun _ => ⟨_, _, rfl, rfl, by decide⟩) fun _ _ _ _ _ => rfl
    | cons item items =>
      obtain ⟨hitem, hitems⟩ := List.forall_mem_cons.mp ih
      exact readsBack_array hitem hitems
  | @record members _ ih =>
    cases members with
    | nil => exact readsBack_of_succ (fun _ => ⟨_, _, rfl, rfl, by decide⟩) fun _ _ _ _ _ => rfl
    | cons member members =>
      obtain ⟨hmember, hmembers⟩ := List.forall_mem_cons.mp ih
      exact readsBack_record hmember hmembers

/-- A plain value is what its text writes, in either layout. -/
theorem IsPlain.parse?_write {json : Json} (h : IsPlain json) (level : Option Nat) :
    parse? (.ofList (write level json)) = some json := by
  have hskip := h.readsBack.skipSpace_write level []
  have hread := h.readsBack.value level ((write level json).length + 1) [] ends_nil (Nat.le_succ _)
  rw [List.append_nil] at hskip hread
  simp only [parse?, String.toList_ofList, hskip, hread]
  rfl

end Json

end Crosslink
