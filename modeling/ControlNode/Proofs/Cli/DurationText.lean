import ControlNode.Cli.DurationText
import Mathlib.Data.List.DropRight
import Mathlib.Data.Nat.Digits.Defs

/-!
# The written forms of durations

A duration is written as a number, perhaps with a unit behind it (`Cli.Amount`), and blanks may
stand around it (`Text.IsBody`). Reading accepts exactly the amounts from one up to below 2 to the
64, and tells of every other text what is wrong with it (`Cli.readDuration_eq_iff_verdict`).
-/

namespace ControlNode

namespace Text

/-! ### Blanks around a text -/

/-- A text with blank characters before and after a body, which neither begins nor ends with one. -/
structure IsBody (s body : List Char) : Prop where
  split : ∃ before after, s = before ++ body ++ after ∧
    (∀ c ∈ before, isBlank c = true) ∧ ∀ c ∈ after, isBlank c = true
  head : ∀ c ∈ body.head?, isBlank c = false
  last : ∀ c ∈ body.getLast?, isBlank c = false

lemma trim_eq (s : List Char) : trim s = (s.dropWhile isBlank).rdropWhile isBlank := rfl

/-- Blanks that are followed by nothing, or by a character that is not blank, are dropped. -/
lemma dropWhile_blanks {blanks later : List Char} (h : ∀ c ∈ blanks, isBlank c = true)
    (hlater : ∀ c ∈ later.head?, isBlank c = false) :
    (blanks ++ later).dropWhile isBlank = later := by
  rw [List.dropWhile_append_of_pos h]
  cases later with
  | nil => rfl
  | cons c later =>
    apply List.dropWhile_cons_of_neg
    simp [hlater c rfl]

/-- The same at the end of a text. -/
lemma rdropWhile_blanks {earlier blanks : List Char} (h : ∀ c ∈ blanks, isBlank c = true)
    (hearlier : ∀ c ∈ earlier.getLast?, isBlank c = false) :
    (earlier ++ blanks).rdropWhile isBlank = earlier := by
  rw [List.rdropWhile, List.reverse_append, dropWhile_blanks, List.reverse_reverse]
  · intro c hc
    exact h c (List.mem_reverse.1 hc)
  · rwa [List.head?_reverse]

lemma isBody_trim (s : List Char) : IsBody s (trim s) := by
  rw [trim_eq]
  set inner := s.dropWhile isBlank with hinner
  refine ⟨⟨s.takeWhile isBlank, inner.rtakeWhile isBlank, ?_, ?_, ?_⟩, ?_, ?_⟩
  · rw [List.append_assoc, List.rdropWhile_append_rtakeWhile, hinner,
      List.takeWhile_append_dropWhile]
  · intro c hc
    exact List.mem_takeWhile_imp hc
  · intro c hc
    exact List.mem_rtakeWhile_imp hc
  · -- what is left at the end begins as it did before
    intro c hc
    have hnot := List.head?_dropWhile_not isBlank s
    obtain ⟨blanks, hblanks⟩ := List.rdropWhile_prefix isBlank inner
    have hhead : inner.head? = some c := by
      rw [← hblanks, List.head?_append, Option.mem_def.1 hc, Option.some_or]
    rwa [← hinner, hhead] at hnot
  · intro c hc
    have hnot := List.head?_dropWhile_not isBlank inner.reverse
    rw [List.rdropWhile, List.getLast?_reverse, Option.mem_def] at hc
    rwa [hc] at hnot

lemma IsBody.eq {s body : List Char} (h : IsBody s body) : body = trim s := by
  obtain ⟨before, after, rfl, hbefore, hafter⟩ := h.split
  rw [trim_eq]
  cases body with
  | nil =>
    have hblank : ∀ c ∈ before ++ [] ++ after, isBlank c = true := by
      simpa [or_imp, forall_and] using ⟨hbefore, hafter⟩
    rw [List.dropWhile_eq_nil_iff.2 hblank, List.rdropWhile_nil]
  | cons c later =>
    have hhead : ∀ d ∈ (c :: later ++ after).head?, isBlank d = false := h.head
    rw [List.append_assoc, dropWhile_blanks hbefore hhead, rdropWhile_blanks hafter h.last]

lemma isBody_iff {s body : List Char} : IsBody s body ↔ body = trim s := by
  constructor
  · exact IsBody.eq
  · rintro rfl
    exact isBody_trim s

/-! ### Numbers -/

/-- At least one character, and nothing but digits. -/
structure IsDigits (s : List Char) : Prop where
  ne_nil : s ≠ []
  isDigit : ∀ c ∈ s, c.isDigit = true

/-- The number that digits stand for by their places. -/
def placeValue (s : List Char) : Nat := Nat.ofDigits 10 (s.reverse.map digitValue)

/-- A number in decimal digits, perhaps with a plus sign before them. -/
inductive Numeral : List Char → Nat → Prop
  | bare {s : List Char} (h : IsDigits s) : Numeral s (placeValue s)
  | signed {s : List Char} (h : IsDigits s) : Numeral ('+' :: s) (placeValue s)

lemma digitsValue_eq (s : List Char) : digitsValue s = placeValue s := by
  induction s using List.reverseRecOn with
  | nil => rfl
  | append_singleton s c ih =>
    have hstep : digitsValue (s ++ [c]) = 10 * digitsValue s + digitValue c := by
      simp [digitsValue]
    rw [hstep, ih, placeValue, placeValue, List.reverse_append, List.reverse_singleton,
      List.singleton_append, List.map_cons, Nat.ofDigits_cons, Nat.add_comm]

lemma natural?_eq_some_iff {s : List Char} {n : Nat} :
    natural? s = some n ↔ IsDigits s ∧ n = placeValue s := by
  rw [natural?, ← digitsValue_eq]
  split
  · next h =>
    obtain ⟨hne, hall⟩ := h
    have hdigits : IsDigits s := ⟨hne, List.all_eq_true.1 hall⟩
    simp [hdigits, eq_comm]
  · next h =>
    have hdigits : ¬ IsDigits s := fun hdigits =>
      h ⟨hdigits.ne_nil, List.all_eq_true.2 hdigits.isDigit⟩
    simp [hdigits]

/-- Exactly numerals are read as numbers without a minus sign. -/
lemma unsigned?_eq_some_iff {s : List Char} {n : Nat} :
    unsigned? s = some n ↔ Numeral s n := by
  rw [unsigned?.eq_def]
  constructor
  · intro h
    split at h
    · obtain ⟨hdigits, rfl⟩ := natural?_eq_some_iff.1 h
      exact .signed hdigits
    · obtain ⟨hdigits, rfl⟩ := natural?_eq_some_iff.1 h
      exact .bare hdigits
  · intro h
    cases h with
    | bare h =>
      split
      · -- a plus sign is no digit
        have hplus := h.isDigit '+' List.mem_cons_self
        exact absurd hplus (by decide)
      · exact natural?_eq_some_iff.2 ⟨h, rfl⟩
    | signed h => exact natural?_eq_some_iff.2 ⟨h, rfl⟩

lemma IsDigits.exists_concat {s : List Char} (h : IsDigits s) :
    ∃ front d, s = front ++ [d] ∧ d.isDigit = true := by
  obtain ⟨front, d, rfl⟩ := (List.eq_nil_or_concat' s).resolve_left h.ne_nil
  exact ⟨front, d, rfl, h.isDigit d (by simp)⟩

/-- A numeral ends with a digit. -/
lemma Numeral.exists_concat {s : List Char} {n : Nat} (h : Numeral s n) :
    ∃ front d, s = front ++ [d] ∧ d.isDigit = true := by
  cases h with
  | bare h => exact h.exists_concat
  | signed h =>
    obtain ⟨front, d, rfl, hd⟩ := h.exists_concat
    exact ⟨'+' :: front, d, rfl, hd⟩

end Text

namespace Cli

/-! ### Amounts -/

/-- A number of units as it is written: seconds if no unit is named. -/
inductive Amount : List Char → Nat → DurationUnit → Prop
  | bare {s : List Char} {n : Nat} (h : Text.Numeral s n) : Amount s n .seconds
  | seconds {s : List Char} {n : Nat} (h : Text.Numeral s n) : Amount (s ++ ['s']) n .seconds
  | milliseconds {s : List Char} {n : Nat} (h : Text.Numeral s n) :
      Amount (s ++ ['m', 's']) n .milliseconds

section

variable {s front number : List Char} {d : Char} {n : Nat} {unit : DurationUnit}

lemma splitUnit_bare (hd : d.isDigit = true) :
    splitUnit (front ++ [d]) = (front ++ [d], .seconds) := by
  rw [splitUnit.eq_def, List.reverse_concat']
  split
  · next h =>
    obtain ⟨rfl, -⟩ := List.cons.inj h
    exact absurd hd (by decide)
  · next h =>
    obtain ⟨rfl, -⟩ := List.cons.inj h
    exact absurd hd (by decide)
  · rfl

lemma splitUnit_seconds (hd : d.isDigit = true) :
    splitUnit (front ++ [d] ++ ['s']) = (front ++ [d], .seconds) := by
  rw [splitUnit.eq_def, List.reverse_concat', List.reverse_concat']
  split
  · next h =>
    -- the unit would be milliseconds if the number ended with its first letter
    obtain ⟨rfl, -⟩ := List.cons.inj (List.cons.inj h).2
    exact absurd hd (by decide)
  · next h =>
    obtain ⟨-, rfl⟩ := List.cons.inj h
    simp
  · next h => exact absurd rfl (h _)

lemma splitUnit_milliseconds (number : List Char) :
    splitUnit (number ++ ['m', 's']) = (number, .milliseconds) := by
  have hreverse : (number ++ ['m', 's']).reverse = 's' :: 'm' :: number.reverse := by simp
  rw [splitUnit.eq_def, hreverse]
  simp

/-- A number with the unit that was split off it is an amount. -/
lemma amount_of_splitUnit (h : splitUnit s = (number, unit)) (hnumber : Text.Numeral number n) :
    Amount s n unit := by
  rw [splitUnit.eq_def] at h
  split at h
  · next rest hs =>
    obtain ⟨rfl, rfl⟩ := Prod.mk.inj h
    obtain rfl : s = rest.reverse ++ ['m', 's'] := by
      simpa using congrArg List.reverse hs
    exact .milliseconds hnumber
  · next rest _ hs =>
    obtain ⟨rfl, rfl⟩ := Prod.mk.inj h
    obtain rfl : s = rest.reverse ++ ['s'] := by
      simpa using congrArg List.reverse hs
    exact .seconds hnumber
  · obtain ⟨rfl, rfl⟩ := Prod.mk.inj h
    exact .bare hnumber

/-- Splitting the unit off finds the number of an amount. -/
lemma Amount.splitUnit (h : Amount s n unit) :
    ∃ number, Cli.splitUnit s = (number, unit) ∧ Text.Numeral number n := by
  cases h with
  | bare h =>
    obtain ⟨front, d, rfl, hd⟩ := h.exists_concat
    exact ⟨_, splitUnit_bare hd, h⟩
  | seconds h =>
    obtain ⟨front, d, rfl, hd⟩ := h.exists_concat
    exact ⟨_, splitUnit_seconds hd, h⟩
  | milliseconds h => exact ⟨_, splitUnit_milliseconds _, h⟩

/-- A text is written for one amount at most. -/
lemma Amount.unique {n' : Nat} {unit' : DurationUnit} (h : Amount s n unit)
    (h' : Amount s n' unit') : n = n' ∧ unit = unit' := by
  obtain ⟨number, hsplit, hnumber⟩ := h.splitUnit
  obtain ⟨number', hsplit', hnumber'⟩ := h'.splitUnit
  obtain ⟨rfl, rfl⟩ := Prod.mk.inj (hsplit.symm.trans hsplit')
  rw [← Text.unsigned?_eq_some_iff] at hnumber hnumber'
  exact ⟨Option.some.inj (hnumber.symm.trans hnumber'), rfl⟩

lemma Amount.ne_nil (h : Amount s n unit) : s ≠ [] := by
  cases h with
  | bare h =>
    obtain ⟨front, d, rfl, -⟩ := h.exists_concat
    simp
  | seconds h | milliseconds h => simp

/-! ### Reading -/

lemma durationOfTrimmed_of_amount (h : Amount s n unit) :
    durationOfTrimmed s =
      if 2 ^ 64 ≤ n then .error (.invalid (String.ofList s))
      else if n = 0 then .error .zero
      else .ok (unit.times n) := by
  obtain ⟨number, hsplit, hnumber⟩ := h.splitUnit
  rw [durationOfTrimmed, if_neg h.ne_nil, hsplit]
  simp only [Text.unsigned?_eq_some_iff.2 hnumber]
  rfl

lemma durationOfTrimmed_of_not_amount (hne : s ≠ []) (h : ∀ n unit, ¬ Amount s n unit) :
    durationOfTrimmed s = .error (.invalid (String.ofList s)) := by
  rw [durationOfTrimmed, if_neg hne]
  cases hsplit : splitUnit s with
  | mk number unit =>
    cases hnumber : Text.unsigned? number with
    | none => simp [hnumber]
    | some n =>
      have hamount := amount_of_splitUnit hsplit (Text.unsigned?_eq_some_iff.1 hnumber)
      exact absurd hamount (h n unit)

/-- What a text without blanks around it comes to when a duration is expected. -/
inductive DurationVerdict (s : List Char) : Except Failure Duration → Prop
  | accepted {n : Nat} {unit : DurationUnit} (h : Amount s n unit) (hpos : 0 < n)
      (hlimit : n < 2 ^ 64) : DurationVerdict s (.ok (unit.times n))
  | empty (h : s = []) : DurationVerdict s (.error (.usage "duration must not be empty"))
  | zero {unit : DurationUnit} (h : Amount s 0 unit) :
      DurationVerdict s (.error (.usage "duration must be greater than zero"))
  /-- A text that is no amount, or an amount that is too large. -/
  | invalid (hne : s ≠ []) (h : ∀ n unit, Amount s n unit → 2 ^ 64 ≤ n) :
      DurationVerdict s (.error (.usage ("invalid duration value: " ++ String.ofList s)))

lemma DurationVerdict.eq {result : Except Failure Duration} (h : DurationVerdict s result) :
    ((durationOfTrimmed s).mapError fun e => .usage e.message) = result := by
  cases h with
  | accepted h hpos hlimit =>
    rw [durationOfTrimmed_of_amount h, if_neg (by omega), if_neg (by omega)]
    rfl
  | empty h =>
    rw [durationOfTrimmed, if_pos h]
    rfl
  | zero h =>
    rw [durationOfTrimmed_of_amount h, if_neg (by omega), if_pos rfl]
    rfl
  | invalid hne h =>
    by_cases hamount : ∃ n unit, Amount s n unit
    · obtain ⟨n, unit, hamount⟩ := hamount
      rw [durationOfTrimmed_of_amount hamount, if_pos (h n unit hamount)]
      rfl
    · rw [durationOfTrimmed_of_not_amount hne (by simpa using hamount)]
      rfl

lemma exists_durationVerdict (s : List Char) : ∃ result, DurationVerdict s result := by
  by_cases hempty : s = []
  · exact ⟨_, .empty hempty⟩
  by_cases hamount : ∃ n unit, Amount s n unit
  · obtain ⟨n, unit, hamount⟩ := hamount
    by_cases hlimit : n < 2 ^ 64
    · cases n with
      | zero => exact ⟨_, .zero hamount⟩
      | succ n => exact ⟨_, .accepted hamount n.succ_pos hlimit⟩
    · refine ⟨_, .invalid hempty fun n' unit' h => ?_⟩
      obtain ⟨rfl, -⟩ := hamount.unique h
      exact not_lt.1 hlimit
  · refine ⟨_, .invalid hempty fun n unit h => ?_⟩
    exact absurd ⟨n, unit, h⟩ hamount

lemma DurationVerdict.code {f : Failure} (h : DurationVerdict s (.error f)) : f.code = .usage := by
  cases h <;> rfl

lemma readDuration_eq_iff {text : String} {result : Except Failure Duration} :
    readDuration text = result ↔ DurationVerdict (Text.trim text.toList) result := by
  constructor
  · intro h
    obtain ⟨result', h'⟩ := exists_durationVerdict (Text.trim text.toList)
    obtain rfl : result' = result := h'.eq.symm.trans h
    exact h'
  · exact DurationVerdict.eq

lemma readDuration_eq_ok_iff {text : String} {d : Duration} :
    readDuration text = .ok d ↔ duration text = .ok d := by
  rw [readDuration]
  cases duration text <;> simp [Except.mapError]

/-- Whatever a text is, there is exactly one way to take the blanks around it off, and reading it
as a duration comes to the one verdict on what is left. It is accepted exactly if a number of
seconds or milliseconds is left that is neither zero nor 2 to the 64 or more; all else is a usage
error that tells what is wrong. -/
theorem readDuration_eq_iff_verdict (text : String) :
    ∃ body, (∀ b, Text.IsBody text.toList b ↔ b = body) ∧
      (∀ result, readDuration text = result ↔ DurationVerdict body result) ∧
      ∀ f, readDuration text = .error f → f.code.number = 64 := by
  refine ⟨Text.trim text.toList, fun b => Text.isBody_iff, fun result => readDuration_eq_iff, ?_⟩
  intro f hf
  rw [(readDuration_eq_iff.1 hf).code]
  rfl

example : readDuration "\t+007ms " = .ok (.ofMilliseconds 7) := by decide +kernel

example : readDuration " 5sms" = .error (.usage "invalid duration value: 5sms") := by
  decide +kernel

end

end Cli

end ControlNode
