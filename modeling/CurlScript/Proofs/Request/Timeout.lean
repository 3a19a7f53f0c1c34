import CurlScript.Proofs.Number.Rounding
import CurlScript.Proofs.Text.Blank
import CurlScript.Request.Timeout

/-!
A timeout is the longest numeral that the text begins with, whatever follows it, and it is the
double that is nearest to that numeral.
-/

namespace CurlScript.Timeout

open Number Text

theorem marksApart_digitValue? : MarksApart digitValue? := by
  unfold MarksApart
  decide

/-- No range of white space meets the digits of a script. -/
theorem digitZeros_apart :
    ∀ range ∈ blankRanges, ∀ start ∈ digitZeros, range.2 < start ∨ start + 10 ≤ range.1 := by
  decide

theorem digitValue?_eq_none {c : Char} (blank : isBlank c = true) : digitValue? c = none := by
  obtain ⟨range, member, inside⟩ := List.any_eq_true.mp blank
  simp only [Bool.and_eq_true, decide_eq_true_eq] at inside
  simp only [digitValue?, Option.map_eq_none_iff, List.find?_eq_none, Bool.and_eq_true,
    decide_eq_true_eq]
  intro start isStart
  have apart := digitZeros_apart range member start isStart
  omega

theorem trim_numeral {word : List Char} {parts : Parts}
    (numeral : Numeral digitValue? word parts) : Text.trim word = word := by
  have notBlank : ∀ c ∈ word, isBlank c = false := by
    intro c member
    rcases numeral.chars c member with mark | digit
    · have marks : ∀ c ∈ numeralMarks, isBlank c = false := by decide
      exact marks c mark
    · exact Bool.eq_false_iff.mpr (mt digitValue?_eq_none digit)
  exact trim_eq_self (fun c first => notBlank c (List.mem_of_mem_head? first))
    (fun c last => notBlank c (List.mem_of_mem_getLast? last))

theorem read?_eq {text : String} {decimal : Decimal} {rest : List Char}
    (read : leadingNumeral digitValue? (Text.trim text.toList) = some (decimal, rest)) :
    read? text =
      if (Double.nearest decimal).isFinite then some (Double.nearest decimal) else none := by
  simp only [read?, read]

/-- What follows the longest numeral does not count, and the numeral itself is always read. -/
theorem read?_longest (text : String) :
    ((∀ word parts, Numeral digitValue? word parts → ¬ word <+: Text.trim text.toList) →
      read? text = none) ∧
    (∀ word parts, Numeral digitValue? word parts → word <+: Text.trim text.toList →
      ∃ longest, LongestNumeral digitValue? (Text.trim text.toList) longest) ∧
    ∀ word parts, LongestNumeral digitValue? (Text.trim text.toList) word →
      Numeral digitValue? word parts →
      ∃ seconds, (numeral? digitValue? word).map Double.nearest = some seconds ∧
        Rounded parts.negative parts.magnitude seconds ∧
        read? text = (if seconds.isFinite then some seconds else none) ∧
        read? (String.ofList word) = read? text := by
  have apart : MarksApart digitValue? := marksApart_digitValue?
  refine ⟨?_, ?_, ?_⟩
  · intro noNumeral
    simp only [read?, (leadingNumeral_eq_none_iff apart).mpr noNumeral]
  · intro word parts numeral begins
    rcases read : leadingNumeral digitValue? (Text.trim text.toList) with _ | ⟨decimal, rest⟩
    · exact absurd begins ((leadingNumeral_eq_none_iff apart).mp read word parts numeral)
    · obtain ⟨longest, -, isLongest, -⟩ := leadingNumeral_longest apart read
      exact ⟨longest, isLongest⟩
  · intro word parts longest numeral
    obtain ⟨rest, read⟩ := longest.leadingNumeral_eq apart numeral
    have readAlone : leadingNumeral digitValue? (Text.trim (String.ofList word).toList) =
        some (parts.decimal, []) := by
      rw [String.toList_ofList, trim_numeral numeral, leadingNumeral_numeral apart numeral]
    refine ⟨Double.nearest parts.decimal, ?_, ?_, read?_eq read, ?_⟩
    · rw [numeral?_eq apart numeral, Option.map_some]
    · rw [← magnitude_decimal]
      exact rounded_nearest parts.decimal
    · rw [read?_eq readAlone, read?_eq read]

theorem read?_longest_incompleteExponent :
    read? "e+5" = none ∧
      LongestNumeral digitValue? (Text.trim " 2.5e+s".toList) "2.5".toList ∧
      Numeral digitValue? "2.5".toList ⟨false, [2], [5], 0⟩ ∧
      read? " 2.5e+s" = some (.finite false (5 * 2 ^ 50) (-51)) ∧
      read? "2.5" = read? " 2.5e+s" := by
  have apart : MarksApart digitValue? := marksApart_digitValue?
  have noNumeral : ∀ word parts, Numeral digitValue? word parts →
      ¬ word <+: Text.trim "e+5".toList :=
    (leadingNumeral_eq_none_iff apart).mp (by decide)
  have numeral : Numeral digitValue? "2.5".toList ⟨false, [2], [5], 0⟩ :=
    .mk .absent (.pointed (.cons (by decide) .nil) (by decide) (.cons (by decide) .nil)) .absent
  have longest : LongestNumeral digitValue? (Text.trim " 2.5e+s".toList) "2.5".toList := by
    have read : leadingNumeral digitValue? (Text.trim " 2.5e+s".toList) =
        some (⟨false, 25, -1⟩, "e+s".toList) := by decide
    obtain ⟨word, split, isLongest, -⟩ := leadingNumeral_longest apart read
    have wordEq : "2.5".toList = word := List.append_cancel_right (by rw [← split]; decide)
    rwa [wordEq]
  obtain ⟨seconds, converted, -, read, alone⟩ :=
    (read?_longest " 2.5e+s").2.2 _ _ longest numeral
  have secondsEq : Double.finite false (5 * 2 ^ 50) (-51) = seconds := by
    refine Option.some.inj (Eq.trans ?_ converted)
    decide
  subst secondsEq
  exact ⟨(read?_longest "e+5").1 noNumeral, longest, numeral, read, alone⟩

example : ["5s", "5e", "5e+", "5.x", "+5"].map read? =
    List.replicate 5 (some (.finite false (5 * 2 ^ 50) (-50))) := by
  decide

end CurlScript.Timeout
