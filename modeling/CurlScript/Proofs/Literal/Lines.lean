import CurlScript.Proofs.Literal.Number
import CurlScript.Proofs.Literal.ShortString

/-!
Indentation and line ends: the literals of numbers have no line end, and those of texts only the
ones of the text.
-/

namespace CurlScript.Literal

open Text

theorem toList_indentation (depth : Nat) :
    (indentation depth).toList = List.replicate (4 * depth) ' ' := by
  change (repeated "    " depth).toList = _
  induction depth with
  | zero => rfl
  | succ depth ih =>
      rw [repeated, String.toList_append, ih, Nat.mul_succ, Nat.add_comm, List.replicate_add]
      rfl

theorem break_not_mem_quote {text : String} (unbroken : '\n' ∉ text.toList) :
    '\n' ∉ (quote text).toList := by
  have body : '\n' ∉ quoteBody text.toList := by
    unfold quoteBody
    split
    · exact unbroken
    · rw [escapeQuotes_eq_protect]
      exact fun member => unbroken (mem_of_mem_protect (by decide) member)
  rw [quote, String.toList_ofList, quoteChars_eq]
  rcases quoteMark_isQuote text.toList with mark | mark <;> simp [mark, body]

theorem break_not_mem_of_isNumeralText {text : String} (numeral : IsNumeralText text) :
    '\n' ∉ text.toList := by
  intro member
  exact absurd (numeral '\n' member) (by decide)

theorem break_not_mem_ofDouble (value : Number.Double) : '\n' ∉ (ofDouble value).toList := by
  cases value with
  | finite negative significand exponent =>
      exact break_not_mem_of_isNumeralText
        (Number.isNumeralText_finite _ negative significand exponent)
  | infinite negative => cases negative <;> decide
  | undefined => decide

end CurlScript.Literal
