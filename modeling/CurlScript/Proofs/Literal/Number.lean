import CurlScript.Literal
import CurlScript.Proofs.Literal.Quote
import CurlScript.Proofs.Script.CodeText

/-!
The texts of numbers are code. Only an infinity holds a literal: it is the call of a conversion.
-/

namespace CurlScript

open Script

def isNumeral (c : Char) : Bool :=
  c.isDigit || c = '-' || c = '+' || c = '.' || c = 'e'

def IsNumeralText (text : String) : Prop :=
  ∀ c ∈ text.toList, isNumeral c = true

instance (text : String) : Decidable (IsNumeralText text) :=
  inferInstanceAs (Decidable (∀ c ∈ text.toList, isNumeral c = true))

theorem isPlain_of_isNumeral {c : Char} (numeral : isNumeral c = true) : isPlain c = true := by
  simp only [isNumeral, Bool.or_eq_true, decide_eq_true_eq] at numeral
  rcases numeral with (((digit | rfl) | rfl) | rfl) | rfl
  · exact isPlain_of_isDigit digit
  all_goals decide

namespace IsNumeralText

theorem isPlainText {text : String} (numeral : IsNumeralText text) : IsPlainText text :=
  fun c member => isPlain_of_isNumeral (numeral c member)

theorem append {first second : String} (numeral : IsNumeralText first)
    (more : IsNumeralText second) : IsNumeralText (first ++ second) := by
  intro c member
  rw [String.toList_append] at member
  exact (List.mem_append.mp member).elim (numeral c) (more c)

theorem zeros (count : Nat) : IsNumeralText (Text.repeated "0" count) := by
  induction count with
  | zero => exact (show IsNumeralText "" by decide)
  | succ count ih => exact (show IsNumeralText "0" by decide).append ih

end IsNumeralText

theorem isNumeralText_ofList {digits part : List Char} (isDigit : ∀ c ∈ digits, c.isDigit = true)
    (subset : part ⊆ digits) : IsNumeralText (String.ofList part) := by
  intro c member
  rw [String.toList_ofList] at member
  simp [isNumeral, isDigit c (subset member)]

theorem isNumeralText_nat (n : Nat) : IsNumeralText (toString n) :=
  isNumeralText_ofList (fun _ member => Nat.isDigit_of_mem_toDigits (by decide) (by decide) member)
    (List.Subset.refl _)

theorem isNumeralText_int (n : Int) : IsNumeralText (toString n) := by
  cases n with
  | ofNat n => exact isNumeralText_nat n
  | negSucc n => exact (show IsNumeralText "-" by decide).append (isNumeralText_nat (n + 1))

theorem isPlainText_int (n : Int) : IsPlainText (toString n) :=
  (isNumeralText_int n).isPlainText

namespace Number

theorem isNumeralText_exponentText (layout : Layout) (exponent : Int) :
    IsNumeralText (layout.exponentText exponent) := by
  have sign : IsNumeralText (if exponent < 0 then "-" else "+") := by
    split <;> decide
  exact (sign.append (.zeros _)).append (isNumeralText_nat _)

theorem isNumeralText_plainText {digits : List Char} (isDigit : ∀ c ∈ digits, c.isDigit = true)
    (point : Int) : IsNumeralText (plainText digits point) := by
  have whole : IsNumeralText (String.ofList digits) :=
    isNumeralText_ofList isDigit (List.Subset.refl _)
  unfold plainText
  split
  · exact ((show IsNumeralText "0." by decide).append (.zeros _)).append whole
  · split
    · exact (whole.append (.zeros _)).append (by decide)
    · have before := isNumeralText_ofList isDigit (List.take_subset point.toNat digits)
      have behind := isNumeralText_ofList isDigit (List.drop_subset point.toNat digits)
      exact (before.append (by decide)).append behind

theorem isNumeralText_leadingText {digits : List Char}
    (isDigit : ∀ c ∈ digits, c.isDigit = true) : IsNumeralText (leadingText digits) := by
  cases digits with
  | nil => exact (show IsNumeralText "" by decide)
  | cons digit rest =>
      have leading : IsNumeralText (String.singleton digit) := by
        intro c member
        rw [String.toList_singleton, List.mem_singleton] at member
        simp [isNumeral, member, isDigit digit (by simp)]
      cases rest with
      | nil => exact leading
      | cons next others =>
          have behind := isNumeralText_ofList isDigit (List.subset_cons_self digit (next :: others))
          exact (leading.append (by decide)).append behind

theorem isNumeralText_magnitude (layout : Layout) (significand : Nat) (exponent : Int) :
    IsNumeralText (layout.magnitude significand exponent) := by
  have isDigit : ∀ c ∈ Nat.toDigits 10 (shortest significand exponent).1, c.isDigit = true :=
    fun _ member => Nat.isDigit_of_mem_toDigits (by decide) (by decide) member
  unfold Layout.magnitude
  dsimp only
  split
  · exact isNumeralText_plainText isDigit _
  · have leading := isNumeralText_leadingText isDigit
    exact (leading.append (by decide)).append (isNumeralText_exponentText layout _)

theorem isNumeralText_finite (layout : Layout) (negative : Bool) (significand : Nat)
    (exponent : Int) : IsNumeralText (layout.text (.finite negative significand exponent)) := by
  have sign : IsNumeralText (if negative then "-" else "") := by
    cases negative <;> decide
  have magnitude :
      IsNumeralText (if significand = 0 then "0.0" else layout.magnitude significand exponent) := by
    split
    · decide
    · exact isNumeralText_magnitude _ _ _
  exact sign.append magnitude

end Number

namespace Literal

def doubleTexts : Number.Double → List String
  | .infinite negative => [if negative then "-inf" else "inf"]
  | _ => []

theorem code_ofDouble (opened : List Char) (value : Number.Double) :
    Code opened (ofDouble value).toList ((doubleTexts value).map literalOf) opened := by
  cases value with
  | finite negative significand exponent =>
      exact .ofPlain (Number.isNumeralText_finite _ negative significand exponent).isPlainText
  | infinite negative =>
      have call : ∀ text, Code opened ("float(" ++ quote text ++ ")").toList [literalOf text]
          opened := by
        intro text
        have call : Code opened "float(".toList [] ('(' :: opened) := .ofChars rfl
        exact (call.after_text (code_quote _ text)).before_text (.ofChars rfl)
      cases negative with
      | false => exact call "inf"
      | true => exact call "-inf"
  | undefined => exact .ofChars rfl

end Literal

end CurlScript
