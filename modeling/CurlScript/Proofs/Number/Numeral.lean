import CurlScript.Number.Numeral
import Mathlib.Algebra.Order.Field.Power
import Mathlib.Data.List.Forall2
import Mathlib.Data.Nat.Digits.Defs
import Mathlib.Tactic.FieldSimp
import Mathlib.Tactic.Ring

/-!
The words that are numerals and the numbers that they write out. What is read at the start of a
text is the longest numeral that begins it.
-/

namespace CurlScript.Number

def placeValue (values : List Nat) : Nat :=
  Nat.ofDigits 10 values.reverse

structure Parts where
  negative : Bool
  whole : List Nat
  fraction : List Nat
  power : Int

def Parts.magnitude (parts : Parts) : ℚ :=
  (placeValue parts.whole + placeValue parts.fraction / 10 ^ parts.fraction.length) *
    10 ^ parts.power

def Parts.decimal (parts : Parts) : Decimal :=
  .ofParts parts.negative parts.whole parts.fraction parts.power

def Decimal.magnitude (decimal : Decimal) : ℚ :=
  decimal.digits * 10 ^ decimal.exponent

theorem digitsValue_eq (values : List Nat) : digitsValue values = placeValue values := by
  rw [placeValue, Nat.ofDigits_eq_foldr, List.foldr_reverse, digitsValue]
  simp [Nat.add_comm]

theorem placeValue_append (first second : List Nat) :
    placeValue (first ++ second) = placeValue first * 10 ^ second.length + placeValue second := by
  rw [placeValue, List.reverse_append, Nat.ofDigits_append, List.length_reverse]
  simp only [placeValue]
  ring

theorem magnitude_decimal (parts : Parts) : parts.decimal.magnitude = parts.magnitude := by
  have ten : (10 : ℚ) ≠ 0 := by norm_num
  rw [Parts.decimal, Decimal.ofParts, Decimal.magnitude, Parts.magnitude, digitsValue_eq,
    placeValue_append, zpow_sub₀ ten, zpow_natCast]
  push_cast
  field_simp

inductive Sign : List Char → Bool → Prop
  | absent : Sign [] false
  | plus : Sign ['+'] false
  | minus : Sign ['-'] true

section Words

variable (digit? : Char → Option Nat)

def Digits (text : List Char) (values : List Nat) : Prop :=
  List.Forall₂ (fun c value => digit? c = some value) text values

inductive Magnitude : List Char → List Nat → List Nat → Prop
  | whole {text values} : Digits digit? text values → text ≠ [] → Magnitude text values []
  | pointed {text values behind fraction} : Digits digit? text values → text ≠ [] →
      Digits digit? behind fraction → Magnitude (text ++ '.' :: behind) values fraction
  | fraction {behind fraction} : Digits digit? behind fraction → behind ≠ [] →
      Magnitude ('.' :: behind) [] fraction

inductive Exponent : List Char → Int → Prop
  | absent : Exponent [] 0
  | given {mark sign negative text values} : mark = 'e' ∨ mark = 'E' → Sign sign negative →
      Digits digit? text values → text ≠ [] →
      Exponent (mark :: (sign ++ text))
        (if negative then -(placeValue values : Int) else placeValue values)

inductive Numeral : List Char → Parts → Prop
  | mk {sign negative magnitude whole fraction exponent power} : Sign sign negative →
      Magnitude digit? magnitude whole fraction → Exponent digit? exponent power →
      Numeral (sign ++ (magnitude ++ exponent)) ⟨negative, whole, fraction, power⟩

structure LongestNumeral (text word : List Char) : Prop where
  begins : word <+: text
  numeral : ∃ parts, Numeral digit? word parts
  longest : ∀ other parts, Numeral digit? other parts → other <+: text →
    other.length ≤ word.length

end Words

variable {digit? : Char → Option Nat}

variable {text rest : List Char}

def numeralMarks : List Char :=
  ['+', '-', '.', 'e', 'E']

theorem Sign.chars {sign : List Char} {negative : Bool} (isSign : Sign sign negative) :
    ∀ c ∈ sign, c ∈ numeralMarks := by
  cases isSign <;> simp [numeralMarks]

theorem Digits.chars {values : List Nat} (each : Digits digit? text values) :
    ∀ c ∈ text, digit? c ≠ none := by
  induction each with
  | nil => simp
  | cons digit _ ih => simpa [digit] using ih

theorem Numeral.chars {word : List Char} {parts : Parts} (numeral : Numeral digit? word parts) :
    ∀ c ∈ word, c ∈ numeralMarks ∨ digit? c ≠ none := by
  have point : '.' ∈ numeralMarks := by decide
  obtain ⟨isSign, isMagnitude, isExponent⟩ := numeral
  simp only [List.forall_mem_append]
  refine ⟨fun c member => .inl (isSign.chars c member), ?_, ?_⟩
  · cases isMagnitude with
    | whole each _ => exact fun c member => .inr (each.chars c member)
    | pointed each _ eachFraction =>
        simp only [List.forall_mem_append, List.forall_mem_cons]
        exact ⟨fun c member => .inr (each.chars c member), .inl point,
          fun c member => .inr (eachFraction.chars c member)⟩
    | fraction each _ =>
        simp only [List.forall_mem_cons]
        exact ⟨.inl point, fun c member => .inr (each.chars c member)⟩
  · cases isExponent with
    | absent => simp
    | given isMark isSign each _ =>
        simp only [List.forall_mem_append, List.forall_mem_cons]
        refine ⟨.inl ?_, fun c member => .inl (isSign.chars c member),
          fun c member => .inr (each.chars c member)⟩
        obtain rfl | rfl := isMark <;> decide

/-! What each part of a numeral takes from a text. -/

theorem signPart_split {negative : Bool} (read : signPart text = (negative, rest)) :
    ∃ sign, text = sign ++ rest ∧ Sign sign negative := by
  unfold signPart at read
  split at read <;> cases read
  · exact ⟨['-'], rfl, .minus⟩
  · exact ⟨['+'], rfl, .plus⟩
  · exact ⟨[], rfl, .absent⟩

theorem digitRun_split {values : List Nat} (read : digitRun digit? text = (values, rest)) :
    ∃ digits, text = digits ++ rest ∧ Digits digit? digits values := by
  induction text generalizing values with
  | nil =>
      cases read
      exact ⟨[], rfl, .nil⟩
  | cons c others ih =>
      cases digit : digit? c with
      | none =>
          simp only [digitRun, digit] at read
          cases read
          exact ⟨[], rfl, .nil⟩
      | some value =>
          simp only [digitRun, digit] at read
          cases read
          obtain ⟨digits, split, each⟩ := ih rfl
          exact ⟨c :: digits, congrArg _ split, .cons digit each⟩

theorem fractionPart_split {values : List Nat} (read : fractionPart digit? text = (values, rest)) :
    values = [] ∧ text = rest ∨
      ∃ behind, text = '.' :: (behind ++ rest) ∧ Digits digit? behind values := by
  unfold fractionPart at read
  split at read
  · obtain ⟨digits, split, each⟩ := digitRun_split read
    exact .inr ⟨digits, congrArg _ split, each⟩
  · cases read
    exact .inl ⟨rfl, rfl⟩

theorem exponentPart_split {power : Int} (read : exponentPart digit? text = (power, rest)) :
    ∃ exponent, text = exponent ++ rest ∧ Exponent digit? exponent power := by
  cases text with
  | nil =>
      cases read
      exact ⟨[], rfl, .absent⟩
  | cons mark others =>
      by_cases isMark : mark = 'e' ∨ mark = 'E'
      · rcases signed : signPart others with ⟨negative, unsigned⟩
        rcases run : digitRun digit? unsigned with ⟨values, behind⟩
        obtain ⟨sign, rfl, isSign⟩ := signPart_split signed
        obtain ⟨digits, rfl, each⟩ := digitRun_split run
        simp only [exponentPart, isMark, if_true, signed, run] at read
        cases each with
        | nil =>
            cases read
            exact ⟨[], rfl, .absent⟩
        | @cons first value digits values isFirst each =>
            simp only [digitsValue_eq] at read
            cases read
            exact ⟨mark :: (sign ++ first :: digits), by simp,
              .given isMark isSign (.cons isFirst each) (List.cons_ne_nil _ _)⟩
      · simp only [exponentPart, isMark, if_false] at read
        cases read
        exact ⟨[], rfl, .absent⟩

theorem digits_eq_nil_iff {values : List Nat} (each : Digits digit? text values) :
    text = [] ↔ values = [] := by
  cases each <;> simp

theorem Magnitude.of_digits {behind : List Char} {whole fraction : List Nat}
    (eachWhole : Digits digit? text whole) (eachFraction : Digits digit? behind fraction)
    (someDigit : whole ≠ [] ∨ fraction ≠ []) :
    Magnitude digit? (text ++ '.' :: behind) whole fraction := by
  by_cases noWhole : text = []
  · have noValues : whole = [] := (digits_eq_nil_iff eachWhole).mp noWhole
    have someBehind : behind ≠ [] := by
      rw [Ne, digits_eq_nil_iff eachFraction]
      exact someDigit.resolve_left (absurd noValues)
    subst noWhole noValues
    exact .fraction eachFraction someBehind
  · exact .pointed eachWhole noWhole eachFraction

/-- What is read at the start of a text is a numeral. -/
theorem leadingNumeral_split {decimal : Decimal}
    (read : leadingNumeral digit? text = some (decimal, rest)) :
    ∃ word parts, text = word ++ rest ∧ Numeral digit? word parts ∧ decimal = parts.decimal := by
  rcases signed : signPart text with ⟨negative, unsigned⟩
  rcases run : digitRun digit? unsigned with ⟨whole, afterWhole⟩
  rcases fractionRun : fractionPart digit? afterWhole with ⟨fraction, afterFraction⟩
  rcases exponentRun : exponentPart digit? afterFraction with ⟨power, afterExponent⟩
  simp only [leadingNumeral, signed, run, fractionRun, exponentRun] at read
  obtain ⟨sign, rfl, isSign⟩ := signPart_split signed
  obtain ⟨digits, rfl, eachWhole⟩ := digitRun_split run
  obtain ⟨exponent, rfl, isExponent⟩ := exponentPart_split exponentRun
  split at read
  · cases read
  · rename_i someDigit
    cases read
    obtain ⟨rfl, rfl⟩ | ⟨behind, rfl, eachFraction⟩ := fractionPart_split fractionRun
    · have someWhole : digits ≠ [] := by
        simpa [digits_eq_nil_iff eachWhole] using someDigit
      exact ⟨_, _, by simp, .mk isSign (.whole eachWhole someWhole) isExponent, rfl⟩
    · have someValue : whole ≠ [] ∨ fraction ≠ [] := by
        by_contra none
        simp_all
      exact ⟨_, _, by simp, .mk isSign (.of_digits eachWhole eachFraction someValue) isExponent,
        rfl⟩

/-! What a word that is a numeral leaves over. -/

def MarksApart (digit? : Char → Option Nat) : Prop :=
  ∀ c ∈ numeralMarks, digit? c = none

theorem Digits.digitRun_append {values : List Nat} (each : Digits digit? text values)
    (rest : List Char) :
    digitRun digit? (text ++ rest) =
      (values ++ (digitRun digit? rest).1, (digitRun digit? rest).2) := by
  induction each with
  | nil => rfl
  | cons digit _ ih => simp [digitRun, digit, ih]

theorem signPart_sign {sign : List Char} {negative : Bool} (isSign : Sign sign negative)
    (unsigned : ∀ c ∈ text.head?, c ≠ '+' ∧ c ≠ '-') :
    signPart (sign ++ text) = (negative, text) := by
  cases isSign with
  | plus => rfl
  | minus => rfl
  | absent =>
      rw [List.nil_append, signPart.eq_3]
      · rintro others rfl
        simp at unsigned
      · rintro others rfl
        simp at unsigned

theorem digitRun_suffix (text : List Char) : (digitRun digit? text).2 <:+ text := by
  obtain ⟨digits, split, -⟩ := digitRun_split (rfl : digitRun digit? text = (_, _))
  exact ⟨digits, split.symm⟩

theorem fractionPart_suffix (text : List Char) : (fractionPart digit? text).2 <:+ text := by
  unfold fractionPart
  split
  · exact (digitRun_suffix _).trans (List.suffix_cons _ _)
  · exact List.suffix_refl _

theorem exponentPart_suffix (text : List Char) : (exponentPart digit? text).2 <:+ text := by
  obtain ⟨exponent, split, -⟩ := exponentPart_split (rfl : exponentPart digit? text = (_, _))
  exact ⟨exponent, split.symm⟩

theorem Digits.head_unsigned {values : List Nat} (apart : MarksApart digit?)
    (each : Digits digit? text values) (some : text ≠ []) :
    ∀ c ∈ (text ++ rest).head?, c ≠ '+' ∧ c ≠ '-' := by
  cases each with
  | nil => exact absurd rfl some
  | @cons first _ _ _ digit _ =>
      rintro c ⟨⟩
      constructor
      · rintro rfl
        simp [apart '+' (by decide)] at digit
      · rintro rfl
        simp [apart '-' (by decide)] at digit

variable {sign : List Char} {negative : Bool} {whole fraction : List Nat} {behind : List Char}

/-- Digits without a point behind them: more digits, a point and an exponent may follow. -/
theorem leadingNumeral_digits (apart : MarksApart digit?) (isSign : Sign sign negative)
    (each : Digits digit? text whole) (some : text ≠ []) (rest : List Char) :
    leadingNumeral digit? (sign ++ (text ++ rest)) =
      let run := digitRun digit? rest
      let fraction := fractionPart digit? run.2
      let exponent := exponentPart digit? fraction.2
      .some (.ofParts negative (whole ++ run.1) fraction.1 exponent.1, exponent.2) := by
  have someValue : whole ≠ [] := by
    rwa [Ne, ← digits_eq_nil_iff each]
  simp [leadingNumeral, signPart_sign isSign (each.head_unsigned apart some), each.digitRun_append,
    someValue]

theorem leadingNumeral_point (apart : MarksApart digit?) (isSign : Sign sign negative)
    (eachWhole : Digits digit? text whole) (eachFraction : Digits digit? behind fraction)
    (someDigit : text ≠ [] ∨ behind ≠ []) (rest : List Char) :
    leadingNumeral digit? (sign ++ (text ++ '.' :: (behind ++ rest))) =
      let run := digitRun digit? rest
      let exponent := exponentPart digit? run.2
      .some (.ofParts negative whole (fraction ++ run.1) exponent.1, exponent.2) := by
  have someValue : whole = [] → fraction ≠ [] := by
    rw [Ne, ← digits_eq_nil_iff eachWhole, ← digits_eq_nil_iff eachFraction]
    exact fun noWhole => someDigit.resolve_left (absurd noWhole)
  have unsigned : ∀ c ∈ (text ++ '.' :: (behind ++ rest)).head?, c ≠ '+' ∧ c ≠ '-' := by
    by_cases noWhole : text = []
    · simp [noWhole]
    · exact eachWhole.head_unsigned apart noWhole
  have point : digitRun digit? ('.' :: (behind ++ rest)) = ([], '.' :: (behind ++ rest)) := by
    simp [digitRun, apart '.' (by decide)]
  have noneMissing : ¬(whole.isEmpty && (fraction ++ (digitRun digit? rest).1).isEmpty) := by
    simp_all
  simp only [leadingNumeral, signPart_sign isSign unsigned, eachWhole.digitRun_append, point,
    fractionPart, eachFraction.digitRun_append, List.append_nil, noneMissing]
  rfl

theorem exponentPart_given {mark : Char} {values : List Nat} (apart : MarksApart digit?)
    (isMark : mark = 'e' ∨ mark = 'E') (isSign : Sign sign negative)
    (each : Digits digit? text values) (some : text ≠ []) (rest : List Char) :
    exponentPart digit? (mark :: (sign ++ (text ++ rest))) =
      let run := digitRun digit? rest
      let power : Int := placeValue (values ++ run.1)
      (if negative then -power else power, run.2) := by
  have someValue : values ≠ [] := by
    rwa [Ne, ← digits_eq_nil_iff each]
  obtain ⟨first, others, rfl⟩ := List.exists_cons_of_ne_nil someValue
  simp [exponentPart, isMark, signPart_sign isSign (each.head_unsigned apart some),
    each.digitRun_append, digitsValue_eq]

theorem exponentPart_exponent {exponent : List Char} {power : Int} (apart : MarksApart digit?)
    (isExponent : Exponent digit? exponent power) :
    exponentPart digit? exponent = (power, []) := by
  cases isExponent with
  | absent => rfl
  | given isMark isSign each some =>
      have whole := exponentPart_given apart isMark isSign each some []
      simpa [digitRun] using whole

/-- An exponent stays whole where what may come before it is passed over. -/
theorem exponentPart_behind {exponent : List Char} {power : Int} (apart : MarksApart digit?)
    (isExponent : Exponent digit? exponent power) (skip : List Char → List Char)
    (suffix : ∀ text, skip text <:+ text)
    (kept : ∀ mark others, mark = 'e' ∨ mark = 'E' → skip (mark :: others) = mark :: others)
    (rest : List Char) :
    (exponentPart digit? (skip (exponent ++ rest))).2 <:+ rest := by
  cases isExponent with
  | absent => exact (exponentPart_suffix _).trans (suffix _)
  | given isMark isSign each some =>
      rw [List.cons_append, kept _ _ isMark, List.append_assoc,
        exponentPart_given apart isMark isSign each some]
      exact digitRun_suffix rest

theorem digitRun_mark {mark : Char} (apart : MarksApart digit?) (isMark : mark = 'e' ∨ mark = 'E')
    (others : List Char) : digitRun digit? (mark :: others) = ([], mark :: others) := by
  have notDigit : digit? mark = none := by
    apply apart
    obtain rfl | rfl := isMark <;> decide
  simp [digitRun, notDigit]

theorem fractionPart_mark {mark : Char} (isMark : mark = 'e' ∨ mark = 'E')
    (others : List Char) : fractionPart digit? (mark :: others) = ([], mark :: others) := by
  obtain rfl | rfl := isMark <;> rfl

/-- A numeral is read in full. -/
theorem leadingNumeral_numeral {word : List Char} {parts : Parts} (apart : MarksApart digit?)
    (numeral : Numeral digit? word parts) :
    leadingNumeral digit? word = some (parts.decimal, []) := by
  cases numeral with
  | @mk sign negative magnitude whole fraction exponent power isSign isMagnitude isExponent =>
      have noRun : digitRun digit? exponent = ([], exponent) := by
        cases isExponent with
        | absent => rfl
        | given isMark => exact digitRun_mark apart isMark _
      have noPoint : fractionPart digit? exponent = ([], exponent) := by
        cases isExponent with
        | absent => rfl
        | given isMark => exact fractionPart_mark isMark _
      have wholeExponent := exponentPart_exponent apart isExponent
      cases isMagnitude with
      | whole each some =>
          rw [leadingNumeral_digits apart isSign each some]
          simp [noRun, noPoint, wholeExponent, Parts.decimal]
      | pointed each some eachFraction =>
          rw [List.append_assoc, List.cons_append,
            leadingNumeral_point apart isSign each eachFraction (.inl some)]
          simp [noRun, wholeExponent, Parts.decimal]
      | fraction each some =>
          rw [List.cons_append]
          have read := leadingNumeral_point apart isSign (.nil : Digits digit? [] []) each
            (.inr some) exponent
          simpa [noRun, wholeExponent, Parts.decimal] using read

/-- What is read at the start of a text is at least each numeral that begins it. -/
theorem leadingNumeral_suffix {word : List Char} {parts : Parts} (apart : MarksApart digit?)
    (numeral : Numeral digit? word parts) (rest : List Char) :
    ∃ decimal behind, leadingNumeral digit? (word ++ rest) = some (decimal, behind) ∧
      behind <:+ rest := by
  cases numeral with
  | @mk sign negative magnitude whole fraction exponent power isSign isMagnitude isExponent =>
      have behindRun : (exponentPart digit? (digitRun digit? (exponent ++ rest)).2).2 <:+ rest :=
        exponentPart_behind apart isExponent (fun text => (digitRun digit? text).2)
          digitRun_suffix (fun _ _ isMark => by rw [digitRun_mark apart isMark]) rest
      have behindFraction :
          (exponentPart digit? (fractionPart digit?
            (digitRun digit? (exponent ++ rest)).2).2).2 <:+ rest := by
        refine exponentPart_behind apart isExponent
          (fun text => (fractionPart digit? (digitRun digit? text).2).2) ?_ ?_ rest
        · intro text
          exact (fractionPart_suffix _).trans (digitRun_suffix text)
        · intro mark others isMark
          rw [digitRun_mark apart isMark, fractionPart_mark isMark]
      simp only [List.append_assoc]
      cases isMagnitude with
      | whole each some =>
          exact ⟨_, _, leadingNumeral_digits apart isSign each some _, behindFraction⟩
      | pointed each some eachFraction =>
          simp only [List.append_assoc, List.cons_append]
          exact ⟨_, _, leadingNumeral_point apart isSign each eachFraction (.inl some) _, behindRun⟩
      | fraction each some =>
          exact ⟨_, _, leadingNumeral_point apart isSign (.nil : Digits digit? [] []) each
            (.inr some) _, behindRun⟩

theorem leadingNumeral_eq_none_iff (apart : MarksApart digit?) :
    leadingNumeral digit? text = none ↔
      ∀ word parts, Numeral digit? word parts → ¬ word <+: text := by
  constructor
  · rintro none word parts numeral ⟨rest, rfl⟩
    obtain ⟨decimal, behind, read, -⟩ := leadingNumeral_suffix apart numeral rest
    rw [none] at read
    cases read
  · intro noPrefix
    rcases read : leadingNumeral digit? text with _ | ⟨decimal, rest⟩
    · rfl
    · obtain ⟨word, parts, split, numeral, -⟩ := leadingNumeral_split read
      exact absurd ⟨rest, split.symm⟩ (noPrefix word parts numeral)

theorem numeral?_eq (apart : MarksApart digit?) {word : List Char} {parts : Parts}
    (numeral : Numeral digit? word parts) : numeral? digit? word = some parts.decimal := by
  rw [numeral?, leadingNumeral_numeral apart numeral]

/-- What is read at the start of a text is the longest numeral there. -/
theorem leadingNumeral_longest (apart : MarksApart digit?) {decimal : Decimal}
    (read : leadingNumeral digit? text = some (decimal, rest)) :
    ∃ word, text = word ++ rest ∧ LongestNumeral digit? text word ∧
      numeral? digit? word = some decimal := by
  obtain ⟨word, parts, rfl, numeral, rfl⟩ := leadingNumeral_split read
  refine ⟨word, rfl, ⟨⟨rest, rfl⟩, ⟨parts, numeral⟩, ?_⟩, numeral?_eq apart numeral⟩
  rintro other otherParts isNumeral ⟨otherRest, split⟩
  obtain ⟨otherDecimal, behind, otherRead, suffix⟩ :=
    leadingNumeral_suffix apart isNumeral otherRest
  rw [split, read] at otherRead
  cases otherRead
  have lengths : other.length + otherRest.length = word.length + rest.length := by
    simpa using congrArg List.length split
  have shorter : rest.length ≤ otherRest.length := suffix.length_le
  omega

theorem LongestNumeral.unique {first second : List Char}
    (isFirst : LongestNumeral digit? text first) (isSecond : LongestNumeral digit? text second) :
    first = second := by
  obtain ⟨firstParts, firstNumeral⟩ := isFirst.numeral
  obtain ⟨secondParts, secondNumeral⟩ := isSecond.numeral
  have sameLength : first.length = second.length :=
    le_antisymm (isSecond.longest first firstParts firstNumeral isFirst.begins)
      (isFirst.longest second secondParts secondNumeral isSecond.begins)
  exact (List.prefix_of_prefix_length_le isFirst.begins isSecond.begins sameLength.le).eq_of_length
    sameLength

theorem LongestNumeral.leadingNumeral_eq (apart : MarksApart digit?) {word : List Char}
    {parts : Parts} (longest : LongestNumeral digit? text word)
    (numeral : Numeral digit? word parts) :
    ∃ rest, leadingNumeral digit? text = some (parts.decimal, rest) := by
  rcases read : leadingNumeral digit? text with _ | ⟨decimal, rest⟩
  · exact absurd longest.begins ((leadingNumeral_eq_none_iff apart).mp read word parts numeral)
  · obtain ⟨found, -, isLongest, whole⟩ := leadingNumeral_longest apart read
    rw [isLongest.unique longest, numeral?_eq apart numeral] at whole
    exact ⟨rest, by rw [Option.some.inj whole]⟩

end CurlScript.Number
