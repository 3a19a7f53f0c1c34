import CurlScript.Json.Token

/-!
Numbers of JSON text in front of another text, and the integers that their own texts give back.
-/

namespace CurlScript

open Text

def EndsNumber (rest : List Char) : Prop :=
  ∀ c ∈ rest.head?, c.isDigit = false ∧ c ∉ ['.', 'e', 'E', '+', '-']

theorem isDigit_eq (c : Char) : c.isDigit = (asciiDigit? c).isSome := by
  unfold asciiDigit? Char.isDigit
  split <;> simp_all [Char.le_def]

theorem asciiDigit?_eq_none {c : Char} (notDigit : c.isDigit = false) : asciiDigit? c = none := by
  rw [isDigit_eq] at notDigit
  simpa using notDigit

namespace Number

variable {rest : List Char}

theorem digitRun_append (ends : EndsNumber rest) (text : List Char) :
    digitRun asciiDigit? (text ++ rest) =
      ((digitRun asciiDigit? text).1, (digitRun asciiDigit? text).2 ++ rest) := by
  induction text with
  | nil =>
      cases rest with
      | nil => rfl
      | cons c others => simp [digitRun, asciiDigit?_eq_none (ends c rfl).1]
  | cons c others ih =>
      cases digit : asciiDigit? c <;> simp [digitRun, digit, ih]

theorem signPart_append (ends : EndsNumber rest) (text : List Char) :
    signPart (text ++ rest) = ((signPart text).1, (signPart text).2 ++ rest) := by
  cases text with
  | nil =>
      cases rest with
      | nil => rfl
      | cons c others =>
          obtain ⟨-, notSign⟩ := ends c rfl
          rw [List.nil_append, signPart.eq_3]
          · rfl
          · rintro _ ⟨⟩
            simp at notSign
          · rintro _ ⟨⟩
            simp at notSign
  | cons c others =>
      rw [List.cons_append]
      unfold signPart
      split <;> split <;> simp_all

theorem exponentPart_append (ends : EndsNumber rest) (text : List Char) :
    exponentPart asciiDigit? (text ++ rest) =
      ((exponentPart asciiDigit? text).1, (exponentPart asciiDigit? text).2 ++ rest) := by
  cases text with
  | nil =>
      cases rest with
      | nil => rfl
      | cons c others =>
          obtain ⟨-, notMark⟩ := ends c rfl
          have noExponent : ¬(c = 'e' ∨ c = 'E') := by
            rintro (rfl | rfl) <;> simp at notMark
          simp [exponentPart, noExponent]
  | cons mark others =>
      by_cases isMark : mark = 'e' ∨ mark = 'E'
      · simp only [List.cons_append, exponentPart, isMark, if_true, signPart_append ends,
          digitRun_append ends]
        split <;> split <;> simp_all
      · simp [exponentPart, isMark]

end Number

namespace Json

variable {rest : List Char}

theorem wholePart_append (ends : EndsNumber rest) {text afterWhole : List Char} {whole : List Nat}
    (read : wholePart text = some (whole, afterWhole)) :
    wholePart (text ++ rest) = some (whole, afterWhole ++ rest) := by
  cases text with
  | nil => simp [wholePart, Number.digitRun] at read
  | cons c others =>
      by_cases zero : c = '0'
      · subst zero
        obtain ⟨rfl, rfl⟩ : [0] = whole ∧ others = afterWhole := by simpa [wholePart] using read
        rfl
      · have noZero : ∀ tail, c :: others = '0' :: tail → False := by
          rintro _ ⟨⟩
          exact zero rfl
        have noZeroAppend : ∀ tail, c :: (others ++ rest) = '0' :: tail → False := by
          rintro _ ⟨⟩
          exact zero rfl
        rw [wholePart.eq_2 _ noZero] at read
        rw [List.cons_append, wholePart.eq_2 _ noZeroAppend, ← List.cons_append,
          Number.digitRun_append ends]
        rcases run : Number.digitRun asciiDigit? (c :: others) with ⟨_ | ⟨digit, digits⟩, behind⟩
        · simp [run] at read
        · simp only [run, Option.some.injEq, Prod.mk.injEq] at read
          simp [← read.1, ← read.2]

theorem fractionDigits_append (ends : EndsNumber rest) (text : List Char) :
    fractionDigits (text ++ rest) = ((fractionDigits text).1, (fractionDigits text).2 ++ rest) := by
  cases text with
  | nil =>
      cases rest with
      | nil => rfl
      | cons c others =>
          obtain ⟨-, notPoint⟩ := ends c rfl
          rw [List.nil_append, fractionDigits.eq_2]
          · rfl
          · rintro _ ⟨⟩
            simp at notPoint
  | cons c others =>
      by_cases isPoint : c = '.'
      · subst isPoint
        simp only [List.cons_append, fractionDigits, Number.digitRun_append ends]
        rcases Number.digitRun asciiDigit? others with ⟨_ | ⟨digit, digits⟩, behind⟩ <;> rfl
      · rw [fractionDigits.eq_2, List.cons_append, fractionDigits.eq_2]
        · rfl
        · rintro _ ⟨⟩
          exact isPoint rfl
        · rintro _ ⟨⟩
          exact isPoint rfl

def unsigned? (negative : Bool) (text : List Char) : Option (Json × List Char) := do
  let (whole, afterWhole) ← wholePart text
  let (fraction, afterFraction) := fractionDigits afterWhole
  let (exponent, rest) := Number.exponentPart asciiDigit? afterFraction
  if fraction.isEmpty && rest.length == afterFraction.length then
    if Number.integerDigits < whole.length then none
    else
      let magnitude : Int := Number.digitsValue whole
      some (.int (if negative then -magnitude else magnitude), rest)
  else some (.float (.nearest (.ofParts negative whole fraction exponent)), rest)

theorem number?_minus (text : List Char) : number? ('-' :: text) = unsigned? true text := rfl

theorem number?_eq_unsigned? {text : List Char} (unsigned : text.head? ≠ some '-') :
    number? text = unsigned? false text := by
  cases text with
  | nil => rfl
  | cons c others =>
      have notMinus : c ≠ '-' := by simpa using unsigned
      unfold number? unsigned?
      simp [notMinus]

theorem unsigned?_append (ends : EndsNumber rest) {text behind : List Char} {value : Json}
    {negative : Bool} (read : unsigned? negative text = some (value, behind)) :
    unsigned? negative (text ++ rest) = some (value, behind ++ rest) := by
  unfold unsigned? at read ⊢
  rcases whole : wholePart text with _ | ⟨digits, afterWhole⟩
  · simp [whole] at read
  · rw [whole] at read
    rw [wholePart_append ends whole]
    simp only [Option.bind_eq_bind, Option.bind_some, fractionDigits_append ends,
      Number.exponentPart_append ends, List.length_append] at read ⊢
    have sameLength (a b : Nat) : (a + rest.length == b + rest.length) = (a == b) := by
      rw [Bool.eq_iff_iff]
      simp
    rw [sameLength]
    split at read
    · split at read
      · exact absurd read (by simp)
      · obtain ⟨rfl, rfl⟩ := Prod.mk.inj (Option.some.inj read)
        simp_all
    · obtain ⟨rfl, rfl⟩ := Prod.mk.inj (Option.some.inj read)
      simp_all

/-- A number is read from the start of a text, whatever follows that does not go on with it. -/
theorem number?_append (ends : EndsNumber rest) {text behind : List Char} {value : Json}
    (read : number? text = some (value, behind)) :
    number? (text ++ rest) = some (value, behind ++ rest) := by
  by_cases minus : text.head? = some '-'
  · obtain ⟨unsigned, rfl⟩ := List.head?_eq_some_iff.mp minus
    rw [number?_minus] at read
    rw [List.cons_append, number?_minus]
    exact unsigned?_append ends read
  · rw [number?_eq_unsigned? minus] at read
    have unsignedAppend : (text ++ rest).head? ≠ some '-' := by
      cases text with
      | nil => simp [unsigned?, wholePart, Number.digitRun] at read
      | cons c others => exact minus
    rw [number?_eq_unsigned? unsignedAppend]
    exact unsigned?_append ends read

theorem isDigit_of_wholePart {c : Char} {text behind : List Char} {whole : List Nat}
    (read : wholePart (c :: text) = some (whole, behind)) : c.isDigit = true := by
  by_cases zero : c = '0'
  · subst zero
    rfl
  · rw [isDigit_eq]
    cases digit : asciiDigit? c with
    | none => simp [wholePart, zero, Number.digitRun, digit] at read
    | some value => rfl

/-- A number begins with its sign or with a digit. -/
theorem head_of_number? {text behind : List Char} {value : Json}
    (read : number? text = some (value, behind)) :
    ∃ c rest, text = c :: rest ∧ (c = '-' ∨ c.isDigit = true) := by
  cases text with
  | nil =>
      rw [number?_eq_unsigned? (by simp)] at read
      cases read
  | cons c rest =>
      refine ⟨c, rest, rfl, ?_⟩
      by_cases minus : c = '-'
      · exact .inl minus
      · rw [number?_eq_unsigned? (by simpa using minus), unsigned?, Option.bind_eq_bind,
          Option.bind_eq_some_iff] at read
        obtain ⟨_, whole, -⟩ := read
        exact .inr (isDigit_of_wholePart whole)

end Json

/-! Integers that their own texts give back. -/

namespace Number

theorem asciiDigit?_of_isDigit {c : Char} (isDigit : c.isDigit = true) :
    asciiDigit? c = some (c.toNat - 48) := by
  rw [isDigit_eq] at isDigit
  unfold asciiDigit? at isDigit ⊢
  split at isDigit
  · simp_all
  · cases isDigit

theorem digitRun_digits {digits : List Char} (isDigit : ∀ c ∈ digits, c.isDigit = true) :
    digitRun asciiDigit? digits = (digits.map fun c => c.toNat - 48, []) := by
  induction digits with
  | nil => rfl
  | cons c rest ih =>
      rw [List.forall_mem_cons] at isDigit
      simp [digitRun, asciiDigit?_of_isDigit isDigit.1, ih isDigit.2]

theorem digitsValue_digits (digits : List Char) :
    digitsValue (digits.map fun c => c.toNat - 48) = Nat.ofDigitChars 10 digits 0 := by
  rw [digitsValue, List.foldl_map]
  rfl

theorem isDigit_of_mem_toDigits {n : Nat} {c : Char} (member : c ∈ Nat.toDigits 10 n) :
    c.isDigit = true :=
  Nat.isDigit_of_mem_toDigits (by decide) (by decide) member

theorem head?_toDigits {n : Nat} (positive : 0 < n) : (Nat.toDigits 10 n).head? ≠ some '0' := by
  induction n using Nat.strongRecOn with
  | ind n ih =>
      rw [Nat.toDigits_eq_if (by decide)]
      split
      · have single : ∀ digit < 10, 0 < digit → [Nat.digitChar digit].head? ≠ some '0' := by
          decide
        exact single n ‹_› positive
      · have shorter := ih (n / 10) (by omega) (by omega)
        have nonempty : Nat.toDigits 10 (n / 10) ≠ [] := Nat.toDigits_ne_nil
        rwa [List.head?_append, List.head?_eq_some_head nonempty, Option.some_or,
          ← List.head?_eq_some_head nonempty]

end Number

namespace Json

theorem wholePart_toDigits (n : Nat) :
    wholePart (Nat.toDigits 10 n) =
      some ((Nat.toDigits 10 n).map fun c => c.toNat - 48, []) := by
  rcases Nat.eq_zero_or_pos n with rfl | positive
  · rfl
  · have first := Number.head?_toDigits positive
    rw [wholePart.eq_2, Number.digitRun_digits fun c => Number.isDigit_of_mem_toDigits]
    · split
      · simp_all [Nat.toDigits_ne_nil]
      · rfl
    · intro rest same
      rw [same] at first
      exact first rfl

theorem unsigned?_toDigits (negative : Bool) {n : Nat}
    (short : (Nat.toDigits 10 n).length ≤ Number.integerDigits) :
    unsigned? negative (Nat.toDigits 10 n) =
      some (.int (if negative then -(n : Int) else n), []) := by
  have value : Number.digitsValue ((Nat.toDigits 10 n).map fun c => c.toNat - 48) = n := by
    rw [Number.digitsValue_digits, Nat.ofDigitChars_toDigits (by decide) (by decide)]
  have fits : ¬Number.integerDigits < (Nat.toDigits 10 n).length := by omega
  simp [unsigned?, wholePart_toDigits, fractionDigits, Number.exponentPart, fits, value]

theorem toList_toString_nat (n : Nat) : (toString n).toList = Nat.toDigits 10 n := by
  rw [Nat.toString_eq_repr, Nat.repr_eq_ofList_toDigits, String.toList_ofList]

/-- The text of an integer reads back as it, unless it is too long to be read at all. -/
theorem number?_toString {n : Int}
    (short : (Nat.toDigits 10 n.natAbs).length ≤ Number.integerDigits) :
    number? (toString n).toList = some (.int n, []) := by
  cases n with
  | ofNat n =>
      have unsigned : (toString n).toList.head? ≠ some '-' := by
        intro minus
        rw [toList_toString_nat] at minus
        have isDigit := Number.isDigit_of_mem_toDigits (List.mem_of_head? minus)
        exact absurd isDigit (by decide)
      exact (number?_eq_unsigned? unsigned).trans (by
        rw [toList_toString_nat]
        exact unsigned?_toDigits false short)
  | negSucc n =>
      have minus : (toString (Int.negSucc n)).toList = '-' :: Nat.toDigits 10 (n + 1) := by
        rw [← toList_toString_nat]
        exact String.toList_append
      exact minus ▸ unsigned?_toDigits true short

end Json

end CurlScript
