import CurlScript.Literal
import CurlScript.Proofs.Script.Code

/-!
The literals of texts: which texts stand in their literal with nothing of them outside.
-/

namespace CurlScript.Literal

open Text Script

def inDouble (text : List Char) : Bool :=
  text.contains '\'' && !text.contains '"'

def quoteMark (text : List Char) : Char :=
  if inDouble text then '"' else '\''

def quoteBody (text : List Char) : List Char :=
  if inDouble text then text else escapeQuotes text

/-- The text from left to right, each backslash taken together with the character after it: there
is no line end but after a backslash, and no backslash at the end. In a text with `both` kinds of
quotes there is also no single quote after a backslash. -/
def quotableChars (both : Bool) : List Char → Bool
  | [] => true
  | '\\' :: c :: rest => !(both && c == '\'') && quotableChars both rest
  | c :: rest => c ≠ '\\' && c ≠ '\n' && quotableChars both rest

def Quotable (text : String) : Prop :=
  quotableChars (text.toList.contains '\'' && text.toList.contains '"')
    (unifyLines text.toList) = true

instance (text : String) : Decidable (Quotable text) :=
  inferInstanceAs (Decidable (_ = true))

def literalOf (text : String) : StringLiteral :=
  ⟨quoteMark text.toList, unifyLines (quoteBody text.toList), false⟩

theorem quoteChars_eq (text : List Char) :
    quoteChars text = quoteMark text :: quoteBody text ++ quoteMark text :: [] := by
  unfold quoteChars quoteMark quoteBody inDouble
  split <;> rfl

theorem quoteMark_isQuote (text : List Char) : quoteMark text = '\'' ∨ quoteMark text = '"' := by
  unfold quoteMark
  split
  · exact .inr rfl
  · exact .inl rfl

theorem code_quote (opened : List Char) (text : String) :
    Code opened (quote text).toList [literalOf text] opened := by
  rw [quote, String.toList_ofList, quoteChars_eq]
  exact .literal (quoteBody text.toList) (quoteMark_isQuote text.toList) (by simp) .nil

theorem escapeQuotes_eq_self {text : List Char} (absent : '\'' ∉ text) :
    escapeQuotes text = text := by
  induction text with
  | nil => rfl
  | cons c rest ih =>
      simp only [List.mem_cons, not_or] at absent
      rw [escapeQuotes, if_neg (Ne.symm absent.1), ih absent.2]

theorem head?_escapeQuotes {text : List Char} (first : text.head? ≠ some '\n') :
    (escapeQuotes text).head? ≠ some '\n' := by
  cases text with
  | nil => simp [escapeQuotes]
  | cons c rest =>
      rw [escapeQuotes]
      split
      · simp
      · simpa using first

theorem unifyLines_escapeQuotes (text : List Char) :
    unifyLines (escapeQuotes text) = escapeQuotes (unifyLines text) := by
  fun_induction unifyLines text with
  | case1 => rfl
  | case2 rest ih => simp [escapeQuotes, unifyLines, ih]
  | case3 c rest noPair ih =>
      by_cases isReturn : c = '\r'
      · have first : rest.head? ≠ some '\n' := by
          intro start
          obtain ⟨more, rfl⟩ := List.head?_eq_some_iff.mp start
          exact noPair more isReturn rfl
        have split := unifyLines_append (head?_escapeQuotes first) ['\r']
        simp only [isReturn, escapeQuotes]
        simpa [unifyLines, ih] using split
      · by_cases isQuote : c = '\''
        · simp [isQuote, escapeQuotes, unifyLines, ih]
        · simp only [isReturn, isQuote, escapeQuotes, if_false]
          rw [unifyLines_cons isReturn, ih]

theorem isBody_of_absent {mark : Char} {text : List Char} (absent : mark ∉ text) :
    isBody mark text = quotableChars false text := by
  fun_induction quotableChars false text with
  | case1 => rfl
  | case2 c rest ih =>
      simp only [List.mem_cons, not_or] at absent
      simp [isBody, ih absent.2.2]
  | case3 c rest noPair ih =>
      simp only [List.mem_cons, not_or] at absent
      rw [isBody.eq_3 _ _ _ noPair, ih absent.2]
      simp [Ne.symm absent.1]

theorem isBody_escapeQuotes (text : List Char) :
    isBody '\'' (escapeQuotes text) = quotableChars true text := by
  fun_induction quotableChars true text with
  | case1 => rfl
  | case2 c rest ih =>
      by_cases isQuote : c = '\''
      · simp [isQuote, escapeQuotes, isBody]
      · simp [isQuote, escapeQuotes, isBody, ih]
  | case3 c rest noPair ih =>
      by_cases isQuote : c = '\''
      · simp [isQuote, escapeQuotes, isBody, ih]
      · by_cases backslash : c = '\\'
        · cases rest with
          | nil => simp [backslash, escapeQuotes, isBody]
          | cons d more => exact absurd rfl (noPair d more backslash)
        · rw [escapeQuotes, if_neg isQuote, isBody.eq_3, ih]
          · simp [isQuote]
          · intro d more same
            exact absurd same backslash

theorem mem_unifyLines_iff {c : Char} (notReturn : c ≠ '\r') (notBreak : c ≠ '\n')
    (text : List Char) : c ∈ unifyLines text ↔ c ∈ text := by
  fun_induction unifyLines text with
  | case1 => simp
  | case2 rest ih => simp [notReturn, notBreak, ih]
  | case3 d rest noPair ih =>
      by_cases isReturn : d = '\r'
      · simp [isReturn, notReturn, notBreak, ih]
      · simp [isReturn, ih]

theorem sound_literalOf_iff (text : String) : (literalOf text).Sound ↔ Quotable text := by
  have bodyEq : isBody (quoteMark text.toList) (unifyLines (quoteBody text.toList)) =
      quotableChars (text.toList.contains '\'' && text.toList.contains '"')
        (unifyLines text.toList) := by
    by_cases single : '\'' ∈ text.toList
    · by_cases double : '"' ∈ text.toList
      · have inSingle : inDouble text.toList = false := by simp [inDouble, double]
        rw [quoteMark, quoteBody, inSingle]
        simp [single, double, unifyLines_escapeQuotes, isBody_escapeQuotes]
      · have isInDouble : inDouble text.toList = true := by simp [inDouble, single, double]
        have absent : '"' ∉ unifyLines text.toList := by
          rwa [mem_unifyLines_iff (by decide) (by decide)]
        rw [quoteMark, quoteBody, isInDouble]
        simp [double, isBody_of_absent absent]
    · have inSingle : inDouble text.toList = false := by simp [inDouble, single]
      have absent : '\'' ∉ unifyLines text.toList := by
        rwa [mem_unifyLines_iff (by decide) (by decide)]
      rw [quoteMark, quoteBody, inSingle]
      simp [single, escapeQuotes_eq_self single, isBody_of_absent absent]
  rw [StringLiteral.Sound, Quotable, ← bodyEq]
  exact and_iff_right rfl

end CurlScript.Literal
