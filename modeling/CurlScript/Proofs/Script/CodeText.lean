import CurlScript.Literal
import CurlScript.Proofs.Script.Code
import CurlScript.Proofs.Text.Blank

/-!
Putting code together: fixed texts, whose brackets are followed by evaluation, and what stands
before, between and after them.
-/

namespace CurlScript.Script

open Text

def openAfter (opened : List Char) : List Char → Option (List Char)
  | [] => some opened
  | c :: rest =>
    if isPlain c then openAfter opened rest
    else if (closerOf? c).isSome then openAfter (c :: opened) rest
    else
      match opened with
      | opener :: outer => if closerOf? opener = some c then openAfter outer rest else none
      | [] => none

theorem isPlain_iff (c : Char) :
    isPlain c = true ↔ c ∉ ['\r', '#', '\'', '"', '(', '[', '\x7b', ')', ']', '\x7d'] := by
  have opener : (closerOf? c).isNone = true ↔ c ∉ ['(', '[', '\x7b'] := by
    unfold closerOf?
    split <;> simp_all
  simp only [isPlain, opener, isCloser, Bool.and_eq_true, Bool.not_eq_true', Bool.or_eq_false_iff,
    decide_eq_true_eq, decide_eq_false_iff_not, List.mem_cons, List.not_mem_nil, or_false, not_or,
    ne_eq, and_assoc]

theorem isPlain_of_isDigit {c : Char} (digit : c.isDigit = true) : isPlain c = true := by
  rw [isPlain_iff]
  intro special
  have noDigit : ∀ c ∈ ['\r', '#', '\'', '"', '(', '[', '\x7b', ')', ']', '\x7d'],
      c.isDigit = false := by
    decide
  simp [noDigit c special] at digit

def IsPlainText (text : String) : Prop :=
  ∀ c ∈ text.toList, isPlain c = true

instance (text : String) : Decidable (IsPlainText text) :=
  inferInstanceAs (Decidable (∀ c ∈ text.toList, isPlain c = true))

theorem IsPlainText.append {first second : String} (plain : IsPlainText first)
    (more : IsPlainText second) : IsPlainText (first ++ second) := by
  intro c member
  rw [String.toList_append] at member
  exact (List.mem_append.mp member).elim (plain c) (more c)

theorem IsPlainText.repeated {text : String} (plain : IsPlainText text) (count : Nat) :
    IsPlainText (Text.repeated text count) := by
  induction count with
  | zero => exact (show IsPlainText "" by decide)
  | succ count ih => exact plain.append ih

theorem isPlainText_indentation (depth : Nat) : IsPlainText (Literal.indentation depth) :=
  (show IsPlainText Literal.indentUnit by decide).repeated depth

namespace Code

variable {before middle after opened : List Char} {found others : List StringLiteral}

theorem ofChars {text : List Char} (brackets : openAfter before text = some after) :
    Code before text [] after := by
  fun_induction openAfter before text with
  | case1 opened =>
      obtain rfl := Option.some.inj brackets
      exact .nil
  | case2 opened c rest isPlain ih => exact .plain isPlain (ih brackets)
  | case3 opened c rest notPlain opens ih => exact .opening opens (ih brackets)
  | case4 c rest notPlain notOpener opener outer closes ih => exact .closing closes (ih brackets)
  | case5 => simp at brackets
  | case6 => simp at brackets

theorem ofPlain {text : List Char} (plain : ∀ c ∈ text, isPlain c = true) :
    Code opened text [] opened := by
  induction text with
  | nil => exact .nil
  | cons c rest ih =>
      obtain ⟨isPlain, restPlain⟩ := List.forall_mem_cons.mp plain
      exact .plain isPlain (ih restPlain)

theorem not_quote_of_mem {text : List Char} (code : Code before text [] after) :
    ∀ c ∈ text, c ≠ '\'' ∧ c ≠ '"' := by
  have unquoted : ∀ {c : Char}, c ∉ ['\r', '#', '\'', '"'] → c ≠ '\'' ∧ c ≠ '"' := by
    simp
  generalize none : ([] : List StringLiteral) = found at code
  induction code with
  | nil => simp
  | plain isPlain _ ih =>
      have notSpecial := not_special_of_isPlain isPlain
      exact List.forall_mem_cons.mpr ⟨unquoted notSpecial, ih none⟩
  | opening opens _ ih =>
      have notSpecial := List.not_mem_of_not_mem_cons (not_special_of_closerOf? opens)
      exact List.forall_mem_cons.mpr ⟨unquoted notSpecial, ih none⟩
  | closing closes _ ih =>
      have notSpecial := List.not_mem_of_not_mem_cons (isCloser_of_closerOf? closes).2.2
      exact List.forall_mem_cons.mpr ⟨unquoted notSpecial, ih none⟩
  | literal => simp at none

theorem after_text {text more : String} (first : Code before text.toList [] middle)
    (second : Code middle more.toList found after) :
    Code before (text ++ more).toList found after := by
  rw [String.toList_append]
  apply first.append second
  intro mark last isQuote
  have notQuote := first.not_quote_of_mem mark (List.mem_of_getLast? last)
  exact absurd isQuote (by simp [notQuote])

theorem before_text {text more : String} (first : Code before text.toList found middle)
    (second : Code middle more.toList [] after) :
    Code before (text ++ more).toList found after := by
  rw [String.toList_append, ← List.append_nil found]
  apply first.append second
  intro mark last isQuote next
  have notQuote := second.not_quote_of_mem mark (List.mem_of_head? next)
  exact absurd isQuote (by simp [notQuote])

theorem between {text separator more : String} (nonempty : separator ≠ "")
    (first : Code before text.toList found middle)
    (parts : Code middle separator.toList [] middle)
    (second : Code middle more.toList others after) :
    Code before (text ++ separator ++ more).toList (found ++ others) after := by
  rw [String.append_assoc, String.toList_append]
  apply first.append (parts.after_text second)
  intro mark last isQuote next
  obtain ⟨c, rest, chars⟩ :=
    List.exists_cons_of_ne_nil (show separator.toList ≠ [] by simpa using nonempty)
  rw [String.toList_append, chars, List.cons_append, List.head?_cons] at next
  have notQuote := parts.not_quote_of_mem mark (by simp [chars, Option.some.inj next])
  exact absurd isQuote (by simp [notQuote])

end Code

inductive CodeEach (opened : List Char) : List String → List StringLiteral → Prop
  | nil : CodeEach opened [] []
  | cons {text texts found others} : Code opened text.toList found opened →
      CodeEach opened texts others → CodeEach opened (text :: texts) (found ++ others)

namespace CodeEach

variable {opened : List Char} {texts more : List String} {found others : List StringLiteral}

theorem append (first : CodeEach opened texts found) (second : CodeEach opened more others) :
    CodeEach opened (texts ++ more) (found ++ others) := by
  induction first with
  | nil => exact second
  | cons code _ ih =>
      rw [List.append_assoc]
      exact .cons code ih

theorem map_prepend {start : String} (plain : IsPlainText start)
    (each : CodeEach opened texts found) : CodeEach opened (texts.map (start ++ ·)) found := by
  induction each with
  | nil => exact .nil
  | cons code _ ih => exact .cons ((Code.ofPlain plain).after_text code) ih

theorem joined {separator : String} (nonempty : separator ≠ "") (plain : IsPlainText separator)
    (each : CodeEach opened texts found) :
    Code opened (Text.joined separator texts).toList found opened := by
  induction each with
  | nil => exact .nil
  | @cons text texts found others code rest ih =>
      cases rest with
      | nil =>
          rw [List.append_nil]
          exact code
      | cons => exact code.between nonempty (.ofPlain plain) ih

end CodeEach

end CurlScript.Script
