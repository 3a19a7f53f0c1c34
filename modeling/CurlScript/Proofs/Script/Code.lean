import CurlScript.Proofs.Script.StringLiteral
import CurlScript.Proofs.Text.Lines

/-!
Texts that are code with string literals in it. Such a text is put together from parts, and where
its literals are sound it has no fault and exactly these literals.
-/

namespace CurlScript.Script

open Text

def isPlain (c : Char) : Bool :=
  c ≠ '\r' && c ≠ '#' && c ≠ '\'' && c ≠ '"' && (closerOf? c).isNone && !isCloser c

/-- `Code before text found after`: the text is code with the literals `found` in it, and reading it
turns the open brackets `before` into `after`, the innermost first. -/
inductive Code : List Char → List Char → List StringLiteral → List Char → Prop
  | nil {opened} : Code opened [] [] opened
  | plain {before text found after c} : isPlain c = true → Code before text found after →
      Code before (c :: text) found after
  | opening {before text found after c} : (closerOf? c).isSome = true →
      Code (c :: before) text found after → Code before (c :: text) found after
  | closing {before text found after opener c} : closerOf? opener = some c →
      Code before text found after → Code (opener :: before) (c :: text) found after
  | literal {before text found after mark} (body : List Char) : mark = '\'' ∨ mark = '"' →
      text.head? ≠ some mark → Code before text found after →
      Code before (mark :: body ++ mark :: text) (⟨mark, unifyLines body, false⟩ :: found) after

def Apart (text more : List Char) : Prop :=
  ∀ mark, text.getLast? = some mark → mark = '\'' ∨ mark = '"' → more.head? ≠ some mark

theorem Apart.of_cons {c : Char} {text more : List Char} (apart : Apart (c :: text) more) :
    Apart text more :=
  fun mark last => apart mark (List.mem_getLast?_cons last)

theorem Apart.of_append {first text more : List Char} (apart : Apart (first ++ text) more) :
    Apart text more := by
  induction first with
  | nil => exact apart
  | cons c rest ih => exact ih apart.of_cons

theorem isCloser_of_closerOf? {opener c : Char} (closes : closerOf? opener = some c) :
    isCloser c = true ∧ closerOf? c = none ∧ c ∉ ['\n', '\r', '#', '\'', '"'] := by
  unfold closerOf? at closes
  split at closes
  all_goals simp at closes
  all_goals subst closes; decide

theorem not_special_of_closerOf? {c : Char} (opens : (closerOf? c).isSome = true) :
    c ∉ ['\n', '\r', '#', '\'', '"'] := by
  unfold closerOf? at opens
  split at opens
  case h_4 => simp at opens
  all_goals decide

theorem not_special_of_isPlain {c : Char} (plain : isPlain c = true) :
    c ∉ ['\r', '#', '\'', '"'] := by
  intro special
  simp only [List.mem_cons, List.not_mem_nil, or_false] at special
  rcases special with rfl | rfl | rfl | rfl <;> exact absurd plain (by decide)

namespace Code

variable {before middle after text more : List Char} {found others : List StringLiteral}

theorem append (first : Code before text found middle) (second : Code middle more others after)
    (apart : Apart text more) : Code before (text ++ more) (found ++ others) after := by
  induction first with
  | nil => exact second
  | plain isPlain _ ih => exact .plain isPlain (ih second apart.of_cons)
  | opening opens _ ih => exact .opening opens (ih second apart.of_cons)
  | closing closes _ ih => exact .closing closes (ih second apart.of_cons)
  | @literal _ rest _ _ mark body isQuote next _ ih =>
      have restApart : Apart rest more := apart.of_cons.of_append.of_cons
      have nextMore : (rest ++ more).head? ≠ some mark := by
        cases rest with
        | nil => exact apart mark List.getLast?_concat isQuote
        | cons c others => simpa using next
      have joined := Code.literal body isQuote nextMore (ih second restApart)
      simpa [List.append_assoc] using joined

theorem getLast?_ne_return (code : Code before text found after) : text.getLast? ≠ some '\r' := by
  have extend : ∀ {c : Char} {rest : List Char}, c ≠ '\r' → rest.getLast? ≠ some '\r' →
      (c :: rest).getLast? ≠ some '\r' := by
    intro c rest notReturn restLast
    cases rest with
    | nil => simpa using notReturn
    | cons d others => simpa [List.getLast?_cons] using restLast
  induction code with
  | nil => simp
  | plain isPlain _ ih =>
      exact extend (List.ne_of_not_mem_cons (not_special_of_isPlain isPlain)) ih
  | opening opens _ ih =>
      have notSpecial := List.not_mem_of_not_mem_cons (not_special_of_closerOf? opens)
      exact extend (List.ne_of_not_mem_cons notSpecial) ih
  | closing closes _ ih =>
      have notSpecial := List.not_mem_of_not_mem_cons (isCloser_of_closerOf? closes).2.2
      exact extend (List.ne_of_not_mem_cons notSpecial) ih
  | @literal _ rest _ _ mark body isQuote _ _ ih =>
      have notReturn : mark ≠ '\r' := by
        rintro rfl
        simp at isQuote
      have closed := extend notReturn ih
      rw [List.getLast?_append, List.getLast?_cons, Option.some_or, ← List.getLast?_cons]
      exact closed

end Code

theorem quote_not_special {mark : Char} (isQuote : mark = '\'' ∨ mark = '"') :
    mark ≠ '\n' ∧ mark ≠ '\r' ∧ mark ≠ '#' ∧ mark ≠ '\\' := by
  rcases isQuote with rfl | rfl <;> decide

theorem firstFault_body {mark : Char} {body : List Char} (isQuote : mark = '\'' ∨ mark = '"')
    (sound : isBody mark body = true)
    (line start : Nat) (opened : List (Char × Nat)) (rest : List Char) :
    ∃ line', firstFault line opened (.string mark start) (body ++ mark :: rest) =
      firstFault line' opened .code rest := by
  obtain ⟨notBreak, -, -, notBackslash⟩ := quote_not_special isQuote
  fun_induction isBody mark body generalizing line with
  | case1 =>
      refine ⟨line, ?_⟩
      rw [List.nil_append, firstFault.eq_4]
      · simp [notBreak]
      · intro c others same
        exact absurd same notBackslash
  | case2 c others ih =>
      obtain ⟨line', step⟩ := ih sound (if c = '\n' then line + 1 else line)
      exact ⟨line', by simpa [firstFault] using step⟩
  | case3 c others noPair ih =>
      simp only [Bool.and_eq_true, decide_eq_true_eq] at sound
      obtain ⟨⟨⟨plain, sameLine⟩, notMark⟩, restSound⟩ := sound
      obtain ⟨line', step⟩ := ih restSound line
      refine ⟨line', ?_⟩
      rw [List.cons_append, firstFault.eq_4]
      · simpa [sameLine, notMark] using step
      · intro d more same
        exact absurd same plain

theorem literalsFrom_body {mark : Char} {body : List Char} (isQuote : mark = '\'' ∨ mark = '"')
    (sound : isBody mark body = true) (read rest : List Char) :
    literalsFrom (.string mark read) (body ++ mark :: rest) =
      ⟨mark, read.reverse ++ body, false⟩ :: literalsFrom .code rest := by
  obtain ⟨notBreak, -, -, notBackslash⟩ := quote_not_special isQuote
  fun_induction isBody mark body generalizing read with
  | case1 =>
      rw [List.nil_append, literalsFrom.eq_4]
      · simp [notBreak]
      · intro c others same
        exact absurd same notBackslash
  | case2 c others ih => simp [literalsFrom, ih sound]
  | case3 c others noPair ih =>
      simp only [Bool.and_eq_true, decide_eq_true_eq] at sound
      obtain ⟨⟨⟨plain, sameLine⟩, notMark⟩, restSound⟩ := sound
      rw [List.cons_append, literalsFrom.eq_4]
      · simp [sameLine, notMark, ih restSound]
      · intro d more same
        exact absurd same plain

theorem not_triple {mark : Char} {body rest : List Char} (isQuote : mark = '\'' ∨ mark = '"')
    (sound : isBody mark body = true) (next : rest.head? ≠ some mark) (more : List Char) :
    body ++ mark :: rest ≠ mark :: mark :: more := by
  obtain ⟨-, -, -, notBackslash⟩ := quote_not_special isQuote
  intro triple
  cases body with
  | nil =>
      rw [List.nil_append] at triple
      rw [(List.cons.inj triple).2] at next
      exact next rfl
  | cons c others =>
      obtain rfl : c = mark := (List.cons.inj triple).1
      rw [isBody.eq_3 _ _ _ fun d rest same => absurd same notBackslash] at sound
      simp at sound

theorem unifyLines_literal {mark : Char} (isQuote : mark = '\'' ∨ mark = '"')
    (body rest : List Char) :
    unifyLines (mark :: body ++ mark :: rest) =
      mark :: (unifyLines body ++ mark :: unifyLines rest) := by
  obtain ⟨notBreak, notReturn, -⟩ := quote_not_special isQuote
  rw [unifyLines_append (by simpa using notBreak), unifyLines_cons notReturn,
    unifyLines_cons notReturn, List.cons_append]

section Step

variable {c mark : Char} {text : List Char} (line : Nat) (opened : List (Char × Nat))

theorem firstFault_plain (plain : isPlain c = true) :
    firstFault line opened .code (c :: text) =
      firstFault (if c = '\n' then line + 1 else line) opened .code text := by
  simp only [isPlain, Bool.and_eq_true, decide_eq_true_eq, Bool.not_eq_true',
    Option.isNone_iff_eq_none] at plain
  obtain ⟨⟨⟨⟨⟨-, notComment⟩, notSingle⟩, notDouble⟩, notOpener⟩, notCloser⟩ := plain
  rw [firstFault.eq_def]
  by_cases isBreak : c = '\n'
  · simp [isBreak]
  · simp [isBreak, notComment, notSingle, notDouble, notOpener, notCloser]

theorem firstFault_opening (opens : (closerOf? c).isSome = true) :
    firstFault line opened .code (c :: text) =
      firstFault line ((c, line) :: opened) .code text := by
  have notSpecial := not_special_of_closerOf? opens
  simp only [List.mem_cons, List.not_mem_nil, not_or] at notSpecial
  rw [firstFault.eq_def]
  simp [notSpecial, opens]

theorem firstFault_closing {bracket : Char × Nat} (closes : closerOf? bracket.1 = some c) :
    firstFault line (bracket :: opened) .code (c :: text) = firstFault line opened .code text := by
  obtain ⟨isCloser, notOpener, notSpecial⟩ := isCloser_of_closerOf? closes
  simp only [List.mem_cons, List.not_mem_nil, not_or] at notSpecial
  rw [firstFault.eq_def]
  simp [notSpecial, notOpener, isCloser, closes]

theorem firstFault_quote (isQuote : mark = '\'' ∨ mark = '"')
    (single : ∀ more, text ≠ mark :: mark :: more) :
    firstFault line opened .code (mark :: text) =
      firstFault line opened (.string mark line) text := by
  obtain ⟨notBreak, -, notComment, -⟩ := quote_not_special isQuote
  rw [firstFault.eq_def]
  dsimp only
  rw [if_neg notBreak, if_neg notComment, if_pos isQuote]
  split
  · rename_i a b more
    rw [if_neg]
    rintro ⟨rfl, rfl⟩
    exact single more rfl
  · rfl

theorem literalsFrom_unquoted (unquoted : c ∉ ['#', '\'', '"']) :
    literalsFrom .code (c :: text) = literalsFrom .code text := by
  simp only [List.mem_cons, List.not_mem_nil, not_or] at unquoted
  rw [literalsFrom.eq_def]
  simp [unquoted]

theorem literalsFrom_quote (isQuote : mark = '\'' ∨ mark = '"')
    (single : ∀ more, text ≠ mark :: mark :: more) :
    literalsFrom .code (mark :: text) = literalsFrom (.string mark []) text := by
  obtain ⟨-, -, notComment, -⟩ := quote_not_special isQuote
  rw [literalsFrom.eq_def]
  dsimp only
  rw [if_neg notComment, if_pos isQuote]
  split
  · rename_i a b more
    rw [if_neg]
    rintro ⟨rfl, rfl⟩
    exact single more rfl
  · rfl

variable {body : List Char}

theorem firstFault_literal (isQuote : mark = '\'' ∨ mark = '"')
    (sound : isBody mark (unifyLines body) = true) (next : text.head? ≠ some mark) :
    ∃ line', firstFault line opened .code (unifyLines (mark :: body ++ mark :: text)) =
      firstFault line' opened .code (unifyLines text) := by
  have nextRead := head?_unifyLines (quote_not_special isQuote).1 next
  have single := not_triple isQuote sound nextRead
  rw [unifyLines_literal isQuote, firstFault_quote _ _ isQuote single]
  exact firstFault_body isQuote sound line line opened (unifyLines text)

theorem literalsFrom_literal (isQuote : mark = '\'' ∨ mark = '"')
    (sound : isBody mark (unifyLines body) = true) (next : text.head? ≠ some mark) :
    literalsFrom .code (unifyLines (mark :: body ++ mark :: text)) =
      ⟨mark, unifyLines body, false⟩ :: literalsFrom .code (unifyLines text) := by
  have nextRead := head?_unifyLines (quote_not_special isQuote).1 next
  have single := not_triple isQuote sound nextRead
  rw [unifyLines_literal isQuote, literalsFrom_quote isQuote single]
  exact literalsFrom_body isQuote sound [] (unifyLines text)

end Step

namespace Code

variable {before after text : List Char} {found : List StringLiteral}

/-- Code whose literals are sound has no fault, if it closes the brackets that are open. -/
theorem firstFault_eq_none (code : Code before text found after) (balanced : after = [])
    (sound : ∀ literal ∈ found, literal.Sound) (line : Nat) {opened : List (Char × Nat)}
    (brackets : opened.map Prod.fst = before) :
    firstFault line opened .code (unifyLines text) = none := by
  induction code generalizing line opened with
  | nil =>
      obtain rfl : opened = [] := by simpa [balanced] using brackets
      rfl
  | plain isPlain _ ih =>
      have notReturn := List.ne_of_not_mem_cons (not_special_of_isPlain isPlain)
      rw [unifyLines_cons notReturn, firstFault_plain _ _ isPlain]
      exact ih balanced sound _ brackets
  | opening opens _ ih =>
      have notSpecial := not_special_of_closerOf? opens
      simp only [List.mem_cons, not_or] at notSpecial
      rw [unifyLines_cons notSpecial.2.1, firstFault_opening _ _ opens]
      exact ih balanced sound _ (by simp [brackets])
  | closing closes _ ih =>
      have notSpecial := (isCloser_of_closerOf? closes).2.2
      simp only [List.mem_cons, not_or] at notSpecial
      obtain ⟨bracket, outer, rfl, rfl, outerBrackets⟩ := List.map_eq_cons_iff.mp brackets
      rw [unifyLines_cons notSpecial.2.1, firstFault_closing _ _ closes]
      exact ih balanced sound _ outerBrackets
  | literal body isQuote next _ ih =>
      obtain ⟨⟨-, bodySound⟩, restSound⟩ := List.forall_mem_cons.mp sound
      obtain ⟨line', step⟩ := firstFault_literal line opened isQuote bodySound next
      rw [step]
      exact ih balanced restSound line' brackets

theorem literalsFrom_eq (code : Code before text found after)
    (sound : ∀ literal ∈ found, literal.Sound) :
    literalsFrom .code (unifyLines text) = found := by
  have read : ∀ {c : Char} {rest : List Char} {found : List StringLiteral},
      c ∉ ['\r', '#', '\'', '"'] → literalsFrom .code (unifyLines rest) = found →
      literalsFrom .code (unifyLines (c :: rest)) = found := by
    intro c rest found notSpecial restEq
    rw [unifyLines_cons (List.ne_of_not_mem_cons notSpecial),
      literalsFrom_unquoted (List.not_mem_of_not_mem_cons notSpecial), restEq]
  induction code with
  | nil => rfl
  | plain isPlain _ ih => exact read (not_special_of_isPlain isPlain) (ih sound)
  | opening opens _ ih =>
      exact read (List.not_mem_of_not_mem_cons (not_special_of_closerOf? opens)) (ih sound)
  | closing closes _ ih =>
      have notSpecial := (isCloser_of_closerOf? closes).2.2
      exact read (List.not_mem_of_not_mem_cons notSpecial) (ih sound)
  | literal body isQuote next _ ih =>
      obtain ⟨⟨-, bodySound⟩, restSound⟩ := List.forall_mem_cons.mp sound
      rw [literalsFrom_literal isQuote bodySound next, ih restSound]

theorem short_of_mem (code : Code before text found after) :
    ∀ literal ∈ found, literal.triple = false := by
  induction code with
  | nil => simp
  | plain _ _ ih => exact ih
  | opening _ _ ih => exact ih
  | closing _ _ ih => exact ih
  | literal body _ _ _ ih => exact List.forall_mem_cons.mpr ⟨rfl, ih⟩

/-- The line end before the code stands for the beginning of its first line. -/
theorem unifyLines_script {script : String} (code : Code [] ('\n' :: script.toList) found []) :
    '\n' :: unifyLines (dropFinalBreak (script ++ "\n").toList) =
      unifyLines ('\n' :: script.toList) := by
  have last : script.toList.getLast? ≠ some '\r' := fun isReturn =>
    code.getLast?_ne_return (List.mem_getLast?_cons isReturn)
  have body : dropFinalBreak (script ++ "\n").toList = script.toList := by
    rw [String.toList_append]
    exact dropFinalBreak_append last
  rw [body, unifyLines_cons (by decide)]

theorem fault?_eq_none {script : String} (code : Code [] ('\n' :: script.toList) found [])
    (sound : ∀ literal ∈ found, literal.Sound) : fault? (script ++ "\n") = none := by
  have noFault : firstFault 0 [] .code (unifyLines ('\n' :: script.toList)) = none :=
    code.firstFault_eq_none rfl sound 0 rfl
  rw [← unifyLines_script code, firstFault_plain _ _ (by decide)] at noFault
  exact noFault

/-- The literals of a script are those of its code exactly if these are sound. -/
theorem literals_eq_iff {script : String} (code : Code [] ('\n' :: script.toList) found []) :
    literals (script ++ "\n") = found ↔ ∀ literal ∈ found, literal.Sound := by
  constructor
  · intro same literal member
    apply sound_of_mem_literals (same ▸ member)
    exact code.short_of_mem literal member
  · intro sound
    have read := code.literalsFrom_eq sound
    rw [← unifyLines_script code, literalsFrom_unquoted (by decide)] at read
    exact read

end Code

end CurlScript.Script
