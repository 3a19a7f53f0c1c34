import CurlScript.Script.Check

/-!
The string literals of a script, read in the same way as its faults are found, but kept.
-/

namespace CurlScript.Script

open Text

structure StringLiteral where
  mark : Char
  body : List Char
  triple : Bool := false
deriving DecidableEq, Repr

inductive Place where
  | code
  | comment
  | string (mark : Char) (body : List Char)
  | block (mark : Char) (body : List Char)
deriving DecidableEq, Repr

/-- The literals that are closed in a text that starts at a place. Past a string that is open at the
end of its line there are none. -/
def literalsFrom : Place → List Char → List StringLiteral
  | _, [] => []
  | .comment, c :: rest =>
    if c = '\n' then literalsFrom .code rest else literalsFrom .comment rest
  | .string mark body, '\\' :: c :: rest => literalsFrom (.string mark (c :: '\\' :: body)) rest
  | .string mark body, c :: rest =>
    if c = '\n' then []
    else if c = mark then ⟨mark, body.reverse, false⟩ :: literalsFrom .code rest
    else literalsFrom (.string mark (c :: body)) rest
  | .block mark body, '\\' :: c :: rest => literalsFrom (.block mark (c :: '\\' :: body)) rest
  | .block mark body, a :: b :: c :: rest =>
    if a = mark ∧ b = mark ∧ c = mark then ⟨mark, body.reverse, true⟩ :: literalsFrom .code rest
    else literalsFrom (.block mark (a :: body)) (b :: c :: rest)
  | .block mark body, c :: rest => literalsFrom (.block mark (c :: body)) rest
  | .code, c :: rest =>
    if c = '#' then literalsFrom .comment rest
    else if c = '\'' ∨ c = '"' then
      match rest with
      | a :: b :: more =>
        if a = c ∧ b = c then literalsFrom (.block c []) more
        else literalsFrom (.string c []) (a :: b :: more)
      | rest => literalsFrom (.string c []) rest
    else literalsFrom .code rest
termination_by structural _ text => text

def literals (script : String) : List StringLiteral :=
  literalsFrom .code (unifyLines (dropFinalBreak script.toList))

def isBody (mark : Char) : List Char → Bool
  | [] => true
  | '\\' :: _ :: rest => isBody mark rest
  | c :: rest => c ≠ '\\' && c ≠ '\n' && c ≠ mark && isBody mark rest

def StringLiteral.Sound (literal : StringLiteral) : Prop :=
  literal.triple = false ∧ isBody literal.mark literal.body = true

theorem isBody_append {mark : Char} {text : List Char} (body : isBody mark text = true)
    (more : List Char) : isBody mark (text ++ more) = isBody mark more := by
  fun_induction isBody mark text with
  | case1 => rfl
  | case2 c rest ih => simpa [isBody] using ih body
  | case3 c rest noPair ih =>
      simp only [Bool.and_eq_true, decide_eq_true_eq] at body
      obtain ⟨⟨⟨notBackslash, notBreak⟩, notMark⟩, restBody⟩ := body
      rw [List.cons_append, isBody.eq_3]
      · simp [notBackslash, notBreak, notMark, ih restBody]
      · intro d others same
        exact absurd same notBackslash

theorem isBody_snoc {mark c : Char} {body : List Char} (sound : isBody mark body.reverse = true)
    (plain : c ≠ '\\' ∧ c ≠ '\n' ∧ c ≠ mark) : isBody mark (c :: body).reverse = true := by
  rw [List.reverse_cons, isBody_append sound]
  simp [isBody, plain]

def Place.Sound : Place → Prop
  | .string mark body => isBody mark body.reverse = true
  | _ => True

/-- No short literal ends too late: the reading stops at the first quote that ends it. -/
theorem sound_of_mem_literalsFrom {place : Place} {text : List Char} (sound : place.Sound)
    {literal : StringLiteral} (member : literal ∈ literalsFrom place text)
    (short : literal.triple = false) : literal.Sound := by
  fun_induction literalsFrom place text with
  | case1 => simp at member
  | case2 rest ih => exact ih trivial member
  | case3 c rest notBreak ih => exact ih trivial member
  | case4 mark body c rest ih =>
      apply ih _ member
      have pair : isBody mark ['\\', c] = true := rfl
      simpa [Place.Sound, isBody_append sound] using pair
  | case5 => simp at member
  | case6 body mark rest noPair notBreak ih =>
      rcases List.mem_cons.mp member with rfl | later
      · exact ⟨rfl, sound⟩
      · exact ih trivial later
  | case7 mark body c rest noPair notBreak notMark ih =>
      -- A backslash at the very end is no pair, but no literal comes after it either.
      by_cases backslash : c = '\\'
      · cases rest with
        | nil => simp [literalsFrom] at member
        | cons d others => exact absurd rfl (noPair d others backslash)
      · exact ih (isBody_snoc sound ⟨backslash, notBreak, notMark⟩) member
  | case8 mark body c rest ih => exact ih trivial member
  | case9 mark body a b c rest notBackslash closing ih =>
      rcases List.mem_cons.mp member with rfl | later
      · simp at short
      · exact ih trivial later
  | case10 mark body a b c rest notBackslash goesOn ih => exact ih trivial member
  | case11 mark body c rest noPair few ih => exact ih trivial member
  | case12 rest ih => exact ih trivial member
  | case13 c notComment isQuote a b more triple ih => exact ih trivial member
  | case14 c notComment isQuote a b more single ih => exact ih rfl member
  | case15 c notComment isQuote rest few ih => exact ih rfl member
  | case16 c rest notComment notQuote ih => exact ih trivial member

theorem sound_of_mem_literals {script : String} {literal : StringLiteral}
    (member : literal ∈ literals script) (short : literal.triple = false) : literal.Sound :=
  sound_of_mem_literalsFrom (show Place.code.Sound from trivial) member short

end CurlScript.Script
