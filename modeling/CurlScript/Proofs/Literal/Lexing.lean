import CurlScript.Proofs.Json.Number
import CurlScript.Proofs.Literal.Expression
import Mathlib.Data.List.Forall2

/-!
How expressions fall into tokens: one token at a time, and from there entries between separators
and in brackets, on one line or on several.
-/

namespace CurlScript.Expression

open Json (Token)

variable {rest : List Char} {depth middle after : Nat} {token : Token} {tokens more : List Token}

theorem body?_append {mark : Char} (notBackslash : mark ≠ '\\') {text body behind : List Char}
    (read : body? mark text = some (body, behind)) (rest : List Char) :
    body? mark (text ++ rest) = some (body, behind ++ rest) := by
  fun_induction body? mark text generalizing body behind with
  | case1 => cases read
  | case2 => cases read
  | case3 c text allowed ih =>
      obtain ⟨⟨inner, behind⟩, found, same⟩ := Option.map_eq_some_iff.mp read
      obtain ⟨rfl, rfl⟩ := Prod.mk.inj same
      simp [body?, allowed, ih found]
  | case4 text noPair =>
      obtain ⟨rfl, rfl⟩ := Prod.mk.inj (Option.some.inj read)
      rw [List.cons_append, body?.eq_3]
      · simp
      · rintro _ _ rfl
        exact absurd rfl notBackslash
  | case5 => cases read
  | case6 c text noPair notMark allowed ih =>
      obtain ⟨⟨inner, behind⟩, found, same⟩ := Option.map_eq_some_iff.mp read
      obtain ⟨rfl, rfl⟩ := Prod.mk.inj same
      -- A backslash here would be the last character, and no quote could close the body.
      have notEscape : c ≠ '\\' := by
        rintro rfl
        cases text with
        | nil => cases found
        | cons d others => exact noPair d others rfl rfl
      rw [List.cons_append, body?.eq_3]
      · simp [notMark, allowed, ih found]
      · rintro _ _ rfl
        exact absurd rfl notEscape

theorem string?_append {text meant behind : List Char} (read : string? text = some (meant, behind))
    (rest : List Char) : string? (text ++ rest) = some (meant, behind ++ rest) := by
  cases text with
  | nil => cases read
  | cons mark text =>
      by_cases isMark : mark = '\'' ∨ mark = '"'
      · have notBackslash : mark ≠ '\\' := by
          rcases isMark with rfl | rfl <;> decide
        simp only [string?, isMark, if_true, Option.bind_eq_bind, Option.bind_eq_some_iff] at read
        obtain ⟨⟨body, behind⟩, found, meant, unescaped, same⟩ := read
        obtain ⟨rfl, rfl⟩ := Prod.mk.inj (Option.some.inj same)
        simp [string?, isMark, body?_append notBackslash found, unescaped]
      · simp [string?, isMark] at read

theorem name?_append {text behind : List Char} {value : Json}
    (read : name? text = some (value, behind)) (rest : List Char) :
    name? (text ++ rest) = some (value, behind ++ rest) := by
  unfold name? at read
  split at read
  · cases read
    rfl
  · cases read
    rfl
  · cases read
    rfl
  · simp only [Option.bind_eq_bind, Option.bind_eq_some_iff] at read
    obtain ⟨⟨argument, remainder⟩, found, number, converted, same⟩ := read
    split at same
    · rename_i closing
      obtain rfl : remainder = ')' :: _ := closing
      obtain ⟨rfl, rfl⟩ := Prod.mk.inj (Option.some.inj same)
      simp [name?, string?_append found, converted]
    · cases same
  · cases read

/-- The first token of a text is read in the same way before a text that does not go on with a
number. -/
theorem next?_append (ends : EndsNumber rest) {text behind : List Char}
    (read : next? text = some (token, behind)) :
    next? (text ++ rest) = some (token, behind ++ rest) := by
  have step {α : Type} {part whole : Option (α × List Char)} (make : α → Token)
      (append : ∀ found behind, part = some (found, behind) →
        whole = some (found, behind ++ rest))
      (read : (part.map fun found => (make found.1, found.2)) = some (token, behind)) :
      (whole.map fun found => (make found.1, found.2)) = some (token, behind ++ rest) := by
    obtain ⟨found, partEq, same⟩ := Option.map_eq_some_iff.mp read
    obtain ⟨rfl, rfl⟩ := Prod.mk.inj same
    rw [append _ _ partEq]
    rfl
  cases text with
  | nil => cases read
  | cons c text =>
      rw [next?] at read
      rw [List.cons_append, next?]
      cases isMark : mark? c with
      | some mark =>
          rw [isMark] at read
          cases read
          rfl
      | none =>
          rw [isMark] at read
          dsimp only at read ⊢
          split at read
          · rw [if_pos ‹_›]
            exact step (fun chars => .text (String.ofList chars))
              (fun _ _ found => string?_append found rest) read
          · rw [if_neg ‹_›]
            split at read
            · rw [if_pos ‹_›]
              exact step .scalar (fun _ _ found => Json.number?_append ends found) read
            · rw [if_neg ‹_›]
              exact step .scalar (fun _ _ found => name?_append found rest) read

theorem mark?_of_startsNumber {c : Char} (starts : startsNumber c = true) : mark? c = none := by
  unfold mark?
  split <;> first | rfl | exact absurd starts (by decide)

theorem next?_of_number? {text behind : List Char} {value : Json}
    (read : Json.number? text = some (value, behind)) :
    next? text = some (.scalar value, behind) := by
  obtain ⟨c, others, rfl, start⟩ := Json.head_of_number? read
  have starts : startsNumber c = true := by
    simpa [startsNumber] using start
  have notQuote : ¬(c = '\'' ∨ c = '"') := by
    rintro (rfl | rfl) <;> exact absurd starts (by decide)
  rw [next?, mark?_of_startsNumber starts]
  simp [notQuote, starts, read]

theorem next?_of_string? {text meant behind : List Char}
    (read : string? text = some (meant, behind)) :
    next? text = some (.text (String.ofList meant), behind) := by
  cases text with
  | nil => cases read
  | cons mark text =>
      have isMark : mark = '\'' ∨ mark = '"' := by
        by_contra other
        simp [string?, other] at read
      have notBracket : mark? mark = none := by
        rcases isMark with rfl | rfl <;> rfl
      rw [next?, notBracket]
      simp [isMark, read]

theorem tokens?_space : tokens? depth (' ' :: rest) = tokens? depth rest := by
  rw [tokens?, if_pos rfl]

theorem tokens?_newline : tokens? (depth + 1) ('\n' :: rest) = tokens? (depth + 1) rest := by
  rw [tokens?, if_neg (by decide), if_pos rfl, if_neg (by simp)]

theorem tokens?_token {text : List Char} (nonempty : text ≠ [])
    (read : next? (text ++ rest) = some (token, rest)) :
    tokens? depth (text ++ rest) = (tokens? (depthAfter depth token) rest).map (token :: ·) := by
  obtain ⟨c, others, rfl⟩ := List.exists_cons_of_ne_nil nonempty
  have notSpace : c ≠ ' ' := by
    rintro rfl
    cases read
  have notNewline : c ≠ '\n' := by
    rintro rfl
    cases read
  rw [List.cons_append] at read ⊢
  simp [tokens?, notSpace, notNewline, read]

theorem tokens?_mark {c : Char} (isMark : mark? c = some token) :
    tokens? depth (c :: rest) = (tokens? (depthAfter depth token) rest).map (token :: ·) := by
  have read : next? ([c] ++ rest) = some (token, rest) := by
    simp [next?, isMark]
  exact tokens?_token (by simp) read

/-- `Lexes follows depth text tokens after`: inside `depth` brackets the text is read as the tokens,
if what follows it is as stated, and then `after` brackets are open. -/
def Lexes (follows : List Char → Prop) (depth : Nat) (text : String) (tokens : List Token)
    (after : Nat) : Prop :=
  ∀ rest, follows rest →
    tokens? depth (text.toList ++ rest) = (tokens? after rest).map (tokens ++ ·)

def Anything (_ : List Char) : Prop := True

def PartsNumbers (text : String) : Prop :=
  ∀ rest, EndsNumber (text.toList ++ rest)

theorem partsNumbers_of_toList {c : Char} {text : String} {others : List Char}
    (chars : text.toList = c :: others)
    (other : c.isDigit = false ∧ c ∉ ['.', 'e', 'E', '+', '-']) : PartsNumbers text := by
  intro rest first start
  rw [chars, List.cons_append, List.head?_cons] at start
  obtain rfl := Option.some.inj start
  exact other

namespace Lexes

variable {follows beyond : List Char → Prop} {text others separator : String}

theorem empty : Lexes Anything depth "" [] depth := by
  intro rest _
  simp

theorem append (first : Lexes follows depth text tokens middle)
    (second : Lexes beyond middle others more after)
    (fits : ∀ rest, beyond rest → follows (others.toList ++ rest)) :
    Lexes beyond depth (text ++ others) (tokens ++ more) after := by
  intro rest allowed
  rw [String.toList_append, List.append_assoc, first _ (fits rest allowed), second rest allowed,
    Option.map_map]
  congr 1
  funext found
  simp

theorem weaken (lexes : Lexes Anything depth text tokens after) :
    Lexes follows depth text tokens after :=
  fun rest _ => lexes rest trivial

theorem after_fixed (first : Lexes Anything depth text tokens middle)
    (second : Lexes beyond middle others more after) :
    Lexes beyond depth (text ++ others) (tokens ++ more) after :=
  first.append second fun _ _ => trivial

theorem before_parting (first : Lexes EndsNumber depth text tokens middle)
    (second : Lexes Anything middle others more after) (parts : PartsNumbers others) :
    Lexes Anything depth (text ++ others) (tokens ++ more) after :=
  first.append second fun rest _ => parts rest

theorem repeated (lexes : Lexes Anything depth text [] depth) (count : Nat) :
    Lexes Anything depth (Text.repeated text count) [] depth := by
  induction count with
  | zero => exact empty
  | succ count ih => exact lexes.after_fixed ih

theorem indentation (level : Nat) : Lexes Anything depth (Literal.indentation level) [] depth := by
  have unit : Lexes Anything depth Literal.indentUnit [] depth := by
    intro rest _
    change tokens? depth (' ' :: ' ' :: ' ' :: ' ' :: rest) = _
    simp [tokens?_space]
  exact unit.repeated level

theorem newline : Lexes Anything (depth + 1) "\n" [] (depth + 1) := by
  intro rest _
  change tokens? (depth + 1) ('\n' :: rest) = _
  simp [tokens?_newline]

/-- A bracket, a comma or a colon, and the blanks behind it. -/
theorem ofMark {c : Char} {blanks : List Char} (chars : text.toList = c :: blanks)
    (isMark : mark? c = some token)
    (skipped : ∀ rest, tokens? (depthAfter depth token) (blanks ++ rest) =
      tokens? (depthAfter depth token) rest) :
    Lexes Anything depth text [token] (depthAfter depth token) := by
  intro rest _
  rw [chars, List.cons_append, tokens?_mark isMark, skipped]
  rfl

theorem ofMarks {c d : Char} {first second : Token} (chars : text.toList = [c, d])
    (isFirst : mark? c = some first) (isSecond : mark? d = some second) :
    Lexes Anything depth text [first, second] (depthAfter (depthAfter depth first) second) := by
  intro rest _
  rw [chars, List.cons_append, List.cons_append, tokens?_mark isFirst, tokens?_mark isSecond,
    Option.map_map]
  rfl

theorem ofToken (read : next? text.toList = some (token, [])) :
    Lexes EndsNumber depth text [token] (depthAfter depth token) := by
  intro rest ends
  have nonempty : text.toList ≠ [] := by
    intro empty
    rw [empty] at read
    cases read
  exact tokens?_token nonempty (next?_append ends read)

/-- Entries between separators: the first entry, then the others with a comma before each. -/
theorem joined {entry : String} {entries : List String} {part : List Token}
    {parts : List (List Token)} (first : Lexes EndsNumber depth entry part depth)
    (each : List.Forall₂ (Lexes EndsNumber depth · · depth) entries parts)
    (separates : Lexes Anything depth separator [.comma] depth)
    (partsNumbers : PartsNumbers separator) :
    Lexes EndsNumber depth (Text.joined separator (entry :: entries))
      (part ++ parts.flatMap (.comma :: ·)) depth := by
  induction each generalizing entry part with
  | nil => simpa [Text.joined] using first
  | cons next _ ih =>
      have continued := (first.before_parting separates partsNumbers).after_fixed (ih next)
      simpa [Text.joined] using continued

/-- Entries in brackets, in either layout. -/
theorem enclose {opener closer : String} {opens closes : Token} {entry : String}
    {entries : List String} {part : List Token} {parts : List (List Token)}
    (opening : Lexes Anything depth opener [opens] (depth + 1))
    (closing : Lexes Anything (depth + 1) closer [closes] depth)
    (closerParts : PartsNumbers closer)
    (first : Lexes EndsNumber (depth + 1) entry part (depth + 1))
    (each : List.Forall₂ (Lexes EndsNumber (depth + 1) · · (depth + 1)) entries parts)
    (inline : Bool) (level : Nat) :
    Lexes Anything depth (Literal.enclose inline opener closer level (entry :: entries))
      (opens :: (part ++ parts.flatMap (.comma :: ·)) ++ [closes]) depth := by
  cases inline with
  | true =>
      have comma : Lexes Anything (depth + 1) ", " [.comma] (depth + 1) :=
        ofMark rfl rfl fun _ => tokens?_space
      have content := first.joined each comma (partsNumbers_of_toList rfl (by decide))
      exact (opening.after_fixed content).before_parting closing closerParts
  | false =>
      have comma : Lexes Anything (depth + 1) ",\n" [.comma] (depth + 1) :=
        ofMark rfl rfl fun _ => tokens?_newline
      have indented {entry : String} {part : List Token}
          (lexes : Lexes EndsNumber (depth + 1) entry part (depth + 1)) :
          Lexes EndsNumber (depth + 1) (Literal.indentation (level + 1) ++ entry) part
            (depth + 1) :=
        (indentation (level + 1)).after_fixed lexes
      have lines : List.Forall₂ (Lexes EndsNumber (depth + 1) · · (depth + 1))
          (entries.map (Literal.indentation (level + 1) ++ ·)) parts := by
        rw [List.forall₂_map_left_iff]
        exact each.imp fun _ _ => indented
      have content := (indented first).joined lines comma (partsNumbers_of_toList rfl (by decide))
      have newlineParts : PartsNumbers "\n" := partsNumbers_of_toList rfl (by decide)
      have start := (opening.after_fixed newline).after_fixed content
      have finish := (start.before_parting newline newlineParts).after_fixed (indentation level)
      simpa [Literal.enclose] using finish.after_fixed closing

end Lexes

end CurlScript.Expression
