import CurlScript.Proofs.Literal.Number

/-!
The literals of values are code, at any depth and in either layout: their brackets match, and their
string literals are those of the texts in the value.
-/

namespace CurlScript.Literal

open Text Script

mutual

def jsonTexts : Json → List String
  | .float value => doubleTexts value
  | .text value => [value]
  | .list items => itemTexts items
  | .object members => memberTexts members
  | _ => []

def itemTexts : List Json → List String
  | [] => []
  | item :: rest => jsonTexts item ++ itemTexts rest

def memberTexts : List (String × Json) → List String
  | [] => []
  | (key, value) :: rest => key :: jsonTexts value ++ memberTexts rest

end

variable {opened : List Char} {bracket : Char} {opener closer : String} {entries : List String}
  {found : List StringLiteral}

theorem code_enclose (opens : Code opened opener.toList [] (bracket :: opened))
    (closes : Code (bracket :: opened) closer.toList [] opened)
    (each : CodeEach (bracket :: opened) entries found) (inline : Bool) (depth : Nat) :
    Code opened (enclose inline opener closer depth entries).toList found opened := by
  have newline : ∀ {opened : List Char}, Code opened "\n".toList [] opened :=
    .ofPlain (by decide)
  cases inline with
  | true => exact (opens.after_text (each.joined (by decide) (by decide))).before_text closes
  | false =>
      have lines := each.map_prepend (isPlainText_indentation (depth + 1))
      have content := lines.joined (show ",\n" ≠ "" by decide) (by decide)
      have start := (opens.before_text newline).after_text content
      exact ((start.before_text newline).before_text
        (.ofPlain (isPlainText_indentation depth))).before_text closes

mutual

theorem code_ofJson (opened : List Char) (depth : Nat) : (value : Json) →
    Code opened (ofJson depth value).toList ((jsonTexts value).map literalOf) opened
  | .null => .ofPlain (show IsPlainText "None" by decide)
  | .bool true => .ofPlain (show IsPlainText "True" by decide)
  | .bool false => .ofPlain (show IsPlainText "False" by decide)
  | .int value => .ofPlain (isPlainText_int value)
  | .float value => code_ofDouble opened value
  | .text value => code_quote opened value
  | .list [] => by
    have brackets : Code opened "[]".toList [] opened := .ofChars rfl
    rwa [ofJson, jsonTexts, itemTexts]
  | .list (item :: items) =>
    code_enclose (.ofChars rfl) (.ofChars rfl)
      (codeEach_ofItems ('[' :: opened) _ (item :: items)) _ depth
  | .object [] => by
    have brackets : Code opened "\x7b\x7d".toList [] opened := .ofChars rfl
    rwa [ofJson, jsonTexts, memberTexts]
  | .object (member :: members) =>
    code_enclose (.ofChars rfl) (.ofChars rfl)
      (codeEach_ofMembers ('\x7b' :: opened) _ (member :: members)) _ depth

theorem codeEach_ofItems (opened : List Char) (depth : Nat) : (items : List Json) →
    CodeEach opened (ofItems depth items) ((itemTexts items).map literalOf)
  | [] => .nil
  | item :: rest => by
    rw [itemTexts, List.map_append]
    exact .cons (code_ofJson opened depth item) (codeEach_ofItems opened depth rest)

theorem codeEach_ofMembers (opened : List Char) (depth : Nat) :
    (members : List (String × Json)) →
    CodeEach opened (ofMembers depth members) ((memberTexts members).map literalOf)
  | [] => .nil
  | (key, value) :: rest => by
    have entry := (code_quote opened key).between (show ": " ≠ "" by decide) (.ofPlain (by decide))
      (code_ofJson opened depth value)
    rw [memberTexts, List.map_append]
    exact .cons entry (codeEach_ofMembers opened depth rest)

end

end CurlScript.Literal
