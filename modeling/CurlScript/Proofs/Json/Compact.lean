import CurlScript.Json.Width
import Mathlib.Algebra.Ring.Nat
import Mathlib.Data.List.Basic

/-!
Compact JSON text: no blanks, and only quotes, backslashes and controls escaped. Its length is the
width of the value.
-/

namespace CurlScript.Json

def shortEscapes : List (Char × Char) :=
  [('"', '"'), ('\\', '\\'), ('\n', 'n'), ('\r', 'r'), ('\t', 't'), ('\x08', 'b'), ('\x0c', 'f')]

def compactChar (c : Char) : List Char :=
  match shortEscapes.lookup c with
  | some mark => ['\\', mark]
  | none =>
    if c.toNat < 0x20 then
      ['\\', 'u', '0', '0', Nat.digitChar (c.toNat / 16), Nat.digitChar (c.toNat % 16)]
    else [c]

def compactString (text : String) : List Char :=
  '"' :: (text.toList.flatMap compactChar ++ ['"'])

mutual

def compactChars : Json → List Char
  | .null => "null".toList
  | .bool value => (if value then "true" else "false").toList
  | .int value => (toString value).toList
  | .float value => (compactNumber.text value).toList
  | .text value => compactString value
  | .list items => '[' :: (List.intercalate [','] (compactItems items) ++ [']'])
  | .object members => '\x7b' :: (List.intercalate [','] (compactMembers members) ++ ['\x7d'])

def compactItems : List Json → List (List Char)
  | [] => []
  | item :: rest => compactChars item :: compactItems rest

def compactMembers : List (String × Json) → List (List Char)
  | [] => []
  | (key, value) :: rest =>
    (compactString key ++ ':' :: compactChars value) :: compactMembers rest

end

def compact (value : Json) : String :=
  String.ofList (compactChars value)

theorem length_compactChar (c : Char) : (compactChar c).length = charWidth c := by
  have short : ∀ entry ∈ shortEscapes,
      (compactChar entry.1).length = 2 ∧ charWidth entry.1 = 2 := by
    decide
  by_cases escaped : c ∈ shortEscapes.map Prod.fst
  · obtain ⟨entry, member, rfl⟩ := List.mem_map.mp escaped
    obtain ⟨length, width⟩ := short entry member
    rw [length, width]
  · have noEscape : shortEscapes.lookup c = none := by
      rw [List.lookup_eq_none_iff]
      intro entry member
      have different : c ≠ entry.1 := by
        rintro rfl
        exact escaped (List.mem_map_of_mem member)
      simpa using different
    simp only [shortEscapes, List.map_cons, List.map_nil, List.mem_cons, List.not_mem_nil, or_false,
      not_or] at escaped
    rw [compactChar, noEscape]
    by_cases control : c.toNat < 0x20
    · simp [charWidth, escaped, control]
    · simp [charWidth, escaped, control]

theorem length_compactString (text : String) : (compactString text).length = textWidth text := by
  have inner : ∀ chars : List Char, (chars.flatMap compactChar).length + 2 =
      (chars.map charWidth).foldr (· + ·) 2 := by
    intro chars
    induction chars with
    | nil => rfl
    | cons c rest ih =>
        simp only [List.flatMap_cons, List.length_append, List.map_cons, List.foldr_cons,
          length_compactChar]
        omega
  rw [textWidth, ← inner text.toList]
  simp [compactString]

theorem length_intercalate_comma (texts : List (List Char)) :
    (List.intercalate [','] texts).length =
      (texts.map List.length).sum + (texts.length - 1) := by
  induction texts with
  | nil => rfl
  | cons text rest ih =>
      cases rest with
      | nil => simp
      | cons next more =>
          rw [List.intercalate_cons_cons, List.length_append, List.length_append, ih]
          simp only [List.map_cons, List.sum_cons, List.length_cons, List.length_nil]
          omega

mutual

theorem length_compactChars : (value : Json) → (compactChars value).length = value.width
  | .null => rfl
  | .bool true => rfl
  | .bool false => rfl
  | .int value => String.length_toList
  | .float value => String.length_toList
  | .text value => length_compactString value
  | .list items => by
    obtain ⟨total, count⟩ := length_compactItems items
    simp only [compactChars, width, List.length_cons, List.length_append, List.length_nil,
      length_intercalate_comma, total, count]
  | .object members => by
    obtain ⟨total, count⟩ := length_compactMembers members
    simp only [compactChars, width, List.length_cons, List.length_append, List.length_nil,
      length_intercalate_comma, total, count]

theorem length_compactItems : (items : List Json) →
    ((compactItems items).map List.length).sum = itemsWidth items ∧
      (compactItems items).length = items.length
  | [] => ⟨rfl, rfl⟩
  | item :: rest => by
    obtain ⟨total, count⟩ := length_compactItems rest
    simp [compactItems, itemsWidth, length_compactChars item, total, count]

theorem length_compactMembers : (members : List (String × Json)) →
    ((compactMembers members).map List.length).sum = membersWidth members ∧
      (compactMembers members).length = members.length
  | [] => ⟨rfl, rfl⟩
  | (key, value) :: rest => by
    obtain ⟨total, count⟩ := length_compactMembers rest
    simp only [compactMembers, membersWidth, List.map_cons, List.sum_cons, List.length_append,
      List.length_cons, length_compactString, length_compactChars value, total, count]
    exact ⟨by omega, trivial⟩

end

/-- The width of a value is the length of its compact text. -/
theorem length_compact (value : Json) : (compact value).length = value.width := by
  rw [compact, String.length_ofList, length_compactChars]

end CurlScript.Json
