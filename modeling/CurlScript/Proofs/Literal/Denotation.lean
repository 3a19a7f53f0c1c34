import CurlScript.Proofs.Json.Reader
import CurlScript.Proofs.Literal.Lexing

/-!
The literal of a value is an expression for the value, at any depth and in either layout.
-/

namespace CurlScript.Literal

open Expression
open Json (Token tokensOf)

/-- The literal of a text stands for the text itself. Escapes in the text are not protected, so it
need not. -/
def Faithful (text : String) : Prop :=
  string? (quoteChars text.toList) = some (text.toList, [])

instance (text : String) : Decidable (Faithful text) :=
  inferInstanceAs (Decidable (string? (quoteChars text.toList) = some (text.toList, [])))

mutual

/-- What the value is made of can be read back: texts and keys have literals that stand for them,
and the text of an integer or of a finite double is the numeral of that number. -/
def Readable : Json → Prop
  | .int value => Json.number? (toString value).toList = some (.int value, [])
  | .float (.infinite _) => True
  | .float value => Json.number? (ofDouble value).toList = some (.float value, [])
  | .text value => Faithful value
  | .list items => ReadableItems items
  | .object members => ReadableMembers members
  | _ => True

def ReadableItems : List Json → Prop
  | [] => True
  | item :: rest => Readable item ∧ ReadableItems rest

def ReadableMembers : List (String × Json) → Prop
  | [] => True
  | (key, value) :: rest => Faithful key ∧ Readable value ∧ ReadableMembers rest

end

theorem next?_quote {text : String} (faithful : Faithful text) :
    next? (quote text).toList = some (.text text, []) := by
  rw [quote, String.toList_ofList, next?_of_string? faithful, String.ofList_toList]

theorem next?_bool (value : Bool) :
    next? (if value then "True" else "False").toList = some (.scalar (.bool value), []) := by
  cases value <;> rfl

theorem next?_ofDouble {value : Number.Double} (readable : Readable (.float value)) :
    next? (ofDouble value).toList = some (.scalar (.float value), []) := by
  cases value with
  | finite => exact next?_of_number? readable
  | infinite negative => cases negative <;> rfl
  | undefined => exact next?_of_number? readable

theorem read?_of_lexes {text : String} {value : Json} (distinct : value.DistinctKeys)
    (lexes : Lexes EndsNumber 0 text (tokensOf value) 0) : read? text = some value := by
  have tokens : tokens? 0 text.toList = some (tokensOf value) := by
    simpa [tokens?] using lexes [] (by simp [EndsNumber])
  rw [read?, tokens]
  exact Json.valueFrom_tokensOf_eq distinct

theorem lexes_member {key : String} {value : Json} {level depth : Nat} (faithful : Faithful key)
    (lexes : Lexes EndsNumber depth (ofJson level value) (tokensOf value) depth) :
    Lexes EndsNumber depth (quote key ++ ": " ++ ofJson level value)
      (.text key :: .colon :: tokensOf value) depth := by
  have colon : Lexes Anything depth ": " [.colon] depth :=
    .ofMark rfl rfl fun _ => tokens?_space
  have name : Lexes EndsNumber depth (quote key) [.text key] depth :=
    .ofToken (next?_quote faithful)
  exact (name.before_parting colon (partsNumbers_of_toList rfl (by decide))).after_fixed lexes

mutual

theorem lexes_ofJson : (value : Json) → Readable value → ∀ level depth,
    Lexes EndsNumber depth (ofJson level value) (tokensOf value) depth
  | .null, _, _, _ => .ofToken (show next? "None".toList = some (.scalar .null, []) from rfl)
  | .bool value, _, _, _ => .ofToken (next?_bool value)
  | .int value, readable, _, _ => .ofToken (next?_of_number? readable)
  | .float value, readable, _, _ => .ofToken (next?_ofDouble readable)
  | .text value, readable, _, _ => .ofToken (next?_quote readable)
  | .list [], _, _, _ =>
    Lexes.weaken (show Lexes Anything _ "[]" [.openList, .closeList] _ from .ofMarks rfl rfl rfl)
  -- `level` is the indentation, `depth` the number of open brackets: an entry is one bracket deeper
  -- in either layout, and only there line ends are nothing.
  | .list (item :: items), readable, level, depth => by
    let inline := fitsInline (.list (item :: items)) (items.length + 1)
    have opening : Lexes Anything depth "[" [.openList] (depth + 1) := .ofMark rfl rfl fun _ => rfl
    have closing : Lexes Anything (depth + 1) "]" [.closeList] depth := .ofMark rfl rfl fun _ => rfl
    have first := lexes_ofJson item readable.1 (entryDepth inline level) (depth + 1)
    have others := lexes_ofItems items readable.2 (entryDepth inline level) (depth + 1)
    have list := opening.enclose closing (partsNumbers_of_toList rfl (by decide)) first others
      inline level
    rw [List.cons_append, List.append_assoc, ← Json.itemTokens_eq] at list
    exact list.weaken
  | .object [], _, _, _ =>
    Lexes.weaken (show Lexes Anything _ "\x7b\x7d" [.openObject, .closeObject] _ from
      .ofMarks rfl rfl rfl)
  | .object ((key, value) :: members), readable, level, depth => by
    let inline := fitsInline (.object ((key, value) :: members)) (members.length + 1)
    have opening : Lexes Anything depth "\x7b" [.openObject] (depth + 1) :=
      .ofMark rfl rfl fun _ => rfl
    have closing : Lexes Anything (depth + 1) "\x7d" [.closeObject] depth :=
      .ofMark rfl rfl fun _ => rfl
    have first := lexes_member readable.1
      (lexes_ofJson value readable.2.1 (entryDepth inline level) (depth + 1))
    have others := lexes_ofMembers members readable.2.2 (entryDepth inline level) (depth + 1)
    have object := opening.enclose closing (partsNumbers_of_toList rfl (by decide)) first others
      inline level
    rw [List.cons_append, List.append_assoc, ← Json.memberTokens_eq] at object
    exact object.weaken

theorem lexes_ofItems : (items : List Json) → ReadableItems items → ∀ level depth,
    List.Forall₂ (Lexes EndsNumber depth · · depth) (ofItems level items) (items.map tokensOf)
  | [], _, _, _ => .nil
  | item :: rest, readable, level, depth =>
    .cons (lexes_ofJson item readable.1 level depth) (lexes_ofItems rest readable.2 level depth)

theorem lexes_ofMembers : (members : List (String × Json)) → ReadableMembers members →
    ∀ level depth, List.Forall₂ (Lexes EndsNumber depth · · depth) (ofMembers level members)
      (members.map fun member => .text member.1 :: .colon :: tokensOf member.2)
  | [], _, _, _ => .nil
  | (_, value) :: rest, readable, level, depth =>
    .cons (lexes_member readable.1 (lexes_ofJson value readable.2.1 level depth))
      (lexes_ofMembers rest readable.2.2 level depth)

end

theorem readableMembers_texts {entries : List (String × String)}
    (faithful : ∀ entry ∈ entries, Faithful entry.1 ∧ Faithful entry.2) :
    ReadableMembers (entries.map fun entry => (entry.1, .text entry.2)) := by
  induction entries with
  | nil => trivial
  | cons entry rest ih =>
      rw [List.forall_mem_cons] at faithful
      exact ⟨faithful.1.1, faithful.1.2, ih faithful.2⟩

theorem distinctKeysMembers_texts (entries : List (String × String)) :
    Json.DistinctKeysMembers (entries.map fun entry => (entry.1, .text entry.2)) := by
  induction entries with
  | nil => trivial
  | cons entry rest ih => exact ⟨trivial, ih⟩

/-- A value with distinct keys is what its literal denotes, with its members and items in their
order; and so is a mapping of texts. Integers that are short enough to be decoded are always
readable. The texts of a value are made of characters; one with a surrogate that lacks its partner
is none of them. -/
theorem read?_literal :
    (∀ (value : Json) (depth : Nat), value.DistinctKeys → Readable value →
      read? (ofJson depth value) = some value) ∧
    (∀ entries : List (String × String), (Entries.keys entries).Nodup →
      (∀ entry ∈ entries, Faithful entry.1 ∧ Faithful entry.2) →
      read? (ofEntries entries) =
        some (.object (entries.map fun entry => (entry.1, .text entry.2)))) ∧
    ∀ value : Int, (Nat.toDigits 10 value.natAbs).length ≤ Number.integerDigits →
      Readable (.int value) := by
  have denotes (value : Json) (depth : Nat) (distinct : value.DistinctKeys)
      (readable : Readable value) : read? (ofJson depth value) = some value :=
    read?_of_lexes distinct (lexes_ofJson value readable depth 0)
  refine ⟨denotes, fun entries distinct faithful => denotes _ 0 ?_ ?_,
    fun value => Json.number?_toString⟩
  · have keys : (Entries.keys (entries.map fun entry => (entry.1, Json.text entry.2))).Nodup := by
      simpa [Entries.keys, Function.comp_def] using distinct
    exact ⟨keys, distinctKeysMembers_texts entries⟩
  · exact readableMembers_texts faithful

def mixedLayout : Json :=
  .object
    [("it's", .list [.int (-12), .float (.finite false 6755399441055744 (-52)),
      .float (.infinite true)]),
     ("a\\d", .object [("ok", .bool true)])]

theorem read?_literal_mixedLayout :
    mixedLayout.DistinctKeys ∧ Readable mixedLayout ∧
      read? (ofJson 2 mixedLayout) = some mixedLayout ∧
      (Entries.keys [("User-Agent", "it's"), ("Accept", "\"*/*\"")]).Nodup ∧
      (∀ entry ∈ [("User-Agent", "it's"), ("Accept", "\"*/*\"")],
        Faithful entry.1 ∧ Faithful entry.2) ∧
      read? (ofEntries [("User-Agent", "it's"), ("Accept", "\"*/*\"")]) =
        some (.object [("User-Agent", .text "it's"), ("Accept", .text "\"*/*\"")]) := by
  have distinct : mixedLayout.DistinctKeys :=
    ⟨by decide, ⟨trivial, trivial, trivial, trivial⟩, ⟨by decide, trivial, trivial⟩, trivial⟩
  have oneAndHalf : Readable (.float (.finite false 6755399441055744 (-52))) := by
    have text : ofDouble (.finite false 6755399441055744 (-52)) = "1.5" := by decide +kernel
    have value : Number.Double.nearest ⟨false, 15, -1⟩ = .finite false 6755399441055744 (-52) := by
      decide +kernel
    change Json.number? (ofDouble _).toList = _
    rw [text, ← value]
    rfl
  have readable : Readable mixedLayout :=
    ⟨by decide, ⟨read?_literal.2.2 (-12) (by decide), oneAndHalf, trivial, trivial⟩,
      by decide, ⟨by decide, trivial, trivial⟩, trivial⟩
  have distinctHeaders : (Entries.keys [("User-Agent", "it's"), ("Accept", "\"*/*\"")]).Nodup := by
    decide
  have faithful : ∀ entry ∈ [("User-Agent", "it's"), ("Accept", "\"*/*\"")],
      Faithful entry.1 ∧ Faithful entry.2 := by
    decide
  exact ⟨distinct, readable, read?_literal.1 mixedLayout 2 distinct readable, distinctHeaders,
    faithful, read?_literal.2.1 _ distinctHeaders faithful⟩

end CurlScript.Literal
