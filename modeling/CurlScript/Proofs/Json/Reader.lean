import CurlScript.Json.Reader
import CurlScript.Proofs.Entries

/-!
The tokens of a value give it back: lists with their items in order, objects with distinct keys
with their members in order.
-/

namespace CurlScript.Json

mutual

def tokensOf : Json → List Token
  | .text value => [.text value]
  | .list [] => [.openList, .closeList]
  | .list (item :: items) => .openList :: (tokensOf item ++ itemTokens items)
  | .object [] => [.openObject, .closeObject]
  | .object ((key, value) :: members) =>
    .openObject :: .text key :: .colon :: (tokensOf value ++ memberTokens members)
  | value => [.scalar value]

def itemTokens : List Json → List Token
  | [] => [.closeList]
  | item :: rest => .comma :: (tokensOf item ++ itemTokens rest)

def memberTokens : List (String × Json) → List Token
  | [] => [.closeObject]
  | (key, value) :: rest =>
    .comma :: .text key :: .colon :: (tokensOf value ++ memberTokens rest)

end

theorem itemTokens_eq (items : List Json) :
    itemTokens items = (items.map tokensOf).flatMap (.comma :: ·) ++ [.closeList] := by
  induction items with
  | nil => rfl
  | cons item rest ih => simp [itemTokens, ih]

theorem memberTokens_eq (members : List (String × Json)) :
    memberTokens members =
      (members.map fun member => .text member.1 :: .colon :: tokensOf member.2).flatMap
        (.comma :: ·) ++ [.closeObject] := by
  induction members with
  | nil => rfl
  | cons member rest ih => simp [memberTokens, ih]

mutual

def DistinctKeys : Json → Prop
  | .list items => DistinctKeysItems items
  | .object members => (Entries.keys members).Nodup ∧ DistinctKeysMembers members
  | _ => True

def DistinctKeysItems : List Json → Prop
  | [] => True
  | item :: rest => DistinctKeys item ∧ DistinctKeysItems rest

def DistinctKeysMembers : List (String × Json) → Prop
  | [] => True
  | (_, value) :: rest => DistinctKeys value ∧ DistinctKeysMembers rest

end

variable {frames : List Frame} {tokens : List Token}

structure BeginsItem (tokens : List Token) : Prop where
  notEnd : ∀ rest, tokens ≠ .closeList :: rest
  notKey : ∀ key rest, tokens ≠ .text key :: .colon :: rest

theorem beginsItem_tokensOf (value : Json) {rest : List Token}
    (noColon : ∀ others, rest ≠ .colon :: others) : BeginsItem (tokensOf value ++ rest) := by
  have other {token : Token} {others : List Token} (notEnd : token ≠ .closeList)
      (notText : ∀ text, token ≠ .text text) : BeginsItem (token :: others) := by
    constructor
    · rintro _ ⟨⟩
      exact notEnd rfl
    · rintro text _ ⟨⟩
      exact notText text rfl
  cases value with
  | text value =>
      constructor
      · rintro _ ⟨⟩
      · intro key others same
        exact noColon others (List.cons.inj same).2
  | list items => cases items <;> exact other (by simp) (by simp)
  | object members => cases members <;> exact other (by simp) (by simp)
  | _ => exact other (by simp) (by simp)

theorem itemTokens_ne_colon (items : List Json) (rest others : List Token) :
    itemTokens items ++ rest ≠ .colon :: others := by
  cases items <;> simp [itemTokens]

theorem valueFrom_openList (begins : BeginsItem tokens) :
    valueFrom frames (.openList :: tokens) = valueFrom (.items [] :: frames) tokens :=
  valueFrom.eq_4 _ _ begins.notEnd

theorem afterValue_comma_item {read : List Json} {value : Json} (begins : BeginsItem tokens) :
    afterValue (.items read :: frames) value (.comma :: tokens) =
      valueFrom (.items (value :: read) :: frames) tokens :=
  afterValue.eq_4 _ _ _ _ begins.notKey

/-! Behind an item or a member the reader holds the value and what is open, so that the values by
themselves are followed through `valueFrom`, and what stands behind the first of them through
`afterValue`. -/

mutual

/-- The tokens of a value are read as the value, whatever is open and whatever follows. -/
theorem valueFrom_tokensOf : (value : Json) → DistinctKeys value →
    ∀ (frames : List Frame) (rest : List Token),
      valueFrom frames (tokensOf value ++ rest) = afterValue frames value rest
  | .null, _, _, _ => rfl
  | .bool _, _, _, _ => rfl
  | .int _, _, _, _ => rfl
  | .float _, _, _, _ => rfl
  | .text _, _, _, _ => rfl
  | .list [], _, _, _ => rfl
  | .list (item :: items), distinct, frames, rest => by
    have first := valueFrom_tokensOf item distinct.1 (.items [] :: frames)
    have others := afterValue_itemTokens items distinct.2 frames [] item rest
    have begins := beginsItem_tokensOf item (itemTokens_ne_colon items rest)
    rw [tokensOf, List.cons_append, List.append_assoc, valueFrom_openList begins, first, others]
    rfl
  | .object [], _, _, _ => rfl
  | .object ((key, value) :: members), distinct, frames, rest => by
    have first := valueFrom_tokensOf value distinct.2.1 (.members [] key :: frames)
    have others := afterValue_memberTokens members distinct.2.2 frames [] key value rest distinct.1
    have opened : valueFrom frames (tokensOf (.object ((key, value) :: members)) ++ rest) =
        valueFrom (.members [] key :: frames)
          (tokensOf value ++ (memberTokens members ++ rest)) := by
      rw [← List.append_assoc]
      rfl
    rw [opened, first, others]
    rfl

theorem afterValue_itemTokens : (items : List Json) → DistinctKeysItems items →
    ∀ (frames : List Frame) (read : List Json) (item : Json) (rest : List Token),
      afterValue (.items read :: frames) item (itemTokens items ++ rest) =
        afterValue frames (.list (read.reverse ++ item :: items)) rest
  | [], _, frames, read, item, rest => by
    rw [← List.reverse_cons]
    rfl
  | next :: items, distinct, frames, read, item, rest => by
    have first := valueFrom_tokensOf next distinct.1 (.items (item :: read) :: frames)
    have others := afterValue_itemTokens items distinct.2 frames (item :: read) next rest
    have begins := beginsItem_tokensOf next (itemTokens_ne_colon items rest)
    rw [itemTokens, List.cons_append, List.append_assoc, afterValue_comma_item begins, first,
      others, List.reverse_cons, List.append_assoc, List.singleton_append]

theorem afterValue_memberTokens : (members : List (String × Json)) →
    DistinctKeysMembers members →
    ∀ (frames : List Frame) (read : List (String × Json)) (key : String) (value : Json)
      (rest : List Token), (Entries.keys (read ++ (key, value) :: members)).Nodup →
      afterValue (.members read key :: frames) value (memberTokens members ++ rest) =
        afterValue frames (.object (read ++ (key, value) :: members)) rest
  | [], _, frames, read, key, value, rest, fresh => by
    rw [← Entries.insert_of_not_mem value (Entries.not_mem_of_keys_nodup fresh)]
    rfl
  | (next, item) :: members, distinct, frames, read, key, value, rest, fresh => by
    -- The key is new among those read, hence its member goes to the end.
    have inserted := Entries.insert_of_not_mem value (Entries.not_mem_of_keys_nodup fresh)
    have first := valueFrom_tokensOf item distinct.1
      (.members (Entries.insert key value read) next :: frames)
    have others := afterValue_memberTokens members distinct.2 frames
      (Entries.insert key value read) next item rest
      (by simpa [inserted] using fresh)
    have next : afterValue (.members read key :: frames) value
        (memberTokens ((next, item) :: members) ++ rest) =
        valueFrom (.members (Entries.insert key value read) next :: frames)
          (tokensOf item ++ (memberTokens members ++ rest)) := by
      rw [← List.append_assoc]
      rfl
    rw [next, first, others, inserted, List.append_assoc, List.singleton_append]

end

theorem valueFrom_tokensOf_eq {value : Json} (distinct : DistinctKeys value) :
    valueFrom [] (tokensOf value) = some value := by
  simpa [afterValue] using valueFrom_tokensOf value distinct [] []

end CurlScript.Json
