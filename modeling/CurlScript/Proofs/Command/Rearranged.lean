import CurlScript.Proofs.Draft.Part
import CurlScript.Proofs.Draft.Url

/-!
Command lines that say the same in another order, with idle tokens more or less, or with other
spellings of their flags. They all make the same draft.
-/

namespace CurlScript.Command

def Item.isComplete : Item → Bool
  | .value _ none => false
  | _ => true

structure WrittenItem where
  item : Item
  tokens : List String
  spelled : Item.Spelled item tokens
  nonempty : "" ∉ tokens

def tokensOf (line : List WrittenItem) : List String :=
  line.flatMap (·.tokens)

theorem tokensOf_cons (written : WrittenItem) (line : List WrittenItem) :
    tokensOf (written :: line) = written.tokens ++ tokensOf line := rfl

def WrittenItem.Idle (before : List WrittenItem) (extra : WrittenItem) : Prop :=
  (∃ token, extra.item = .skipped token) ∨
    (∃ token, extra.item = .operand token) ∧
      ∃ earlier ∈ before, ∃ token, earlier.item = .operand token

/-- `Rearranged line other`: the items come in another order, but those which write one part of the
draft in the same one; idle items are inserted or removed; flags are spelled in another way. -/
inductive Rearranged : List WrittenItem → List WrittenItem → Prop
  | reorder {line other} : line.Perm other →
      (∀ part : Draft.Part, line.filter (·.item.part? = some part) =
        other.filter (·.item.part? = some part)) → Rearranged line other
  | insert {before after extra} : extra.Idle before →
      Rearranged (before ++ after) (before ++ extra :: after)
  | remove {before after extra} : extra.Idle before →
      Rearranged (before ++ extra :: after) (before ++ after)
  | respell {before after} {first second : WrittenItem} : first.item = second.item →
      Rearranged (before ++ first :: after) (before ++ second :: after)
  | trans {line middle other} : Rearranged line middle → Rearranged middle other →
      Rearranged line other

namespace Item

theorem ofTokens_tokensOf (line : List WrittenItem) :
    ofTokens (tokensOf line) = line.map (·.item) := by
  induction line with
  | nil => rfl
  | cons written rest ih =>
      rw [tokensOf_cons, ofTokens_spelled_append written.spelled, ih]
      rfl

theorem spelled_ofSingle {token : String} (takesNot : takesValue token = false) :
    ∃ item, Spelled item [token] := by
  unfold takesValue at takesNot
  cases found : Flag.ofToken? token with
  | none =>
      cases dashed : token.startsWith "-" with
      | true => exact ⟨_, .unknown found dashed⟩
      | false => exact ⟨_, .operand (by simp [isOperand, found, dashed])⟩
  | some flag =>
      have member := (Flag.ofToken?_eq_some_iff token flag).mp found
      cases flag with
      | value flag => simp [found] at takesNot
      | insecure => exact ⟨_, .insecure member⟩
      | ignored => exact ⟨_, .ignored member⟩

/-- Tokens whose items are complete are items in writing. -/
theorem exists_tokensOf {tokens : List String} (nonempty : "" ∉ tokens)
    (complete : ∀ item ∈ ofTokens tokens, item.isComplete = true) :
    ∃ line, tokensOf line = tokens := by
  fun_induction ofTokens tokens with
  | case1 => exact ⟨[], rfl⟩
  | case2 token =>
      have takesNot : takesValue token = false := by
        apply takesValue_eq_false
        intro flag found
        have whole := complete _ (List.mem_singleton_self _)
        simp [ofSingle, found, isComplete] at whole
      obtain ⟨item, spelled⟩ := spelled_ofSingle takesNot
      exact ⟨[⟨item, [token], spelled, nonempty⟩], rfl⟩
  | case3 token next rest flag found ih =>
      simp only [List.mem_cons, not_or] at nonempty
      have spelled : Spelled (.value flag (some next)) [token, next] :=
        .value ((Flag.ofToken?_eq_some_iff _ _).mp found)
      obtain ⟨line, written⟩ := ih nonempty.2.2 fun item member =>
        complete item (List.mem_cons_of_mem _ member)
      refine ⟨⟨_, [token, next], spelled, by simp [nonempty.1, nonempty.2.1]⟩ :: line, ?_⟩
      rw [tokensOf_cons, written]
      rfl
  | case4 token next rest other ih =>
      have takesNot : takesValue token = false := takesValue_eq_false other
      obtain ⟨item, spelled⟩ := spelled_ofSingle takesNot
      simp only [List.mem_cons, not_or] at nonempty
      obtain ⟨line, written⟩ := ih (by simpa using nonempty.2) fun item member =>
        complete item (List.mem_cons_of_mem _ member)
      refine ⟨⟨item, [token], spelled, by simpa using nonempty.1⟩ :: line, ?_⟩
      rw [tokensOf_cons, written]
      rfl

end Item

namespace WrittenItem

theorem operand_empty_not_mem (line : List WrittenItem) :
    .operand "" ∉ line.map WrittenItem.item := by
  intro member
  obtain ⟨⟨item, tokens, spelled, nonempty⟩, -, rfl⟩ := List.mem_map.mp member
  cases spelled
  simp at nonempty

/-- Behind an operand the draft has its URL. -/
theorem url_foldl_ne_empty {before : List WrittenItem} {earlier : WrittenItem} {token : String}
    (belongs : earlier ∈ before) (isOperand : earlier.item = .operand token) (draft : Draft) :
    ((before.map item).foldl Draft.apply draft).url ≠ "" := by
  have noEmpty := operand_empty_not_mem before
  rw [Draft.url_foldl_apply noEmpty]
  split
  · have listed : token ∈ (before.map item).filterMap Item.operand? :=
      List.mem_filterMap.mpr ⟨.operand token, isOperand ▸ List.mem_map_of_mem belongs, rfl⟩
    obtain ⟨first, rest, operands⟩ := List.exists_cons_of_ne_nil (List.ne_nil_of_mem listed)
    have firstListed : first ∈ (before.map item).filterMap Item.operand? := by simp [operands]
    obtain ⟨firstItem, firstBelongs, found⟩ := List.mem_filterMap.mp firstListed
    rw [operands]
    rintro rfl
    cases firstItem <;> cases found
    exact noEmpty firstBelongs
  · assumption

theorem Idle.apply {before : List WrittenItem} {extra : WrittenItem} (idle : extra.Idle before)
    (draft : Draft) :
    ((before.map item).foldl Draft.apply draft).apply extra.item =
      (before.map item).foldl Draft.apply draft := by
  rcases idle with ⟨token, isSkipped⟩ | ⟨⟨token, isOperand⟩, earlier, belongs, first, isFirst⟩
  · rw [isSkipped]
    rfl
  · have hasUrl := url_foldl_ne_empty belongs isFirst draft
    simp [isOperand, Draft.apply, hasUrl]

end WrittenItem

theorem Rearranged.foldl_apply {line other : List WrittenItem} (rearranged : Rearranged line other)
    (draft : Draft) :
    (other.map (·.item)).foldl Draft.apply draft = (line.map (·.item)).foldl Draft.apply draft := by
  induction rearranged with
  | reorder _ sameOrder =>
      apply Draft.foldl_apply_eq
      intro part
      rw [List.filter_map, List.filter_map]
      exact congrArg _ (sameOrder part).symm
  | insert idle => simp [List.foldl_append, idle.apply]
  | remove idle => simp [List.foldl_append, idle.apply]
  | respell sameItem => simp [sameItem]
  | trans _ _ ihFirst ihSecond => exact ihSecond.trans ihFirst

/-- Complete items in another order, with idle tokens more or less, or with other spellings of their
flags make the same draft; the first token is the name of the program. -/
theorem ofTokens_rearranged (name : String) {tokens : List String} (nonempty : "" ∉ tokens)
    (complete : ∀ item ∈ Item.ofTokens tokens, item.isComplete = true) :
    (∃ line, tokensOf line = tokens) ∧
      ∀ line other, tokensOf line = tokens → Rearranged line other →
        Draft.ofTokens (name :: tokensOf other) = Draft.ofTokens (name :: tokens) := by
  refine ⟨Item.exists_tokensOf nonempty complete, ?_⟩
  rintro line other rfl rearranged
  rw [Draft.ofTokens, Draft.ofTokens, List.tail_cons, List.tail_cons, Item.ofTokens_tokensOf,
    Item.ofTokens_tokensOf]
  exact rearranged.foldl_apply {}

namespace WrittenItem

def cookieHeader : WrittenItem where
  item := .value .header (some "Cookie: a=1")
  tokens := ["-H", "Cookie: a=1"]
  spelled := .value (by decide)
  nonempty := by decide

def cookie : WrittenItem where
  item := .value .cookie (some "b=2")
  tokens := ["-b", "b=2"]
  spelled := .value (by decide)
  nonempty := by decide

def body (spelling : String) (isSpelling : spelling ∈ (Flag.value .data).spellings)
    (nonempty : spelling ≠ "") : WrittenItem where
  item := .value .data (some "-k")
  tokens := [spelling, "-k"]
  spelled := .value isSpelling
  nonempty := by simp [Ne.symm nonempty]

def operand (token : String) (isOperand : isOperand token = true) (nonempty : token ≠ "") :
    WrittenItem where
  item := .operand token
  tokens := [token]
  spelled := .operand isOperand
  nonempty := by simp [Ne.symm nonempty]

end WrittenItem

/-- The body, whose text looks like a flag, goes ahead of both cookies and is spelled out; a second
operand follows the first. -/
theorem ofTokens_rearranged_cookies :
    let tokens := ["-H", "Cookie: a=1", "-b", "b=2", "x", "-d", "-k"]
    let others := ["--data-raw", "-k", "-H", "Cookie: a=1", "-b", "b=2", "x", "y"]
    ("" ∉ tokens ∧ ∀ item ∈ Item.ofTokens tokens, item.isComplete = true) ∧
      (∃ line other, tokensOf line = tokens ∧ tokensOf other = others ∧ Rearranged line other) ∧
      Draft.ofTokens ("curl" :: others) = Draft.ofTokens ("curl" :: tokens) := by
  let url := WrittenItem.operand "x" (by decide +kernel) (by decide)
  let short := WrittenItem.body "-d" (by decide) (by decide)
  let long := WrittenItem.body "--data-raw" (by decide) (by decide)
  let more := WrittenItem.operand "y" (by decide +kernel) (by decide)
  let start := [WrittenItem.cookieHeader, WrittenItem.cookie, url]
  have moved : Rearranged (start ++ [short]) ([short] ++ start) :=
    .reorder List.perm_append_comm fun part => by cases part <;> rfl
  have spelledOut : Rearranged ([] ++ short :: start) ([] ++ long :: start) := .respell rfl
  have extended : Rearranged ((long :: start) ++ []) ((long :: start) ++ [more]) :=
    .insert (.inr ⟨⟨"y", rfl⟩, url, by simp [start], "x", rfl⟩)
  have rearranged : Rearranged (start ++ [short]) (long :: start ++ [more]) :=
    moved.trans (spelledOut.trans extended)
  have nonempty : "" ∉ tokensOf (start ++ [short]) := by decide
  have complete : ∀ item ∈ Item.ofTokens (tokensOf (start ++ [short])), item.isComplete = true := by
    decide +kernel
  exact ⟨⟨nonempty, complete⟩, ⟨_, _, rfl, rfl, rearranged⟩,
    (ofTokens_rearranged "curl" nonempty complete).2 _ _ rfl rearranged⟩

end CurlScript.Command
