import CurlScript.Command.Draft
import CurlScript.Proofs.Command.Item
import CurlScript.Proofs.Command.Writing

/-!
Empty arguments on a command line. They leave no token, so that a value flag takes the next argument
that is not empty. An empty value is the value of its flag only where nothing follows that the flag
could take instead.
-/

namespace CurlScript

open Command

def Draft.present (draft : Draft) : Draft :=
  { draft with
    data := draft.data.filter (· ≠ "")
    proxy := draft.proxy.filter (· ≠ "")
    proxyAuth := draft.proxyAuth.filter (· ≠ "") }

namespace Command

def Item.hasEmptyValue : Item → Bool
  | .value _ (some text) => text.isEmpty
  | _ => false

/-- Behind a flag with an empty value come only empty arguments, none of them the value of a
flag. -/
def EmptyValuesLast (items : List Item) : Prop :=
  items.Pairwise fun item later => item.hasEmptyValue = true → later = .operand ""

instance (items : List Item) : Decidable (EmptyValuesLast items) :=
  inferInstanceAs (Decidable (items.Pairwise _))

theorem ne_empty_of_ofToken? {token : String} {flag : Flag}
    (found : Flag.ofToken? token = some flag) : token ≠ "" := by
  have spellings : ∀ flag ∈ Flag.all, "" ∉ flag.spellings := by decide
  rintro rfl
  exact spellings flag flag.mem_all ((Flag.ofToken?_eq_some_iff "" flag).mp found)

namespace Item

theorem ofSingle_empty : ofSingle "" = .operand "" := by
  decide +kernel

theorem eq_of_ofSingle {token operand : String} (isOperand : ofSingle token = .operand operand) :
    token = operand := by
  have member : operand ∈ (ofSingle token).texts := by simp [isOperand, texts]
  exact (mem_texts_ofSingle member).symm

theorem eq_empty_of_operands {tokens : List String}
    (operands : ∀ item ∈ ofTokens tokens, item = .operand "") : ∀ token ∈ tokens, token = "" := by
  fun_induction ofTokens tokens with
  | case1 => simp
  | case2 token =>
      have isOperand := operands _ (List.mem_singleton_self _)
      simpa using eq_of_ofSingle isOperand
  | case3 token next rest flag found ih => simp at operands
  | case4 token next rest other ih =>
      obtain ⟨first, others⟩ := List.forall_mem_cons.mp operands
      exact List.forall_mem_cons.mpr ⟨eq_of_ofSingle first, ih others⟩

end Item

end Command

namespace Draft

theorem apply_empty_operand (draft : Draft) : draft.apply (.operand "") = draft := by
  by_cases empty : draft.url = ""
  · simp only [apply, empty]
    rw [← empty]
    split <;> rfl
  · simp [apply, empty]

theorem foldl_apply_operands {items : List Item} (operands : ∀ item ∈ items, item = .operand "")
    (draft : Draft) : items.foldl apply draft = draft := by
  induction items with
  | nil => rfl
  | cons item rest ih =>
      obtain ⟨first, others⟩ := List.forall_mem_cons.mp operands
      rw [List.foldl_cons, first, apply_empty_operand, ih others]

/-- A missing value has the effect of an empty one. -/
theorem present_apply_none (draft : Draft) (flag : ValueFlag) :
    (draft.apply (.value flag none)).present = (draft.apply (.value flag (some ""))).present := by
  cases flag <;> rfl

theorem present_foldl_filter {arguments : List String}
    (emptyLast : EmptyValuesLast (Item.ofTokens arguments)) (draft : Draft) :
    ((Item.ofTokens (arguments.filter (· ≠ ""))).foldl apply draft).present =
      ((Item.ofTokens arguments).foldl apply draft).present := by
  fun_induction Item.ofTokens arguments generalizing draft with
  | case1 => rfl
  | case2 token =>
      by_cases empty : token = ""
      · simp [empty, Item.ofTokens, Item.ofSingle_empty, apply_empty_operand]
      · simp [empty, Item.ofTokens]
  | case3 token next rest flag found ih =>
      obtain ⟨emptyBehind, restLast⟩ := List.pairwise_cons.mp emptyLast
      have nonempty := ne_empty_of_ofToken? found
      by_cases empty : next = ""
      · have operands : ∀ item ∈ Item.ofTokens rest, item = .operand "" := by
          intro item member
          exact emptyBehind item member (by simp [Item.hasEmptyValue, empty])
        have noneLeft : rest.filter (· ≠ "") = [] := by
          simpa using Item.eq_empty_of_operands operands
        rw [List.foldl_cons, foldl_apply_operands operands, empty, ← present_apply_none,
          List.filter_cons_of_pos (by simpa using nonempty), List.filter_cons_of_neg (by simp),
          noneLeft, Item.ofTokens, Item.ofSingle, found]
        rfl
      · rw [List.filter_cons_of_pos (by simpa using nonempty),
          List.filter_cons_of_pos (by simpa using empty), Item.ofTokens, found]
        exact ih restLast _
  | case4 token next rest other ih =>
      obtain ⟨-, restLast⟩ := List.pairwise_cons.mp emptyLast
      by_cases empty : token = ""
      · rw [List.filter_cons_of_neg (by simp [empty]), List.foldl_cons, empty, Item.ofSingle_empty,
          apply_empty_operand]
        exact ih restLast draft
      · rw [List.filter_cons_of_pos (by simpa using empty),
          Item.ofTokens_cons_single (takesValue_eq_false other)]
        exact ih restLast _

/-- The draft of a written command line is that of its arguments without the empty ones. It is that
of the arguments themselves, apart from texts that are empty, if empty values come last. -/
theorem ofTokens_writing {arguments : List String} {text : List Char}
    (writing : Writing ("curl" :: arguments) text) :
    Draft.ofTokens (tokenize (String.ofList text)) =
        Draft.ofTokens ("curl" :: arguments.filter (· ≠ "")) ∧
      (EmptyValuesLast (Item.ofTokens arguments) →
        (Draft.ofTokens (tokenize (String.ofList text))).present =
          (Draft.ofTokens ("curl" :: arguments)).present) := by
  have tokens : tokenize (String.ofList text) = "curl" :: arguments.filter (· ≠ "") := by
    rw [tokenize, String.toList_ofList]
    exact (Scan.tokens_run_writing writing).trans (List.filter_cons_of_pos (by decide))
  rw [tokens]
  exact ⟨rfl, fun emptyLast => present_foldl_filter emptyLast {}⟩

theorem ofTokens_writing_emptyProxy :
    let arguments := ["x", "", "-d", "a b", "-x", ""]
    let text := "curl x '' -d 'a b' -x ''".toList
    Writing ("curl" :: arguments) text ∧ EmptyValuesLast (Item.ofTokens arguments) ∧
      (Draft.ofTokens (tokenize (String.ofList text))).present =
        (Draft.ofTokens ("curl" :: arguments)).present := by
  have name : Spelling "curl".toList "curl".toList := .ofBare (by simp [IsBare])
  have url : Spelling "x".toList "x".toList := .ofBare (by simp [IsBare])
  have data : Spelling "-d".toList "-d".toList := .ofBare (by simp [IsBare])
  have proxy : Spelling "-x".toList "-x".toList := .ofBare (by simp [IsBare])
  have empty : Spelling "".toList "''".toList := .quoted (.inl rfl) .nil .nil
  have spaced : Enclosed '\'' ['a', ' ', 'b'] ['a', ' ', 'b'] :=
    .raw (by decide) (by decide) (.raw (by decide) (by decide) (.raw (by decide) (by decide) .nil))
  have body : Spelling "a b".toList "'a b'".toList := .quoted (.inl rfl) spaced .nil
  have writing : Writing ["curl", "x", "", "-d", "a b", "-x", ""]
      "curl x '' -d 'a b' -x ''".toList :=
    .cons 0 name (.cons 0 url (.cons 0 empty (.cons 0 data (.cons 0 body (.cons 0 proxy
      (.cons 0 empty (.nil 0)))))))
  have emptyLast : EmptyValuesLast (Item.ofTokens ["x", "", "-d", "a b", "-x", ""]) := by
    decide +kernel
  exact ⟨writing, emptyLast, (ofTokens_writing writing).2 emptyLast⟩

/-- The flag with an empty value takes the URL behind it. -/
theorem empty_value_takes_url :
    let text := "curl -A '' x".toList
    Writing ["curl", "-A", "", "x"] text ∧
      (Draft.ofTokens (tokenize (String.ofList text))).present ≠
        (Draft.ofTokens ["curl", "-A", "", "x"]).present := by
  have name : Spelling "curl".toList "curl".toList := .ofBare (by simp [IsBare])
  have agent : Spelling "-A".toList "-A".toList := .ofBare (by simp [IsBare])
  have empty : Spelling "".toList "''".toList := .quoted (.inl rfl) .nil .nil
  have url : Spelling "x".toList "x".toList := .ofBare (by simp [IsBare])
  have writing : Writing ["curl", "-A", "", "x"] "curl -A '' x".toList :=
    .cons 0 name (.cons 0 agent (.cons 0 empty (.cons 0 url (.nil 0))))
  exact ⟨writing, by decide +kernel⟩

end Draft

end CurlScript
