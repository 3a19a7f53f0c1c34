import CurlScript.Command.Request
import CurlScript.Proofs.Draft.Part
import CurlScript.Proofs.Text.LetterCase

/-!
The method of a draft. The last explicit method is the one that counts, unless it is GET and a body
comes behind it: such a GET is taken for one that nobody asked for.
-/

namespace CurlScript

open Command Text

namespace Command.Item

def setsMethod : Item → Bool
  | .value .method _ => true
  | _ => false

def setsData : Item → Bool
  | .value .data _ => true
  | _ => false

def method? : Item → Option String
  | .value .method argument => argument
  | _ => none

/-- Where every flag for the method has a value, an item that asks for no method is no such flag. -/
theorem setsMethod_eq_false {items : List Item} (given : .value .method none ∉ items) {item : Item}
    (member : item ∈ items) (asksNone : item.method? = none) : item.setsMethod = false := by
  cases item with
  | value flag argument =>
      cases flag with
      | method =>
          obtain rfl : argument = none := asksNone
          exact absurd member given
      | header | data | cookie | user | proxy | proxyUser | userAgent | referer | timeout => rfl
  | insecure | skipped | operand => rfl

theorem eq_method_of_method? {item : Item} {text : String} (asks : item.method? = some text) :
    item = .value .method (some text) := by
  cases item with
  | value flag argument =>
      cases flag with
      | method =>
          obtain rfl : argument = some text := asks
          rfl
      | header | data | cookie | user | proxy | proxyUser | userAgent | referer | timeout =>
          cases asks
  | insecure | skipped | operand => cases asks

theorem eq_data_of_setsData {item : Item} (sets : item.setsData = true) :
    ∃ argument, item = .value .data argument := by
  cases item with
  | value flag argument =>
      cases flag with
      | data => exact ⟨argument, rfl⟩
      | method | header | cookie | user | proxy | proxyUser | userAgent | referer | timeout =>
          cases sets
  | insecure | skipped | operand => cases sets

theorem part?_ne_body {item : Item} (noMethod : item.setsMethod = false)
    (noData : item.setsData = false) : item.part? ≠ some .body := by
  cases item with
  | value flag argument =>
      cases flag with
      | method => cases noMethod
      | data => cases noData
      | header =>
          rw [part?]
          split <;> simp
      | cookie | user | proxy | proxyUser | userAgent | referer | timeout => simp [part?]
  | insecure | skipped | operand => simp [part?]

/-- What stands last among the methods that items ask for splits them. -/
theorem exists_last_method {items : List Item} {text : String}
    (last : (items.filterMap method?).getLast? = some text) :
    ∃ before after, items = before ++ .value .method (some text) :: after ∧
      ∀ item ∈ after, item.method? = none := by
  obtain ⟨earlier, asked⟩ := List.getLast?_eq_some_iff.mp last
  obtain ⟨front, back, rfl, -, asksLast⟩ := List.filterMap_eq_append_iff.mp asked
  obtain ⟨between, item, after, rfl, -, asks, nothing⟩ := List.filterMap_eq_cons_iff.mp asksLast
  refine ⟨front ++ between, after, ?_, List.filterMap_eq_nil_iff.mp nothing⟩
  rw [eq_method_of_method? asks, List.append_assoc]

end Command.Item

namespace Draft

def askedMethod (items : List Item) : String :=
  match (items.filterMap Item.method?).getLast? with
  | some text => upper text
  | none => if items.any Item.setsData then "POST" else "GET"

/-- The last explicit method does not count: it is empty, or it is GET and a body comes behind
it. -/
def MethodGivesWay (items : List Item) : Prop :=
  ∃ before text after, items = before ++ .value .method (some text) :: after ∧
    (∀ item ∈ after, item.setsMethod = false) ∧
      (text = "" ∨ upper text = "GET" ∧ ∃ item ∈ after, item.setsData = true)

def promoted (method : String) (hasData : Bool) : String :=
  if method = "GET" ∧ hasData = true then "POST" else method

theorem promoted_false (method : String) : promoted method false = method := by
  simp [promoted]

theorem promoted_promoted (method : String) (first second : Bool) :
    promoted (promoted method first) second = promoted method (first || second) := by
  by_cases isGet : method = "GET"
  · cases first <;> simp [promoted, isGet]
  · simp [promoted, isGet]

theorem apply_data (draft : Draft) (argument : Option String) :
    draft.apply (.value .data argument) = draft.setData argument := by
  cases argument with
  | none => rfl
  | some text => exact ite_self _

theorem method_apply_method (draft : Draft) (text : String) :
    (draft.apply (.value .method (some text))).method =
      if text = "" then "GET" else upper text := by
  by_cases empty : text = ""
  · subst empty
    rfl
  · simp [apply, applyFlag, applyText, setMethod, empty]

theorem method_apply {item : Item} (noMethod : item.setsMethod = false) (draft : Draft) :
    (draft.apply item).method = promoted draft.method item.setsData := by
  cases sets : item.setsData with
  | true =>
      obtain ⟨argument, rfl⟩ := Item.eq_data_of_setsData sets
      simp [apply_data, setData, promoted]
  | false =>
      have sameBody := part_apply_of_ne draft (Item.part?_ne_body noMethod sets)
      rw [promoted_false]
      have sameMethod := congrArg Draft.method sameBody
      exact sameMethod

/-- Items without an explicit method keep the method, but for a GET that gets a body. -/
theorem method_foldl {items : List Item} (noMethod : ∀ item ∈ items, item.setsMethod = false)
    (draft : Draft) :
    (items.foldl apply draft).method = promoted draft.method (items.any Item.setsData) := by
  induction items generalizing draft with
  | nil => exact (promoted_false draft.method).symm
  | cons item rest ih =>
      obtain ⟨first, others⟩ := List.forall_mem_cons.mp noMethod
      rw [List.foldl_cons, ih others, method_apply first, promoted_promoted, List.any_cons]

theorem method_foldl_split (before : List Item) (text : String) {after : List Item}
    (noMethod : ∀ item ∈ after, item.setsMethod = false) (draft : Draft) :
    ((before ++ .value .method (some text) :: after).foldl apply draft).method =
      promoted (if text = "" then "GET" else upper text) (after.any Item.setsData) := by
  rw [List.foldl_append, List.foldl_cons, method_foldl noMethod, method_apply_method]

theorem askedMethod_split (before : List Item) (text : String) {after : List Item}
    (noMethod : ∀ item ∈ after, item.setsMethod = false) :
    askedMethod (before ++ .value .method (some text) :: after) = upper text := by
  have nothing : after.filterMap Item.method? = [] := by
    rw [List.filterMap_eq_nil_iff]
    intro item member
    cases asked : item.method? with
    | none => rfl
    | some other =>
        have sets := noMethod item member
        rw [Item.eq_method_of_method? asked] at sets
        cases sets
  have last : ((before ++ .value .method (some text) :: after).filterMap Item.method?).getLast? =
      some text := by
    have asks : (Item.value .method (some text)).method? = some text := rfl
    rw [List.filterMap_append, List.filterMap_cons_some asks, nothing, List.getLast?_concat]
  rw [askedMethod, last]

/-- An explicit method counts exactly if it does not give way to a body behind it; without one, the
method is POST for a request with a body and GET for any other. -/
theorem method_ofTokens_iff {tokens : List String}
    (given : .value .method none ∉ Item.ofTokens tokens.tail) :
    (Draft.ofTokens tokens).method = askedMethod (Item.ofTokens tokens.tail) ↔
      ¬MethodGivesWay (Item.ofTokens tokens.tail) := by
  rw [Draft.ofTokens]
  generalize Item.ofTokens tokens.tail = items at given ⊢
  constructor
  · rintro same ⟨before, text, after, rfl, noMethod, reason⟩
    rw [method_foldl_split before text noMethod, askedMethod_split before text noMethod] at same
    rcases reason with rfl | ⟨isGet, hasData⟩
    · have notEmpty : ∀ hasData, promoted "GET" hasData ≠ upper "" := by decide
      exact notEmpty _ same
    · have nonempty : text ≠ "" := by
        rintro rfl
        revert isGet
        decide
      rw [if_neg nonempty, isGet, List.any_eq_true.mpr hasData] at same
      revert same
      decide
  · intro counts
    cases last : (items.filterMap Item.method?).getLast? with
    | none =>
        have asksNone := List.filterMap_eq_nil_iff.mp (List.getLast?_eq_none_iff.mp last)
        have noMethod : ∀ item ∈ items, item.setsMethod = false := fun item member =>
          Item.setsMethod_eq_false given member (asksNone item member)
        rw [method_foldl noMethod, askedMethod, last]
        simp [promoted]
    | some text =>
        obtain ⟨before, after, rfl, asksNone⟩ := Item.exists_last_method last
        have noMethod : ∀ item ∈ after, item.setsMethod = false := fun item member =>
          Item.setsMethod_eq_false given (by simp [member]) (asksNone item member)
        have nonempty : text ≠ "" := fun empty =>
          counts ⟨before, text, after, rfl, noMethod, .inl empty⟩
        have stays : ¬(upper text = "GET" ∧ after.any Item.setsData = true) := by
          rintro ⟨isGet, hasData⟩
          exact counts ⟨before, text, after, rfl, noMethod,
            .inr ⟨isGet, List.any_eq_true.mp hasData⟩⟩
        rw [method_foldl_split before text noMethod, askedMethod_split before text noMethod,
          if_neg nonempty, promoted, if_neg stays]

/-- A GET that is not the last method, and bodies on both sides of the one that is. -/
theorem method_ofTokens_iff_twoMethods :
    let tokens := ["curl", "-X", "get", "-d", "a", "--request", "put", "x", "-d", "-X"]
    .value .method none ∉ Item.ofTokens tokens.tail ∧ (Draft.ofTokens tokens).method = "PUT" ∧
      askedMethod (Item.ofTokens tokens.tail) = "PUT" ∧
      ¬MethodGivesWay (Item.ofTokens tokens.tail) := by
  let tokens := ["curl", "-X", "get", "-d", "a", "--request", "put", "x", "-d", "-X"]
  have given : .value .method none ∉ Item.ofTokens tokens.tail := by decide +kernel
  have method : (Draft.ofTokens tokens).method = "PUT" := by decide +kernel
  have asked : askedMethod (Item.ofTokens tokens.tail) = "PUT" := by decide +kernel
  exact ⟨given, method, asked, (method_ofTokens_iff given).mp (method.trans asked.symm)⟩

/-- A body behind an explicit GET makes it a POST. -/
theorem method_of_get_with_body :
    let tokens := ["curl", "-X", "GET", "-d", "x", "http://a"]
    .value .method none ∉ Item.ofTokens tokens.tail ∧
      askedMethod (Item.ofTokens tokens.tail) = "GET" ∧
      (Draft.ofTokens tokens).method = "POST" ∧
      (Command.request "curl -X GET -d x http://a").map (·.method) = .ok "POST" := by
  decide +kernel

end Draft

end CurlScript
