import CurlScript.Command.Request
import CurlScript.Proofs.Draft.Part
import CurlScript.Proofs.Entries
import CurlScript.Proofs.Request.Cookie

/-!
The cookies of a draft: the pairs of all segments that its items carry, one after the other. A
segment without a name gives none, unless white space stands where the name should.
-/

namespace CurlScript

open Command Text

def Command.Item.cookieSegments : Item → List (List Char)
  | .value .cookie (some text) => pieces ';' text.toList
  | .value .header (some text) =>
    match cut ':' text.toList with
    | (name, some list) =>
      if isWord (String.ofList (trim name)) "cookie" then pieces ';' (trim list) else []
    | (_, none) => []
  | _ => []

namespace Draft

theorem cookies_addHeader (draft : Draft) (text : String) :
    (draft.addHeader text).cookies =
      Entries.insertAll
        ((Item.value .header (some text)).cookieSegments.filterMap Cookie.ofSegment?)
        draft.cookies := by
  simp only [addHeader, Item.cookieSegments]
  obtain ⟨name, rest⟩ := cut ':' text.toList
  cases rest with
  | none => rfl
  | some list =>
      cases isCookie : isWord (String.ofList (trim name)) "cookie" with
      | false => simp [isCookie, Entries.insertAll]
      | true => simp [isCookie, Cookie.addAll, Cookie.pairs]

theorem cookies_apply (draft : Draft) (item : Item) :
    (draft.apply item).cookies =
      Entries.insertAll (item.cookieSegments.filterMap Cookie.ofSegment?) draft.cookies := by
  have untouched : ∀ {item : Item}, item.part? ≠ some .cookies →
      (draft.apply item).cookies = draft.cookies := by
    intro item different
    have same := congrArg Draft.cookies (part_apply_of_ne draft different)
    exact same
  cases item with
  | value flag argument =>
      cases flag with
      | header =>
          cases argument with
          | none => rfl
          | some text =>
              by_cases empty : text = ""
              · subst empty
                rfl
              · rw [← cookies_addHeader]
                simp [apply, applyFlag, applyText, empty]
      | cookie =>
          cases argument with
          | none => rfl
          | some text =>
              by_cases empty : text = ""
              · subst empty
                rfl
              · simp [apply, applyFlag, applyText, empty, Cookie.addAll, Cookie.pairs,
                  Item.cookieSegments]
      | method | data | user | proxy | proxyUser | userAgent | referer | timeout =>
          exact untouched (by simp [Item.part?])
  | insecure | skipped | operand => exact untouched (by simp [Item.part?])

theorem cookies_foldl (items : List Item) (draft : Draft) :
    (items.foldl apply draft).cookies =
      Entries.insertAll ((items.flatMap Item.cookieSegments).filterMap Cookie.ofSegment?)
        draft.cookies := by
  induction items generalizing draft with
  | nil => rfl
  | cons item rest ih =>
      rw [List.foldl_cons, ih, cookies_apply, ← Entries.insertAll_append, List.flatMap_cons,
        List.filterMap_append]

/-- Of the items of a command line, in any order and number, none leaves a cookie without a name,
and the segments without a name count for nothing, exactly if no name in them is white space. -/
theorem nameless_cookies_iff (items : List Item) {draft : Draft} (noCookies : draft.cookies = []) :
    ("" ∉ Entries.keys (items.foldl apply draft).cookies ↔
      ∀ segment ∈ items.flatMap Item.cookieSegments, Cookie.hasBlankName segment = false) ∧
    ((items.foldl apply draft).cookies =
        Entries.ofList (((items.flatMap Item.cookieSegments).filter
          (!Cookie.isNameless ·)).filterMap Cookie.ofSegment?) ↔
      ∀ segment ∈ items.flatMap Item.cookieSegments, Cookie.hasBlankName segment = false) := by
  rw [cookies_foldl, noCookies]
  generalize items.flatMap Item.cookieSegments = segments
  have names : ∀ segments : List (List Char),
      "" ∉ Entries.keys (Entries.insertAll (segments.filterMap Cookie.ofSegment?) []) ↔
        ∀ segment ∈ segments, Cookie.hasBlankName segment = false := by
    intro segments
    rw [Entries.mem_keys_insertAll, Entries.keys, Cookie.empty_mem_keys_iff]
    simp [Entries.keys]
  refine ⟨names segments, ?_, fun noBlank => ?_⟩
  · intro same
    rw [← names, same, Entries.ofList, names]
    intro segment kept
    have named := (List.mem_filter.mp kept).2
    by_contra blank
    rw [Bool.not_eq_false] at blank
    simp [Cookie.isNameless_of_hasBlankName blank] at named
  · rw [Entries.ofList, Cookie.filterMap_filter_isNameless noBlank]

/-- Nameless segments of three kinds, in both flags and next to a cookie. -/
theorem nameless_cookies_iff_bothFlags :
    let items := [Item.value .cookie (some "a=1;=x;"), .operand "u",
      .value .header (some "COOKIE:  =y; b = 2 ;c")]
    ({ url := "x" } : Draft).cookies = [] ∧
      (∀ segment ∈ items.flatMap Item.cookieSegments, Cookie.hasBlankName segment = false) ∧
      "" ∉ Entries.keys (items.foldl apply { url := "x" }).cookies ∧
      (items.foldl apply { url := "x" }).cookies = [("a", "1"), ("b", "2")] := by
  let items := [Item.value .cookie (some "a=1;=x;"), .operand "u",
    .value .header (some "COOKIE:  =y; b = 2 ;c")]
  have noBlank : ∀ segment ∈ items.flatMap Item.cookieSegments,
      Cookie.hasBlankName segment = false := by
    decide +kernel
  have noCookies : ({ url := "x" } : Draft).cookies = [] := rfl
  have dropped := nameless_cookies_iff items noCookies
  refine ⟨noCookies, noBlank, dropped.1.mpr noBlank, ?_⟩
  rw [dropped.2.mpr noBlank]
  decide +kernel

/-- A space ahead of the sign of equality is a name. -/
theorem empty_name_of_space :
    let tokens := ["curl", "x", "-b", "a=1; =b"]
    Cookie.isNameless [' ', '=', 'b'] = true ∧
      (Draft.ofTokens tokens).cookies = [("a", "1"), ("", "b")] ∧
      (Command.request "curl x -b 'a=1; =b'").map (·.cookies) =
        .ok [("a", "1"), ("", "b")] := by
  decide +kernel

end Draft

end CurlScript
