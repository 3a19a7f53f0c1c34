import CurlScript.Command.Draft

/-!
The parts of a draft. Each item of a command line writes at most one part and reads no other, so
that a part after a run depends only on the items that write it.
-/

namespace CurlScript

open Command Text

inductive Draft.Part where
  | url
  | body
  | headers
  | cookies
  | auth
  | proxy
  | proxyAuth
  | insecure
  | timeout
deriving DecidableEq, Repr

def Command.givesCookies (text : String) : Bool :=
  match cut ':' text.toList with
  | (name, some _) => isWord (String.ofList (trim name)) "cookie"
  | _ => false

def Command.Item.part? : Item → Option Draft.Part
  | .operand _ => some .url
  | .skipped _ => none
  | .insecure => some .insecure
  | .value .method _ | .value .data _ => some .body
  | .value .header argument => if argument.any givesCookies then some .cookies else some .headers
  | .value .userAgent _ | .value .referer _ => some .headers
  | .value .cookie _ => some .cookies
  | .value .user _ => some .auth
  | .value .proxy _ => some .proxy
  | .value .proxyUser _ => some .proxyAuth
  | .value .timeout _ => some .timeout

theorem Command.Item.eq_skipped_of_part? {item : Item} (writesNone : item.part? = none) :
    ∃ token, item = .skipped token := by
  cases item with
  | skipped token => exact ⟨token, rfl⟩
  | value flag argument =>
      cases flag with
      | header =>
          simp only [Item.part?] at writesNone
          split at writesNone <;> cases writesNone
      | method | data | cookie | user | proxy | proxyUser | userAgent | referer | timeout =>
          cases writesNone
  | insecure | operand => cases writesNone

namespace Draft

def part (draft : Draft) : Part → Draft
  | .url => { url := draft.url }
  | .body => { method := draft.method, data := draft.data }
  | .headers => { headers := draft.headers }
  | .cookies => { cookies := draft.cookies }
  | .auth => { auth := draft.auth }
  | .proxy => { proxy := draft.proxy }
  | .proxyAuth => { proxyAuth := draft.proxyAuth }
  | .insecure => { insecure := draft.insecure }
  | .timeout => { timeout := draft.timeout }

def withPart (draft : Draft) (part : Part) (source : Draft) : Draft :=
  match part with
  | .url => { draft with url := source.url }
  | .body => { draft with method := source.method, data := source.data }
  | .headers => { draft with headers := source.headers }
  | .cookies => { draft with cookies := source.cookies }
  | .auth => { draft with auth := source.auth }
  | .proxy => { draft with proxy := source.proxy }
  | .proxyAuth => { draft with proxyAuth := source.proxyAuth }
  | .insecure => { draft with insecure := source.insecure }
  | .timeout => { draft with timeout := source.timeout }

@[simp] theorem part_withPart (draft : Draft) (part : Part) (source : Draft) :
    (draft.withPart part source).part part = source.part part := by
  cases part <;> rfl

theorem part_withPart_of_ne (draft : Draft) {part other : Part} (different : other ≠ part)
    (source : Draft) : (draft.withPart other source).part part = draft.part part := by
  cases other <;> cases part <;> first | rfl | exact absurd rfl different

/-- Drafts are equal when all their parts are. -/
theorem ext_part {draft other : Draft} (same : ∀ part, draft.part part = other.part part) :
    draft = other := by
  have url := congrArg url (same .url)
  have method := congrArg method (same .body)
  have data := congrArg data (same .body)
  have headers := congrArg headers (same .headers)
  have cookies := congrArg cookies (same .cookies)
  have auth := congrArg auth (same .auth)
  have proxy := congrArg proxy (same .proxy)
  have proxyAuth := congrArg proxyAuth (same .proxyAuth)
  have insecure := congrArg insecure (same .insecure)
  have timeout := congrArg timeout (same .timeout)
  cases draft
  cases other
  simp only [part] at *
  subst_vars
  rfl

theorem addHeader_eq_withPart (draft : Draft) (text : String) :
    draft.addHeader text =
      if givesCookies text then
        draft.withPart .cookies ((draft.part .cookies).addHeader text)
      else draft.withPart .headers ((draft.part .headers).addHeader text) := by
  unfold addHeader givesCookies
  obtain ⟨name, rest⟩ := cut ':' text.toList
  cases rest with
  | none => rfl
  | some value =>
      cases isCookie : isWord (String.ofList (trim name)) "cookie" <;>
        simp [isCookie, withPart, part]

theorem applyText_eq_withPart (draft : Draft) (text : String) (flag : ValueFlag) {part : Part}
    (writes : (Item.value flag (some text)).part? = some part) :
    draft.applyText text flag = draft.withPart part ((draft.part part).applyText text flag) := by
  cases flag with
  | header =>
      have partEq : part = if givesCookies text then .cookies else .headers := by
        have found := writes
        simp only [Item.part?, Option.any_some] at found
        split at found <;> simp_all
      simp only [applyText]
      rw [addHeader_eq_withPart, partEq]
      split <;> rfl
  | method | data | cookie | user | proxy | proxyUser | userAgent | referer | timeout =>
      obtain rfl := Option.some.inj writes
      rfl

theorem applyEmpty_eq_withPart (draft : Draft) (value argument : Option String) (flag : ValueFlag)
    {part : Part} (writes : (Item.value flag argument).part? = some part) :
    draft.applyEmpty value flag =
      draft.withPart part ((draft.part part).applyEmpty value flag) := by
  cases flag with
  | header =>
      simp only [Item.part?] at writes
      split at writes <;> cases writes <;> rfl
  | method =>
      obtain rfl := Option.some.inj writes
      cases value <;> rfl
  | data | cookie | user | proxy | proxyUser | userAgent | referer | timeout =>
      obtain rfl := Option.some.inj writes
      rfl

/-- An item writes its part from that part alone, and leaves all else as it is. -/
theorem apply_eq_withPart (draft : Draft) {item : Item} {part : Part}
    (writes : item.part? = some part) :
    draft.apply item = draft.withPart part ((draft.part part).apply item) := by
  cases item with
  | value flag argument =>
      cases argument with
      | none => exact applyEmpty_eq_withPart draft none none flag writes
      | some text =>
          by_cases empty : text.isEmpty
          · simp only [apply, applyFlag, empty, if_true]
            exact applyEmpty_eq_withPart draft (some text) _ flag writes
          · simp only [apply, applyFlag, empty]
            exact applyText_eq_withPart draft text flag writes
  | insecure =>
      obtain rfl := Option.some.inj writes
      rfl
  | skipped token => simp [Item.part?] at writes
  | operand token =>
      obtain rfl := Option.some.inj writes
      by_cases empty : draft.url.isEmpty <;> simp [apply, withPart, Draft.part, empty]

/-- An item leaves the parts alone that it does not write. -/
theorem part_apply_of_ne (draft : Draft) {item : Item} {part : Part}
    (different : item.part? ≠ some part) : (draft.apply item).part part = draft.part part := by
  cases writes : item.part? with
  | none =>
      obtain ⟨token, rfl⟩ := Item.eq_skipped_of_part? writes
      rfl
  | some other =>
      have otherNe : other ≠ part := fun same => different (same ▸ writes)
      rw [apply_eq_withPart draft writes, part_withPart_of_ne draft otherNe]

/-- What an item makes of a part depends on that part only. -/
theorem part_apply_congr {draft other : Draft} {part : Part}
    (same : draft.part part = other.part part) (item : Item) :
    (draft.apply item).part part = (other.apply item).part part := by
  by_cases writes : item.part? = some part
  · rw [apply_eq_withPart draft writes, apply_eq_withPart other writes, part_withPart,
      part_withPart, same]
  · rw [part_apply_of_ne draft writes, part_apply_of_ne other writes, same]

/-- A part after a run is that after the items alone which write it. -/
theorem part_foldl_filter {draft other : Draft} {part : Part}
    (same : draft.part part = other.part part) (items : List Item) :
    (items.foldl apply draft).part part =
      ((items.filter (·.part? = some part)).foldl apply other).part part := by
  induction items generalizing draft other with
  | nil => exact same
  | cons item rest ih =>
      by_cases writes : item.part? = some part
      · rw [List.filter_cons_of_pos (by simpa using writes), List.foldl_cons, List.foldl_cons]
        exact ih (part_apply_congr same item)
      · rw [List.filter_cons_of_neg (by simpa using writes), List.foldl_cons]
        exact ih ((part_apply_of_ne draft writes).trans same)

/-- Two runs make the same draft when they have the same items, in the same order, for each part. -/
theorem foldl_apply_eq {items others : List Item}
    (same : ∀ part : Part,
      items.filter (·.part? = some part) = others.filter (·.part? = some part))
    (draft : Draft) : items.foldl apply draft = others.foldl apply draft := by
  apply ext_part
  intro part
  rw [part_foldl_filter rfl items, same part, ← part_foldl_filter rfl others]

end Draft

end CurlScript
