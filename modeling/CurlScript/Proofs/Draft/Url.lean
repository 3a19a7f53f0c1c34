import CurlScript.Command.Draft
import CurlScript.Proofs.Command.Item

/-!
The URL of a draft: the first operand of the command line, whatever the other items do.
-/

namespace CurlScript.Draft

open Command

theorem url_applyText (draft : Draft) (text : String) (flag : ValueFlag) :
    (draft.applyText text flag).url = draft.url := by
  cases flag with
  | header =>
      show (draft.addHeader text).url = draft.url
      unfold addHeader
      split
      · rfl
      · dsimp only
        split <;> rfl
  | method | data | cookie | user | proxy | proxyUser | userAgent | referer | timeout => rfl

theorem url_applyEmpty (draft : Draft) (value : Option String) (flag : ValueFlag) :
    (draft.applyEmpty value flag).url = draft.url := by
  cases flag with
  | method =>
      show (draft.setMethod value).url = draft.url
      cases value <;> rfl
  | header | data | cookie | user | proxy | proxyUser | userAgent | referer | timeout => rfl

theorem url_applyFlag (draft : Draft) (flag : ValueFlag) (value : Option String) :
    (draft.applyFlag flag value).url = draft.url := by
  unfold applyFlag
  split
  · exact url_applyEmpty draft none flag
  · split
    · exact url_applyEmpty draft _ flag
    · exact url_applyText draft _ flag

theorem url_apply (draft : Draft) (item : Item) :
    (draft.apply item).url = if draft.url = "" then item.operand?.getD "" else draft.url := by
  cases item with
  | value flag argument =>
      simp only [apply, url_applyFlag, Item.operand?, Option.getD_none]
      split <;> simp_all
  | insecure | skipped =>
      simp only [apply, Item.operand?, Option.getD_none]
      split <;> simp_all
  | operand token =>
      by_cases empty : draft.url = "" <;> simp [apply, Item.operand?, empty]

theorem url_foldl_apply {items : List Item} (nonempty : .operand "" ∉ items) (draft : Draft) :
    (items.foldl apply draft).url =
      if draft.url = "" then (items.filterMap Item.operand?).head?.getD "" else draft.url := by
  induction items generalizing draft with
  | nil => by_cases empty : draft.url = "" <;> simp [empty]
  | cons item rest ih =>
      simp only [List.mem_cons, not_or] at nonempty
      rw [List.foldl_cons, ih nonempty.2, url_apply]
      by_cases empty : draft.url = ""
      · cases operand : item.operand? with
        | none => simp [empty, List.filterMap_cons_none operand]
        | some token =>
            have tokenNonempty : token ≠ "" := by
              rintro rfl
              cases item <;> simp [Item.operand?] at operand
              exact nonempty.1 (by rw [operand])
            simp [empty, List.filterMap_cons_some operand, tokenNonempty]
      · simp [empty]

end CurlScript.Draft
