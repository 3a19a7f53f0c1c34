import CurlScript.Command.Request
import CurlScript.Proofs.Entries
import CurlScript.Proofs.Request.Cookie
import CurlScript.Proofs.Text.Cut

/-!
Values that a flag cannot read. A header without a colon leaves the draft as it is. A timeout that
cannot be read takes away the timeout there was, and a cookie whose name is white space is kept
under the empty name.
-/

namespace CurlScript

open Command Text

def Timeout.Unreadable (text : String) : Prop :=
  ∀ decimal rest, Number.leadingNumeral digitValue? (trim text.toList) = some (decimal, rest) →
    (Number.Double.nearest decimal).isFinite = false

theorem Timeout.read?_eq_none_iff (text : String) :
    Timeout.read? text = none ↔ Timeout.Unreadable text := by
  unfold Timeout.read? Timeout.Unreadable
  cases Number.leadingNumeral digitValue? (trim text.toList) with
  | none => simp
  | some numeral =>
      obtain ⟨decimal, rest⟩ := numeral
      cases finite : (Number.Double.nearest decimal).isFinite <;> simp [finite]

namespace Draft

theorem addHeader_of_no_colon (draft : Draft) {text : String} (noColon : ':' ∉ text.toList) :
    draft.addHeader text = draft := by
  rw [addHeader, cut_of_not_mem noColon]

theorem applyFlag_of_ne_empty (draft : Draft) (flag : ValueFlag) {text : String}
    (nonempty : text ≠ "") : draft.applyFlag flag (some text) = draft.applyText text flag := by
  simp [applyFlag, nonempty]

theorem applyFlag_header (draft : Draft) {text : String} (noColon : ':' ∉ text.toList) :
    draft.applyFlag .header (some text) = draft := by
  by_cases empty : text = ""
  · subst empty
    rfl
  · rw [applyFlag_of_ne_empty draft .header empty]
    exact addHeader_of_no_colon draft noColon

theorem applyFlag_timeout_eq_self_iff (draft : Draft) {text : String}
    (unreadable : Timeout.Unreadable text) :
    draft.applyFlag .timeout (some text) = draft ↔ text = "" ∨ draft.timeout = none := by
  by_cases empty : text = ""
  · subst empty
    exact iff_of_true rfl (.inl rfl)
  · rw [applyFlag_of_ne_empty draft .timeout empty, applyText,
      (Timeout.read?_eq_none_iff text).mpr unreadable]
    simp only [empty, false_or]
    constructor
    · intro same
      rw [← same]
    · intro noTimeout
      rw [← noTimeout]

theorem applyFlag_cookie (draft : Draft) (text : String) :
    draft.applyFlag .cookie (some text) =
      { draft with cookies := Entries.insertAll (Cookie.pairs text) draft.cookies } := by
  by_cases empty : text = ""
  · subst empty
    rfl
  · rw [applyFlag_of_ne_empty draft .cookie empty]
    rfl

theorem applyFlag_cookie_eq_self_iff (draft : Draft) {text : String}
    (nameless : ∀ segment ∈ pieces ';' text.toList, Cookie.isNameless segment = true) :
    draft.applyFlag .cookie (some text) = draft ↔
      ∀ last ∈ (Cookie.pairs text).getLast?, draft.cookies.lookup "" = some last.2 := by
  have noName : ∀ cookie ∈ Cookie.pairs text, cookie.1 = "" := by
    intro cookie member
    obtain ⟨segment, belongs, found⟩ := List.mem_filterMap.mp member
    exact (Cookie.name_eq_empty_iff found).mpr (nameless segment belongs)
  rw [applyFlag_cookie, ← Entries.insertAll_eq_self_iff noName]
  constructor
  · intro same
    exact congrArg Draft.cookies same
  · intro same
    rw [same]

/-- A value that its flag cannot read leaves a draft as it is: a header always, a timeout exactly if
none was set, and a list of cookies without names exactly if it gives no cookie with an empty name,
or one that is there already. -/
theorem malformed_unchanged_iff (draft : Draft) (text : String) :
    (':' ∉ text.toList → draft.applyFlag .header (some text) = draft) ∧
    (Timeout.Unreadable text →
      (draft.applyFlag .timeout (some text) = draft ↔ text = "" ∨ draft.timeout = none)) ∧
    ((∀ segment ∈ pieces ';' text.toList, Cookie.isNameless segment = true) →
      (draft.applyFlag .cookie (some text) = draft ↔
        ∀ last ∈ (Cookie.pairs text).getLast?, draft.cookies.lookup "" = some last.2)) :=
  ⟨applyFlag_header draft, applyFlag_timeout_eq_self_iff draft, applyFlag_cookie_eq_self_iff draft⟩

/-- A draft with a header and a cookie, and values that begin with no number or with one that is too
large. -/
theorem malformed_unchanged_iff_noTimeout :
    let draft := Draft.ofTokens ["curl", "x", "-H", "A: 1", "-b", "a=1", "-m", "1e999"]
    let cookies := "junk; ;=x"
    ':' ∉ "NoColon".toList ∧ Timeout.Unreadable "soon" ∧
      (∀ segment ∈ pieces ';' cookies.toList, Cookie.isNameless segment = true) ∧
      draft.applyFlag .header (some "NoColon") = draft ∧
      draft.applyFlag .timeout (some "soon") = draft ∧
      draft.applyFlag .cookie (some cookies) = draft := by
  let draft := Draft.ofTokens ["curl", "x", "-H", "A: 1", "-b", "a=1", "-m", "1e999"]
  have noColon : ':' ∉ "NoColon".toList := by decide
  have unreadable : Timeout.Unreadable "soon" :=
    (Timeout.read?_eq_none_iff "soon").mp (by decide +kernel)
  have noTimeout : draft.timeout = none := by decide +kernel
  have nameless : ∀ segment ∈ pieces ';' "junk; ;=x".toList,
      Cookie.isNameless segment = true := by
    decide +kernel
  have noPairs : Cookie.pairs "junk; ;=x" = [] := by decide +kernel
  refine ⟨noColon, unreadable, nameless, ?_, ?_, ?_⟩
  · exact (malformed_unchanged_iff draft "NoColon").1 noColon
  · exact ((malformed_unchanged_iff draft "soon").2.1 unreadable).mpr (.inr noTimeout)
  · exact ((malformed_unchanged_iff draft "junk; ;=x").2.2 nameless).mpr (by simp [noPairs])

/-- A timeout that cannot be read takes away the one that an earlier flag has set. -/
theorem timeout_lost_to_unreadable :
    let draft := Draft.ofTokens ["curl", "-m", "5"]
    Timeout.Unreadable "abc" ∧ draft.timeout = some (Number.Double.ofInt 5) ∧
      (draft.applyFlag .timeout (some "abc")).timeout = none ∧
      (Command.request "curl -m 5 -m abc x").map (·.timeout) = .ok none := by
  have unreadable : Timeout.Unreadable "abc" :=
    (Timeout.read?_eq_none_iff "abc").mp (by decide +kernel)
  exact ⟨unreadable, by decide +kernel⟩

end Draft

end CurlScript
