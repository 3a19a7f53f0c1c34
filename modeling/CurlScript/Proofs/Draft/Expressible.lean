import CurlScript.Proofs.Draft.WellFormed

/-!
Drafts that a command can describe, and the items that describe one.
-/

namespace CurlScript

open Text Command

def TimeoutText (timeout : Option String) (seconds : Option Number.Double) : Prop :=
  match timeout with
  | none => seconds = none
  | some text => text ≠ "" ∧ (∀ c ∈ text.toList, isBlank c = false) ∧ Timeout.read? text = seconds

structure ExpressibleHeader (header : String × String) : Prop where
  notCookie : isWord header.1 "cookie" = false
  name : trimmed header.1 = header.1
  noColon : ':' ∉ header.1.toList
  value : trimmed header.2 = header.2

structure ExpressibleCookie (cookie : String × String) : Prop where
  nonempty : cookie.1 ≠ ""
  name : trimmed cookie.1 = cookie.1
  noEquals : '=' ∉ cookie.1.toList
  noSemicolon : ';' ∉ cookie.1.toList
  value : trimmed cookie.2 = cookie.2
  valueNoSemicolon : ';' ∉ cookie.2.toList

/-- What a command can say: the parts are free of the marks that end them, and trimmed where
reading trims them. -/
structure Draft.Expressible (draft : Draft) : Prop where
  spaces : ∀ text ∈ draft.texts, OnlySpaces text.toList
  notDashed : draft.url.startsWith "-" = false
  method : ∃ text, IsToken text ∧ upper text = draft.method
  headerKeys : (Entries.keys draft.headers).Nodup
  headers : ∀ header ∈ draft.headers, ExpressibleHeader header
  cookieKeys : (Entries.keys draft.cookies).Nodup
  cookies : ∀ cookie ∈ draft.cookies, ExpressibleCookie cookie
  data : draft.data ≠ some ""
  auth : ∀ credentials ∈ draft.auth, ':' ∉ credentials.user.toList
  proxy : draft.proxy ≠ some ""
  proxyAuth : draft.proxyAuth ≠ some ""
  timeout : ∃ text, TimeoutText text draft.timeout

namespace Command

def pairText (mark : Char) (before after : String) : String :=
  String.ofList (before.toList ++ mark :: after.toList)

def Item.given (flag : ValueFlag) (argument : String) : Item :=
  .value flag (some argument)

def Item.ofHeader (header : String × String) : Item :=
  .given .header (pairText ':' header.1 header.2)

def Item.ofCookie (cookie : String × String) : Item :=
  .given .cookie (pairText '=' cookie.1 cookie.2)

def Item.ofCredentials (credentials : Credentials) : Item :=
  .given .user (pairText ':' credentials.user credentials.password)

def Item.ofDraft (draft : Draft) (method : String) (timeout : Option String) : List Item :=
  [Item.operand draft.url] ++
    draft.headers.map Item.ofHeader ++
    draft.cookies.map Item.ofCookie ++
    draft.data.toList.map (Item.given .data) ++
    [Item.given .method method] ++
    draft.auth.toList.map Item.ofCredentials ++
    draft.proxy.toList.map (Item.given .proxy) ++
    draft.proxyAuth.toList.map (Item.given .proxyUser) ++
    (if draft.insecure then [Item.insecure] else []) ++
    timeout.toList.map (Item.given .timeout)

theorem pairText_ne_empty (mark : Char) (before after : String) :
    pairText mark before after ≠ "" := by
  intro empty
  have noChars := congrArg String.toList empty
  simp [pairText] at noChars

theorem cut_pairText {mark : Char} {before : String} (absent : mark ∉ before.toList)
    (after : String) :
    cut mark (pairText mark before after).toList = (before.toList, some after.toList) := by
  rw [pairText, String.toList_ofList]
  exact cut_append absent after.toList

end Command

namespace Draft

variable {draft : Draft}

theorem apply_given (draft : Draft) (flag : ValueFlag) {text : String} (nonempty : text ≠ "") :
    draft.apply (.given flag text) = draft.applyText text flag := by
  simp [apply, Item.given, applyFlag, nonempty]

theorem apply_header {header : String × String} (expressible : ExpressibleHeader header)
    (draft : Draft) :
    draft.apply (.ofHeader header) =
      { draft with headers := Entries.insert header.1 header.2 draft.headers } := by
  obtain ⟨notCookie, name, noColon, value⟩ := expressible
  rw [Item.ofHeader, apply_given _ _ (pairText_ne_empty _ _ _)]
  simp [applyText, addHeader, cut_pairText noColon _, trim_toList_of_trimmed name,
    trim_toList_of_trimmed value, notCookie]

theorem foldl_headers {headers : Entries String String}
    (expressible : ∀ header ∈ headers, ExpressibleHeader header) (draft : Draft) :
    (headers.map Item.ofHeader).foldl apply draft =
      { draft with headers := Entries.insertAll headers draft.headers } := by
  induction headers generalizing draft with
  | nil => rfl
  | cons header rest ih =>
      obtain ⟨first, others⟩ := List.forall_mem_cons.mp expressible
      rw [List.map_cons, List.foldl_cons, apply_header first, ih others]
      rfl

theorem pairs_pairText {cookie : String × String} (expressible : ExpressibleCookie cookie) :
    Cookie.pairs (pairText '=' cookie.1 cookie.2) = [cookie] := by
  obtain ⟨nonempty, name, noEquals, noSemicolon, value, valueNoSemicolon⟩ := expressible
  have onePiece : ';' ∉ (pairText '=' cookie.1 cookie.2).toList := by
    simp [pairText, noSemicolon, valueNoSemicolon]
  have segment : Cookie.ofSegment? (pairText '=' cookie.1 cookie.2).toList = some cookie := by
    unfold Cookie.ofSegment?
    rw [cut_pairText noEquals _]
    split
    · rename_i same
      exact absurd (String.toList_eq_nil_iff.mp (Prod.mk.inj same).1) nonempty
    · rename_i same
      simp at same
    · rename_i nameChars valueChars _ same
      have nameEq : cookie.1.toList = nameChars := (Prod.mk.inj same).1
      have valueEq : cookie.2.toList = valueChars := Option.some.inj (Prod.mk.inj same).2
      rw [← nameEq, ← valueEq, trim_toList_of_trimmed name, trim_toList_of_trimmed value,
        String.ofList_toList, String.ofList_toList]
  rw [Cookie.pairs, pieces_eq_singleton onePiece]
  simp [segment]

theorem foldl_cookies {cookies : Entries String String}
    (expressible : ∀ cookie ∈ cookies, ExpressibleCookie cookie) (draft : Draft) :
    (cookies.map Item.ofCookie).foldl apply draft =
      { draft with cookies := Entries.insertAll cookies draft.cookies } := by
  induction cookies generalizing draft with
  | nil => rfl
  | cons cookie rest ih =>
      obtain ⟨first, others⟩ := List.forall_mem_cons.mp expressible
      rw [List.map_cons, List.foldl_cons, Item.ofCookie,
        apply_given _ _ (pairText_ne_empty _ _ _), ih others]
      simp [applyText, Cookie.addAll, pairs_pairText first, Entries.insertAll]

theorem apply_method (draft : Draft) {method : String} (isToken : IsToken method) :
    draft.apply (.given .method method) = { draft with method := upper method } := by
  have nonempty : method.isEmpty = false := by simpa using isToken.1
  rw [apply_given _ _ isToken.1]
  simp [applyText, setMethod, nonempty]

/-- The body makes the method POST, and the method after it replaces that. -/
theorem foldl_data_method {data : Option String} (nonempty : data ≠ some "") {method : String}
    (isToken : IsToken method) (noData : draft.data = none) :
    ((data.toList.map (Item.given .data)).foldl apply draft).apply (.given .method method) =
      { draft with data := data, method := upper method } := by
  rw [apply_method _ isToken]
  cases data with
  | none =>
      change { draft with method := upper method } =
        { draft with data := none, method := upper method }
      rw [← noData]
  | some text =>
      have textNonempty : text ≠ "" := fun empty => nonempty (empty ▸ rfl)
      simp [apply_given _ _ textNonempty, applyText, setData]

theorem apply_user {credentials : Credentials} (noColon : ':' ∉ credentials.user.toList)
    (draft : Draft) :
    draft.apply (.ofCredentials credentials) =
      { draft with auth := some credentials } := by
  rw [Item.ofCredentials, apply_given _ _ (pairText_ne_empty _ _ _), applyText, setAuth,
    cut_pairText noColon _]
  simp

/-- A part that may be missing is left as it was, or set by its item. -/
theorem foldl_optional {α : Type} {toItem : α → Item} (result : Option α → Draft)
    (absent : draft = result none) {part : Option α}
    (present : ∀ value ∈ part, draft.apply (toItem value) = result (some value)) :
    (part.toList.map toItem).foldl apply draft = result part := by
  cases part with
  | none => exact absent
  | some value => exact present value rfl

theorem foldl_user {auth : Option Credentials}
    (noColon : ∀ credentials ∈ auth, ':' ∉ credentials.user.toList) (noAuth : draft.auth = none) :
    (auth.toList.map Item.ofCredentials).foldl apply draft = { draft with auth := auth } := by
  apply foldl_optional fun auth => { draft with auth := auth }
  · rw [← noAuth]
  · exact fun credentials member => apply_user (noColon credentials member) draft

theorem foldl_proxy {proxy : Option String} (nonempty : proxy ≠ some "")
    (noProxy : draft.proxy = none) :
    (proxy.toList.map (.given .proxy)).foldl apply draft = { draft with proxy := proxy } := by
  apply foldl_optional fun proxy => { draft with proxy := proxy }
  · rw [← noProxy]
  · exact fun text member => apply_given draft .proxy fun empty => nonempty (empty ▸ member)

theorem foldl_proxyUser {proxyAuth : Option String} (nonempty : proxyAuth ≠ some "")
    (noProxyAuth : draft.proxyAuth = none) :
    (proxyAuth.toList.map (.given .proxyUser)).foldl apply draft =
      { draft with proxyAuth := proxyAuth } := by
  apply foldl_optional fun proxyAuth => { draft with proxyAuth := proxyAuth }
  · rw [← noProxyAuth]
  · exact fun text member => apply_given draft .proxyUser fun empty => nonempty (empty ▸ member)

theorem foldl_insecure {insecure : Bool} (secure : draft.insecure = false) :
    (if insecure then [Item.insecure] else []).foldl apply draft =
      { draft with insecure := insecure } := by
  cases insecure with
  | false =>
      change draft = { draft with insecure := false }
      rw [← secure]
  | true => rfl

theorem foldl_timeout {timeout : Option String} {seconds : Option Number.Double}
    (given : TimeoutText timeout seconds) (noTimeout : draft.timeout = none) :
    (timeout.toList.map (.given .timeout)).foldl apply draft =
      { draft with timeout := seconds } := by
  cases timeout with
  | none =>
      obtain rfl : seconds = none := given
      change draft = { draft with timeout := none }
      rw [← noTimeout]
  | some text =>
      obtain ⟨nonempty, -, isTimeout⟩ := given
      rw [← isTimeout]
      exact apply_given draft .timeout nonempty

/-- The items for an expressible draft have it as their effect. -/
theorem foldl_ofDraft (expressible : draft.Expressible) {method : String}
    (isToken : IsToken method) (isMethod : upper method = draft.method) {timeout : Option String}
    (given : TimeoutText timeout draft.timeout) :
    (Item.ofDraft draft method timeout).foldl apply {} = draft := by
  have url : ({} : Draft).apply (.operand draft.url) = { url := draft.url } := rfl
  have headers : (draft.headers.map Item.ofHeader).foldl apply
      { url := draft.url } = { url := draft.url, headers := draft.headers } := by
    rw [foldl_headers expressible.headers,
      Entries.insertAll_of_disjoint expressible.headerKeys (by simp [Entries.keys])]
    rfl
  have cookies : (draft.cookies.map Item.ofCookie).foldl apply
      { url := draft.url, headers := draft.headers } =
      { url := draft.url, headers := draft.headers, cookies := draft.cookies } := by
    rw [foldl_cookies expressible.cookies,
      Entries.insertAll_of_disjoint expressible.cookieKeys (by simp [Entries.keys])]
    rfl
  simp only [Item.ofDraft, List.foldl_append, List.foldl_cons, List.foldl_nil]
  rw [url, headers, cookies, foldl_data_method expressible.data isToken rfl, isMethod,
    foldl_user expressible.auth rfl, foldl_proxy expressible.proxy rfl,
    foldl_proxyUser expressible.proxyAuth rfl, foldl_insecure rfl, foldl_timeout given rfl]

end Draft

end CurlScript
