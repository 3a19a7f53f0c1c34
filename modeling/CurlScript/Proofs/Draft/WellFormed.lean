import CurlScript.Command.Request
import CurlScript.Proofs.Command.Item
import CurlScript.Proofs.Command.Normal
import CurlScript.Proofs.Command.Scan
import CurlScript.Proofs.Entries
import CurlScript.Proofs.Text.Cut
import CurlScript.Proofs.Text.LetterCase

/-!
What holds of every request that a command text describes: which characters its parts are free of
and which parts are trimmed. One item of the command line keeps it, and so does a whole line.
-/

namespace CurlScript

open Text

namespace Text

def IsToken (text : String) : Prop :=
  text ≠ "" ∧ OnlySpaces text.toList

instance (text : String) : Decidable (IsToken text) :=
  inferInstanceAs (Decidable (text ≠ "" ∧ OnlySpaces text.toList))

theorem OnlySpaces.of_subset {part whole : List Char} (onlySpaces : OnlySpaces whole)
    (subset : ∀ c ∈ part, c ∈ whole) : OnlySpaces part :=
  fun c member blank => onlySpaces c (subset c member) blank

theorem OnlySpaces.trim {text : List Char} (onlySpaces : OnlySpaces text) :
    OnlySpaces (Text.trim text) :=
  onlySpaces.of_subset fun _ => mem_of_mem_trim

end Text

structure WellFormedHeader (header : String × String) : Prop where
  notCookie : isWord header.1 "cookie" = false
  name : trimmed header.1 = header.1
  noColon : ':' ∉ header.1.toList
  value : header.1 = "User-Agent" ∨ header.1 = "Referer" ∨ trimmed header.2 = header.2
  nameSpaces : OnlySpaces header.1.toList
  valueSpaces : OnlySpaces header.2.toList

structure WellFormedCookie (cookie : String × String) : Prop where
  name : trimmed cookie.1 = cookie.1
  noEquals : '=' ∉ cookie.1.toList
  noSemicolon : ';' ∉ cookie.1.toList
  value : trimmed cookie.2 = cookie.2
  valueNoSemicolon : ';' ∉ cookie.2.toList
  nameSpaces : OnlySpaces cookie.1.toList
  valueSpaces : OnlySpaces cookie.2.toList

structure WellFormedCredentials (credentials : Credentials) : Prop where
  noColon : ':' ∉ credentials.user.toList
  userSpaces : OnlySpaces credentials.user.toList
  passwordSpaces : OnlySpaces credentials.password.toList

structure Draft.WellFormed (draft : Draft) : Prop where
  notDashed : draft.url.startsWith "-" = false
  urlSpaces : OnlySpaces draft.url.toList
  method : IsToken draft.method
  headers : ∀ header ∈ draft.headers, WellFormedHeader header
  headerKeys : (Entries.keys draft.headers).Nodup
  cookies : ∀ cookie ∈ draft.cookies, WellFormedCookie cookie
  cookieKeys : (Entries.keys draft.cookies).Nodup
  data : ∀ data ∈ draft.data, IsToken data
  auth : ∀ credentials ∈ draft.auth, WellFormedCredentials credentials
  proxy : ∀ proxy ∈ draft.proxy, IsToken proxy
  proxyAuth : ∀ proxyAuth ∈ draft.proxyAuth, IsToken proxyAuth
  timeout : ∀ seconds ∈ draft.timeout, seconds.isFinite = true

theorem Timeout.isFinite_of_read? {text : String} {seconds : Number.Double}
    (found : Timeout.read? text = some seconds) : seconds.isFinite = true := by
  unfold Timeout.read? at found
  split at found
  · simp at found
  · dsimp only at found
    split at found
    · rename_i finite
      rwa [← Option.some.inj found]
    · simp at found

theorem Cookie.wellFormed_ofSegment? {segment : List Char} {cookie : String × String}
    (onlySpaces : OnlySpaces segment) (noSemicolon : ';' ∉ segment)
    (found : Cookie.ofSegment? segment = some cookie) : WellFormedCookie cookie := by
  unfold Cookie.ofSegment? at found
  split at found
  · simp at found
  · simp at found
  · rename_i name value notNil cutEq
    obtain rfl := Option.some.inj found
    have nameEq : (cut '=' segment).1 = name := by rw [cutEq]
    have valueEq : (cut '=' segment).2 = some value := by rw [cutEq]
    have nameSubset : ∀ c ∈ name, c ∈ segment := fun c member =>
      mem_of_mem_cut (nameEq ▸ member)
    have valueSubset : ∀ c ∈ value, c ∈ segment := fun c member =>
      mem_of_mem_cut_rest valueEq member
    have noEquals : '=' ∉ name := nameEq ▸ mark_not_mem_cut '=' segment
    constructor
    · simp
    · simpa using fun member => noEquals (mem_of_mem_trim member)
    · simpa using fun member => noSemicolon (nameSubset _ (mem_of_mem_trim member))
    · simp
    · simpa using fun member => noSemicolon (valueSubset _ (mem_of_mem_trim member))
    · simpa using (onlySpaces.of_subset nameSubset).trim
    · simpa using (onlySpaces.of_subset valueSubset).trim

theorem Cookie.wellFormed_pairs {text : String} (onlySpaces : OnlySpaces text.toList) :
    ∀ cookie ∈ Cookie.pairs text, WellFormedCookie cookie := by
  intro cookie member
  obtain ⟨segment, belongs, found⟩ := List.mem_filterMap.mp member
  have segmentSpaces : OnlySpaces segment :=
    onlySpaces.of_subset fun _ => mem_of_mem_pieces belongs
  exact Cookie.wellFormed_ofSegment? segmentSpaces (mark_not_mem_pieces belongs) found

namespace Draft

open Command

variable {draft : Draft} {text : String}

theorem WellFormed.setMethod (wellFormed : draft.WellFormed) {value : Option String}
    (isToken : ∀ text ∈ value, IsToken text) : (draft.setMethod value).WellFormed := by
  have getToken : IsToken "GET" := by decide
  unfold Draft.setMethod
  split
  · exact { wellFormed with method := getToken }
  · rename_i method
    have method := isToken method rfl
    split
    · exact { wellFormed with method := getToken }
    · exact { wellFormed with method := ⟨upper_ne_empty method.1, method.2.upper⟩ }

theorem WellFormed.addCookies (wellFormed : draft.WellFormed)
    (onlySpaces : OnlySpaces text.toList) :
    ({ draft with cookies := Cookie.addAll text draft.cookies } : Draft).WellFormed := by
  refine { wellFormed with cookies := ?_, cookieKeys := ?_ }
  · intro cookie member
    rcases Entries.mem_insertAll member with new | old
    · exact Cookie.wellFormed_pairs onlySpaces cookie new
    · exact wellFormed.cookies cookie old
  · exact Entries.keys_nodup_insertAll wellFormed.cookieKeys

theorem WellFormed.insertHeader (wellFormed : draft.WellFormed) {name value : String}
    (header : WellFormedHeader (name, value)) :
    ({ draft with headers := Entries.insert name value draft.headers } : Draft).WellFormed := by
  refine { wellFormed with headers := ?_, headerKeys := ?_ }
  · intro entry member
    rcases Entries.mem_insert member with new | old
    · rwa [new]
    · exact wellFormed.headers entry old
  · exact Entries.keys_nodup_insert value wellFormed.headerKeys

theorem WellFormed.addHeader (wellFormed : draft.WellFormed)
    (onlySpaces : OnlySpaces text.toList) : (draft.addHeader text).WellFormed := by
  unfold Draft.addHeader
  split
  · exact wellFormed
  · rename_i before after cutEq
    have beforeEq : (cut ':' text.toList).1 = before := by rw [cutEq]
    have afterEq : (cut ':' text.toList).2 = some after := by rw [cutEq]
    have beforeSpaces : OnlySpaces before :=
      onlySpaces.of_subset fun c member => mem_of_mem_cut (beforeEq ▸ member)
    have afterSpaces : OnlySpaces after :=
      onlySpaces.of_subset fun c member => mem_of_mem_cut_rest afterEq member
    have noColon : ':' ∉ before := beforeEq ▸ mark_not_mem_cut ':' text.toList
    dsimp only
    split
    · exact wellFormed.addCookies (by simpa using afterSpaces.trim)
    · rename_i notCookie
      apply wellFormed.insertHeader
      constructor
      · simpa using notCookie
      · simp
      · simpa using fun member => noColon (mem_of_mem_trim member)
      · simp
      · simpa using beforeSpaces.trim
      · simpa using afterSpaces.trim

theorem namedHeaders_wellFormed :
    ∀ name ∈ ["User-Agent", "Referer"], isWord name "cookie" = false ∧ trimmed name = name ∧
      ':' ∉ name.toList ∧ OnlySpaces name.toList := by
  decide

/-- A header with a flag of its own takes the text as it is. -/
theorem WellFormed.insertNamed (wellFormed : draft.WellFormed) {name : String}
    (named : name = "User-Agent" ∨ name = "Referer") (onlySpaces : OnlySpaces text.toList) :
    ({ draft with headers := Entries.insert name text draft.headers } : Draft).WellFormed := by
  apply wellFormed.insertHeader
  obtain ⟨notCookie, stripped, noColon, nameSpaces⟩ :=
    namedHeaders_wellFormed name (by simpa using named)
  have value : name = "User-Agent" ∨ name = "Referer" ∨ trimmed text = text := by
    rcases named with agent | referer
    · exact .inl agent
    · exact .inr (.inl referer)
  exact ⟨notCookie, stripped, noColon, value, nameSpaces, onlySpaces⟩

theorem WellFormed.setData (wellFormed : draft.WellFormed) {value : Option String}
    (isToken : ∀ text ∈ value, IsToken text) : (draft.setData value).WellFormed := by
  refine { wellFormed with data := isToken, method := ?_ }
  show IsToken (if draft.method = "GET" then "POST" else draft.method)
  split
  · decide
  · exact wellFormed.method

theorem WellFormed.setAuth (wellFormed : draft.WellFormed) (onlySpaces : OnlySpaces text.toList) :
    (draft.setAuth text).WellFormed := by
  refine { wellFormed with auth := ?_ }
  intro credentials member
  obtain rfl := Option.some.inj member
  constructor
  · simpa using mark_not_mem_cut ':' text.toList
  · simpa using onlySpaces.of_subset fun c => mem_of_mem_cut
  · cases rest : (cut ':' text.toList).2 with
    | none => simp [OnlySpaces]
    | some password => simpa using onlySpaces.of_subset fun c => mem_of_mem_cut_rest rest

theorem WellFormed.applyText (wellFormed : draft.WellFormed) (isToken : IsToken text)
    (flag : ValueFlag) : (draft.applyText text flag).WellFormed := by
  have onlyText : ∀ value ∈ some text, IsToken value := by simpa using isToken
  cases flag with
  | method => exact wellFormed.setMethod onlyText
  | header => exact wellFormed.addHeader isToken.2
  | data => exact wellFormed.setData onlyText
  | cookie => exact wellFormed.addCookies isToken.2
  | user => exact wellFormed.setAuth isToken.2
  | proxy => exact { wellFormed with proxy := onlyText }
  | proxyUser => exact { wellFormed with proxyAuth := onlyText }
  | userAgent => exact wellFormed.insertNamed (.inl rfl) isToken.2
  | referer => exact wellFormed.insertNamed (.inr rfl) isToken.2
  | timeout =>
      refine { wellFormed with timeout := ?_ }
      intro seconds found
      exact Timeout.isFinite_of_read? found

theorem WellFormed.applyNone (wellFormed : draft.WellFormed) (flag : ValueFlag) :
    (draft.applyEmpty none flag).WellFormed := by
  have noText : ∀ value ∈ (none : Option String), IsToken value := by simp
  cases flag with
  | method => exact wellFormed.setMethod noText
  | data => exact wellFormed.setData noText
  | proxy => exact { wellFormed with proxy := noText }
  | proxyUser => exact { wellFormed with proxyAuth := noText }
  | header | cookie | user | userAgent | referer | timeout => exact wellFormed

/-- One item of the command line keeps a draft well formed. -/
theorem WellFormed.apply (wellFormed : draft.WellFormed) {item : Item}
    (tokens : ∀ text ∈ item.texts, IsToken text)
    (operand : ∀ token, item = .operand token → isOperand token = true) :
    (draft.apply item).WellFormed := by
  cases item with
  | value flag argument =>
      cases argument with
      | none => exact wellFormed.applyNone flag
      | some text =>
          have isToken : IsToken text := tokens text (by simp [Item.texts])
          have nonempty : text.isEmpty = false := by simpa using isToken.1
          simpa [Draft.apply, applyFlag, nonempty] using wellFormed.applyText isToken flag
  | insecure => exact { wellFormed with }
  | skipped token => exact wellFormed
  | operand token =>
      have isToken : IsToken token := tokens token (by simp [Item.texts])
      have dashless : token.startsWith "-" = false := by
        have isOperandToken := operand token rfl
        simp only [isOperand, Bool.and_eq_true, Bool.not_eq_true'] at isOperandToken
        exact isOperandToken.2
      unfold Draft.apply
      dsimp only
      split
      · exact { wellFormed with notDashed := dashless, urlSpaces := isToken.2 }
      · exact wellFormed

theorem wellFormed_empty : ({} : Draft).WellFormed := by
  constructor
  case notDashed => decide
  case urlSpaces => decide
  case method => decide
  case headerKeys => exact List.nodup_nil
  case cookieKeys => exact List.nodup_nil
  all_goals simp

theorem WellFormed.foldl_apply {items : List Item} (wellFormed : draft.WellFormed)
    (tokens : ∀ item ∈ items, ∀ text ∈ item.texts, IsToken text)
    (operand : ∀ token, .operand token ∈ items → isOperand token = true) :
    (items.foldl Draft.apply draft).WellFormed := by
  induction items generalizing draft with
  | nil => exact wellFormed
  | cons item rest ih =>
      apply ih
      · apply wellFormed.apply (tokens item (by simp))
        rintro token rfl
        exact operand token (by simp)
      · exact fun later member => tokens later (List.mem_cons_of_mem _ member)
      · exact fun token member => operand token (List.mem_cons_of_mem _ member)

theorem wellFormed_ofTokens {tokens : List String} (isToken : ∀ text ∈ tokens, IsToken text) :
    (Draft.ofTokens tokens).WellFormed := by
  apply wellFormed_empty.foldl_apply
  · intro item belongs text member
    exact isToken text (List.mem_of_mem_tail (Item.mem_texts_ofTokens belongs member))
  · exact fun token member => Item.isOperand_of_mem_ofTokens member

def texts (draft : Draft) : List String :=
  [draft.url, draft.method] ++
    draft.headers.flatMap (fun header => [header.1, header.2]) ++
    draft.cookies.flatMap (fun cookie => [cookie.1, cookie.2]) ++
    draft.data.toList ++
    draft.auth.toList.flatMap (fun credentials => [credentials.user, credentials.password]) ++
    draft.proxy.toList ++ draft.proxyAuth.toList

theorem forall_mem_texts {holds : String → Prop} :
    (∀ text ∈ draft.texts, holds text) ↔
      holds draft.url ∧ holds draft.method ∧
      (∀ header ∈ draft.headers, holds header.1 ∧ holds header.2) ∧
      (∀ cookie ∈ draft.cookies, holds cookie.1 ∧ holds cookie.2) ∧
      (∀ data ∈ draft.data, holds data) ∧
      (∀ credentials ∈ draft.auth, holds credentials.user ∧ holds credentials.password) ∧
      (∀ proxy ∈ draft.proxy, holds proxy) ∧ ∀ proxyAuth ∈ draft.proxyAuth, holds proxyAuth := by
  simp only [texts, List.forall_mem_append, List.forall_mem_flatMap, List.forall_mem_cons,
    List.not_mem_nil, false_imp_iff, implies_true, Option.mem_toList, and_true, and_assoc,
    Option.mem_def]

theorem WellFormed.onlySpaces (wellFormed : draft.WellFormed) :
    ∀ text ∈ draft.texts, OnlySpaces text.toList := by
  refine forall_mem_texts.mpr ⟨wellFormed.urlSpaces, wellFormed.method.2, ?_, ?_, ?_, ?_, ?_, ?_⟩
  · intro header member
    exact ⟨(wellFormed.headers header member).nameSpaces,
      (wellFormed.headers header member).valueSpaces⟩
  · intro cookie member
    exact ⟨(wellFormed.cookies cookie member).nameSpaces,
      (wellFormed.cookies cookie member).valueSpaces⟩
  · exact fun data member => (wellFormed.data data member).2
  · intro credentials member
    exact ⟨(wellFormed.auth credentials member).userSpaces,
      (wellFormed.auth credentials member).passwordSpaces⟩
  · exact fun proxy member => (wellFormed.proxy proxy member).2
  · exact fun proxyAuth member => (wellFormed.proxyAuth proxyAuth member).2

end Draft

end CurlScript
