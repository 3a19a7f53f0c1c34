import CurlScript.Proofs.Literal.Json
import CurlScript.Proofs.Script.Pieces
import CurlScript.Proofs.Script.Part
import CurlScript.Script

/-!
The texts that a script quotes, in the order in which it quotes them, and that it is code with
their literals.
-/

namespace CurlScript.Script

open Text Literal

def Part.quoted (schemes : Bool) : Part → List String
  | .auth credentials => [credentials.user, credentials.password]
  | .proxy url => if schemes then ["http", url, "https", url] else [url]
  | .timeout seconds => doubleTexts seconds
  | _ => []

def calleeTexts (names : List String) (request : Draft) : List String :=
  if names.contains (String.ofList (lower request.method.toList)) then [request.url]
  else [request.method, request.url]

def entriesTexts (entries : Entries String String) : List String :=
  memberTexts (entries.map fun entry => (entry.1, .text entry.2))

def bodyTexts (data : String) : List String :=
  match Json.read? data with
  | some value => jsonTexts value
  | none => [data]

def preambleTexts (request : Draft) : List String :=
  entriesTexts request.headers ++ entriesTexts request.cookies ++
    ((nonEmpty? request.data).map bodyTexts).getD []

def callTexts (library : Library) (request : Draft) : List String :=
  match library with
  | .requests => calleeTexts shortcuts request ++ (parts request).flatMap (Part.quoted true)
  | .httpxSync | .httpxAsync =>
    calleeTexts (httpxShortcuts request) request ++ (parts request).flatMap (Part.quoted false)
  | .aiohttp =>
    ((parts request).filter (·.ofSession)).flatMap (Part.quoted false) ++
      (calleeTexts shortcuts request ++
        ((parts request).filter (!·.ofSession)).flatMap (Part.quoted false))

variable {opened : List Char}

theorem code_credentialArguments (credentials : Credentials) :
    Code opened (credentialArguments credentials).toList
      ([credentials.user, credentials.password].map literalOf) opened := by
  have opens : Code opened "(".toList [] ('(' :: opened) := .ofChars rfl
  have user := opens.after_text (code_quote _ credentials.user)
  have both := user.between (show ", " ≠ "" by decide) (.ofPlain (by decide))
    (code_quote _ credentials.password)
  exact both.before_text (.ofChars rfl)

theorem code_ofNumber (seconds : Number.Double) :
    Code opened (ofNumber seconds).toList ((doubleTexts seconds).map literalOf) opened := by
  unfold ofNumber
  split
  · rename_i whole isWhole
    have noTexts : doubleTexts seconds = [] := by
      cases seconds with
      | infinite negative => simp [Number.Double.toInt?] at isWhole
      | _ => rfl
    rw [noTexts]
    exact .ofPlain (isPlainText_int whole)
  · exact code_ofDouble opened seconds

theorem code_httpxArgument (part : Part) :
    Code opened (httpxArgument part).toList ((part.quoted false).map literalOf) opened := by
  cases part with
  | headers => exact .ofChars rfl
  | cookies => exact .ofChars rfl
  | body json =>
      cases json with
      | false => exact .ofChars rfl
      | true => exact .ofChars rfl
  | auth credentials =>
      have start : Code opened "auth=".toList [] opened := .ofPlain (by decide)
      exact start.after_text (code_credentialArguments credentials)
  | proxy url =>
      have start : Code opened "proxy=".toList [] opened := .ofPlain (by decide)
      exact start.after_text (code_quote opened url)
  | insecure => exact .ofChars rfl
  | timeout seconds =>
      have start : Code opened "timeout=".toList [] opened := .ofPlain (by decide)
      exact start.after_text (code_ofNumber seconds)

theorem code_requestsArgument (part : Part) :
    Code opened (requestsArgument part).toList ((part.quoted true).map literalOf) opened := by
  cases part with
  | proxy url =>
      have code : ∀ first second : String, first = "proxies=\x7b" ++ quote "http" ++ ": " →
          second = ", " ++ quote "https" ++ ": " →
          Code opened (first ++ quote url ++ second ++ quote url ++ "\x7d").toList
            (["http", url, "https", url].map literalOf) opened := by
        rintro _ _ rfl rfl
        have colon : IsPlainText ": " := by decide
        have brace : Code opened "proxies=\x7b".toList [] ('\x7b' :: opened) := .ofChars rfl
        have http := (brace.after_text (code_quote _ "http")).between (by decide) (.ofPlain colon)
          (code_quote _ url)
        have https := (code_quote ('\x7b' :: opened) "https").between (by decide) (.ofPlain colon)
          (code_quote _ url)
        have both := http.between (show ", " ≠ "" by decide) (.ofPlain (by decide)) https
        have whole := both.before_text (.ofChars rfl : Code _ "\x7d".toList [] opened)
        simp only [String.append_assoc] at whole ⊢
        exact whole
      exact code _ _ (by decide) (by decide)
  | headers => exact code_httpxArgument .headers
  | cookies => exact code_httpxArgument .cookies
  | body json => exact code_httpxArgument (.body json)
  | auth credentials => exact code_httpxArgument (.auth credentials)
  | insecure => exact code_httpxArgument .insecure
  | timeout seconds => exact code_httpxArgument (.timeout seconds)

theorem code_aiohttpArgument (part : Part) :
    Code opened (aiohttpArgument part).toList ((part.quoted false).map literalOf) opened := by
  cases part with
  | insecure => exact .ofChars rfl
  | _ => exact code_httpxArgument _

theorem code_sessionArgument (part : Part) :
    Code opened (sessionArgument part).toList ((part.quoted false).map literalOf) opened := by
  cases part with
  | auth credentials =>
      have start : Code opened "auth=aiohttp.BasicAuth".toList [] opened := .ofPlain (by decide)
      exact start.after_text (code_credentialArguments credentials)
  | timeout seconds =>
      have start : Code opened "timeout=aiohttp.ClientTimeout(total=".toList [] ('(' :: opened) :=
        .ofChars rfl
      exact (start.after_text (code_ofNumber seconds)).before_text (.ofChars rfl)
  | _ => exact code_aiohttpArgument _

theorem codeEach_map (opened : List Char) {argument : Part → String} {schemes : Bool}
    (code : ∀ part, Code opened (argument part).toList ((part.quoted schemes).map literalOf) opened)
    (parts : List Part) :
    CodeEach opened (parts.map argument) ((parts.flatMap (Part.quoted schemes)).map literalOf) := by
  induction parts with
  | nil => exact .nil
  | cons part rest ih =>
      rw [List.flatMap_cons, List.map_append]
      exact .cons (code part) ih

theorem codeEach_requestsArguments (opened : List Char) (request : Draft) :
    CodeEach opened (requestsArguments request)
      (((parts request).flatMap (Part.quoted true)).map literalOf) := by
  rw [requestsArguments_eq_map]
  exact codeEach_map opened code_requestsArgument _

theorem codeEach_httpxArguments (opened : List Char) (request : Draft) :
    CodeEach opened (httpxArguments request)
      (((parts request).flatMap (Part.quoted false)).map literalOf) := by
  rw [httpxArguments_eq_map]
  exact codeEach_map opened code_httpxArgument _

theorem codeEach_aiohttpArguments (opened : List Char) (request : Draft) :
    CodeEach opened (aiohttpArguments request)
      ((((parts request).filter (!·.ofSession)).flatMap (Part.quoted false)).map literalOf) := by
  rw [aiohttpArguments_eq_map]
  exact codeEach_map opened code_aiohttpArgument _

theorem codeEach_sessionArguments (opened : List Char) (request : Draft) :
    CodeEach opened (sessionArguments request)
      ((((parts request).filter (·.ofSession)).flatMap (Part.quoted false)).map literalOf) := by
  rw [sessionArguments_eq_map]
  exact codeEach_map opened code_sessionArgument _

theorem isPlainText_shortcut : ∀ name ∈ shortcuts, IsPlainText name := by
  decide

theorem httpxShortcuts_subset (request : Draft) : httpxShortcuts request ⊆ shortcuts := by
  unfold httpxShortcuts
  split
  · decide
  · exact List.Subset.refl _

theorem isPlainText_function {receiver : String} (plain : IsPlainText receiver)
    {names : List String} (subset : names ⊆ shortcuts) (request : Draft) :
    IsPlainText (Callee.of receiver names request).function := by
  unfold Callee.of
  dsimp only
  split
  · rename_i isName
    have isShortcut := subset (List.contains_iff_mem.mp isName)
    exact (plain.append (by decide)).append (isPlainText_shortcut _ isShortcut)
  · exact plain.append (by decide)

theorem codeEach_positional (opened : List Char) (receiver : String) (names : List String)
    (request : Draft) :
    CodeEach opened (Callee.of receiver names request).positional
      ((calleeTexts names request).map literalOf) := by
  unfold Callee.of calleeTexts
  dsimp only
  split
  · exact .cons (code_quote _ _) .nil
  · exact .cons (code_quote _ _) (.cons (code_quote _ _) .nil)

theorem codePieces_responseCall {receiver : String} (plain : IsPlainText receiver)
    {names : List String} (subset : names ⊆ shortcuts) (request : Draft) {arguments : List String}
    {quoted : List String} (each : CodeEach ['('] arguments (quoted.map literalOf)) :
    CodePieces [responseCall (Callee.of receiver names request) arguments]
      ((calleeTexts names request ++ quoted).map literalOf) := by
  have start : IsPlainText ("response = " ++ (Callee.of receiver names request).function) :=
    (show IsPlainText "response = " by decide).append (isPlainText_function plain subset request)
  have opens := (Code.ofPlain start).before_text (.ofChars rfl : Code [] "(".toList [] ['('])
  have positional := codeEach_positional ['('] receiver names request
  rw [List.map_append]
  exact .call opens (positional.append each) (.ofChars rfl)

end CurlScript.Script
