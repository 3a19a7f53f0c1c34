import CurlScript.Proofs.Script.Selection
import Mathlib.Data.List.Forall2
import Mathlib.Data.List.ReduceOption

/-!
The argument lists of all libraries carry the same parts of a request, and a script holds the list
of its library once.
-/

namespace CurlScript.Script

open Text Literal

def slots (request : Draft) : List (Option String) :=
  [if request.headers.isEmpty then none else some "headers=headers",
    if request.cookies.isEmpty then none else some "cookies=cookies",
    (nonEmpty? request.data).map fun _ =>
      if isJsonBody request then "json=data" else "data=data",
    request.auth.map fun credentials =>
      "auth=(" ++ quote credentials.user ++ ", " ++ quote credentials.password ++ ")",
    (proxyUrl? request).map fun url =>
      "proxies=\x7b'http': " ++ quote url ++ ", 'https': " ++ quote url ++ "\x7d",
    if request.insecure then some "verify=False" else none,
    (request.timeout.filter (!·.isZero)).map fun seconds => "timeout=" ++ ofNumber seconds]

/-- `Reproxied before after`: the arguments differ at most in the way in which they name a proxy. -/
inductive Reproxied : String → String → Prop
  | same {text : String} : begins "proxies=" text = false → Reproxied text text
  | proxy (url : String) :
      Reproxied ("proxies=\x7b'http': " ++ quote url ++ ", 'https': " ++ quote url ++ "\x7d")
        ("proxy=" ++ quote url)

inductive PerCall : String → String → Prop
  | same {text : String} : begins "verify=" text = false → PerCall text text
  | insecure : PerCall "verify=False" "ssl=False"

inductive OfSession : String → String → Prop
  | auth (credentials : Credentials) :
      OfSession ("auth=" ++ credentialArguments credentials)
        ("auth=aiohttp.BasicAuth" ++ credentialArguments credentials)
  | timeout (seconds : Number.Double) :
      OfSession ("timeout=" ++ ofNumber seconds)
        ("timeout=aiohttp.ClientTimeout(total=" ++ ofNumber seconds ++ ")")

def configuresSession (text : String) : Bool :=
  begins "auth=" text || begins "timeout=" text

def isKeyword (text : String) : Bool :=
  keywordStarts.any (begins · text)

namespace Line

def opensSession (line : Line) : Bool :=
  !line.raw && begins "async with aiohttp.ClientSession(" line.text

end Line

variable (request : Draft) (options : Options)

theorem reduceOption_cons {α : Type} (value : Option α) (rest : List (Option α)) :
    List.reduceOption (value :: rest) = value.toList ++ List.reduceOption rest := by
  cases value <;> rfl

theorem requestsArguments_eq :
    requestsArguments request = (slots request).reduceOption := by
  have present : ∀ (absent : Bool) (argument : String), (if absent then [] else [argument]) =
      (if absent then none else some argument).toList := by
    intro absent argument
    cases absent <;> rfl
  have insecure : (if request.insecure then ["verify=False"] else []) =
      (if request.insecure then some "verify=False" else none).toList := by
    cases request.insecure <;> rfl
  have auth : ∀ credentials : Credentials, "auth=" ++ credentialArguments credentials =
      "auth=(" ++ quote credentials.user ++ ", " ++ quote credentials.password ++ ")" := by
    intro credentials
    simp only [credentialArguments, ← String.append_assoc]
    rfl
  simp only [requestsArguments, payloadArguments, bodyKeyword?, timeout?, bodyArgument, slots,
    present, insecure, auth, reduceOption_cons, List.reduceOption_nil, List.append_assoc,
    List.append_nil]

theorem forall₂_reproxied :
    List.Forall₂ Reproxied (requestsArguments request) (httpxArguments request) := by
  rw [requestsArguments_eq_map, httpxArguments_eq_map, List.forall₂_map_left_iff,
    List.forall₂_map_right_iff, List.forall₂_same]
  intro part _
  have first : begins "proxies=" (requestsArgument part) = (part.keyword .requests == "proxies=") :=
    begins_argument_eq .requests part (by decide)
  cases part with
  | proxy url => exact .proxy url
  | body json => exact .same (first.trans (by cases json <;> simp [Part.keyword]))
  | _ => exact .same (first.trans (by simp [Part.keyword]))

theorem configuresSession_httpxArgument (part : Part) :
    configuresSession (httpxArgument part) = part.ofSession := by
  have keyword : ∀ {other}, other ∈ keywordStarts →
      begins other (httpxArgument part) = (part.keyword .httpxSync == other) :=
    begins_argument_eq .httpxSync part
  rw [configuresSession, keyword (by decide), keyword (by decide)]
  cases part with
  | body json => cases json <;> simp [Part.keyword, Part.ofSession]
  | _ => simp [Part.keyword, Part.ofSession]

theorem filter_httpxArguments (selects : Bool → Bool) :
    (httpxArguments request).filter (fun text => selects (configuresSession text)) =
      ((parts request).filter fun part => selects part.ofSession).map httpxArgument := by
  rw [httpxArguments_eq_map, List.filter_map]
  simp [Function.comp_def, configuresSession_httpxArgument]

theorem forall₂_perCall :
    List.Forall₂ PerCall ((httpxArguments request).filter (!configuresSession ·))
      (aiohttpArguments request) := by
  rw [filter_httpxArguments request (!·), aiohttpArguments_eq_map, List.forall₂_map_left_iff,
    List.forall₂_map_right_iff, List.forall₂_same]
  intro part _
  have first : begins "verify=" (httpxArgument part) = (part.keyword .httpxSync == "verify=") :=
    begins_argument_eq .httpxSync part (by decide)
  cases part with
  | insecure => exact .insecure
  | body json => exact .same (first.trans (by cases json <;> simp [Part.keyword]))
  | _ => exact .same (first.trans (by simp [Part.keyword]))

theorem forall₂_ofSession :
    List.Forall₂ OfSession ((httpxArguments request).filter (configuresSession ·))
      (sessionArguments request) := by
  rw [filter_httpxArguments request fun ofSession => ofSession, sessionArguments_eq_map,
    List.forall₂_map_left_iff, List.forall₂_map_right_iff, List.forall₂_same]
  intro part member
  have ofSession := (List.mem_filter.mp member).2
  cases part with
  | auth credentials => exact .auth credentials
  | timeout seconds => exact .timeout seconds
  | _ => cases ofSession

theorem isKeyword_eq_false {starts : List String} {text : String} (known : BeginsIn starts text)
    (different : ∀ start ∈ starts, ∀ keyword ∈ keywordStarts, apart start keyword = true) :
    isKeyword text = false :=
  known.any_begins_eq_false different

theorem isKeyword_argument (library : Library) (part : Part) :
    isKeyword (argument library part) = true :=
  List.any_eq_true.mpr ⟨_, keyword_mem library part, begins_argument library part⟩

theorem filter_isKeyword_callArguments :
    (callArguments request options).filter isKeyword =
      keywordArguments request options.library := by
  have positional : (callee request options).positional.filter isKeyword = [] := by
    rw [List.filter_eq_nil_iff]
    intro text member
    obtain ⟨value, rfl⟩ := quote_of_mem_positional member
    simp [isKeyword_eq_false (beginsIn_quote value) (by decide)]
  have named : (keywordArguments request options.library).filter isKeyword =
      keywordArguments request options.library := by
    rw [List.filter_eq_self, keywordArguments_eq, List.forall_mem_map]
    exact fun part _ => isKeyword_argument options.library part
  rw [callArguments, List.filter_append, positional, named, List.nil_append]

theorem selectsArguments_isKeyword : SelectsArguments isKeyword request options where
  statement := by
    intro text statement
    exact any_begins_statement_eq_false statement (by decide)
  head := isKeyword_eq_false (beginsIn_callHead request options) (by decide)
  closer := by
    unfold callCloser
    split <;> decide
  session := isKeyword_eq_false
    ⟨_, List.mem_singleton_self _, begins_sessionHeader request⟩ (by decide)

theorem filter_opensSession_scriptLines :
    (scriptLines request options).filter (·.opensSession) = sessionLines request options := by
  have statements : ∀ line : Line, IsStatement line.text → line.opensSession = false := by
    intro line statement
    have different := begins_statement_eq_false statement
      (show "async with aiohttp.ClientSession(" ≠ "" by decide) (by decide)
    simp [Line.opensSession, different]
  have assigned : (preambleLines request).filter (·.opensSession) = [] := by
    rw [List.filter_eq_nil_iff]
    intro line member
    rcases raw_or_blank_of_mem_preambleLines member with raw | blank
    · simp [Line.opensSession, raw]
    · simp [statements line (by rw [blank]; decide)]
  have session : (sessionLines request options).filter (·.opensSession) =
      sessionLines request options := by
    unfold sessionLines
    split
    · simp [Line.opensSession, begins_sessionHeader request]
    · rfl
  have call : (requestLines request options).filter (·.opensSession) = [] := by
    rw [List.filter_eq_nil_iff]
    intro line member
    have different := (beginsIn_of_mem_requestLines member).2.begins_eq_false
      (show ∀ start ∈ callStarts, apart start "async with aiohttp.ClientSession(" = true by
        decide)
    simp [Line.opensSession, different]
  rw [filter_scriptLines fun line _ => statements line, assigned, session, call, List.nil_append,
    List.append_nil]

/-- The lists of all libraries hold one argument for each part that is present, in one order, and a
script is made of lines that hold the list of its library once, behind the positional arguments of
its call. -/
theorem arguments_correspond :
    requestsArguments request = (slots request).reduceOption ∧
    List.Forall₂ Reproxied (requestsArguments request) (httpxArguments request) ∧
    List.Forall₂ PerCall ((httpxArguments request).filter (!configuresSession ·))
      (aiohttpArguments request) ∧
    List.Forall₂ OfSession ((httpxArguments request).filter (configuresSession ·))
      (sessionArguments request) ∧
    ∀ options : Options,
      (∀ sent : Request, sent.toDraft = request →
        ofRequest sent options = textOfLines ((scriptLines request options).map Line.shown)) ∧
      (∃ ahead positional behind,
        scriptLines request options = ahead ++
          callLines (callDepth options) (callHead request options)
            (positional ++ keywordArguments request options.library) (callCloser options) ++
          behind ∧
        positional ∈ [[quote request.url], [quote request.method, quote request.url]]) ∧
      ((scriptLines request options).filter (·.isArgument isKeyword)).map (withoutComma ·.text) =
        keywordArguments request options.library ∧
      (scriptLines request options).filter (·.opensSession) =
        if options.library = .aiohttp then
          [⟨callDepth options - 1, "async with aiohttp.ClientSession(" ++
            Text.joined ", " (sessionArguments request) ++ ") as session:", false⟩]
        else [] := by
  refine ⟨requestsArguments_eq request, forall₂_reproxied request, forall₂_perCall request,
    forall₂_ofSession request,
    fun options => ⟨fun _ same => ofRequest_of_toDraft same options, ?_, ?_, ?_⟩⟩
  · obtain ⟨ahead, behind, lines, -⟩ := exists_scriptLines request options
    refine ⟨importLines options ++ preambleLines request ++ ahead ++
      sessionLines request options, (callee request options).positional, behind, ?_, ?_⟩
    · rw [lines, requestLines, callArguments]
      simp only [List.append_assoc]
    · simpa using positional_callee request options
  · have selected := selectsArguments_isKeyword request options
    rw [selected.filter_scriptLines, selected.map_filter_requestLines,
      filter_isKeyword_callArguments]
  · exact filter_opensSession_scriptLines request options

end CurlScript.Script
