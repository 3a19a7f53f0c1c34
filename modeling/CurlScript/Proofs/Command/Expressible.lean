import CurlScript.Proofs.Command.Line
import CurlScript.Proofs.Command.Request
import CurlScript.Proofs.Draft.Expressible

/-!
Commands for requests. A request whose parts a command can carry is written as a list of items, the
items as a command line, and reading that line gives the request back.
-/

namespace CurlScript.Command

open Text

def Item.tokens : Item → List String
  | .value flag argument => (Flag.value flag).spellings.take 1 ++ argument.toList
  | .insecure => Flag.insecure.spellings.take 1
  | .skipped token => [token]
  | .operand token => [token]

theorem Item.Spelled.given (flag : ValueFlag) (argument : String) :
    Spelled (.given flag argument) (Item.given flag argument).tokens := by
  cases flag <;> exact .value (by decide)

theorem isOperand_of_not_dashed {token : String} (notDashed : token.startsWith "-" = false) :
    isOperand token = true := by
  have dashed : ∀ flag ∈ Flag.all, ∀ spelling ∈ flag.spellings, spelling.startsWith "-" = true := by
    decide +kernel
  have notFound : Flag.ofToken? token = none := by
    cases found : Flag.ofToken? token with
    | none => rfl
    | some flag =>
        have spelled := (Flag.ofToken?_eq_some_iff token flag).mp found
        rw [dashed flag flag.mem_all token spelled] at notDashed
        simp at notDashed
  simp [isOperand, notFound, notDashed]

theorem Item.forall_ofDraft {draft : Draft} {method : String} {timeout : Option String}
    {holds : Item → Prop} (operand : holds (.operand draft.url))
    (headers : ∀ header ∈ draft.headers, holds (.ofHeader header))
    (cookies : ∀ cookie ∈ draft.cookies, holds (.ofCookie cookie))
    (data : ∀ data ∈ draft.data, holds (.given .data data)) (given : holds (.given .method method))
    (auth : ∀ auth ∈ draft.auth, holds (.ofCredentials auth))
    (proxy : ∀ proxy ∈ draft.proxy, holds (.given .proxy proxy))
    (proxyAuth : ∀ proxyAuth ∈ draft.proxyAuth, holds (.given .proxyUser proxyAuth))
    (insecure : holds .insecure) (seconds : ∀ text ∈ timeout, holds (.given .timeout text)) :
    ∀ item ∈ Item.ofDraft draft method timeout, holds item := by
  simp only [Item.ofDraft, List.forall_mem_append, List.forall_mem_map, Option.mem_toList]
  simp_all

theorem Item.spelled_ofDraft {draft : Draft} (notDashed : draft.url.startsWith "-" = false)
    (method : String) (timeout : Option String) :
    ∀ item ∈ Item.ofDraft draft method timeout, Spelled item item.tokens := by
  apply Item.forall_ofDraft
  case operand => exact .operand (isOperand_of_not_dashed notDashed)
  case insecure => exact .insecure (by decide)
  all_goals intros
  all_goals exact .given _ _

theorem onlySpaces_pairText {mark : Char} (notBlank : isBlank mark = false)
    {before after : String} (first : OnlySpaces before.toList)
    (second : OnlySpaces after.toList) : OnlySpaces (pairText mark before after).toList := by
  intro c member blank
  rw [pairText, String.toList_ofList] at member
  rcases List.mem_append.mp member with inBefore | later
  · exact first c inBefore blank
  · rcases List.mem_cons.mp later with rfl | inAfter
    · simp [notBlank] at blank
    · exact second c inAfter blank

theorem Item.isToken_ofDraft {draft : Draft} (expressible : draft.Expressible)
    (hasUrl : draft.url ≠ "") {method : String} (isToken : IsToken method)
    {timeout : Option String} (given : TimeoutText timeout draft.timeout) :
    ∀ item ∈ Item.ofDraft draft method timeout, ∀ text ∈ item.texts, IsToken text := by
  obtain ⟨urlSpaces, -, headers, cookies, data, auth, proxy, proxyAuth⟩ :=
    Draft.forall_mem_texts.mp expressible.spaces
  have single : ∀ flag text, text ≠ "" → OnlySpaces text.toList →
      ∀ token ∈ (Item.given flag text).texts, IsToken token := by
    intro flag text nonempty onlySpaces token member
    rw [List.mem_singleton.mp member]
    exact ⟨nonempty, onlySpaces⟩
  have pair : ∀ flag mark before after, isBlank mark = false →
      OnlySpaces before.toList ∧ OnlySpaces after.toList →
      ∀ token ∈ (Item.given flag (pairText mark before after)).texts, IsToken token := by
    intro flag mark before after notBlank onlySpaces
    exact single flag _ (pairText_ne_empty mark before after)
      (onlySpaces_pairText notBlank onlySpaces.1 onlySpaces.2)
  apply Item.forall_ofDraft
  case operand =>
    intro token member
    rw [List.mem_singleton.mp member]
    exact ⟨hasUrl, urlSpaces⟩
  case headers => exact fun header member => pair _ _ _ _ (by decide) (headers header member)
  case cookies => exact fun cookie member => pair _ _ _ _ (by decide) (cookies cookie member)
  case data =>
    intro text member
    exact single _ _ (fun empty => expressible.data (empty ▸ member)) (data text member)
  case given => exact single _ _ isToken.1 isToken.2
  case auth => exact fun credentials member => pair _ _ _ _ (by decide) (auth credentials member)
  case proxy =>
    intro text member
    exact single _ _ (fun empty => expressible.proxy (empty ▸ member)) (proxy text member)
  case proxyAuth =>
    intro text member
    exact single _ _ (fun empty => expressible.proxyAuth (empty ▸ member)) (proxyAuth text member)
  case insecure => simp [Item.texts]
  case seconds =>
    intro text member
    obtain rfl := Option.mem_def.mp member
    obtain ⟨nonempty, noBlank, -⟩ := given
    exact single _ _ nonempty fun c belongs blank => by simp [noBlank c belongs] at blank

theorem Item.Spelled.isToken {item : Item} {tokens : List String} (spelled : Spelled item tokens)
    (isToken : ∀ text ∈ item.texts, IsToken text) : ∀ token ∈ tokens, IsToken token := by
  have spelling : ∀ flag ∈ Flag.all, ∀ spelling ∈ flag.spellings, IsToken spelling := by
    decide +kernel
  cases spelled with
  | value member =>
      simpa [spelling _ (Flag.mem_all _) _ member] using isToken _ (List.mem_singleton_self _)
  | insecure member => simpa using spelling _ (Flag.mem_all _) _ member
  | ignored member => simpa using spelling _ (Flag.mem_all _) _ member
  | unknown => exact isToken
  | operand => exact isToken

def argumentsOf (draft : Draft) (method : String) (timeout : Option String) : List String :=
  (Item.ofDraft draft method timeout).flatMap Item.tokens

theorem ofTokens_argumentsOf {draft : Draft} (notDashed : draft.url.startsWith "-" = false)
    (method : String) (timeout : Option String) :
    Item.ofTokens (argumentsOf draft method timeout) = Item.ofDraft draft method timeout := by
  have spelled : ∀ entry ∈ (Item.ofDraft draft method timeout).map fun item => (item, item.tokens),
      Item.Spelled entry.1 entry.2 := by
    intro entry member
    obtain ⟨item, belongs, rfl⟩ := List.mem_map.mp member
    exact Item.spelled_ofDraft notDashed method timeout item belongs
  have read := Item.ofTokens_spelled spelled
  rw [List.flatMap_map, List.map_map] at read
  rw [argumentsOf, read]
  exact List.map_id _

/-- Every request whose parts a command can carry is described by a command: the line of its parts,
with the method and the timeout in a suitable spelling. -/
theorem exists_command {request : Request} (expressible : request.toDraft.Expressible) :
    ∃ raw, Command.request raw = .ok request ∧
      ∃ method timeout, raw = commandLine (argumentsOf request.toDraft method timeout) := by
  obtain ⟨method, isToken, isMethod⟩ := expressible.method
  obtain ⟨timeout, given⟩ := expressible.timeout
  set arguments := argumentsOf request.toDraft method timeout with argumentsEq
  have isArgument : ∀ argument ∈ arguments, IsToken argument := by
    intro argument member
    obtain ⟨item, belongs, inTokens⟩ := List.mem_flatMap.mp member
    have spelled := Item.spelled_ofDraft expressible.notDashed method timeout item belongs
    have texts := Item.isToken_ofDraft expressible request.hasUrl isToken given item belongs
    exact spelled.isToken texts argument inTokens
  have normal : normalize (commandLine arguments) = commandLine arguments :=
    normalize_commandLine fun argument member => (isArgument argument member).2
  have named : NamesCurl (normalize (commandLine arguments)) := by
    rw [normal]
    exact namesCurl_commandLine arguments
  have tokens : tokenize (commandLine arguments) = "curl" :: arguments :=
    tokenize_commandLine fun member => (isArgument "" member).1 rfl
  have draftEq : Draft.ofTokens ("curl" :: arguments) = request.toDraft := by
    rw [Draft.ofTokens, List.tail_cons, argumentsEq, ofTokens_argumentsOf expressible.notDashed,
      Draft.foldl_ofDraft expressible isToken isMethod given]
  refine ⟨commandLine arguments, ?_, method, timeout, rfl⟩
  rw [request_of_namesCurl named, normal, tokens, draftEq, Request.ofDraft?, dif_neg request.hasUrl]

def crowdedRequest : Request where
  url := " 'x\\"
  method := "PUT"
  headers := [("A", "b: c"), ("-d", "")]
  cookies := [("n", "-X=1"), ("m", "")]
  data := some " -d "
  auth := some ⟨"-u ", ":p "⟩
  proxy := some "-k"
  insecure := true
  timeout := some (.finite false 5629499534213120 (-50))
  hasUrl := by decide

theorem exists_command_crowdedRequest :
    crowdedRequest.toDraft.Expressible ∧
      ∃ raw, Command.request raw = .ok crowdedRequest ∧ ∃ method timeout,
        raw = commandLine (argumentsOf crowdedRequest.toDraft method timeout) := by
  have headers : ∀ header ∈ crowdedRequest.headers, ExpressibleHeader header := by
    simp only [crowdedRequest, List.forall_mem_cons]
    refine ⟨⟨?_, ?_, ?_, ?_⟩, ⟨?_, ?_, ?_, ?_⟩, by simp⟩ <;> decide +kernel
  have cookies : ∀ cookie ∈ crowdedRequest.cookies, ExpressibleCookie cookie := by
    simp only [crowdedRequest, List.forall_mem_cons]
    refine ⟨⟨?_, ?_, ?_, ?_, ?_, ?_⟩, ⟨?_, ?_, ?_, ?_, ?_, ?_⟩, by simp⟩ <;> decide +kernel
  have expressible : crowdedRequest.toDraft.Expressible := by
    refine {
      spaces := by decide
      notDashed := by decide +kernel
      method := ⟨"pUt", by decide, by decide +kernel⟩
      headerKeys := by decide
      headers := headers
      cookieKeys := by decide
      cookies := cookies
      data := by decide
      auth := by decide +kernel
      proxy := by decide
      proxyAuth := by decide
      timeout := ⟨some "5s", by decide, by decide, by decide +kernel⟩ }
  exact ⟨expressible, exists_command expressible⟩

end CurlScript.Command
