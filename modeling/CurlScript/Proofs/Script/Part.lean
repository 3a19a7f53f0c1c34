import CurlScript.Script.Argument

/-!
The parts of a request that a call passes on. The argument lists of all libraries hold one argument
for each part.
-/

namespace CurlScript.Script

inductive Part where
  | headers
  | cookies
  | body (json : Bool)
  | auth (credentials : Credentials)
  | proxy (url : String)
  | insecure
  | timeout (seconds : Number.Double)
deriving DecidableEq, Repr

def bodyPart? (request : Draft) : Option Part :=
  (nonEmpty? request.data).map fun _ => .body (isJsonBody request)

def parts (request : Draft) : List Part :=
  (if request.headers.isEmpty then [] else [.headers]) ++
  (if request.cookies.isEmpty then [] else [.cookies]) ++
  (bodyPart? request).toList ++
  (request.auth.map Part.auth).toList ++
  ((proxyUrl? request).map Part.proxy).toList ++
  (if request.insecure then [.insecure] else []) ++
  ((timeout? request).map Part.timeout).toList

def httpxArgument : Part → String
  | .headers => "headers=headers"
  | .cookies => "cookies=cookies"
  | .body json => bodyArgument json
  | .auth credentials => "auth=" ++ credentialArguments credentials
  | .proxy url => "proxy=" ++ Literal.quote url
  | .insecure => "verify=False"
  | .timeout seconds => "timeout=" ++ Literal.ofNumber seconds

def requestsArgument : Part → String
  | .proxy url =>
    "proxies=\x7b'http': " ++ Literal.quote url ++ ", 'https': " ++ Literal.quote url ++ "\x7d"
  | part => httpxArgument part

def aiohttpArgument : Part → String
  | .insecure => "ssl=False"
  | part => httpxArgument part

def sessionArgument : Part → String
  | .auth credentials => "auth=aiohttp.BasicAuth" ++ credentialArguments credentials
  | .timeout seconds => "timeout=aiohttp.ClientTimeout(total=" ++ Literal.ofNumber seconds ++ ")"
  | part => aiohttpArgument part

def Part.ofSession : Part → Bool
  | .auth _ | .timeout _ => true
  | _ => false

variable (request : Draft)

theorem bodyKeyword?_eq_map : bodyKeyword? request = (bodyPart? request).map httpxArgument := by
  rw [bodyKeyword?, bodyPart?, Option.map_map]
  rfl

theorem isSome_bodyKeyword? : (bodyKeyword? request).isSome = (bodyPart? request).isSome := by
  rw [bodyKeyword?_eq_map, Option.isSome_map]

section Lists

variable {α : Type} {argument : Part → String} {selects : Part → Bool}

theorem map_toList_map (part : α → Part) (value : Option α) :
    (value.map part).toList.map argument = (value.map fun a => argument (part a)).toList := by
  cases value <;> rfl

theorem map_present (absent : Bool) (part : Part) :
    (if absent then [] else [part]).map argument = if absent then [] else [argument part] := by
  cases absent <;> rfl

theorem map_set (isSet : Bool) (part : Part) :
    (if isSet then [part] else []).map argument = if isSet then [argument part] else [] := by
  cases isSet <;> rfl

theorem filter_eq_self_of_toList_map {part : α → Part} (kept : ∀ a, selects (part a) = true)
    (value : Option α) : (value.map part).toList.filter selects = (value.map part).toList := by
  cases value <;> simp [kept]

theorem filter_eq_nil_of_toList_map {part : α → Part} (dropped : ∀ a, selects (part a) = false)
    (value : Option α) : (value.map part).toList.filter selects = [] := by
  cases value <;> simp [dropped]

end Lists

theorem requestsArguments_eq_map :
    requestsArguments request = (parts request).map requestsArgument := by
  simp only [requestsArguments, payloadArguments, bodyKeyword?, parts, bodyPart?, List.map_append,
    map_toList_map, map_present, map_set]
  rfl

theorem httpxArguments_eq_map : httpxArguments request = (parts request).map httpxArgument := by
  simp only [httpxArguments, payloadArguments, bodyKeyword?, parts, bodyPart?, List.map_append,
    map_toList_map, map_present, map_set]
  rfl

theorem filter_not_ofSession_parts :
    (parts request).filter (!·.ofSession) =
      (if request.headers.isEmpty then [] else [.headers]) ++
      (if request.cookies.isEmpty then [] else [.cookies]) ++ (bodyPart? request).toList ++
      ((proxyUrl? request).map Part.proxy).toList ++
      (if request.insecure then [.insecure] else []) := by
  have body : (bodyPart? request).toList.filter (!·.ofSession) = (bodyPart? request).toList :=
    filter_eq_self_of_toList_map (fun _ => rfl) _
  have auth : (request.auth.map Part.auth).toList.filter (!·.ofSession) = [] :=
    filter_eq_nil_of_toList_map (fun _ => rfl) _
  have proxy : ((proxyUrl? request).map Part.proxy).toList.filter (!·.ofSession) =
      ((proxyUrl? request).map Part.proxy).toList := filter_eq_self_of_toList_map (fun _ => rfl) _
  have timeout : ((timeout? request).map Part.timeout).toList.filter (!·.ofSession) = [] :=
    filter_eq_nil_of_toList_map (fun _ => rfl) _
  simp only [parts, List.filter_append, body, auth, proxy, timeout, List.append_nil]
  congr 4 <;> split <;> rfl

theorem filter_ofSession_parts :
    (parts request).filter (·.ofSession) =
      (request.auth.map Part.auth).toList ++ ((timeout? request).map Part.timeout).toList := by
  have body : (bodyPart? request).toList.filter (·.ofSession) = [] :=
    filter_eq_nil_of_toList_map (fun _ => rfl) _
  have auth : (request.auth.map Part.auth).toList.filter (·.ofSession) =
      (request.auth.map Part.auth).toList := filter_eq_self_of_toList_map (fun _ => rfl) _
  have proxy : ((proxyUrl? request).map Part.proxy).toList.filter (·.ofSession) = [] :=
    filter_eq_nil_of_toList_map (fun _ => rfl) _
  have timeout : ((timeout? request).map Part.timeout).toList.filter (·.ofSession) =
      ((timeout? request).map Part.timeout).toList :=
    filter_eq_self_of_toList_map (fun _ => rfl) _
  have headers : (if request.headers.isEmpty then [] else [Part.headers]).filter (·.ofSession) =
      [] := by
    split <;> rfl
  have cookies : (if request.cookies.isEmpty then [] else [Part.cookies]).filter (·.ofSession) =
      [] := by
    split <;> rfl
  have insecure : (if request.insecure then [Part.insecure] else []).filter (·.ofSession) = [] := by
    split <;> rfl
  simp only [parts, List.filter_append, headers, cookies, body, auth, proxy, insecure, timeout,
    List.append_nil, List.nil_append]

theorem aiohttpArguments_eq_map :
    aiohttpArguments request = ((parts request).filter (!·.ofSession)).map aiohttpArgument := by
  simp only [filter_not_ofSession_parts, aiohttpArguments, payloadArguments, bodyKeyword?,
    bodyPart?, List.map_append, map_toList_map, map_present, map_set]
  rfl

theorem sessionArguments_eq_map :
    sessionArguments request = ((parts request).filter (·.ofSession)).map sessionArgument := by
  simp only [filter_ofSession_parts, sessionArguments, List.map_append, map_toList_map]
  rfl

end CurlScript.Script
