import CurlScript.Proofs.Script.Statements
import CurlScript.Proofs.Script.Writer
import CurlScript.Proofs.Text.LetterCase

/-!
Which scripts are sound: exactly those of requests whose texts stand in their literals.
-/

namespace CurlScript.Script

open Text Literal

def quotedTexts (request : Draft) : List String :=
  preambleTexts request ++ [request.method, request.url] ++
    request.auth.toList.flatMap (fun credentials => [credentials.user, credentials.password]) ++
    (proxyUrl? request).toList

theorem bodyPart?_eq_some {request : Draft} {part : Part} (found : bodyPart? request = some part) :
    ∃ json, part = .body json := by
  obtain ⟨data, -, rfl⟩ := Option.map_eq_some_iff.mp found
  exact ⟨_, rfl⟩

theorem auth_mem_parts {request : Draft} {credentials : Credentials} :
    .auth credentials ∈ parts request ↔ request.auth = some credentials := by
  have notBody : bodyPart? request ≠ some (.auth credentials) := by
    intro found
    obtain ⟨json, same⟩ := bodyPart?_eq_some found
    simp at same
  simp [parts, notBody]

theorem proxy_mem_parts {request : Draft} {url : String} :
    .proxy url ∈ parts request ↔ proxyUrl? request = some url := by
  have notBody : bodyPart? request ≠ some (.proxy url) := by
    intro found
    obtain ⟨json, same⟩ := bodyPart?_eq_some found
    simp at same
  simp [parts, notBody]

theorem quotableChars_of_plain (both : Bool) {text : List Char} (noBackslash : '\\' ∉ text)
    (noBreak : '\n' ∉ text) : quotableChars both text = true := by
  induction text with
  | nil => rfl
  | cons c rest ih =>
      simp only [List.mem_cons, not_or] at noBackslash noBreak
      rw [quotableChars.eq_3, ih noBackslash.2 noBreak.2]
      · simp [Ne.symm noBackslash.1, Ne.symm noBreak.1]
      · intro d more isBackslash
        exact absurd isBackslash (Ne.symm noBackslash.1)

theorem quotable_of_plain {text : String} (plain : ∀ c ∈ ['\\', '\n', '\r'], c ∉ text.toList) :
    Quotable text := by
  rw [Quotable, unifyLines_eq_self (plain '\r' (by decide))]
  exact quotableChars_of_plain _ (plain '\\' (by decide)) (plain '\n' (by decide))

theorem quotable_of_shortcut {text name : String} (isShortcut : name ∈ shortcuts)
    (lowered : lower text.toList = name.toList) : Quotable text := by
  have absent : ∀ name ∈ shortcuts, ∀ c ∈ ['\\', '\n', '\r'], c ∉ name.toList := by decide
  have fixed : ∀ c ∈ ['\\', '\n', '\r'], lowerChar c = [c] := by decide
  apply quotable_of_plain
  intro c special
  exact not_mem_of_lower (fixed c special) (lowered ▸ absent name isShortcut c special)

theorem forall_calleeTexts {names : List String} (subset : names ⊆ shortcuts) (request : Draft) :
    (∀ text ∈ calleeTexts names request, Quotable text) ↔
      Quotable request.method ∧ Quotable request.url := by
  unfold calleeTexts
  split
  · rename_i isName
    have isShortcut := subset (List.contains_iff_mem.mp isName)
    have method : Quotable request.method :=
      quotable_of_shortcut isShortcut (String.toList_ofList).symm
    simp [method]
  · simp

theorem forall_quoted_parts (schemes : Bool) (request : Draft) :
    (∀ part ∈ parts request, ∀ text ∈ part.quoted schemes, Quotable text) ↔
      (∀ credentials ∈ request.auth, Quotable credentials.user ∧ Quotable credentials.password) ∧
        ∀ url ∈ proxyUrl? request, Quotable url := by
  constructor
  · intro all
    refine ⟨?_, ?_⟩
    · intro credentials member
      have quoted := all _ (auth_mem_parts.mpr member)
      exact ⟨quoted _ (by simp [Part.quoted]), quoted _ (by simp [Part.quoted])⟩
    · intro url member
      apply all _ (proxy_mem_parts.mpr member)
      cases schemes <;> simp [Part.quoted]
  · rintro ⟨auth, proxy⟩ part belongs text quoted
    cases part with
    | auth credentials =>
        have both := auth credentials (auth_mem_parts.mp belongs)
        simp only [Part.quoted, List.mem_cons, List.not_mem_nil, or_false] at quoted
        rcases quoted with rfl | rfl
        · exact both.1
        · exact both.2
    | proxy url =>
        have quotable := proxy url (proxy_mem_parts.mp belongs)
        have schemeTexts : ∀ text ∈ ["http", url, "https", url], Quotable text := by
          simp only [List.forall_mem_cons, quotable]
          decide
        cases schemes with
        | false => exact List.mem_singleton.mp quoted ▸ quotable
        | true => exact schemeTexts text quoted
    | timeout seconds =>
        cases seconds with
        | infinite negative =>
            have quotable : ∀ negative : Bool, Quotable (if negative then "-inf" else "inf") := by
              decide
            exact List.mem_singleton.mp quoted ▸ quotable negative
        | finite => simp [Part.quoted, doubleTexts] at quoted
        | undefined => simp [Part.quoted, doubleTexts] at quoted
    | headers => simp [Part.quoted] at quoted
    | cookies => simp [Part.quoted] at quoted
    | body => simp [Part.quoted] at quoted
    | insecure => simp [Part.quoted] at quoted

/-- Which texts a call quotes does not depend on the library, as far as it matters. -/
theorem forall_callTexts (library : Library) (request : Draft) :
    (∀ text ∈ callTexts library request, Quotable text) ↔
      (Quotable request.method ∧ Quotable request.url) ∧
      (∀ credentials ∈ request.auth, Quotable credentials.user ∧ Quotable credentials.password) ∧
        ∀ url ∈ proxyUrl? request, Quotable url := by
  cases library with
  | requests =>
      rw [callTexts, List.forall_mem_append, List.forall_mem_flatMap,
        forall_calleeTexts (List.Subset.refl _), forall_quoted_parts]
  | httpxSync =>
      rw [callTexts, List.forall_mem_append, List.forall_mem_flatMap,
        forall_calleeTexts (httpxShortcuts_subset request), forall_quoted_parts]
  | httpxAsync =>
      rw [callTexts, List.forall_mem_append, List.forall_mem_flatMap,
        forall_calleeTexts (httpxShortcuts_subset request), forall_quoted_parts]
  | aiohttp =>
      have split : ∀ holds : Part → Prop, (∀ part ∈ parts request, holds part) ↔
          (∀ part ∈ (parts request).filter (·.ofSession), holds part) ∧
            ∀ part ∈ (parts request).filter (!·.ofSession), holds part := by
        intro holds
        simp only [List.mem_filter]
        grind
      rw [callTexts, List.forall_mem_append, List.forall_mem_append, List.forall_mem_flatMap,
        List.forall_mem_flatMap, forall_calleeTexts (List.Subset.refl _),
        ← forall_quoted_parts false, split]
      exact and_left_comm

theorem forall_quotedTexts (library : Library) (request : Draft) :
    (∀ text ∈ preambleTexts request ++ callTexts library request, Quotable text) ↔
      ∀ text ∈ quotedTexts request, Quotable text := by
  rw [List.forall_mem_append, forall_callTexts]
  simp only [quotedTexts, List.forall_mem_append, List.forall_mem_cons, List.forall_mem_flatMap,
    List.not_mem_nil, false_imp_iff, implies_true, Option.mem_toList, and_true, and_assoc,
    Option.mem_def]

theorem sound_literalsOf_iff (request : Draft) (options : Options) :
    (∀ literal ∈ literalsOf request options, literal.Sound) ↔
      ∀ text ∈ quotedTexts request, Quotable text := by
  have own : ∀ literal ∈ ownLiterals options, literal.Sound := by
    have sound : ∀ literal ∈ [errorLiteral, mainLiteral], literal.Sound := by
      intro literal member
      simp only [List.mem_cons, List.not_mem_nil, or_false] at member
      rcases member with rfl | rfl <;> exact ⟨rfl, by decide⟩
    intro literal member
    apply sound
    unfold ownLiterals at member
    rcases List.mem_append.mp member with handler | module
    · split at handler <;> simp_all
    · split at module <;> simp_all
  rw [literalsOf, List.forall_mem_append, ← forall_quotedTexts options.library,
    List.forall_mem_map]
  simp only [sound_literalOf_iff]
  exact and_iff_left own

/-- The script of a command: it has no fault and its string literals are those that it writes, with
their whole text in them, exactly if every text that is quoted for the request is quotable. -/
theorem ofCommand_faultless_iff {raw : String} {request : Request}
    (parsed : Command.request raw = .ok request) (options : Options) :
    ∃ script, ofCommand raw options = .ok script ∧
      ((faults [("request.py", script)] = [] ∧
          literals script = literalsOf request.toDraft options) ↔
        ∀ text ∈ quotedTexts request.toDraft, Quotable text) := by
  have code := (codePieces_pieces request.toDraft options).joined
  have written : ofRequest request options =
      Text.joined "\n" (Piece.linesOf 0 (pieces request.toDraft options)) ++ "\n" := by
    rw [ofRequest, write_eq_textOfLines, textOfLines]
  have made : ofCommand raw options = .ok (ofRequest request options) := by
    rw [ofCommand, parsed]
    rfl
  refine ⟨ofRequest request options, made, ?_⟩
  rw [← sound_literalsOf_iff request.toDraft options, written]
  constructor
  · rintro ⟨-, same⟩
    exact code.literals_eq_iff.mp same
  · intro sound
    refine ⟨?_, code.literals_eq_iff.mpr sound⟩
    simp [faults, code.fault?_eq_none sound]

def plainOptions : Options where
  library := .requests
  includeImports := false
  wrapAsync := false
  addErrorHandling := false
  useSession := false

def escapedCommand : String :=
  "curl http://a\\\\n -H \"A: it's \\\"so\\\"\" -u \\\\\\\\:"

theorem ofCommand_faultless_iff_escapedCommand :
    ∃ request, Command.request escapedCommand = .ok request ∧
      (∀ text ∈ quotedTexts request.toDraft, Quotable text) ∧
      ∃ script, ofCommand escapedCommand plainOptions = .ok script ∧
        ((faults [("request.py", script)] = [] ∧
            literals script = literalsOf request.toDraft plainOptions) ↔
          ∀ text ∈ quotedTexts request.toDraft, Quotable text) := by
  have parsed : Command.request escapedCommand =
      .ok { url := "http://a\\n", headers := [("A", "it's \"so\"")],
            auth := some ⟨"\\\\", ""⟩, hasUrl := by decide } := by
    decide +kernel
  exact ⟨_, parsed, by decide +kernel, ofCommand_faultless_iff parsed plainOptions⟩

/-- A backslash at the end of a text protects the closing quote. -/
theorem faults_of_final_backslash :
    (ofCommand "curl 'http://a\\\\'" plainOptions).map
        (fun script => faults [("request.py", script)]) =
      .ok [("request.py", .openString 2 2)] := by
  decide +kernel

-- A backslash before a single quote ends the literal early, here with a call and a comment behind.
example :
    (ofCommand "curl http://a\\\"\\\\\\'+exit(1)#" plainOptions).map
        (fun script => (faults [("request.py", script)], (literals script).map (·.body.length))) =
      .ok ([], [11]) := by
  decide +kernel

end CurlScript.Script
