import CurlScript.Proofs.Script.Argument

/-!
Every switch changes a script in a way of its own, whatever the request and the other switches are.
-/

namespace CurlScript.Script

open Text

def openingLines (request : Draft) (options : Options) : List Line :=
  importLines options ++ preambleLines request

def syncClient? : Library → Option SyncClient
  | .requests => some requestsClient
  | .httpxSync => some httpxClient
  | _ => none

def PrintsMessage (text : String) : Prop :=
  begins "print(" text = true → text = "print(f\"Error: \x7be\x7d\")"

instance (text : String) : Decidable (PrintsMessage text) :=
  inferInstanceAs (Decidable (_ → _))

def trailerLines : List Line :=
  [⟨0, "", false⟩, ⟨0, "", false⟩, ⟨0, "if __name__ == \"__main__\":", false⟩,
    ⟨1, "print(asyncio.run(main()))", false⟩]

/-- In a function, the statements stand one level deeper and return the result that they print
otherwise. All else that they print is the message of an error. -/
def Wraps (request : Draft) (options : Options) : Prop :=
  ∃ ahead behind depth expression,
    scriptLines request { options with wrapAsync := false } =
      openingLines request options ++
        (ahead ++ ⟨depth, "print(" ++ expression ++ ")", false⟩ :: behind) ∧
    scriptLines request { options with wrapAsync := true } =
      openingLines request options ++
        (⟨0, "async def main():", false⟩ ::
          (ahead ++ ⟨depth, "return " ++ expression, false⟩ :: behind).map Line.deeper ++
            trailerLines) ∧
    ∀ line ∈ ahead ++ behind, PrintsMessage line.text

def OpensSession (client : SyncClient) (request : Draft) (options : Options) : Prop :=
  ∃ ahead behind depth name,
    scriptLines request { options with useSession := false } =
      openingLines request options ++
        (ahead ++ ⟨depth, "response = " ++ (client.module ++ "." ++ name) ++ "(", false⟩ ::
          behind) ∧
    scriptLines request { options with useSession := true } =
      openingLines request options ++
        ⟨0, "with " ++ client.session ++ " as " ++ client.receiver ++ ":", false⟩ ::
          (ahead ++ ⟨depth, "response = " ++ (client.receiver ++ "." ++ name) ++ "(", false⟩ ::
            behind).map Line.deeper

theorem textOfLines_append {first second : List String} (nonempty : first ≠ [])
    (more : second ≠ []) :
    textOfLines (first ++ second) = textOfLines first ++ textOfLines second := by
  obtain ⟨start, rest, rfl⟩ := List.exists_cons_of_ne_nil more
  induction first with
  | nil => contradiction
  | cons line lines ih =>
      cases lines with
      | nil => simp [textOfLines, Text.joined, String.append_assoc]
      | cons next others =>
          have tail := ih (List.cons_ne_nil _ _)
          simp only [textOfLines, List.cons_append, Text.joined, String.append_assoc] at tail ⊢
          rw [tail]

theorem scriptLines_ne_nil (request : Draft) (options : Options) :
    scriptLines request options ≠ [] := by
  obtain ⟨ahead, behind, lines, -⟩ := exists_scriptLines request options
  simp [lines, requestLines, callLines]

theorem scriptLines_imports (request : Draft) (options : Options) :
    (scriptLines request { options with includeImports := true }).map Line.shown =
      ((modules options.library).map ("import " ++ ·) ++ [""]) ++
        (scriptLines request { options with includeImports := false }).map Line.shown := by
  have imported : (linesAt 0 (imports options.library)).map Line.shown =
      (modules options.library).map ("import " ++ ·) ++ [""] := by
    cases options.library <;> decide
  have same : bodyLines request { options with includeImports := true } =
      bodyLines request { options with includeImports := false } :=
    rfl
  rw [scriptLines_eq, scriptLines_eq, same]
  simp [importLines, imported]

theorem ofRequest_imports (request : Request) (options : Options) :
    ofRequest request { options with includeImports := true } =
      textOfLines ((modules options.library).map ("import " ++ ·) ++ [""]) ++
        ofRequest request { options with includeImports := false } := by
  have nonempty : (scriptLines request.toDraft { options with includeImports := false }).map
      Line.shown ≠ [] := by
    simpa using scriptLines_ne_nil request.toDraft _
  rw [ofRequest_eq_textOfLines, ofRequest_eq_textOfLines, scriptLines_imports,
    textOfLines_append (by simp) nonempty]

theorem body_wrapAsync (request : Draft) {options : Options}
    (isSync : options.library.isAsync = false) (wraps : Bool) :
    body request { options with wrapAsync := wraps } = body request options := by
  obtain ⟨switches, library⟩ := options
  cases library with
  | requests => rfl
  | httpxSync => rfl
  | httpxAsync => cases isSync
  | aiohttp => cases isSync

theorem body_useSession (request : Draft) {options : Options}
    (isAsync : options.library.isAsync = true) (session : Bool) :
    body request { options with useSession := session } = body request options := by
  obtain ⟨switches, library⟩ := options
  cases library with
  | requests => cases isAsync
  | httpxSync => cases isAsync
  | httpxAsync => rfl
  | aiohttp => rfl

theorem linesAt_asyncBody (statements : Bool → List Piece) :
    linesAt 0 (asyncBody true statements) =
      ⟨0, "async def main():", false⟩ :: (linesAt 0 (statements true)).map Line.deeper ++
        trailerLines := by
  rw [asyncBody, if_pos rfl, linesAt_block, linesAt_succ]
  rfl

theorem wraps_of_frames {request : Draft} {options : Options} {statements : Bool → List Piece}
    (isBody : ∀ wraps, body request { options with wrapAsync := wraps } =
      asyncBody wraps statements)
    {depth : Nat} {context : List Piece → List Piece} (frames : Frames PrintsMessage depth context)
    (expression : String)
    (result : ∀ returns, statements returns = context [result returns expression]) :
    Wraps request options := by
  obtain ⟨ahead, behind, lines, each⟩ := frames 0
  refine ⟨ahead, behind, depth, expression, ?_, ?_, fun line member => (each line member).2⟩
  · have direct : linesAt 0 (asyncBody false statements) =
        ahead ++ ⟨depth, "print(" ++ expression ++ ")", false⟩ :: behind := by
      rw [asyncBody, if_neg Bool.false_ne_true, result, lines, Nat.zero_add]
      simp [Script.result]
    rw [scriptLines_eq, bodyLines, isBody, direct]
    rfl
  · have wrapped : linesAt 0 (statements true) =
        ahead ++ ⟨depth, "return " ++ expression, false⟩ :: behind := by
      rw [result, lines, Nat.zero_add]
      simp [Script.result]
    rw [scriptLines_eq, bodyLines, isBody, linesAt_asyncBody, wrapped]
    rfl

theorem printsMessage_of_begins {text : String} {starts : List String}
    (known : BeginsIn starts text) (different : ∀ start ∈ starts, apart start "print(" = true) :
    PrintsMessage text := by
  intro prints
  simp [known.begins_eq_false different] at prints

theorem printsMessage_call (request : Draft) (options : Options) :
    EachText PrintsMessage
      [.call (callHead request options) (callArguments request options) (callCloser options)] :=
  (eachText_call request options).mono fun _ known =>
    printsMessage_of_begins known (by decide)

theorem printsMessage_statusCheck (handles : Bool) :
    EachText PrintsMessage (statusCheck handles) :=
  .statusCheck (by decide) handles

theorem wraps_httpxAsync (request : Draft) (switches : Switches) :
    Wraps request ⟨switches, .httpxAsync⟩ := by
  let handles := switches.addErrorHandling
  have ahead := (printsMessage_call request ⟨switches, .httpxAsync⟩).append
    (printsMessage_statusCheck handles)
  have client := (Frames.self.preceded ahead).block
    (show PrintsMessage "async with httpx.AsyncClient() as client:" by decide)
  have guarded := client.guardedIf (by decide)
    (show PrintsMessage ("except " ++ "httpx.HTTPError" ++ " as e:") by decide)
    (by decide) handles
  exact wraps_of_frames (fun _ => rfl) guarded
    (if handles then "response.json()" else "response.text") fun _ => rfl

theorem wraps_aiohttp (request : Draft) (switches : Switches) :
    Wraps request ⟨switches, .aiohttp⟩ := by
  let handles := switches.addErrorHandling
  have response := (Frames.self.preceded (printsMessage_statusCheck handles)).indented.preceded
    (printsMessage_call request ⟨switches, .aiohttp⟩)
  have session := response.block (printsMessage_of_begins
    ⟨_, List.mem_singleton_self _, begins_sessionHeader request⟩ (by decide))
  have guarded := session.guardedIf (by decide)
    (show PrintsMessage ("except " ++ "aiohttp.ClientError" ++ " as e:") by decide)
    (by decide) handles
  exact wraps_of_frames (fun _ => rfl) guarded
    (if handles then "await response.json()" else "await response.text()") fun _ => rfl

theorem opensSession_of_syncBody {client : SyncClient} {names arguments : List String}
    {request : Draft} {options : Options}
    (handler : IsStatement ("except " ++ client.error ++ " as e:"))
    (isBody : ∀ session, body request { options with useSession := session } =
      syncBody client names arguments request { options.toSwitches with useSession := session }) :
    OpensSession client request options := by
  let handles := options.addErrorHandling
  let call := fun receiver => syncCall client receiver names arguments request handles
  obtain ⟨name, positional, -, callees⟩ := exists_callee names request
  obtain ⟨ahead, behind, lines, -⟩ := frames_syncCall handler handles 0
  let head := fun receiver => "response = " ++ (receiver ++ "." ++ name) ++ "("
  -- Behind its first line, a call does not say who receives it.
  let rest := (callLines handles.toNat "" (positional ++ arguments) ")").tail ++ behind
  have calls : ∀ receiver, linesAt 0 (call receiver) =
      ahead ++ ⟨handles.toNat, head receiver, false⟩ :: rest := by
    intro receiver
    have core := lines [responseCall (.of receiver names request) arguments]
    refine core.trans ?_
    rw [responseCall, callees, linesAt_call, linesAt_nil, List.append_nil, Nat.zero_add,
      List.append_assoc]
    rfl
  refine ⟨ahead, rest, handles.toNat, name, ?_, ?_⟩
  · have direct : linesAt 0 (body request { options with useSession := false }) =
        ahead ++ ⟨handles.toNat, head client.module, false⟩ :: rest := by
      rw [isBody]
      exact calls client.module
    rw [scriptLines_eq, bodyLines, direct]
    rfl
  · have session : linesAt 0 (body request { options with useSession := true }) =
        ⟨0, "with " ++ client.session ++ " as " ++ client.receiver ++ ":", false⟩ ::
          (ahead ++ ⟨handles.toNat, head client.receiver, false⟩ :: rest).map Line.deeper := by
      rw [isBody, ← calls client.receiver, ← linesAt_succ]
      exact (linesAt_block 0 [] _ _).trans (by rw [linesAt_nil, List.append_nil])
    rw [scriptLines_eq, bodyLines, session]
    rfl

theorem wraps_of_isAsync (request : Draft) {options : Options}
    (isAsync : options.library.isAsync = true) : Wraps request options := by
  obtain ⟨switches, library⟩ := options
  cases library with
  | requests => cases isAsync
  | httpxSync => cases isAsync
  | httpxAsync => exact wraps_httpxAsync request switches
  | aiohttp => exact wraps_aiohttp request switches

theorem opensSession_of_syncClient (request : Draft) {options : Options} {client : SyncClient}
    (known : syncClient? options.library = some client) : OpensSession client request options := by
  obtain ⟨switches, library⟩ := options
  cases library with
  | requests =>
      obtain rfl := Option.some.inj known
      exact opensSession_of_syncBody (by decide) fun _ => rfl
  | httpxSync =>
      obtain rfl := Option.some.inj known
      exact opensSession_of_syncBody (by decide) fun _ => rfl
  | httpxAsync => cases known
  | aiohttp => cases known

/-- Imports stand ahead of a script that is the same without them. A function has no meaning where
nothing is awaited, and a session none where one is always open; elsewhere they take in the lines of
the script that has none. -/
theorem switches_orthogonal (request : Request) (options : Options) :
    ofRequest request { options with includeImports := true } =
      textOfLines ((modules options.library).map ("import " ++ ·) ++ [""]) ++
        ofRequest request { options with includeImports := false } ∧
    (options.library.isAsync = false →
      ofRequest request { options with wrapAsync := true } =
        ofRequest request { options with wrapAsync := false }) ∧
    (options.library.isAsync = true →
      ofRequest request { options with useSession := true } =
        ofRequest request { options with useSession := false }) ∧
    (options.library.isAsync = true → Wraps request.toDraft options) ∧
    ∀ client, syncClient? options.library = some client →
      OpensSession client request.toDraft options := by
  refine ⟨ofRequest_imports request options, ?_, ?_, wraps_of_isAsync request.toDraft,
    fun client => opensSession_of_syncClient request.toDraft⟩
  · intro isSync
    have same := (body_wrapAsync request.toDraft isSync true).trans
      (body_wrapAsync request.toDraft isSync false).symm
    simp only [ofRequest, pieces, same]
  · intro isAsync
    have same := (body_useSession request.toDraft isAsync true).trans
      (body_useSession request.toDraft isAsync false).symm
    simp only [ofRequest, pieces, same]

def plainRequest : Request where
  url := "http://a"
  hasUrl := by decide

theorem switches_orthogonal_plainRequest :
    (Library.requests.isAsync = false ∧ syncClient? .requests = some requestsClient ∧
      ofRequest plainRequest ⟨⟨true, true, true, true⟩, .requests⟩ =
        ofRequest plainRequest ⟨⟨true, false, true, true⟩, .requests⟩ ∧
      OpensSession requestsClient plainRequest.toDraft ⟨⟨true, true, true, true⟩, .requests⟩) ∧
    Library.aiohttp.isAsync = true ∧
      ofRequest plainRequest ⟨⟨true, true, true, true⟩, .aiohttp⟩ =
        ofRequest plainRequest ⟨⟨true, true, true, false⟩, .aiohttp⟩ ∧
      Wraps plainRequest.toDraft ⟨⟨true, true, true, true⟩, .aiohttp⟩ := by
  obtain ⟨-, wrapAsync, -, -, session⟩ :=
    switches_orthogonal plainRequest ⟨⟨true, true, true, true⟩, .requests⟩
  obtain ⟨-, -, useSession, wraps, -⟩ :=
    switches_orthogonal plainRequest ⟨⟨true, true, true, true⟩, .aiohttp⟩
  exact ⟨⟨rfl, rfl, wrapAsync rfl, session requestsClient rfl⟩, rfl, useSession rfl, wraps rfl⟩

end CurlScript.Script
