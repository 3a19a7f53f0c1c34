import CurlScript.Proofs.Command.Program
import CurlScript.Proofs.Draft.Url
import CurlScript.Proofs.Draft.WellFormed
import CurlScript.Proofs.Request.Fields

/-!
What comes of a command text. It describes a request exactly when it names the program and has an
operand, and then the request is well formed.
-/

namespace CurlScript.Command

open Text

theorem isToken_of_mem_tokenize {raw token : String} (member : token ∈ tokenize (normalize raw)) :
    IsToken token :=
  tokenize_within (normalize_onlySpaces raw) member

theorem request_of_namesCurl {raw : String} (named : NamesCurl (normalize raw)) :
    request raw = match Request.ofDraft? (Draft.ofTokens (tokenize (normalize raw))) with
      | some request => .ok request
      | none => .error .noUrl := by
  have curl := (isCurl_iff _).mpr named
  cases found : Request.ofDraft? (Draft.ofTokens (tokenize (normalize raw))) <;>
    simp [request, curl, found]

theorem request_of_not_namesCurl {raw : String} (unnamed : ¬NamesCurl (normalize raw)) :
    request raw = .error .notCurl := by
  rw [request, if_neg (fun curl => unnamed ((isCurl_iff _).mp curl))]

theorem draft_of_request {raw : String} {request : Request}
    (parsed : Command.request raw = .ok request) :
    request.toDraft = Draft.ofTokens (tokenize (normalize raw)) := by
  by_cases named : NamesCurl (normalize raw)
  · rw [request_of_namesCurl named] at parsed
    split at parsed
    · rename_i found isSome
      rw [← Except.ok.inj parsed]
      exact Request.toDraft_of_ofDraft? _ _ isSome
    · simp at parsed
  · rw [request_of_not_namesCurl named] at parsed
    simp at parsed

/-- The request of a command text is well formed, and spaces are the only white space in it. -/
theorem request_wellFormed {raw : String} {request : Request}
    (parsed : Command.request raw = .ok request) :
    request.url ≠ "" ∧ request.toDraft.WellFormed ∧
      ∀ text ∈ request.texts, OnlySpaces text.toList := by
  have wellFormed : request.toDraft.WellFormed := by
    rw [draft_of_request parsed]
    exact Draft.wellFormed_ofTokens fun token member => isToken_of_mem_tokenize member
  exact ⟨request.hasUrl, wellFormed, wellFormed.onlySpaces⟩

theorem request_wellFormed_of_post :
    ∃ request, Command.request "curl -H ' A : b:c ' -b ' =1;n= v ;' x -d y -A ' z ' -m 5s" =
        .ok request ∧ request.url ≠ "" ∧ request.toDraft.WellFormed ∧
      ∀ text ∈ request.texts, OnlySpaces text.toList := by
  have parsed : Command.request "curl -H ' A : b:c ' -b ' =1;n= v ;' x -d y -A ' z ' -m 5s" =
      .ok { url := "x", method := "POST", headers := [("A", "b:c"), ("User-Agent", " z ")],
            cookies := [("", "1"), ("n", "v")], data := some "y",
            timeout := some (.finite false 5629499534213120 (-50)), hasUrl := by decide } := by
    decide +kernel
  exact ⟨_, parsed, request_wellFormed parsed⟩

variable {raw program : String} {arguments : List String}

section Outcome

variable {ε ρ : Type} (construct : Entries String Json → Except ε ρ)

variable {construct}

variable (construct)

end Outcome

end CurlScript.Command
