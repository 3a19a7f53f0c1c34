import CurlScript.Proofs.Command.Writing

/-!
Command lines put together. A space separates the tokens on its two sides exactly if the text ahead
of it ends outside quotes and with no backslash waiting. A quote that is still open at the end may
be closed, and a backslash with nothing behind it left out: the tokens are those of the completed
line, which writes them out.
-/

namespace CurlScript.Command

def scanned (command : String) : Scan :=
  ({} : Scan).run command.toList

inductive Continued : Option Char → Bool → List Char → Prop
  | outside {argument written arguments text} : Spelling argument written →
      Following arguments text → Continued none false (written ++ text)
  | inside {mark inner written text} : Enclosed mark inner written → Continued none false text →
      Continued (some mark) false (written ++ mark :: text)
  | escaped {quote c text} : Continued quote false text → Continued quote true (c :: text)

theorem Spelling.ofList {text written : List Char} (spelling : Spelling text written) :
    Spelling (String.ofList text).toList written := by
  rwa [String.toList_ofList]

namespace Continued

theorem backslash {quote : Option Char} {text : List Char}
    (continued : Continued quote true text) : Continued quote false ('\\' :: text) := by
  cases continued with
  | escaped rest =>
      cases rest with
      | outside spelling following => exact .outside (.escaped spelling) following
      | inside enclosed rest => exact .inside (.escaped enclosed) rest

theorem bare {c : Char} {text : List Char} (bare : IsBare c)
    (continued : Continued none false text) : Continued none false (c :: text) := by
  cases continued with
  | outside spelling following => exact .outside (.bare bare spelling) following

theorem space {text : List Char} (continued : Continued none false text) :
    Continued none false (' ' :: text) := by
  cases continued with
  | outside spelling following => exact .outside .nil (.cons 0 spelling.ofList following)

theorem raw {mark c : Char} {text : List Char} (notBackslash : c ≠ '\\') (notMark : c ≠ mark)
    (continued : Continued (some mark) false text) : Continued (some mark) false (c :: text) := by
  cases continued with
  | inside enclosed rest => exact .inside (.raw notBackslash notMark enclosed) rest

theorem opening {mark : Char} {text : List Char} (isQuote : mark = '\'' ∨ mark = '"')
    (continued : Continued (some mark) false text) : Continued none false (mark :: text) := by
  cases continued with
  | inside enclosed rest =>
      cases rest with
      | outside spelling following =>
          have whole := Continued.outside (.quoted isQuote enclosed spelling) following
          simpa using whole

theorem exists_writing {text : List Char} (continued : Continued none false text) :
    ∃ arguments, Writing arguments text := by
  cases continued with
  | outside spelling following => exact ⟨_, .cons 0 spelling.ofList following⟩

end Continued

namespace Scan

def OpensQuotes (scan : Scan) : Prop :=
  ∀ mark ∈ scan.quote, mark = '\'' ∨ mark = '"'

theorem opensQuotes_start : ({} : Scan).OpensQuotes := by
  intro mark member
  cases member

variable {scan : Scan}

theorem OpensQuotes.step (opens : scan.OpensQuotes) (c : Char) : (scan.step c).OpensQuotes := by
  unfold Scan.step
  split
  · exact opens
  · split
    · exact opens
    · split
      · rename_i isQuote
        unfold readQuote
        split
        · intro mark member
          obtain rfl := Option.some.inj member
          exact isQuote
        · split
          · intro mark member
            cases member
          · exact opens
      · split
        · unfold flush
          split <;> exact opens
        · exact opens

theorem OpensQuotes.run (opens : scan.OpensQuotes) (text : List Char) :
    (scan.run text).OpensQuotes := by
  induction text generalizing scan with
  | nil => exact opens
  | cons c rest ih => exact ih (opens.step c)

theorem eq_neutral (closed : scan.quote = none) (settled : scan.escaped = false) :
    scan = neutral scan.done scan.word := by
  cases scan
  simp_all [neutral]

theorem eq_quoted {mark : Char} (opened : scan.quote = some mark)
    (settled : scan.escaped = false) :
    scan = { done := scan.done, word := scan.word, quote := some mark } := by
  cases scan
  simp_all

theorem step_escaped (waits : scan.escaped = true) (c : Char) :
    scan.step c = { scan.push c with escaped := false } :=
  if_pos waits

theorem step_backslash (settled : scan.escaped = false) :
    scan.step '\\' = { scan with escaped := true } := by
  simp [step, settled]

theorem continued_cons (opens : scan.OpensQuotes) {c : Char} {text : List Char}
    (continued : Continued (scan.step c).quote (scan.step c).escaped text) :
    Continued scan.quote scan.escaped (c :: text) := by
  -- The cases are those of the step. Each puts `c` in front of what the rest stands for.
  cases waits : scan.escaped with
  | true =>
      rw [step_escaped waits] at continued
      exact .escaped continued
  | false =>
      by_cases isBackslash : c = '\\'
      · subst isBackslash
        rw [step_backslash waits] at continued
        exact continued.backslash
      cases opened : scan.quote with
      | none =>
          rw [eq_neutral opened waits] at continued
          by_cases isQuote : c = '\'' ∨ c = '"'
          · rw [step_quote_neutral isQuote] at continued
            exact continued.opening isQuote
          by_cases isSpace : c = ' '
          · subst isSpace
            rw [step_space_neutral] at continued
            exact continued.space
          have bare : IsBare c := ⟨isBackslash, fun single => isQuote (.inl single),
            fun double => isQuote (.inr double), isSpace⟩
          rw [step_bare bare] at continued
          exact continued.bare bare
      | some mark =>
          rw [eq_quoted opened waits] at continued
          by_cases closes : c = mark
          · subst closes
            rw [step_quote_quoted (opens c opened)] at continued
            exact .inside .nil continued
          · rw [step_raw isBackslash closes] at continued
            exact continued.raw isBackslash closes

theorem continued_of_run (opens : scan.OpensQuotes) {text : List Char}
    (closed : (scan.run text).quote = none) (settled : (scan.run text).escaped = false) :
    Continued scan.quote scan.escaped text := by
  induction text generalizing scan with
  | nil =>
      rw [run_nil] at closed settled
      rw [closed, settled]
      exact .outside .nil (.nil 0)
  | cons c rest ih => exact continued_cons opens (ih (opens.step c) closed settled)

theorem step_open_quote (opens : scan.OpensQuotes) {mark : Char} (opened : scan.quote = some mark)
    (settled : scan.escaped = false) : scan.step mark = neutral scan.done scan.word := by
  rw [eq_quoted opened settled]
  exact step_quote_quoted (opens mark opened) _ _

theorem tokens_push_ne (scan : Scan) (c : Char) : (scan.push c).tokens ≠ scan.tokens := by
  rw [tokens_eq, tokens_eq scan]
  intro same
  -- The last token of the one ends with the character, that of the other before it.
  have lastEq := List.append_cancel_left same
  by_cases empty : scan.word = []
  · simp [push, empty] at lastEq
  · simp [push, empty, ← String.toList_inj] at lastEq

theorem tokens_step_escaped (waits : scan.escaped = true) (c : Char) :
    (scan.step c).tokens ≠ scan.tokens := by
  rw [step_escaped waits]
  exact tokens_push_ne scan c

theorem tokens_step_space_iff (scan : Scan) :
    (scan.step ' ').tokens = scan.tokens ↔ scan.quote = none ∧ scan.escaped = false := by
  cases waits : scan.escaped with
  | true => simpa using tokens_step_escaped waits ' '
  | false =>
      cases opened : scan.quote with
      | none =>
          rw [eq_neutral opened waits, step_space_neutral, tokens_neutral]
          simp
      | some mark =>
          have pushed : scan.step ' ' = scan.push ' ' := by simp [step, waits, opened]
          simpa [pushed] using tokens_push_ne scan ' '

theorem tokens_step_quote_iff (opens : scan.OpensQuotes) {mark : Char}
    (opened : scan.quote = some mark) :
    (scan.step mark).tokens = scan.tokens ↔ scan.escaped = false := by
  cases waits : scan.escaped with
  | true => simpa using tokens_step_escaped waits mark
  | false =>
      rw [step_open_quote opens opened waits, tokens_neutral, ← tokens_eq]
      simp

theorem tokens_step_backslash_iff (scan : Scan) :
    (scan.step '\\').tokens = scan.tokens ↔ scan.escaped = false := by
  cases waits : scan.escaped with
  | true => simpa using tokens_step_escaped waits '\\'
  | false =>
      rw [step_backslash waits, tokens_eq, tokens_eq scan]
      simp

end Scan

theorem opensQuotes_scanned (command : String) : (scanned command).OpensQuotes :=
  Scan.opensQuotes_start.run command.toList

theorem scanned_push (command : String) (c : Char) :
    scanned (command.push c) = (scanned command).step c := by
  rw [scanned, String.toList_push, Scan.run_append]
  rfl

theorem tokenize_push_eq_iff (command : String) (c : Char) :
    tokenize (command.push c) = tokenize command ↔
      ((scanned command).step c).tokens = (scanned command).tokens := by
  rw [← scanned_push]
  rfl

theorem tokenize_append_space (command more : String) :
    tokenize (command ++ " " ++ more) = ((scanned command).run (' ' :: more.toList)).tokens := by
  have split : (command ++ " " ++ more).toList = command.toList ++ ' ' :: more.toList := by simp
  rw [tokenize, split, Scan.run_append]
  rfl

theorem separates_iff (command : String) :
    (∀ more, tokenize (command ++ " " ++ more) = tokenize command ++ tokenize more) ↔
      (scanned command).quote = none ∧ (scanned command).escaped = false := by
  constructor
  · intro separates
    -- Inside quotes and behind a backslash the space itself is text, so nothing need follow it.
    apply (Scan.tokens_step_space_iff (scanned command)).mp
    calc ((scanned command).step ' ').tokens
        = tokenize (command ++ " " ++ "") := (tokenize_append_space command "").symm
      _ = tokenize command ++ tokenize "" := separates ""
      _ = tokenize command := List.append_nil _
  · rintro ⟨closed, settled⟩ more
    have neutralEq := Scan.eq_neutral closed settled
    calc tokenize (command ++ " " ++ more)
        = ((scanned command).run (' ' :: more.toList)).tokens := tokenize_append_space command more
      _ = (scanned command).tokens ++ tokenize more := by
        rw [neutralEq]
        exact Scan.tokens_run_space _ _ _

theorem exists_writing_of_closed {command : String} (closed : (scanned command).quote = none)
    (settled : (scanned command).escaped = false) :
    ∃ arguments, Writing arguments command.toList ∧
      tokenize command = arguments.filter (· ≠ "") := by
  have continued := Scan.continued_of_run Scan.opensQuotes_start closed settled
  obtain ⟨arguments, writing⟩ := continued.exists_writing
  exact ⟨arguments, writing, Scan.tokens_run_writing writing⟩

/-- The tokens are the arguments that the command line writes out once its open quote is closed. -/
theorem exists_writing_of_settled {command : String}
    (settled : (scanned command).escaped = false) :
    ∃ arguments, Writing arguments (command.toList ++ (scanned command).quote.toList) ∧
      tokenize command = arguments.filter (· ≠ "") := by
  cases opened : (scanned command).quote with
  | none => simpa using exists_writing_of_closed opened settled
  | some mark =>
      have opens := opensQuotes_scanned command
      have completed : scanned (command.push mark) =
          Scan.neutral (scanned command).done (scanned command).word :=
        (scanned_push command mark).trans (Scan.step_open_quote opens opened settled)
      have closed : (scanned (command.push mark)).quote = none := by rw [completed]; rfl
      have settledEnd : (scanned (command.push mark)).escaped = false := by rw [completed]; rfl
      have unchanged : tokenize (command.push mark) = tokenize command :=
        (tokenize_push_eq_iff command mark).mpr
          ((Scan.tokens_step_quote_iff opens opened).mpr settled)
      obtain ⟨arguments, writing, tokens⟩ := exists_writing_of_closed closed settledEnd
      rw [String.toList_push] at writing
      exact ⟨arguments, writing, unchanged.symm.trans tokens⟩

/-- A space separates the tokens on its two sides exactly if the line ahead of it is complete. To
close the open quote, or to add a last backslash, leaves the tokens as they are exactly if no
backslash waits already. They are the arguments, less the empty ones, of the completed line. -/
theorem tokenize_composition (command : String) :
    ((∀ more, tokenize (command ++ " " ++ more) = tokenize command ++ tokenize more) ↔
        (scanned command).quote = none ∧ (scanned command).escaped = false) ∧
      (∀ mark, (scanned command).quote = some mark →
        (tokenize (command.push mark) = tokenize command ↔ (scanned command).escaped = false)) ∧
      (tokenize (command.push '\\') = tokenize command ↔ (scanned command).escaped = false) ∧
      ((scanned command).escaped = false → ∃ arguments,
        Writing arguments (command.toList ++ (scanned command).quote.toList) ∧
          tokenize command = arguments.filter (· ≠ "")) ∧
      "" ∉ tokenize command := by
  refine ⟨separates_iff command, ?_, ?_, exists_writing_of_settled, ?_⟩
  · intro mark opened
    rw [tokenize_push_eq_iff]
    exact Scan.tokens_step_quote_iff (opensQuotes_scanned command) opened
  · rw [tokenize_push_eq_iff]
    exact Scan.tokens_step_backslash_iff (scanned command)
  · intro member
    have anyCharacter : ∀ c ∈ command.toList, True := fun _ _ => trivial
    have nonempty : "" ≠ "" := (tokenize_within anyCharacter member).1
    exact nonempty rfl

def openLine : String :=
  "curl -d 'it\\'s"

theorem tokenize_composition_openLine :
    (scanned openLine).quote = some '\'' ∧ (scanned openLine).escaped = false ∧
      tokenize (openLine.push '\'') = tokenize openLine ∧
      (∃ arguments, Writing arguments (openLine.toList ++ (scanned openLine).quote.toList) ∧
        ["curl", "-d", "it's"] = arguments.filter (· ≠ "")) ∧
      tokenize (openLine.push '\'' ++ " " ++ "-X PUT") =
        tokenize (openLine.push '\'') ++ tokenize "-X PUT" := by
  have opened : (scanned openLine).quote = some '\'' := by decide
  have settled : (scanned openLine).escaped = false := by decide
  have tokens : tokenize openLine = ["curl", "-d", "it's"] := by decide
  obtain ⟨-, closing, -, written, -⟩ := tokenize_composition openLine
  obtain ⟨separates, -⟩ := tokenize_composition (openLine.push '\'')
  have closed : (scanned (openLine.push '\'')).quote = none ∧
      (scanned (openLine.push '\'')).escaped = false := by decide
  exact ⟨opened, settled, (closing _ opened).mpr settled, tokens ▸ written settled,
    separates.mpr closed _⟩

end CurlScript.Command
