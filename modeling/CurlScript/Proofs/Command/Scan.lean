import CurlScript.Command.Token

/-!
What the tokens of a command line are made of: they are not empty, and their characters are those
of the command line. How a scan goes on depends on no token that it has completed.
-/

namespace CurlScript.Command.Scan

structure Within (allowed : Char → Prop) (scan : Scan) : Prop where
  word : ∀ c ∈ scan.word, allowed c
  done : ∀ token ∈ scan.done, token ≠ "" ∧ ∀ c ∈ token.toList, allowed c

variable {allowed : Char → Prop} {scan : Scan}

theorem Within.push (within : scan.Within allowed) {c : Char} (accepted : allowed c) :
    (scan.push c).Within allowed := by
  refine ⟨?_, within.done⟩
  intro d member
  rcases List.mem_cons.mp member with same | earlier
  · rwa [same]
  · exact within.word d earlier

theorem Within.flush (within : scan.Within allowed) : scan.flush.Within allowed := by
  unfold Scan.flush
  split
  · exact within
  · rename_i nonempty
    refine ⟨by simp, ?_⟩
    intro token member
    rcases List.mem_cons.mp member with same | earlier
    · subst token
      exact ⟨by simpa using nonempty, by simpa using within.word⟩
    · exact within.done token earlier

theorem Within.readQuote (within : scan.Within allowed) {mark : Char} (accepted : allowed mark) :
    (scan.readQuote mark).Within allowed := by
  unfold Scan.readQuote
  split
  · exact ⟨within.word, within.done⟩
  · split
    · exact ⟨within.word, within.done⟩
    · exact within.push accepted

theorem Within.step (within : scan.Within allowed) {c : Char} (accepted : allowed c) :
    (scan.step c).Within allowed := by
  unfold Scan.step
  split
  · have pushed := within.push accepted
    exact ⟨pushed.word, pushed.done⟩
  · split
    · exact ⟨within.word, within.done⟩
    · split
      · exact within.readQuote accepted
      · split
        · exact within.flush
        · exact within.push accepted

theorem Within.run (within : scan.Within allowed) {text : List Char}
    (accepted : ∀ c ∈ text, allowed c) : (scan.run text).Within allowed := by
  induction text generalizing scan with
  | nil => exact within
  | cons c rest ih =>
      obtain ⟨first, others⟩ := List.forall_mem_cons.mp accepted
      exact ih (within.step first) others

theorem tokens_eq (scan : Scan) :
    scan.tokens =
      scan.done.reverse ++ if scan.word = [] then [] else [String.ofList scan.word.reverse] := by
  cases word : scan.word <;> simp [tokens, flush, word]

def behind (scan : Scan) (earlier : List String) : Scan :=
  { scan with done := scan.done ++ earlier }

theorem flush_behind (scan : Scan) (earlier : List String) :
    (scan.behind earlier).flush = scan.flush.behind earlier := by
  cases word : scan.word <;> simp [flush, behind, word]

theorem readQuote_behind (scan : Scan) (earlier : List String) (mark : Char) :
    (scan.behind earlier).readQuote mark = (scan.readQuote mark).behind earlier := by
  cases quote : scan.quote with
  | none => simp [readQuote, behind, quote]
  | some opened =>
      by_cases same : opened = mark
      · simp [readQuote, behind, quote, same]
      · simp [readQuote, behind, push, quote, same]

theorem step_behind (scan : Scan) (earlier : List String) (c : Char) :
    (scan.behind earlier).step c = (scan.step c).behind earlier := by
  unfold step
  rw [flush_behind, readQuote_behind]
  simp only [apply_ite (behind · earlier)]
  rfl

theorem run_behind (scan : Scan) (earlier : List String) (text : List Char) :
    (scan.behind earlier).run text = (scan.run text).behind earlier := by
  induction text generalizing scan with
  | nil => rfl
  | cons c rest ih => rw [run_cons, step_behind, ih, run_cons]

theorem tokens_behind (scan : Scan) (earlier : List String) :
    (scan.behind earlier).tokens = earlier.reverse ++ scan.tokens := by
  rw [tokens, flush_behind]
  exact List.reverse_append

end CurlScript.Command.Scan

namespace CurlScript.Command

theorem tokenize_within {allowed : Char → Prop} {command token : String}
    (accepted : ∀ c ∈ command.toList, allowed c) (member : token ∈ tokenize command) :
    token ≠ "" ∧ ∀ c ∈ token.toList, allowed c := by
  have start : ({} : Scan).Within allowed := ⟨by simp, by simp⟩
  exact (start.run accepted).flush.done token (List.mem_reverse.mp member)

end CurlScript.Command
