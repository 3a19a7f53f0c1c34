import CurlScript.Proofs.Literal.Lexing
import CurlScript.Proofs.Literal.Quote
import CurlScript.Proofs.Text.Lines
import Mathlib.Tactic.IntervalCases

/-!
A text as one string literal in single or double quotes, with characters by their names, and which
texts the literal that is written for them stands for.
-/

namespace CurlScript.Literal

open Text Script Expression

abbrev CharacterNames := List Char → Option Char

def namedEscape? (names : CharacterNames) : List Char → Option (List Char × Nat)
  | '\x7b' :: rest =>
    let name := rest.takeWhile (· ≠ '\x7d')
    if name.length = rest.length then none
    else (names name).map fun c => ([c], name.length + 3)
  | _ => none

def escapeWith? (names : CharacterNames) : List Char → Option (List Char × Nat)
  | 'N' :: rest => namedEscape? names rest
  | text => escape? text

def unescapeWith? (names : CharacterNames) : Nat → List Char → Option (List Char)
  | _, [] => some []
  | skipped + 1, _ :: rest => unescapeWith? names skipped rest
  | 0, c :: rest =>
    if c = '\\' then
      match escapeWith? names rest with
      | some (meant, length) => (unescapeWith? names length rest).map (meant ++ ·)
      | none => none
    else (unescapeWith? names 0 rest).map (c :: ·)

/-- The text that a source stands for if it is one string literal and nothing else. Line ends of any
kind are line feeds before it is read. -/
def textOf? (names : CharacterNames) (source : List Char) : Option (List Char) :=
  match unifyLines source with
  | [] => none
  | mark :: rest =>
    if mark = '\'' ∨ mark = '"' then
      match body? mark rest with
      | some (body, []) => unescapeWith? names 0 body
      | _ => none
    else none

def escapeStarts : List Char :=
  ['\n', '\\', '\'', '"', 'a', 'b', 'f', 'n', 'r', 't', 'v', '0', '1', '2', '3', '4', '5', '6', '7',
   'x', 'N', 'u', 'U']

def protect (mark : Char) : List Char → List Char
  | [] => []
  | c :: rest => if c = mark then '\\' :: c :: protect mark rest else c :: protect mark rest

def keepsBackslashes : List Char → Bool
  | [] => true
  | '\\' :: c :: rest => !escapeStarts.contains c && keepsBackslashes rest
  | c :: rest => c ≠ '\\' && keepsBackslashes rest

section Protect

variable {mark : Char}

theorem protect_eq_self {text : List Char} (absent : mark ∉ text) : protect mark text = text := by
  induction text with
  | nil => rfl
  | cons c rest ih =>
      simp only [List.mem_cons, not_or] at absent
      rw [protect, if_neg (Ne.symm absent.1), ih absent.2]

theorem escapeQuotes_eq_protect (text : List Char) : escapeQuotes text = protect '\'' text := by
  induction text with
  | nil => rfl
  | cons c rest ih =>
      rw [escapeQuotes, protect, ih]
      split
      · rename_i isMark
        rw [isMark]
      · rfl

theorem protect_cons_of_ne {c : Char} (other : c ≠ mark) (rest : List Char) :
    protect mark (c :: rest) = c :: protect mark rest := by
  rw [protect, if_neg other]

theorem protect_mark (rest : List Char) :
    protect mark (mark :: rest) = '\\' :: mark :: protect mark rest := by
  rw [protect, if_pos rfl]

theorem mem_protect {text : List Char} {c : Char} (member : c ∈ text) : c ∈ protect mark text := by
  induction text with
  | nil => cases member
  | cons d rest ih =>
      rw [protect]
      rcases List.mem_cons.mp member with rfl | later
      · split <;> simp
      · split <;> simp [ih later]

theorem mem_of_mem_protect {text : List Char} {c : Char} (notBackslash : c ≠ '\\')
    (member : c ∈ protect mark text) : c ∈ text := by
  induction text with
  | nil => exact member
  | cons d rest ih =>
      rw [protect] at member
      split at member
      · simp only [List.mem_cons, notBackslash, false_or] at member
        rcases member with rfl | later
        · simp
        · exact List.mem_cons_of_mem _ (ih later)
      · rcases List.mem_cons.mp member with rfl | later
        · simp
        · exact List.mem_cons_of_mem _ (ih later)

/-- The body of the literal of a text, line ends unified. -/
theorem unifyLines_quoteBody (text : List Char) :
    unifyLines (quoteBody text) = protect (quoteMark text) (unifyLines text) := by
  unfold quoteBody quoteMark
  by_cases double : inDouble text = true
  · have absent : '"' ∉ unifyLines text := by
      rw [mem_unifyLines_iff (by decide) (by decide)]
      simp only [inDouble, Bool.and_eq_true, Bool.not_eq_true', List.contains_eq_mem,
        decide_eq_false_iff_not] at double
      exact double.2
    rw [if_pos double, if_pos double, protect_eq_self absent]
  · rw [if_neg double, if_neg double, unifyLines_escapeQuotes, escapeQuotes_eq_protect]

end Protect

section Escape

variable {names : CharacterNames}

theorem octalDigit?_eq_none {c : Char} (other : c ∉ escapeStarts) : octalDigit? c = none := by
  unfold octalDigit?
  rw [if_neg]
  intro isDigit
  simp only [Bool.and_eq_true, decide_eq_true_eq, Char.le_def, UInt32.le_iff_toNat_le] at isDigit
  have point : c = Char.ofNat c.toNat := (Char.ofNat_toNat c).symm
  obtain ⟨lower, upper⟩ : 48 ≤ c.toNat ∧ c.toNat ≤ 55 := isDigit
  apply other
  rw [point]
  interval_cases c.toNat <;> decide

theorem simpleEscape?_eq_none {c : Char} (other : c ∉ escapeStarts) : simpleEscape? c = none := by
  unfold simpleEscape?
  split <;> first | rfl | exact absurd (by decide) other

/-- A backslash before any other character stands for itself. -/
theorem escapeWith?_of_not_start {c : Char} (other : c ∉ escapeStarts) (rest : List Char) :
    escapeWith? names (c :: rest) = some (['\\', c], 1) := by
  have digits : Number.digitRun octalDigit? ((c :: rest).take 3) = ([], (c :: rest).take 3) := by
    simp [Number.digitRun, octalDigit?_eq_none other]
  have notLetters : c ∉ ['\n', 'x', 'u', 'U', 'N'] := by
    have subset : ['\n', 'x', 'u', 'U', 'N'] ⊆ escapeStarts := by decide
    exact fun member => other (subset member)
  simp only [List.mem_cons, List.not_mem_nil, or_false, not_or] at notLetters
  rw [escapeWith?.eq_2 _ _ (by simp [notLetters]), escape?.eq_7, digits,
    simpleEscape?_eq_none other] <;> simp [notLetters]

theorem hexEscape?_length {count length : Nat} {text meant : List Char}
    (read : hexEscape? count text = some (meant, length)) : meant.length ≤ 1 ∧ 1 ≤ length := by
  simp only [hexEscape?, Option.bind_eq_bind, Option.bind_eq_some_iff] at read
  obtain ⟨digits, -, c, -, same⟩ := read
  split at same
  · obtain ⟨rfl, rfl⟩ := Prod.mk.inj (Option.some.inj same)
    simp
  · cases same

theorem escapeStarts_kinds : ∀ c ∈ escapeStarts,
    c ∈ ['\n', 'x', 'u', 'U', 'N'] ∨ (simpleEscape? c).isSome ∨ (octalDigit? c).isSome := by
  decide

/-- An escape stands for one character at most. -/
theorem escape?_length {c : Char} (start : c ∈ escapeStarts) {rest meant : List Char} {length : Nat}
    (read : escape? (c :: rest) = some (meant, length)) : meant.length ≤ 1 ∧ 1 ≤ length := by
  unfold escape? at read
  split at read
  · cases read
  · obtain ⟨rfl, rfl⟩ := Prod.mk.inj (Option.some.inj read)
    simp
  · exact hexEscape?_length read
  · exact hexEscape?_length read
  · exact hexEscape?_length read
  · cases read
  · rename_i d more notBreak notX notU notLongU notName same
    obtain ⟨rfl, rfl⟩ := List.cons.inj same
    split at read
    · obtain ⟨rfl, rfl⟩ := Prod.mk.inj (Option.some.inj read)
      simp
    · rename_i notSimple noDigits
      have notOctal : octalDigit? c = none := by
        cases digit : octalDigit? c with
        | none => rfl
        | some value => simp [Number.digitRun, digit] at noDigits
      have letter : c ∈ ['\n', 'x', 'u', 'U', 'N'] := by
        simpa [notSimple, notOctal] using escapeStarts_kinds c start
      simp_all
    · rename_i digits others nonempty notSimple run
      obtain ⟨value, -, same⟩ := Option.map_eq_some_iff.mp read
      obtain ⟨rfl, rfl⟩ := Prod.mk.inj same
      exact ⟨by simp, List.length_pos_iff.mpr nonempty⟩

theorem escapeWith?_length {c : Char} (start : c ∈ escapeStarts) {rest meant : List Char}
    {length : Nat} (read : escapeWith? names (c :: rest) = some (meant, length)) :
    meant.length ≤ 1 ∧ 1 ≤ length := by
  unfold escapeWith? at read
  split at read
  · unfold namedEscape? at read
    split at read
    · dsimp only at read
      split at read
      · cases read
      · obtain ⟨found, -, same⟩ := Option.map_eq_some_iff.mp read
        obtain ⟨rfl, rfl⟩ := Prod.mk.inj same
        simp
    · cases read
  · exact escape?_length start read

end Escape

section Body

variable {mark : Char} {body behind text : List Char}

theorem body?_of_isBody (isQuote : mark = '\'' ∨ mark = '"') (sound : isBody mark body = true)
    (allowed : ∀ c ∈ ['\r', '\x00'], c ∉ body) :
    body? mark (body ++ mark :: behind) = some (body, behind) := by
  simp only [List.forall_mem_cons, List.not_mem_nil, false_imp_iff, implies_true, and_true]
    at allowed
  fun_induction isBody mark body with
  | case1 =>
      rcases isQuote with rfl | rfl <;> simp [body?]
  | case2 c rest ih =>
      simp only [List.mem_cons, not_or] at allowed
      have inner := ih sound ⟨allowed.1.2.2, allowed.2.2.2⟩
      simp [body?, Ne.symm allowed.1.2.1, Ne.symm allowed.2.2.1, inner]
  | case3 c rest noPair ih =>
      simp only [Bool.and_eq_true, decide_eq_true_eq] at sound
      obtain ⟨⟨⟨notBackslash, notBreak⟩, notMark⟩, restSound⟩ := sound
      simp only [List.mem_cons, not_or] at allowed
      have inner := ih restSound ⟨allowed.1.2, allowed.2.2⟩
      rw [List.cons_append, body?.eq_3]
      · simp [notMark, notBreak, Ne.symm allowed.1.1, Ne.symm allowed.2.1, inner]
      · intro _ _ same
        exact absurd same notBackslash

theorem isBody_of_body? (read : body? mark text = some (body, behind)) :
    text = body ++ mark :: behind ∧ isBody mark body = true ∧ '\x00' ∉ body := by
  fun_induction body? mark text generalizing body behind with
  | case1 => cases read
  | case2 => cases read
  | case3 c rest allowed ih =>
      obtain ⟨⟨inner, behind⟩, found, same⟩ := Option.map_eq_some_iff.mp read
      obtain ⟨rfl, rfl⟩ := Prod.mk.inj same
      obtain ⟨rfl, sound, noNull⟩ := ih found
      simp only [Bool.or_eq_true, decide_eq_true_eq, not_or] at allowed
      refine ⟨by simp, by simpa [isBody] using sound, ?_⟩
      simp [Ne.symm allowed.2, noNull]
  | case4 rest noPair =>
      obtain ⟨rfl, rfl⟩ := Prod.mk.inj (Option.some.inj read)
      exact ⟨by simp, rfl, by simp⟩
  | case5 => cases read
  | case6 c rest noPair notMark allowed ih =>
      obtain ⟨⟨inner, behind⟩, found, same⟩ := Option.map_eq_some_iff.mp read
      obtain ⟨rfl, rfl⟩ := Prod.mk.inj same
      obtain ⟨rfl, sound, noNull⟩ := ih found
      simp only [Bool.or_eq_true, decide_eq_true_eq, not_or] at allowed
      have notEscape : c ≠ '\\' := by
        rintro rfl
        obtain ⟨d, others, start⟩ := List.exists_cons_of_ne_nil (l := inner ++ mark :: behind)
          (by simp)
        exact noPair d others rfl start
      refine ⟨by simp, ?_, ?_⟩
      · rw [isBody.eq_3]
        · simp [notEscape, allowed, notMark, sound]
        · intro _ _ same
          exact absurd same notEscape
      · simp [Ne.symm allowed.2, noNull]

end Body

section Unescape

variable {names : CharacterNames} {mark : Char}

theorem unescapeWith?_cons_of_ne {c : Char} (plain : c ≠ '\\') (rest : List Char) :
    unescapeWith? names 0 (c :: rest) = (unescapeWith? names 0 rest).map (c :: ·) := by
  rw [unescapeWith?, if_neg plain]

theorem unescapeWith?_mark (isQuote : mark = '\'' ∨ mark = '"') (rest : List Char) :
    unescapeWith? names 0 ('\\' :: mark :: rest) =
      (unescapeWith? names 0 rest).map (mark :: ·) := by
  have meaning : escapeWith? names (mark :: rest) = some ([mark], 1) := by
    rcases isQuote with rfl | rfl <;> rfl
  rw [unescapeWith?, if_pos rfl, meaning]
  rfl

theorem mark_mem_escapeStarts (isQuote : mark = '\'' ∨ mark = '"') : mark ∈ escapeStarts := by
  rcases isQuote with rfl | rfl <;> decide

theorem protect_pair (isQuote : mark = '\'' ∨ mark = '"') {c : Char} (other : c ∉ escapeStarts)
    (rest : List Char) : protect mark ('\\' :: c :: rest) = '\\' :: c :: protect mark rest := by
  have notMark : c ≠ mark := by
    rintro rfl
    exact other (mark_mem_escapeStarts isQuote)
  have backslashNotMark : '\\' ≠ mark := by
    rcases isQuote with rfl | rfl <;> decide
  rw [protect_cons_of_ne backslashNotMark, protect_cons_of_ne notMark]

/-- A backslash of the text itself stays, with the character after it, or it begins an escape. -/
theorem unescapeWith?_backslash (isQuote : mark = '\'' ∨ mark = '"') {rest found : List Char}
    (read : unescapeWith? names 0 ('\\' :: protect mark rest) = some found) :
    (∃ c more inner, rest = c :: more ∧ c ∉ escapeStarts ∧ found = '\\' :: c :: inner ∧
      unescapeWith? names 0 (protect mark more) = some inner) ∨
    ∃ meant length inner, rest ≠ [] ∧ meant.length ≤ 1 ∧ found = meant ++ inner ∧
      unescapeWith? names (length + 1) (protect mark rest) = some inner := by
  rw [unescapeWith?, if_pos rfl] at read
  cases rest with
  | nil => cases read
  | cons d rest =>
      -- The character after the backslash is that of the text, or the backslash before a mark.
      obtain ⟨c, others, chars⟩ : ∃ c others, protect mark (d :: rest) = c :: others := by
        rw [protect]
        split <;> exact ⟨_, _, rfl⟩
      by_cases start : c ∈ escapeStarts
      · right
        rw [chars] at read ⊢
        split at read
        · rename_i meant length meaning
          obtain ⟨inner, innerRead, rfl⟩ := Option.map_eq_some_iff.mp read
          obtain ⟨short, positive⟩ := escapeWith?_length start meaning
          refine ⟨meant, length - 1, inner, by simp, short, rfl, ?_⟩
          rwa [Nat.sub_add_cancel positive]
        · cases read
      · left
        have notMark : d ≠ mark := by
          rintro rfl
          rw [protect_mark] at chars
          obtain ⟨rfl, -⟩ := List.cons.inj chars
          exact start (by decide)
        rw [protect_cons_of_ne notMark] at chars read
        obtain ⟨rfl, rfl⟩ := List.cons.inj chars
        rw [escapeWith?_of_not_start start] at read
        obtain ⟨inner, innerRead, rfl⟩ := Option.map_eq_some_iff.mp read
        exact ⟨d, rest, inner, rfl, start, rfl, innerRead⟩

/-- Undoing escapes never makes a text longer than it was before its marks were protected. -/
theorem length_unescapeWith? (isQuote : mark = '\'' ∨ mark = '"') {skipped : Nat}
    {text found : List Char}
    (read : unescapeWith? names skipped (protect mark text) = some found) :
    found.length ≤ text.length := by
  induction size : text.length using Nat.strongRecOn generalizing text found skipped with
  | ind size ih =>
      have shorter {skipped : Nat} {rest inner : List Char} (less : rest.length < text.length)
          (innerRead : unescapeWith? names skipped (protect mark rest) = some inner) :
          inner.length ≤ rest.length :=
        ih rest.length (size ▸ less) innerRead rfl
      rw [← size]
      cases text with
      | nil =>
          cases skipped <;> (obtain rfl := Option.some.inj read; simp)
      | cons c rest =>
          by_cases isMark : c = mark
          · subst isMark
            rw [protect_mark] at read
            match skipped, read with
            | 0, read =>
                rw [unescapeWith?_mark isQuote] at read
                obtain ⟨inner, innerRead, rfl⟩ := Option.map_eq_some_iff.mp read
                simpa using shorter (by simp) innerRead
            | 1, read =>
                have plain : c ≠ '\\' := by
                  rcases isQuote with rfl | rfl <;> decide
                rw [unescapeWith?, unescapeWith?_cons_of_ne plain] at read
                obtain ⟨inner, innerRead, rfl⟩ := Option.map_eq_some_iff.mp read
                simpa using shorter (by simp) innerRead
            | skipped + 2, read => exact (shorter (by simp) read).trans (by simp)
          · rw [protect_cons_of_ne isMark] at read
            match skipped, read with
            | skipped + 1, read => exact (shorter (by simp) read).trans (by simp)
            | 0, read =>
                by_cases backslash : c = '\\'
                · subst backslash
                  rcases unescapeWith?_backslash isQuote read with
                    ⟨d, more, inner, rfl, -, rfl, innerRead⟩ |
                    ⟨meant, length, inner, -, short, rfl, innerRead⟩
                  · have bound := shorter (by simp only [List.length_cons]; omega) innerRead
                    simpa using bound
                  · have bound := shorter (by simp) innerRead
                    simp only [List.length_append, List.length_cons]
                    omega
                · rw [unescapeWith?_cons_of_ne backslash] at read
                  obtain ⟨inner, innerRead, rfl⟩ := Option.map_eq_some_iff.mp read
                  simpa using shorter (by simp) innerRead

theorem keepsBackslashes_cons {c : Char} (notBackslash : c ≠ '\\') (rest : List Char) :
    keepsBackslashes (c :: rest) = keepsBackslashes rest := by
  rw [keepsBackslashes.eq_3]
  · simp [notBackslash]
  · intro _ _ isBackslash
    exact absurd isBackslash notBackslash

theorem isBody_cons {c : Char} (notBackslash : c ≠ '\\') {rest : List Char}
    (sound : isBody mark (c :: rest) = true) : isBody mark rest = true := by
  rw [isBody.eq_3] at sound
  · simp only [Bool.and_eq_true] at sound
    exact sound.2
  · intro _ _ isBackslash
    exact absurd isBackslash notBackslash

/-- An escape makes a text shorter, unless it takes the backslash before a mark, and then the mark
ends the literal. -/
theorem length_lt_of_escape (isQuote : mark = '\'' ∨ mark = '"') {rest meant inner : List Char}
    {length : Nat} (sound : isBody mark ('\\' :: protect mark rest) = true) (nonempty : rest ≠ [])
    (short : meant.length ≤ 1)
    (innerRead : unescapeWith? names (length + 1) (protect mark rest) = some inner) :
    (meant ++ inner).length < ('\\' :: rest).length := by
  obtain ⟨d, more, rfl⟩ := List.exists_cons_of_ne_nil nonempty
  by_cases nextMark : d = mark
  · subst nextMark
    rw [protect_mark] at sound
    rcases isQuote with rfl | rfl <;> simp [isBody] at sound
  · rw [protect_cons_of_ne nextMark] at innerRead
    have rereadBody : unescapeWith? names length (protect mark more) = some inner := innerRead
    have bound := length_unescapeWith? isQuote rereadBody
    simp only [List.length_append, List.length_cons]
    omega

/-- A text that keeps its length has no escape in it and is found again. -/
theorem eq_of_length_unescapeWith? (isQuote : mark = '\'' ∨ mark = '"') {text found : List Char}
    (sound : isBody mark (protect mark text) = true)
    (read : unescapeWith? names 0 (protect mark text) = some found)
    (same : found.length = text.length) : found = text ∧ keepsBackslashes text = true := by
  induction size : text.length using Nat.strongRecOn generalizing text found with
  | ind size ih =>
      cases text with
      | nil =>
          obtain rfl := Option.some.inj read
          exact ⟨rfl, rfl⟩
      | cons c rest =>
          have plain : c ≠ '\\' → isBody mark (protect mark rest) = true →
              unescapeWith? names 0 (protect mark (c :: rest)) =
                (unescapeWith? names 0 (protect mark rest)).map (c :: ·) →
              found = c :: rest ∧ keepsBackslashes (c :: rest) = true := by
            intro notBackslash restSound step
            rw [step] at read
            obtain ⟨inner, innerRead, rfl⟩ := Option.map_eq_some_iff.mp read
            obtain ⟨rfl, keeps⟩ := ih rest.length (by simp [← size]) restSound innerRead
              (by simpa using same) rfl
            exact ⟨rfl, (keepsBackslashes_cons notBackslash inner).trans keeps⟩
          by_cases isMark : c = mark
          · subst isMark
            rw [protect_mark] at sound plain
            refine plain ?_ (by simpa [isBody] using sound) (unescapeWith?_mark isQuote _)
            rcases isQuote with rfl | rfl <;> decide
          · rw [protect_cons_of_ne isMark] at sound read plain
            by_cases backslash : c = '\\'
            · subst backslash
              rcases unescapeWith?_backslash isQuote read with
                ⟨d, more, inner, rfl, other, rfl, innerRead⟩ |
                ⟨meant, length, inner, nonempty, short, rfl, innerRead⟩
              · rw [← protect_cons_of_ne isMark, protect_pair isQuote other] at sound
                have shorter : more.length < ('\\' :: d :: more).length := by
                  simp only [List.length_cons]
                  omega
                obtain ⟨rfl, keeps⟩ := ih more.length (size ▸ shorter)
                  (by simpa [isBody] using sound) innerRead (by simpa using same) rfl
                exact ⟨rfl, by simp [keepsBackslashes, other, keeps]⟩
              · have less := length_lt_of_escape isQuote sound nonempty short innerRead
                exact absurd same less.ne
            · exact plain backslash (isBody_cons backslash sound)
                (unescapeWith?_cons_of_ne backslash _)

theorem isBody_protect_iff (isQuote : mark = '\'' ∨ mark = '"') {text : List Char}
    (keeps : keepsBackslashes text = true) :
    isBody mark (protect mark text) = true ↔ '\n' ∉ text := by
  fun_induction keepsBackslashes text with
  | case1 => simp [protect, isBody]
  | case2 c rest ih =>
      simp only [Bool.and_eq_true, Bool.not_eq_true', List.contains_eq_mem,
        decide_eq_false_iff_not] at keeps
      have notBreak : c ≠ '\n' := by
        rintro rfl
        exact keeps.1 (by decide)
      rw [protect_pair isQuote keeps.1]
      simp [isBody, Ne.symm notBreak, ih keeps.2]
  | case3 c rest noPair ih =>
      simp only [Bool.and_eq_true, decide_eq_true_eq] at keeps
      by_cases isMark : c = mark
      · subst isMark
        have notBreak : c ≠ '\n' := by
          rcases isQuote with rfl | rfl <;> decide
        rw [protect_mark]
        simp [isBody, Ne.symm notBreak, ih keeps.2]
      · rw [protect_cons_of_ne isMark, isBody.eq_3]
        · simp [keeps.1, isMark, ih keeps.2, @eq_comm Char '\n']
        · intro _ _ isBackslash
          exact absurd isBackslash keeps.1

theorem unescapeWith?_protect (isQuote : mark = '\'' ∨ mark = '"') {text : List Char}
    (keeps : keepsBackslashes text = true) :
    unescapeWith? names 0 (protect mark text) = some text := by
  fun_induction keepsBackslashes text with
  | case1 => rfl
  | case2 c rest ih =>
      simp only [Bool.and_eq_true, Bool.not_eq_true', List.contains_eq_mem,
        decide_eq_false_iff_not] at keeps
      rw [protect_pair isQuote keeps.1, unescapeWith?, if_pos rfl,
        escapeWith?_of_not_start keeps.1]
      simp [unescapeWith?, ih keeps.2]
  | case3 c rest noPair ih =>
      simp only [Bool.and_eq_true, decide_eq_true_eq] at keeps
      by_cases isMark : c = mark
      · subst isMark
        rw [protect_mark, unescapeWith?_mark isQuote, ih keeps.2]
        rfl
      · rw [protect_cons_of_ne isMark, unescapeWith?_cons_of_ne keeps.1, ih keeps.2]
        rfl

end Unescape

theorem length_unifyLines_le (text : List Char) : (unifyLines text).length ≤ text.length := by
  fun_induction unifyLines text with
  | case1 => simp
  | case2 rest ih => simp; omega
  | case3 c rest noPair ih => simpa using ih

theorem keepsBackslashes_iff (text : List Char) :
    keepsBackslashes text = true ↔ ∀ before after, text = before ++ '\\' :: after →
      ∃ c more, after = c :: more ∧ c ∉ escapeStarts := by
  fun_induction keepsBackslashes text with
  | case1 => simp
  | case2 c rest ih =>
      simp only [Bool.and_eq_true, Bool.not_eq_true', List.contains_eq_mem,
        decide_eq_false_iff_not, ih]
      constructor
      · rintro ⟨other, later⟩ before after same
        match before, same with
        | [], same => exact ⟨c, rest, by simpa using same.symm, other⟩
        | [_], same =>
            obtain ⟨-, rfl, -⟩ : _ ∧ c = '\\' ∧ rest = after := by simpa using same
            exact absurd (by decide) other
        | _ :: _ :: before, same =>
            have restEq : rest = before ++ '\\' :: after := by
              simp only [List.cons_append, List.cons.injEq] at same
              exact same.2.2
            exact later before after restEq
      · intro all
        obtain ⟨d, more, same, other⟩ := all [] (c :: rest) rfl
        obtain ⟨rfl, rfl⟩ := List.cons.inj same
        exact ⟨other, fun before after restEq => all ('\\' :: c :: before) after (by simp [restEq])⟩
  | case3 c rest noPair ih =>
      simp only [Bool.and_eq_true, decide_eq_true_eq, ih]
      constructor
      · rintro ⟨notBackslash, later⟩ before after same
        match before, same with
        | [], same => exact absurd (List.cons.inj same).1 notBackslash
        | _ :: before, same => exact later before after (List.cons.inj same).2
      · intro all
        refine ⟨?_, fun before after restEq => all (c :: before) after (by simp [restEq])⟩
        rintro rfl
        obtain ⟨d, more, rfl, -⟩ := all [] rest rfl
        exact noPair d more rfl rfl

theorem textOf?_quote (names : CharacterNames) (text : String) :
    textOf? names (quote text).toList =
      match body? (quoteMark text.toList)
          (protect (quoteMark text.toList) (unifyLines text.toList) ++
            [quoteMark text.toList]) with
      | some (body, []) => unescapeWith? names 0 body
      | _ => none := by
  have isQuote := quoteMark_isQuote text.toList
  rw [textOf?, quote, String.toList_ofList, quoteChars_eq, unifyLines_literal isQuote,
    unifyLines_quoteBody]
  simp [isQuote, unifyLines]

/-- The literal of a text stands for the text exactly if the text has no line end and no null
character, and behind each backslash a character that begins no escape. -/
theorem textOf?_quote_iff (names : CharacterNames) (text : String) :
    textOf? names (quote text).toList = some text.toList ↔
      (∀ c ∈ ['\n', '\r', '\x00'], c ∉ text.toList) ∧
        ∀ before after, text.toList = before ++ '\\' :: after →
          ∃ c more, after = c :: more ∧ c ∉ escapeStarts := by
  have isQuote := quoteMark_isQuote text.toList
  rw [← keepsBackslashes_iff, textOf?_quote]
  generalize quoteMark text.toList = mark at isQuote
  generalize text.toList = chars
  constructor
  · intro read
    split at read
    · rename_i body found
      obtain ⟨same, sound, noNull⟩ := isBody_of_body? found
      obtain rfl : protect mark (unifyLines chars) = body := List.append_cancel_right same
      have notLonger : chars.length ≤ (unifyLines chars).length :=
        length_unescapeWith? isQuote read
      obtain ⟨unified, keeps⟩ := eq_of_length_unescapeWith? isQuote sound read
        (Nat.le_antisymm notLonger (length_unifyLines_le chars))
      rw [← unified] at sound noNull keeps
      have noReturn : '\r' ∉ chars := unified ▸ carriageReturn_not_mem_unifyLines chars
      have noBreak : '\n' ∉ chars := (isBody_protect_iff isQuote keeps).mp sound
      simpa [noBreak, noReturn, keeps] using fun member => noNull (mem_protect member)
    · cases read
  · simp only [List.forall_mem_cons, List.not_mem_nil, false_imp_iff, implies_true, and_true]
    rintro ⟨⟨noBreak, noReturn, noNull⟩, keeps⟩
    have sound : isBody mark (protect mark chars) = true :=
      (isBody_protect_iff isQuote keeps).mpr noBreak
    have allowed : ∀ c ∈ ['\r', '\x00'], c ∉ protect mark chars := by
      simp only [List.forall_mem_cons, List.not_mem_nil, false_imp_iff, implies_true, and_true]
      exact ⟨fun member => noReturn (mem_of_mem_protect (by decide) member),
        fun member => noNull (mem_of_mem_protect (by decide) member)⟩
    rw [unifyLines_eq_self noReturn, body?_of_isBody isQuote sound allowed]
    exact unescapeWith?_protect isQuote keeps

-- Both kinds of quotes and a backslash that stays; then an escape in the text, which is read.
example : textOf? (fun _ => none) (quote "C:\\dir 'a' \"b\"").toList =
    some "C:\\dir 'a' \"b\"".toList := by
  decide

example : textOf? (fun _ => some '•') (quote "\\N\x7bBULLET\x7d").toList = some ['•'] := by
  decide

end CurlScript.Literal
