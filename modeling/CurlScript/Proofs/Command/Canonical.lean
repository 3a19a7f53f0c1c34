import CurlScript.Command.Request
import CurlScript.Proofs.Command.LineEnds
import CurlScript.Proofs.Text.Words

/-!
The normal form of a command text is canonical: it has the words of the text with one space between
them, it is its own normal form, and it describes the same request.
-/

namespace CurlScript.Command

open Text

structure IsNormal (text : List Char) : Prop where
  onlySpaces : OnlySpaces text
  singleSpaces : SingleSpaces text
  first : text.head? ≠ some ' '
  last : text.getLast? ≠ some ' '

def continuesLine (text : List Char) : Bool :=
  ['\\', '\n'].isPrefixOf text || ['\\', '\r', '\n'].isPrefixOf text

def replaceContinuations (replacement text : List Char) : List Char :=
  text.tails.flatMap fun rest => if continuesLine rest then replacement else rest.head?.toList

theorem isNormal_normalForm (raw : List Char) : IsNormal (normalForm raw) where
  onlySpaces := normalForm_onlySpaces raw
  singleSpaces := List.IsChain.infix (collapseFrom_singleSpaces false (joinLines raw)).1
    (isInfix_trim _)
  first := by
    intro found
    exact absurd (trim_first _ ' ' found) (by decide)
  last := by
    intro found
    exact absurd (trim_last _ ' ' found) (by decide)

theorem normalForm_eq_self_iff {text : List Char} : normalForm text = text ↔ IsNormal text := by
  constructor
  · intro same
    rw [← same]
    exact isNormal_normalForm text
  · exact fun normal =>
      normalForm_eq_self normal.onlySpaces normal.singleSpaces normal.first normal.last

theorem replaceContinuations_cons (replacement : List Char) (c : Char) (text : List Char) :
    replaceContinuations replacement (c :: text) =
      (if continuesLine (c :: text) then replacement else [c]) ++
        replaceContinuations replacement text := by
  simp [replaceContinuations]

/-- A continued line ends like any other: a space has the place of the backslash. -/
theorem sameWords_joinLines (text : List Char) :
    SameWords (joinLines text) (replaceContinuations [' '] text) := by
  fun_induction joinLines text with
  | case1 rest ih =>
      have replaced : replaceContinuations [' '] ('\\' :: '\n' :: rest) =
          ' ' :: '\n' :: replaceContinuations [' '] rest := by
        simp [replaceContinuations_cons, continuesLine]
      rw [replaced]
      refine SameWords.blank ?_ (by decide) (by decide)
      rw [words_blank (by decide)]
      exact ih []
  | case2 rest ih =>
      have replaced : replaceContinuations [' '] ('\\' :: '\r' :: '\n' :: rest) =
          ' ' :: '\r' :: '\n' :: replaceContinuations [' '] rest := by
        simp [replaceContinuations_cons, continuesLine]
      rw [replaced]
      refine SameWords.blank ?_ (by decide) (by decide)
      rw [words_blank (by decide), words_blank (by decide)]
      exact ih []
  | case3 c rest notFeed notReturn ih =>
      have ends : continuesLine (c :: rest) = false := by
        rw [← Bool.not_eq_true, continuesLine, Bool.or_eq_true, List.isPrefixOf_iff_prefix,
          List.isPrefixOf_iff_prefix]
        rintro (⟨more, same⟩ | ⟨more, same⟩)
        · obtain ⟨rfl, rfl⟩ := List.cons.inj same
          exact notFeed more rfl rfl
        · obtain ⟨rfl, rfl⟩ := List.cons.inj same
          exact notReturn more rfl rfl
      rw [replaceContinuations_cons, ends]
      exact ih.cons c
  | case4 => exact fun _ => rfl

theorem words_normalForm (raw : List Char) :
    words (normalForm raw) = words (replaceContinuations [' '] raw) := by
  rw [normalForm, words_trim, words_collapse]
  exact sameWords_joinLines raw []

theorem solid_normalForm (raw : List Char) :
    solid (normalForm raw) = solid (replaceContinuations [] raw) := by
  rw [← flatten_words, words_normalForm, flatten_words]
  simp only [solid, replaceContinuations, List.filter_flatMap]
  congr 1
  funext rest
  by_cases ends : continuesLine rest = true
  · rw [if_pos ends, if_pos ends]
    decide
  · rw [if_neg ends, if_neg ends]

/-- Where line ends are made pairs, a line feed follows each carriage return. -/
theorem paired_of_suffix_pairLines {text : List Char} (noReturn : '\r' ∉ text) {rest : List Char}
    (suffix : '\r' :: rest <:+ pairLines text) : rest.head? = some '\n' := by
  induction text with
  | nil => simp [pairLines] at suffix
  | cons c others ih =>
      simp only [List.mem_cons, not_or] at noReturn
      by_cases isFeed : c = '\n'
      · subst isFeed
        have pair : pairLines ('\n' :: others) = '\r' :: '\n' :: pairLines others := rfl
        rw [pair, List.suffix_cons_iff, List.suffix_cons_iff] at suffix
        rcases suffix with here | between | later
        · rw [(List.cons.inj here).2]
          rfl
        · exact absurd (List.cons.inj between).1 (by decide)
        · exact ih noReturn.2 later
      · rw [pairLines_cons isFeed, List.suffix_cons_iff] at suffix
        rcases suffix with here | later
        · exact absurd (List.cons.inj here).1 noReturn.1
        · exact ih noReturn.2 later

theorem normalForm_pairLines {text : List Char} (noReturn : '\r' ∉ text) :
    normalForm (pairLines text) = normalForm text := by
  have paired : PairedReturns (pairLines text) := fun rest suffix =>
    paired_of_suffix_pairLines noReturn ((List.suffix_cons '\\' _).trans suffix)
  rw [normalForm, collapse, ← collapseFrom_unifyLines paired, unifyLines_pairLines noReturn]
  rfl

/-- The normal form of a text has its words, with continued lines joined, and single spaces between
them and nowhere else; it is its own normal form and describes the same request. The kind of line
ends does not matter. -/
theorem normalize_canonical (raw : String) :
    IsNormal (normalize raw).toList ∧
      solid (normalize raw).toList = solid (replaceContinuations [] raw.toList) ∧
      words (normalize raw).toList = words (replaceContinuations [' '] raw.toList) ∧
      normalize (normalize raw) = normalize raw ∧
      request (normalize raw) = request raw ∧
      ('\r' ∉ raw.toList → normalize (String.ofList (pairLines raw.toList)) = normalize raw) := by
  have chars : (normalize raw).toList = normalForm raw.toList := String.toList_ofList
  have again : normalize (normalize raw) = normalize raw := by
    rw [normalize, chars, normalForm_eq_self_iff.mpr (isNormal_normalForm raw.toList)]
    rfl
  rw [chars]
  refine ⟨isNormal_normalForm _, solid_normalForm _, words_normalForm _, again, ?_, ?_⟩
  · simp only [request, again]
  · intro noReturn
    rw [normalize, String.toList_ofList, normalForm_pairLines noReturn]
    rfl

/-- Lines that end behind one backslash and behind two, and white space of several kinds. -/
theorem normalize_canonical_severalLines :
    let raw := "\n curl\t\t-d a\\\\\n\u00A0\u2003b\\\n c\\ \n\n"
    '\r' ∉ raw.toList ∧ normalize raw = "curl -d a\\ b c\\" ∧
      normalize (String.ofList (pairLines raw.toList)) = "curl -d a\\ b c\\" := by
  let raw := "\n curl\t\t-d a\\\\\n\u00A0\u2003b\\\n c\\ \n\n"
  have noReturn : '\r' ∉ raw.toList := by decide +kernel
  have normal : normalize raw = "curl -d a\\ b c\\" := by decide +kernel
  exact ⟨noReturn, normal, ((normalize_canonical raw).2.2.2.2.2 noReturn).trans normal⟩

end CurlScript.Command
