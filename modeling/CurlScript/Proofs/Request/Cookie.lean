import CurlScript.Proofs.Text.Padded
import CurlScript.Request.Cookie

/-!
Segments of a cookie list that name no cookie. Where nothing stands ahead of the first `=` the
segment gives no cookie; where white space does, it gives one whose name is empty.
-/

namespace CurlScript.Cookie

def isNameless (segment : List Char) : Bool :=
  match Text.cut '=' segment with
  | (_, none) => true
  | (name, some _) => name.all Text.isBlank

def hasBlankName (segment : List Char) : Bool :=
  match Text.cut '=' segment with
  | (_, none) => false
  | (name, some _) => !name.isEmpty && name.all Text.isBlank

theorem ofList_trim_eq_empty_iff (text : List Char) :
    String.ofList (Text.trim text) = "" ↔ text.all Text.isBlank = true := by
  rw [List.all_eq_true, ← Text.trim_eq_nil_iff, ← String.toList_eq_nil_iff, String.toList_ofList]

theorem name_eq_empty_iff {segment : List Char} {cookie : String × String}
    (found : ofSegment? segment = some cookie) : cookie.1 = "" ↔ isNameless segment = true := by
  unfold ofSegment? at found
  split at found
  · cases found
  · cases found
  · rename_i name value notNil parts
    obtain rfl := Option.some.inj found
    rw [isNameless, parts]
    exact ofList_trim_eq_empty_iff name

theorem isSome_ofSegment? {segment : List Char} (nameless : isNameless segment = true) :
    (ofSegment? segment).isSome = hasBlankName segment := by
  unfold isNameless at nameless
  unfold ofSegment? hasBlankName
  split at nameless
  · rename_i name parts
    rw [parts]
    cases name <;> rfl
  · rename_i name value parts
    rw [parts]
    cases name <;> simp_all

theorem isNameless_of_hasBlankName {segment : List Char} (blank : hasBlankName segment = true) :
    isNameless segment = true := by
  unfold hasBlankName at blank
  unfold isNameless
  split at blank
  · cases blank
  · exact (Bool.and_eq_true_iff.mp blank).2

/-- A list gives a cookie without a name exactly if a name in it is white space. -/
theorem empty_mem_keys_iff (segments : List (List Char)) :
    "" ∈ (segments.filterMap ofSegment?).map Prod.fst ↔
      ∃ segment ∈ segments, hasBlankName segment = true := by
  simp only [List.mem_map, List.mem_filterMap]
  constructor
  · rintro ⟨cookie, ⟨segment, member, found⟩, empty⟩
    have nameless := (name_eq_empty_iff found).mp empty
    refine ⟨segment, member, ?_⟩
    rw [← isSome_ofSegment? nameless, found, Option.isSome_some]
  · rintro ⟨segment, member, blank⟩
    have nameless := isNameless_of_hasBlankName blank
    obtain ⟨cookie, found⟩ := Option.isSome_iff_exists.mp ((isSome_ofSegment? nameless).trans blank)
    exact ⟨cookie, ⟨segment, member, found⟩, (name_eq_empty_iff found).mpr nameless⟩

theorem ofSegment?_of_cut {segment name value : List Char} (nonempty : name ≠ [])
    (parts : Text.cut '=' segment = (name, some value)) :
    ofSegment? segment =
      some (String.ofList (Text.trim name), String.ofList (Text.trim value)) := by
  unfold ofSegment?
  rw [parts]
  cases name with
  | nil => exact absurd rfl nonempty
  | cons c rest => rfl

/-- White space around a segment does not count, unless it stands for the name. -/
theorem ofSegment?_padded {segment core : List Char} (padded : Text.Padded segment core)
    (notBlank : hasBlankName segment = false) : ofSegment? core = ofSegment? segment := by
  have equalsIn : '=' ∈ segment → '=' ∈ core := padded.mem (by decide)
  obtain ⟨before, after, blankBefore, blankAfter, rfl⟩ := padded
  cases parts : Text.cut '=' core with
  | mk name rest =>
      cases rest with
      | none =>
          -- Neither of the two has a sign of equality.
          have absent : '=' ∉ core := by
            rw [← Text.cut_eq_none (congrArg Prod.snd parts)]
            exact Text.mark_not_mem_cut '=' core
          unfold ofSegment?
          rw [Text.cut_of_not_mem absent, Text.cut_of_not_mem fun member => absent (equalsIn member)]
          split <;> split <;> simp_all
      | some value =>
          have coreEq : core = name ++ '=' :: value := by
            simpa [parts] using Text.cut_eq_some (congrArg Prod.snd parts)
          have nameFree : '=' ∉ before ++ name := by
            intro member
            rcases List.mem_append.mp member with blank | inName
            · exact absurd (blankBefore '=' blank) (by decide)
            · have free := Text.mark_not_mem_cut '=' core
              rw [parts] at free
              exact free inName
          have whole : before ++ core ++ after = (before ++ name) ++ '=' :: (value ++ after) := by
            simp [coreEq]
          have wholeParts := Text.cut_append nameFree (value ++ after)
          rw [← whole] at wholeParts
          have trimmedName : Text.trim (before ++ name) = Text.trim name :=
            Text.Padded.trim_eq ⟨before, [], blankBefore, by simp, by simp⟩
          by_cases noName : name = []
          · -- Nothing but white space is ahead of the sign, so there is none of it.
            subst noName
            have allBlank : before.all Text.isBlank = true := List.all_eq_true.mpr blankBefore
            rw [hasBlankName, wholeParts] at notBlank
            have nothing : before = [] := by simpa [allBlank] using notBlank
            rw [ofSegment?, ofSegment?, parts, wholeParts, nothing]
            rfl
          · rw [ofSegment?_of_cut noName parts, ofSegment?_of_cut (by simp [noName]) wholeParts,
              trimmedName, Text.trim_append_blanks blankAfter]

theorem filterMap_padded {segments cores : List (List Char)}
    (padded : List.Forall₂ Text.Padded segments cores)
    (notBlank : ∀ segment ∈ segments, hasBlankName segment = false) :
    cores.filterMap ofSegment? = segments.filterMap ofSegment? := by
  induction padded with
  | nil => rfl
  | cons first _ ih =>
      obtain ⟨firstNotBlank, others⟩ := List.forall_mem_cons.mp notBlank
      rw [List.filterMap_cons, List.filterMap_cons, ofSegment?_padded first firstNotBlank,
        ih others]

/-- Segments without a name give nothing where no name is white space. -/
theorem filterMap_filter_isNameless {segments : List (List Char)}
    (noBlank : ∀ segment ∈ segments, hasBlankName segment = false) :
    (segments.filter (!isNameless ·)).filterMap ofSegment? = segments.filterMap ofSegment? := by
  rw [List.filterMap_filter]
  apply List.filterMap_congr
  intro segment member
  cases nameless : isNameless segment with
  | false => rfl
  | true =>
      have nothing := (isSome_ofSegment? nameless).trans (noBlank segment member)
      rw [Option.isSome_eq_false_iff, Option.isNone_iff_eq_none] at nothing
      exact nothing.symm

end CurlScript.Cookie
