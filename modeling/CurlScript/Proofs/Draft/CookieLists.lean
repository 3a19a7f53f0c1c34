import CurlScript.Proofs.Command.Item
import CurlScript.Proofs.Draft.Cookies
import CurlScript.Proofs.Draft.Expressible
import CurlScript.Proofs.Text.LetterCase

/-!
Lists of cookies on a command line. However the cookies are spaced, listed and spread over options,
they are written one after the other into those that the draft has, and into nothing else.
-/

namespace CurlScript

open Command Text

namespace Cookie

def Spells (segment : List Char) (cookie : String × String) : Prop :=
  ∃ name value, segment = name ++ '=' :: value ∧ Padded name cookie.1.toList ∧
    Padded value cookie.2.toList

/-- `Lists segments cookies`: the segments spell the cookies in their order, but for those without a
sign of equality, which may stand anywhere. -/
inductive Lists : List (List Char) → List (String × String) → Prop
  | nil : Lists [] []
  | cookie {segment segments cookie cookies} : Spells segment cookie → Lists segments cookies →
      Lists (segment :: segments) (cookie :: cookies)
  | other {segment segments cookies} : '=' ∉ segment → ';' ∉ segment → Lists segments cookies →
      Lists (segment :: segments) cookies

theorem Spells.noSemicolon {segment : List Char} {cookie : String × String}
    (spells : Spells segment cookie) (expressible : ExpressibleCookie cookie) : ';' ∉ segment := by
  obtain ⟨name, value, rfl, paddedName, paddedValue⟩ := spells
  intro member
  rcases List.mem_append.mp member with inName | behind
  · exact expressible.noSemicolon (paddedName.mem (by decide) inName)
  · rcases List.mem_cons.mp behind with isEquals | inValue
    · exact absurd isEquals (by decide)
    · exact expressible.valueNoSemicolon (paddedValue.mem (by decide) inValue)

theorem Spells.ofSegment? {segment : List Char} {cookie : String × String}
    (spells : Spells segment cookie) (expressible : ExpressibleCookie cookie) :
    ofSegment? segment = some cookie ∧ hasBlankName segment = false := by
  obtain ⟨name, value, rfl, paddedName, paddedValue⟩ := spells
  have noEquals : '=' ∉ name := fun member =>
    expressible.noEquals (paddedName.mem (by decide) member)
  have parts := cut_append noEquals value
  have nameEq : trim name = cookie.1.toList := by
    rw [paddedName.trim_eq, trim_toList_of_trimmed expressible.name]
  have valueEq : trim value = cookie.2.toList := by
    rw [paddedValue.trim_eq, trim_toList_of_trimmed expressible.value]
  have named : cookie.1.toList ≠ [] := by simpa using expressible.nonempty
  have notBlank : name.all isBlank = false := by
    rw [← Bool.not_eq_true, List.all_eq_true, ← trim_eq_nil_iff, nameEq]
    exact named
  have nonempty : name ≠ [] := by
    rintro rfl
    simp at notBlank
  constructor
  · rw [ofSegment?_of_cut nonempty parts, nameEq, valueEq, String.ofList_toList,
      String.ofList_toList]
  · rw [hasBlankName, parts]
    simp [notBlank]

theorem ofSegment?_eq_none {segment : List Char} (noEquals : '=' ∉ segment) :
    ofSegment? segment = none ∧ hasBlankName segment = false := by
  rw [Cookie.ofSegment?, hasBlankName, cut_of_not_mem noEquals]
  cases segment <;> exact ⟨rfl, rfl⟩

structure IsSegment (segment : List Char) : Prop where
  noSemicolon : ';' ∉ segment
  notBlank : hasBlankName segment = false

theorem Lists.isSegment {segments : List (List Char)} {cookies : List (String × String)}
    (lists : Lists segments cookies)
    (expressible : ∀ cookie ∈ cookies, ExpressibleCookie cookie) :
    ∀ segment ∈ segments, IsSegment segment := by
  induction lists with
  | nil => simp
  | cookie spells _ ih =>
      obtain ⟨first, others⟩ := List.forall_mem_cons.mp expressible
      exact List.forall_mem_cons.mpr
        ⟨⟨spells.noSemicolon first, (spells.ofSegment? first).2⟩, ih others⟩
  | other noEquals noSemicolon _ ih =>
      exact List.forall_mem_cons.mpr
        ⟨⟨noSemicolon, (ofSegment?_eq_none noEquals).2⟩, ih expressible⟩

theorem Lists.filterMap {segments : List (List Char)} {cookies : List (String × String)}
    (lists : Lists segments cookies)
    (expressible : ∀ cookie ∈ cookies, ExpressibleCookie cookie) :
    segments.filterMap Cookie.ofSegment? = cookies := by
  induction lists with
  | nil => rfl
  | cookie spells _ ih =>
      obtain ⟨first, others⟩ := List.forall_mem_cons.mp expressible
      rw [List.filterMap_cons_some (spells.ofSegment? first).1, ih others]
  | other noEquals _ _ ih =>
      rw [List.filterMap_cons_none (ofSegment?_eq_none noEquals).1, ih expressible]

/-- Segments are read back from the text that they make up. -/
theorem filterMap_pieces_intercalate {segments : List (List Char)}
    (isSegment : ∀ segment ∈ segments, IsSegment segment) :
    (pieces ';' (List.intercalate [';'] segments)).filterMap Cookie.ofSegment? =
      segments.filterMap Cookie.ofSegment? := by
  cases segments with
  | nil => rfl
  | cons first rest =>
      rw [pieces_intercalate (by simp) fun segment member => (isSegment segment member).noSemicolon]

/-- Trimming a list makes no other cookies of it, unless white space stands for a name. -/
theorem filterMap_pieces_trim {text : List Char}
    (notBlank : ∀ segment ∈ pieces ';' text, hasBlankName segment = false) :
    (pieces ';' (trim text)).filterMap Cookie.ofSegment? =
      (pieces ';' text).filterMap Cookie.ofSegment? := by
  have padded : List.Forall₂ Padded (pieces ';' text) (pieces ';' (trim text)) :=
    padded_pieces_trim (by decide) text
  exact filterMap_padded padded notBlank

end Cookie

/-- `item.CarriesCookies segments`: a cookie flag whose value is the segments with semicolons
between them, or a header flag with such a value behind the name of the cookie header, in any
letter case. -/
inductive Command.Item.CarriesCookies : Item → List (List Char) → Prop
  | flag {argument : String} {segments : List (List Char)} :
      argument.toList = List.intercalate [';'] segments →
      CarriesCookies (.value .cookie (some argument)) segments
  | header {argument name : String} {segments : List (List Char)} :
      isWord (trimmed name) "cookie" = true →
      argument.toList = name.toList ++ ':' :: List.intercalate [';'] segments →
      CarriesCookies (.value .header (some argument)) segments

namespace Command.Item

theorem colon_not_mem_of_isWord {name : String} (isCookie : isWord (trimmed name) "cookie" = true) :
    ':' ∉ name.toList := by
  intro member
  have inTrimmed : ':' ∈ (trimmed name).toList := by
    rw [trimmed, String.toList_ofList]
    exact (padded_trim name.toList).mem (by decide) member
  have lowered : lower (trimmed name).toList = "cookie".toList := by simpa [isWord] using isCookie
  refine not_mem_of_lower (by decide) ?_ inTrimmed
  rw [lowered]
  decide

theorem CarriesCookies.cookieSegments {item : Item} {segments : List (List Char)}
    (carries : item.CarriesCookies segments)
    (isSegment : ∀ segment ∈ segments, Cookie.IsSegment segment) :
    item.cookieSegments.filterMap Cookie.ofSegment? = segments.filterMap Cookie.ofSegment? := by
  have readBack := Cookie.filterMap_pieces_intercalate isSegment
  cases carries with
  | flag argument => rw [Item.cookieSegments, argument, readBack]
  | header isCookie argument =>
      have parts := cut_append (colon_not_mem_of_isWord isCookie) (List.intercalate [';'] segments)
      have notBlank : ∀ segment ∈ pieces ';' (List.intercalate [';'] segments),
          Cookie.hasBlankName segment = false := by
        cases segments with
        | nil => decide
        | cons first rest =>
            rw [pieces_intercalate (by simp) fun segment member =>
              (isSegment segment member).noSemicolon]
            exact fun segment member => (isSegment segment member).notBlank
      rw [trimmed] at isCookie
      rw [Item.cookieSegments, argument, parts]
      simp only [isCookie, if_true]
      rw [Cookie.filterMap_pieces_trim notBlank, readBack]

theorem CarriesCookies.part? {item : Item} {segments : List (List Char)}
    (carries : item.CarriesCookies segments) : item.part? = some .cookies := by
  cases carries with
  | flag argument => rfl
  | header isCookie argument =>
      have parts := cut_append (colon_not_mem_of_isWord isCookie) (List.intercalate [';'] segments)
      rw [← argument] at parts
      rw [trimmed] at isCookie
      simp [Item.part?, givesCookies, parts, isCookie]

end Command.Item

structure CookieOption where
  item : Item
  tokens : List String
  segments : List (List Char)
  spelled : Item.Spelled item tokens
  carries : item.CarriesCookies segments

theorem CookieOption.ofTokens_flatMap (options : List CookieOption) :
    Item.ofTokens (options.flatMap (·.tokens)) = options.map (·.item) := by
  induction options with
  | nil => rfl
  | cons option rest ih =>
      rw [List.flatMap_cons, Item.ofTokens_spelled_append option.spelled, ih, List.map_cons]

namespace Draft

/-- Items that write the cookies leave all else in a draft as it is. -/
theorem foldl_of_part?_cookies {items : List Item} (write : ∀ item ∈ items, item.part? = some .cookies)
    (draft : Draft) :
    items.foldl apply draft = { draft with cookies := (items.foldl apply draft).cookies } := by
  induction items generalizing draft with
  | nil => rfl
  | cons item rest ih =>
      obtain ⟨first, others⟩ := List.forall_mem_cons.mp write
      rw [List.foldl_cons, ih others, apply_eq_withPart draft first]
      rfl

/-- Cookies are read back from their lists, whichever options these come in and whatever white space
and nameless segments they have: they are written into the cookies of the draft one after the other,
so that a repeated name keeps its first place and takes the last value. Nothing else changes. -/
theorem cookies_of_lists {cookies : List (String × String)}
    (expressible : ∀ cookie ∈ cookies, ExpressibleCookie cookie) {options : List CookieOption}
    (lists : Cookie.Lists (options.flatMap (·.segments)) cookies) (draft : Draft) :
    let written := (Item.ofTokens (options.flatMap (·.tokens))).foldl apply draft
    written = { draft with cookies := Entries.insertAll cookies draft.cookies } ∧
      Entries.keys written.cookies = Entries.keys draft.cookies ++
        ((Entries.keys cookies).filter fun name =>
          !(Entries.keys draft.cookies).contains name).eraseDups ∧
      ∀ name, written.cookies.lookup name =
        (cookies.reverse.lookup name).or (draft.cookies.lookup name) := by
  have items := CookieOption.ofTokens_flatMap options
  have write : ∀ item ∈ options.map (·.item), item.part? = some .cookies := by
    simpa using fun option _ => option.carries.part?
  have isSegment := lists.isSegment expressible
  have segments : ((options.map (·.item)).flatMap Item.cookieSegments).filterMap
      Cookie.ofSegment? = cookies := by
    rw [← lists.filterMap expressible, List.flatMap_map, List.filterMap_flatMap,
      List.filterMap_flatMap]
    apply List.flatMap_congr
    intro option member
    exact option.carries.cookieSegments fun segment belongs =>
      isSegment segment (List.mem_flatMap.mpr ⟨option, member, belongs⟩)
  have same : (Item.ofTokens (options.flatMap (·.tokens))).foldl apply draft =
      { draft with cookies := Entries.insertAll cookies draft.cookies } := by
    rw [items, foldl_of_part?_cookies write, cookies_foldl, segments]
  dsimp only
  rw [same]
  exact ⟨rfl, Entries.keys_insertAll _ _, fun _ => Entries.lookup_insertAll_reverse _ _⟩

def spacedFlag : CookieOption where
  item := .value .cookie (some " a = 1=2\t;junk")
  tokens := ["-b", " a = 1=2\t;junk"]
  segments := [" a = 1=2\t".toList, "junk".toList]
  spelled := .value (by decide)
  carries := .flag rfl

def mixedHeader : CookieOption where
  item := .value .header (some "cOOkie :b=;; a=x y ")
  tokens := ["--header", "cOOkie :b=;; a=x y "]
  segments := ["b=".toList, [], " a=x y ".toList]
  spelled := .value (by decide)
  carries := .header (show isWord (trimmed "cOOkie ") "cookie" = true by decide +kernel) rfl

/-- The second value of a name that comes twice, and a value for a name that was there. -/
theorem cookies_of_lists_repeatedName :
    let cookies := [("a", "1=2"), ("b", ""), ("a", "x y")]
    let options := [spacedFlag, mixedHeader]
    let draft : Draft := { url := "u", cookies := [("z", "0"), ("b", "9")] }
    (∀ cookie ∈ cookies, ExpressibleCookie cookie) ∧
      Cookie.Lists (options.flatMap (·.segments)) cookies ∧
      (Item.ofTokens (options.flatMap (·.tokens))).foldl apply draft =
        { draft with cookies := [("z", "0"), ("b", ""), ("a", "x y")] } := by
  have expressible : ∀ cookie ∈ [("a", "1=2"), ("b", ""), ("a", "x y")],
      ExpressibleCookie cookie := by
    simp only [List.forall_mem_cons]
    refine ⟨⟨?_, ?_, ?_, ?_, ?_, ?_⟩, ⟨?_, ?_, ?_, ?_, ?_, ?_⟩, ⟨?_, ?_, ?_, ?_, ?_, ?_⟩,
      by simp⟩ <;> decide +kernel
  have first : Cookie.Spells " a = 1=2\t".toList ("a", "1=2") :=
    ⟨" a ".toList, " 1=2\t".toList, rfl, ⟨[' '], [' '], by decide, by decide, rfl⟩,
      ⟨[' '], ['\t'], by decide, by decide, rfl⟩⟩
  have second : Cookie.Spells "b=".toList ("b", "") := ⟨['b'], [], rfl, .refl _, .refl _⟩
  have third : Cookie.Spells " a=x y ".toList ("a", "x y") :=
    ⟨[' ', 'a'], "x y ".toList, rfl, ⟨[' '], [], by decide, by decide, rfl⟩,
      ⟨[], [' '], by decide, by decide, rfl⟩⟩
  have lists : Cookie.Lists ([spacedFlag, mixedHeader].flatMap (·.segments))
      [("a", "1=2"), ("b", ""), ("a", "x y")] :=
    .cookie first (.other (by decide) (by decide) (.cookie second
      (.other (by decide) (by decide) (.cookie third .nil))))
  exact ⟨expressible, lists, (cookies_of_lists expressible lists _).1⟩

end Draft

end CurlScript
