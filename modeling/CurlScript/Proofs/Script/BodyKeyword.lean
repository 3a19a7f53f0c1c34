import CurlScript.Command.Request
import CurlScript.Proofs.Text.Cut
import CurlScript.Script.Argument
import Mathlib.Data.List.Infix
import Mathlib.Data.List.Perm.Basic

/-!
Whether a body goes out as JSON. Of several content type headers only the first is asked, so that
one behind it that mentions JSON can be missed, and the order of the headers can count.
-/

namespace CurlScript.Script

open Text

def isContentType (header : String × String) : Bool :=
  isWord header.1 "content-type"

def MentionsJson (header : String × String) : Prop :=
  "json".toList <:+: header.2.toList

instance (header : String × String) : Decidable (MentionsJson header) :=
  inferInstanceAs (Decidable (_ <:+: _))

def AsksForJson (headers : Entries String String) (data : String) : Prop :=
  (Json.read? data).isSome = true ∨
    ∃ header ∈ headers, isContentType header = true ∧ MentionsJson header

def HidesJson (headers : Entries String String) : Prop :=
  ∃ before first after, headers = before ++ first :: after ∧
    (∀ header ∈ before, isContentType header = false) ∧ isContentType first = true ∧
    ¬MentionsJson first ∧ ∃ header ∈ after, isContentType header = true ∧ MentionsJson header

def AgreesOnJson (headers : Entries String String) : Prop :=
  ∀ first ∈ headers, ∀ second ∈ headers, isContentType first = true →
    isContentType second = true → MentionsJson first → MentionsJson second

theorem hasJsonType_cons_of_contentType {header : String × String}
    (isType : isContentType header = true) (rest : Entries String String) :
    hasJsonType (header :: rest) = true ↔ MentionsJson header := by
  have found : (header :: rest).find? (fun header => isWord header.1 "content-type") = some header :=
    List.find?_cons_of_pos isType
  rw [hasJsonType, found]
  exact isSome_cutAtText_iff

theorem hasJsonType_cons_of_other {header : String × String}
    (other : isContentType header = false) (rest : Entries String String) :
    hasJsonType (header :: rest) = hasJsonType rest := by
  have skipped : (header :: rest).find? (fun header => isWord header.1 "content-type") =
      rest.find? (fun header => isWord header.1 "content-type") :=
    List.find?_cons_of_neg (by simpa [isContentType] using other)
  rw [hasJsonType, hasJsonType, skipped]

theorem exists_of_hasJsonType {headers : Entries String String}
    (json : hasJsonType headers = true) :
    ∃ header ∈ headers, isContentType header = true ∧ MentionsJson header := by
  induction headers with
  | nil => cases json
  | cons header rest ih =>
      by_cases isType : isContentType header = true
      · exact ⟨header, by simp, isType, (hasJsonType_cons_of_contentType isType rest).mp json⟩
      · rw [hasJsonType_cons_of_other (by simpa using isType)] at json
        obtain ⟨found, member, mentions⟩ := ih json
        exact ⟨found, List.mem_cons_of_mem _ member, mentions⟩

theorem hidesJson_iff {headers : Entries String String} :
    HidesJson headers ↔ hasJsonType headers = false ∧
      ∃ header ∈ headers, isContentType header = true ∧ MentionsJson header := by
  constructor
  · rintro ⟨before, first, after, rfl, noType, isType, silent, header, member, mentions⟩
    refine ⟨?_, header, by simp [member], mentions⟩
    induction before with
    | nil => rwa [List.nil_append, ← Bool.not_eq_true, hasJsonType_cons_of_contentType isType]
    | cons other rest ih =>
        obtain ⟨firstOther, others⟩ := List.forall_mem_cons.mp noType
        rw [List.cons_append, hasJsonType_cons_of_other firstOther, ih others]
  · rintro ⟨noJson, found⟩
    induction headers with
    | nil => simp at found
    | cons header rest ih =>
        obtain ⟨json, member, isJsonType, mentions⟩ := found
        by_cases isType : isContentType header = true
        · have silent : ¬MentionsJson header := by
            rw [← hasJsonType_cons_of_contentType isType rest, noJson]
            exact Bool.false_ne_true
          have behind : json ∈ rest := by
            refine (List.mem_cons.mp member).resolve_left ?_
            rintro rfl
            exact silent mentions
          exact ⟨[], header, rest, rfl, by simp, isType, silent, json, behind, isJsonType, mentions⟩
        · have other : isContentType header = false := by simpa using isType
          have behind : json ∈ rest := by
            refine (List.mem_cons.mp member).resolve_left ?_
            rintro rfl
            exact isType isJsonType
          rw [hasJsonType_cons_of_other other] at noJson
          obtain ⟨before, first, after, rfl, noType, more⟩ :=
            ih noJson ⟨json, behind, isJsonType, mentions⟩
          exact ⟨header :: before, first, after, rfl, List.forall_mem_cons.mpr ⟨other, noType⟩,
            more⟩

theorem AgreesOnJson.hasJsonType_iff {headers : Entries String String}
    (agrees : AgreesOnJson headers) :
    hasJsonType headers = true ↔
      ∃ header ∈ headers, isContentType header = true ∧ MentionsJson header := by
  refine ⟨exists_of_hasJsonType, fun found => ?_⟩
  by_contra noJson
  rw [Bool.not_eq_true] at noJson
  obtain ⟨before, first, after, rfl, -, isType, silent, header, member, isJsonType, mentions⟩ :=
    hidesJson_iff.mpr ⟨noJson, found⟩
  exact silent (agrees header (by simp [member]) first (by simp) isJsonType isType mentions)

/-- The order of headers does not matter exactly if they agree. -/
theorem hasJsonType_perm_iff {headers : Entries String String} :
    (∀ others : Entries String String, others.Perm headers →
        hasJsonType others = hasJsonType headers) ↔ AgreesOnJson headers := by
  constructor
  · intro same first memberFirst second memberSecond isFirst isSecond mentions
    -- Each of the two can be brought to the front.
    have front : ∀ header ∈ headers, isContentType header = true →
        (hasJsonType headers = true ↔ MentionsJson header) := by
      intro header member isType
      rw [← same _ (List.perm_cons_erase member).symm, hasJsonType_cons_of_contentType isType]
    exact (front second memberSecond isSecond).mp
      ((front first memberFirst isFirst).mpr mentions)
  · intro agrees others perm
    have otherAgrees : AgreesOnJson others := fun first memberFirst second memberSecond =>
      agrees first (perm.subset memberFirst) second (perm.subset memberSecond)
    rw [Bool.eq_iff_iff, otherAgrees.hasJsonType_iff, agrees.hasJsonType_iff]
    exact exists_congr fun header => and_congr_left fun _ => perm.mem_iff

theorem bodyKeyword?_eq {request : Draft} {data : String} (hasData : request.data = some data)
    (nonempty : data ≠ "") :
    bodyKeyword? request =
      some (bodyArgument ((Json.read? data).isSome || hasJsonType request.headers)) := by
  have body : nonEmpty? request.data = some data := by
    simp [nonEmpty?, hasData, Option.filter, nonempty]
  rw [bodyKeyword?, body, isJsonBody, hasData]
  rfl

theorem bodyArgument_eq_json_iff (json : Bool) : bodyArgument json = "json=data" ↔ json = true := by
  cases json <;> decide

theorem bodyArgument_inj {json other : Bool} :
    bodyArgument json = bodyArgument other ↔ json = other := by
  cases json <;> cases other <;> decide

/-- A body that is not empty goes out as JSON whenever the body or a content type header asks for
it, exactly if the body is JSON or no such header stands behind one that does not mention JSON. The
order of the headers does not matter exactly if the body is JSON or these headers agree. JSON texts
may hold surrogates that lack a partner. -/
theorem bodyKeyword?_iff {request : Draft} {data : String} (hasData : request.data = some data)
    (nonempty : data ≠ "") :
    ((bodyKeyword? request = some "json=data" ↔ AsksForJson request.headers data) ↔
      (Json.read? data).isSome = true ∨ ¬HidesJson request.headers) ∧
    ((∀ headers : Entries String String, headers.Perm request.headers →
        bodyKeyword? { request with headers := headers } = bodyKeyword? request) ↔
      (Json.read? data).isSome = true ∨ AgreesOnJson request.headers) := by
  have keyword := bodyKeyword?_eq hasData nonempty
  have reordered : ∀ headers, bodyKeyword? { request with headers := headers } =
      some (bodyArgument ((Json.read? data).isSome || hasJsonType headers)) :=
    fun headers => bodyKeyword?_eq hasData nonempty
  simp only [keyword, reordered, Option.some.injEq, bodyArgument_eq_json_iff, bodyArgument_inj,
    AsksForJson]
  cases isJson : (Json.read? data).isSome with
  | true => simp
  | false =>
      simp only [Bool.false_or, Bool.false_eq_true, false_or, hidesJson_iff]
      refine ⟨?_, hasJsonType_perm_iff⟩
      cases json : hasJsonType request.headers with
      | true => simpa using exists_of_hasJsonType json
      | false => simp

/-- A form body, and one of two content type headers that mentions JSON, in front of the other. -/
theorem bodyKeyword?_iff_jsonFirst :
    let request : Draft := {
      url := "u", data := some "a=1",
      headers := [("A", "json"), ("content-TYPE", "application/json"), ("Content-Type", "text/html")] }
    request.data = some "a=1" ∧ "a=1" ≠ "" ∧ ¬HidesJson request.headers ∧
      bodyKeyword? request = some "json=data" ∧ AsksForJson request.headers "a=1" ∧
      ¬∀ headers : Entries String String, headers.Perm request.headers →
        bodyKeyword? { request with headers := headers } = bodyKeyword? request := by
  let request : Draft := {
    url := "u", data := some "a=1",
    headers := [("A", "json"), ("content-TYPE", "application/json"), ("Content-Type", "text/html")] }
  have keyword : bodyKeyword? request = some "json=data" := by decide +kernel
  have shown : ¬HidesJson request.headers := by
    rw [hidesJson_iff]
    decide +kernel
  have differ : ¬AgreesOnJson request.headers := by
    unfold AgreesOnJson
    decide +kernel
  have notJson : (Json.read? "a=1").isSome = false := by decide +kernel
  have decides := @bodyKeyword?_iff request "a=1" rfl (by decide)
  exact ⟨rfl, by decide, shown, keyword, (decides.1.mpr (.inr shown)).mp keyword,
    fun same => (decides.2.mp same).elim (by simp [notJson]) differ⟩

/-- A content type that mentions JSON does not count behind one that does not, and counts when the
two change places. -/
theorem json_type_hidden :
    let request := Draft.ofTokens ["curl", "http://a", "-d", "x", "-H", "Content-Type: text/plain",
      "-H", "content-type: application/json"]
    request.data = some "x" ∧ AsksForJson request.headers "x" ∧
      bodyKeyword? request = some "data=data" ∧
      bodyKeyword? { request with headers := request.headers.reverse } = some "json=data" := by
  unfold AsksForJson
  decide +kernel

end CurlScript.Script
