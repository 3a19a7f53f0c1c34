import CurlScript.Proofs.Json.Compact
import CurlScript.Proofs.Literal.Json
import CurlScript.Proofs.Literal.Lines
import CurlScript.Proofs.Text.Shift

/-!
Containers in literals: their brackets and entries, which of them are small, and at which depth the
literal of a value lays out each container in it.
-/

namespace CurlScript.Literal

open Text

def entries : Json → List (String × Json)
  | .list items => items.map fun item => ("", item)
  | .object members => members.map fun member => (quote member.1 ++ ": ", member.2)
  | _ => []

def entryTexts (depth : Nat) (value : Json) : List String :=
  (entries value).map fun entry => entry.1 ++ ofJson depth entry.2

def brackets : Json → String × String
  | .list _ => ("[", "]")
  | _ => ("\x7b", "\x7d")

def Small (value : Json) : Prop :=
  (entries value).length ≤ 2 ∧ (Json.compact value).length < 50

instance (value : Json) : Decidable (Small value) :=
  inferInstanceAs (Decidable (_ ∧ _))

def innerDepth (depth : Nat) (value : Json) : Nat :=
  if Small value then depth else depth + 1

/-- `Placed depth value level inner`: the literal of `value` at `depth` holds the one of `inner` at
`level`. -/
inductive Placed : Nat → Json → Nat → Json → Prop
  | self {depth value} : Placed depth value depth value
  | entry {depth value entry level inner} : entry ∈ entries value →
      Placed (innerDepth depth value) entry.2 level inner → Placed depth value level inner

def Unbroken (value : Json) : Prop :=
  ∀ text ∈ jsonTexts value, '\n' ∉ text.toList

instance (value : Json) : Decidable (Unbroken value) :=
  inferInstanceAs (Decidable (∀ text ∈ jsonTexts value, '\n' ∉ text.toList))

theorem fitsInline_eq (value : Json) :
    fitsInline value (entries value).length = decide (Small value) := by
  rw [Bool.eq_iff_iff, decide_eq_true_iff, Small, Json.length_compact, fitsInline,
    Bool.and_eq_true, decide_eq_true_iff, decide_eq_true_iff]
  exact Iff.rfl

theorem ofItems_eq (depth : Nat) (items : List Json) :
    ofItems depth items = entryTexts depth (.list items) := by
  induction items with
  | nil => rfl
  | cons item rest ih =>
      rw [ofItems, ih]
      simp [entryTexts, entries]

theorem ofMembers_eq (depth : Nat) (members : List (String × Json)) :
    ofMembers depth members = entryTexts depth (.object members) := by
  induction members with
  | nil => rfl
  | cons member rest ih =>
      rw [ofMembers, ih]
      simp [entryTexts, entries]

/-- The literal of a container that is not empty. -/
theorem ofJson_eq_enclose {value : Json} (nonempty : entries value ≠ []) (depth : Nat) :
    ofJson depth value =
      enclose (Small value) (brackets value).1 (brackets value).2 depth
        (entryTexts (innerDepth depth value) value) := by
  have depthEq : innerDepth depth value = entryDepth (decide (Small value)) depth := by
    simp [entryDepth, innerDepth]
  have fits := fitsInline_eq value
  rw [depthEq, ← fits]
  cases value with
  | list items =>
      cases items with
      | nil => exact absurd rfl nonempty
      | cons item rest =>
          rw [← ofItems_eq, entries, List.length_map]
          rfl
  | object members =>
      cases members with
      | nil => exact absurd rfl nonempty
      | cons member rest =>
          rw [← ofMembers_eq, entries, List.length_map]
          rfl
  | _ => exact absurd rfl nonempty

theorem toList_enclose_inline (opener closer : String) (depth : Nat) (texts : List String) :
    (enclose true opener closer depth texts).toList =
      opener.toList ++ List.intercalate [',', ' '] (texts.map String.toList) ++ closer.toList := by
  simp [enclose, joined_eq_intercalate, String.toList_append]

theorem toList_enclose_broken (opener closer : String) (depth : Nat) (texts : List String) :
    (enclose false opener closer depth texts).toList =
      opener.toList ++
        ('\n' :: List.intercalate [',', '\n']
          ((texts.map String.toList).map (spaces (4 * (depth + 1)) ++ ·))) ++
        ('\n' :: (spaces (4 * depth) ++ closer.toList)) := by
  simp [enclose, joined_eq_intercalate, String.toList_append, toList_indentation, spaces,
    Function.comp_def]

theorem ofJson_of_no_entries {value : Json} (empty : entries value = []) (depth : Nat) :
    ofJson depth value = ofJson 0 value := by
  cases value with
  | list items =>
      obtain rfl := List.map_eq_nil_iff.mp empty
      rw [ofJson, ofJson]
  | object members =>
      obtain rfl := List.map_eq_nil_iff.mp empty
      rw [ofJson, ofJson]
  | _ => rw [ofJson, ofJson]

theorem sizeOf_of_mem_entries {value : Json} {entry : String × Json}
    (member : entry ∈ entries value) : sizeOf entry.2 < sizeOf value := by
  cases value with
  | list items =>
      obtain ⟨item, belongs, rfl⟩ := List.mem_map.mp member
      have smaller := List.sizeOf_lt_of_mem belongs
      change sizeOf item < _
      rw [Json.list.sizeOf_spec]
      omega
  | object members =>
      obtain ⟨⟨key, inner⟩, belongs, rfl⟩ := List.mem_map.mp member
      have smaller := List.sizeOf_lt_of_mem belongs
      change sizeOf inner < _
      rw [Prod.mk.sizeOf_spec] at smaller
      rw [Json.object.sizeOf_spec]
      omega
  | _ => simp [entries] at member

/-- Induction over a value: what holds of a value when it holds of those in it holds of every
value. -/
theorem entries_induction {motive : Json → Prop}
    (step : ∀ value, (∀ entry ∈ entries value, motive entry.2) → motive value)
    (value : Json) : motive value := by
  generalize size : sizeOf value = bound
  induction bound using Nat.strongRecOn generalizing value with
  | ind bound ih =>
      apply step
      intro entry member
      exact ih (sizeOf entry.2) (size ▸ sizeOf_of_mem_entries member) entry.2 rfl

/-! Widths: a value in a container is narrower than the container. -/

theorem width_of_mem_items {item : Json} {items : List Json} (member : item ∈ items) :
    item.width ≤ Json.itemsWidth items := by
  induction items with
  | nil => cases member
  | cons first rest ih =>
      rw [Json.itemsWidth]
      rcases List.mem_cons.mp member with rfl | later
      · omega
      · have bound := ih later
        omega

theorem width_of_mem_members {member : String × Json} {members : List (String × Json)}
    (belongs : member ∈ members) : member.2.width ≤ Json.membersWidth members := by
  induction members with
  | nil => cases belongs
  | cons first rest ih =>
      rw [Json.membersWidth]
      rcases List.mem_cons.mp belongs with rfl | later
      · omega
      · have bound := ih later
        omega

theorem width_of_mem_entries {value : Json} {entry : String × Json}
    (member : entry ∈ entries value) : entry.2.width ≤ value.width := by
  cases value with
  | list items =>
      obtain ⟨item, belongs, rfl⟩ := List.mem_map.mp member
      have bound := width_of_mem_items belongs
      change item.width ≤ _
      rw [Json.width]
      omega
  | object members =>
      obtain ⟨inner, belongs, rfl⟩ := List.mem_map.mp member
      have bound := width_of_mem_members belongs
      change inner.2.width ≤ _
      rw [Json.width]
      omega
  | _ => simp [entries] at member

theorem Placed.width {depth level : Nat} {value inner : Json}
    (placed : Placed depth value level inner) : inner.width ≤ value.width := by
  induction placed with
  | self => exact Nat.le_refl _
  | entry member _ ih => exact Nat.le_trans ih (width_of_mem_entries member)

/-! Line ends: a value in an unbroken container is unbroken, and so are the labels. -/

theorem break_not_mem_ofJson_of_no_entries {value : Json} (empty : entries value = [])
    (unbroken : Unbroken value) (depth : Nat) : '\n' ∉ (ofJson depth value).toList := by
  cases value with
  | null => exact (show '\n' ∉ "None".toList by decide)
  | bool value =>
      cases value with
      | false => exact (show '\n' ∉ "False".toList by decide)
      | true => exact (show '\n' ∉ "True".toList by decide)
  | int value => exact break_not_mem_of_isNumeralText (isNumeralText_int value)
  | float value => exact break_not_mem_ofDouble value
  | text text => exact break_not_mem_quote (unbroken text (List.mem_singleton_self text))
  | list items =>
      obtain rfl := List.map_eq_nil_iff.mp empty
      rw [ofJson]
      decide
  | object members =>
      obtain rfl := List.map_eq_nil_iff.mp empty
      rw [ofJson]
      decide

theorem mem_itemTexts {item : Json} {items : List Json} (member : item ∈ items) :
    jsonTexts item ⊆ itemTexts items := by
  induction items with
  | nil => cases member
  | cons first rest ih =>
      rw [itemTexts]
      rcases List.mem_cons.mp member with rfl | later
      · exact List.subset_append_left _ _
      · exact List.Subset.trans (ih later) (List.subset_append_right _ _)

theorem mem_memberTexts {member : String × Json} {members : List (String × Json)}
    (belongs : member ∈ members) : member.1 :: jsonTexts member.2 ⊆ memberTexts members := by
  induction members with
  | nil => cases belongs
  | cons first rest ih =>
      rw [memberTexts]
      rcases List.mem_cons.mp belongs with rfl | later
      · exact List.subset_append_left _ _
      · exact List.Subset.trans (ih later) (List.subset_append_right _ _)

theorem Unbroken.entry {value : Json} (unbroken : Unbroken value) {entry : String × Json}
    (member : entry ∈ entries value) : '\n' ∉ entry.1.toList ∧ Unbroken entry.2 := by
  cases value with
  | list items =>
      obtain ⟨item, belongs, rfl⟩ := List.mem_map.mp member
      exact ⟨List.not_mem_nil, fun text inside => unbroken text (mem_itemTexts belongs inside)⟩
  | object members =>
      obtain ⟨⟨key, inner⟩, belongs, rfl⟩ := List.mem_map.mp member
      obtain ⟨keyUnbroken, others⟩ :=
        List.forall_mem_cons.mp fun text inside => unbroken text (mem_memberTexts belongs inside)
      refine ⟨?_, others⟩
      simpa [String.toList_append] using break_not_mem_quote keyUnbroken
  | _ => simp [entries] at member

theorem Placed.unbroken {depth level : Nat} {value inner : Json}
    (placed : Placed depth value level inner) (unbroken : Unbroken value) : Unbroken inner := by
  induction placed with
  | self => exact unbroken
  | entry member _ ih => exact ih (unbroken.entry member).2

end CurlScript.Literal
