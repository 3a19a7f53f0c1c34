import CurlScript.Entries
import Mathlib.Data.List.Basic

/-!
Writing into a mapping: which entries it has afterwards, and that its keys stay distinct.
-/

namespace CurlScript.Entries

variable {κ α : Type}

def keys (entries : Entries κ α) : List κ :=
  entries.map Prod.fst

theorem not_mem_of_keys_nodup {before after : Entries κ α} {key : κ} {value : α}
    (distinct : (keys (before ++ (key, value) :: after)).Nodup) : key ∉ keys before := by
  intro member
  rw [keys, List.map_append, List.nodup_append] at distinct
  exact distinct.2.2 key member key (by simp) rfl

variable [BEq κ]

theorem insertAll_cons (entry : κ × α) (new entries : Entries κ α) :
    insertAll (entry :: new) entries = insertAll new (insert entry.1 entry.2 entries) := rfl

theorem insertAll_append (new more entries : Entries κ α) :
    insertAll (new ++ more) entries = insertAll more (insertAll new entries) :=
  List.foldl_append

theorem exists_key_of_mem_insert {key : κ} {value : α} {entries : Entries κ α} {entry : κ × α}
    (member : entry ∈ insert key value entries) :
    entry.1 = key ∨ ∃ old ∈ entries, old.1 = entry.1 := by
  fun_induction insert key value entries with
  | case1 => exact .inl (congrArg Prod.fst (List.mem_singleton.mp member))
  | case2 first rest same =>
      rcases List.mem_cons.mp member with rfl | later
      · exact .inr ⟨first, by simp, rfl⟩
      · exact .inr ⟨entry, List.mem_cons_of_mem _ later, rfl⟩
  | case3 first rest different ih =>
      rcases List.mem_cons.mp member with rfl | later
      · exact .inr ⟨entry, by simp, rfl⟩
      · exact (ih later).imp id fun ⟨old, present, same⟩ =>
          ⟨old, List.mem_cons_of_mem _ present, same⟩

def Apart (entries : Entries κ α) : Prop :=
  entries.Pairwise fun earlier later => (earlier.1 == later.1) = false

theorem apart_insert {entries : Entries κ α} (key : κ) (value : α) (apart : Apart entries) :
    Apart (insert key value entries) := by
  fun_induction insert key value entries with
  | case1 => exact List.pairwise_singleton _ _
  | case2 first rest same =>
      obtain ⟨here, later⟩ := List.pairwise_cons.mp apart
      exact List.pairwise_cons.mpr ⟨here, later⟩
  | case3 first rest different ih =>
      obtain ⟨here, later⟩ := List.pairwise_cons.mp apart
      refine List.pairwise_cons.mpr ⟨?_, ih later⟩
      intro entry member
      rcases exists_key_of_mem_insert member with isKey | ⟨old, present, same⟩
      · rw [isKey]
        simpa using different
      · rw [← same]
        exact here old present

theorem apart_insertAll {new entries : Entries κ α} (apart : Apart entries) :
    Apart (insertAll new entries) := by
  induction new generalizing entries with
  | nil => exact apart
  | cons first rest ih => exact ih (apart_insert first.1 first.2 apart)

variable [LawfulBEq κ]

theorem mem_insert {key : κ} {value : α} {entries : Entries κ α} {entry : κ × α}
    (member : entry ∈ insert key value entries) : entry = (key, value) ∨ entry ∈ entries := by
  fun_induction insert key value entries with
  | case1 => exact .inl (List.mem_singleton.mp member)
  | case2 first rest same =>
      rcases List.mem_cons.mp member with replaced | later
      · left
        rw [replaced, eq_of_beq same]
      · exact .inr (List.mem_cons_of_mem _ later)
  | case3 first rest different ih =>
      rcases List.mem_cons.mp member with kept | later
      · exact .inr (by simp [kept])
      · exact (ih later).imp id (List.mem_cons_of_mem _)

theorem mem_insertAll {new entries : Entries κ α} {entry : κ × α}
    (member : entry ∈ insertAll new entries) : entry ∈ new ∨ entry ∈ entries := by
  induction new generalizing entries with
  | nil => exact .inr member
  | cons first rest ih =>
      rw [insertAll_cons] at member
      rcases ih member with later | inserted
      · exact .inl (List.mem_cons_of_mem _ later)
      · exact (mem_insert inserted).imp (fun same => by simp [same]) id

theorem keys_insert_of_mem {key : κ} {entries : Entries κ α} (value : α)
    (present : key ∈ keys entries) : keys (insert key value entries) = keys entries := by
  induction entries with
  | nil => simp [keys] at present
  | cons first rest ih =>
      by_cases same : first.1 == key
      · simp [insert, keys, same]
      · have later : key ∈ keys rest := by
          simp only [keys, List.map_cons, List.mem_cons] at present
          rcases present with here | there
          · exact absurd (by simp [here]) same
          · exact there
        simpa [insert, keys, same] using ih later

theorem insert_of_not_mem {key : κ} {entries : Entries κ α} (value : α)
    (absent : key ∉ keys entries) : insert key value entries = entries ++ [(key, value)] := by
  induction entries with
  | nil => rfl
  | cons first rest ih =>
      simp only [keys, List.map_cons, List.mem_cons, not_or] at absent
      have different : ¬first.1 == key := by simpa using Ne.symm absent.1
      simp [insert, different, ih absent.2]

theorem keys_nodup_insert {key : κ} {entries : Entries κ α} (value : α)
    (distinct : (keys entries).Nodup) : (keys (insert key value entries)).Nodup := by
  by_cases present : key ∈ keys entries
  · rwa [keys_insert_of_mem value present]
  · have keysEq : keys (insert key value entries) = keys entries ++ [key] := by
      simp [insert_of_not_mem value present, keys]
    rw [keysEq]
    refine List.nodup_append.mpr ⟨distinct, by simp, ?_⟩
    intro a inKeys b isKey
    rw [List.mem_singleton.mp isKey]
    rintro rfl
    exact present inKeys

theorem keys_nodup_insertAll {new entries : Entries κ α} (distinct : (keys entries).Nodup) :
    (keys (insertAll new entries)).Nodup := by
  induction new generalizing entries with
  | nil => exact distinct
  | cons first rest ih => exact ih (keys_nodup_insert first.2 distinct)

theorem insertAll_of_disjoint {new entries : Entries κ α} (distinct : (keys new).Nodup)
    (absent : ∀ key ∈ keys new, key ∉ keys entries) : insertAll new entries = entries ++ new := by
  induction new generalizing entries with
  | nil => simp [insertAll]
  | cons first rest ih =>
      have parts := List.nodup_cons.mp distinct
      have firstAbsent : first.1 ∉ keys entries := absent first.1 (by simp [keys])
      rw [insertAll_cons, insert_of_not_mem first.2 firstAbsent, ih parts.2]
      · simp
      · intro key member
        have notFirst : key ≠ first.1 := by
          rintro rfl
          exact parts.1 member
        have notOld : key ∉ keys entries := absent key (List.mem_cons_of_mem _ member)
        simpa [keys, notFirst] using notOld

theorem mem_keys_insert {key other : κ} {entries : Entries κ α} (value : α) :
    other ∈ keys (insert key value entries) ↔ other = key ∨ other ∈ keys entries := by
  by_cases present : key ∈ keys entries
  · rw [keys_insert_of_mem value present]
    refine ⟨.inr, ?_⟩
    rintro (rfl | member)
    · exact present
    · exact member
  · simp [insert_of_not_mem value present, keys, or_comm]

theorem mem_keys_insertAll {key : κ} {new entries : Entries κ α} :
    key ∈ keys (insertAll new entries) ↔ key ∈ keys new ∨ key ∈ keys entries := by
  induction new generalizing entries with
  | nil => simp [insertAll, keys]
  | cons first rest ih =>
      rw [insertAll_cons, ih, mem_keys_insert]
      simp only [keys, List.map_cons, List.mem_cons]
      tauto

theorem keys_insertAll_congr {entries others : Entries κ α} (same : keys entries = keys others)
    (new : Entries κ α) : keys (insertAll new entries) = keys (insertAll new others) := by
  induction new generalizing entries others with
  | nil => exact same
  | cons first rest ih =>
      rw [insertAll_cons, insertAll_cons]
      apply ih
      by_cases present : first.1 ∈ keys entries
      · rw [keys_insert_of_mem _ present, keys_insert_of_mem _ (same ▸ present), same]
      · rw [insert_of_not_mem _ present, insert_of_not_mem _ (same ▸ present)]
        simpa [keys] using same

theorem keys_insertAll_of_subset {new entries : Entries κ α} (known : keys new ⊆ keys entries) :
    keys (insertAll new entries) = keys entries := by
  induction new generalizing entries with
  | nil => rfl
  | cons first rest ih =>
      have present : first.1 ∈ keys entries := known (by simp [keys])
      have kept := keys_insert_of_mem first.2 present
      rw [insertAll_cons, ih, kept]
      rw [kept]
      exact fun key member => known (List.mem_cons_of_mem _ member)

theorem lookup_cons_of_ne {key first : κ} (different : key ≠ first) (value : α)
    (rest : Entries κ α) : List.lookup key ((first, value) :: rest) = rest.lookup key := by
  have test : (key == first) = false := beq_eq_false_iff_ne.mpr different
  rw [List.lookup_cons, test]

theorem lookup_eq_none_iff {key : κ} {entries : Entries κ α} :
    entries.lookup key = none ↔ key ∉ keys entries := by
  induction entries with
  | nil => simp [keys]
  | cons first rest ih =>
      by_cases same : key = first.1
      · simp [keys, same]
      · rw [lookup_cons_of_ne same first.2, ih]
        simp [keys, same]

theorem lookup_insert_self {key : κ} {entries : Entries κ α} (value : α) :
    (insert key value entries).lookup key = some value := by
  induction entries with
  | nil => simp [insert]
  | cons first rest ih =>
      by_cases here : first.1 == key
      · simp [insert, eq_of_beq here]
      · have different : key ≠ first.1 := fun same => here (by simp [same])
        rw [insert, if_neg here, lookup_cons_of_ne different first.2, ih]

theorem lookup_insert_of_ne {key other : κ} {entries : Entries κ α} (value : α)
    (different : other ≠ key) :
    (insert key value entries).lookup other = entries.lookup other := by
  induction entries with
  | nil => exact lookup_cons_of_ne different value []
  | cons first rest ih =>
      by_cases here : first.1 == key
      · have notFirst : other ≠ first.1 := by rwa [eq_of_beq here]
        rw [insert, if_pos here, lookup_cons_of_ne notFirst value,
          lookup_cons_of_ne notFirst first.2]
      · rw [insert, if_neg here, List.lookup_cons, List.lookup_cons, ih]

/-- What a mapping holds after others have been written into it: the new value, or the old one. -/
theorem lookup_insertAll {key : κ} {new entries : Entries κ α} (distinct : (keys new).Nodup) :
    (insertAll new entries).lookup key = (new.lookup key).or (entries.lookup key) := by
  induction new generalizing entries with
  | nil => simp [insertAll]
  | cons first rest ih =>
      obtain ⟨absent, restDistinct⟩ := List.nodup_cons.mp distinct
      rw [insertAll_cons, ih restDistinct]
      by_cases same : key = first.1
      · subst same
        rw [lookup_eq_none_iff.mpr absent, lookup_insert_self, List.lookup_cons_self]
        rfl
      · rw [lookup_insert_of_ne _ same, lookup_cons_of_ne same first.2]

/-- The keys that were there keep their places, and each new one goes to the end where it comes
first. -/
theorem keys_insertAll (new entries : Entries κ α) :
    keys (insertAll new entries) =
      keys entries ++ ((keys new).filter fun key => !(keys entries).contains key).eraseDups := by
  induction new generalizing entries with
  | nil => simp [insertAll, keys]
  | cons first rest ih =>
      have headKeys : keys (first :: rest) = first.1 :: keys rest := rfl
      rw [insertAll_cons, ih, headKeys]
      by_cases present : first.1 ∈ keys entries
      · rw [keys_insert_of_mem first.2 present, List.filter_cons_of_neg (by simp [present])]
      · have extended : keys (insert first.1 first.2 entries) = keys entries ++ [first.1] := by
          simp [insert_of_not_mem first.2 present, keys]
        rw [extended, List.filter_cons_of_pos (by simp [present]), List.eraseDups_cons,
          List.filter_filter, List.append_assoc, List.singleton_append]
        congr 4
        funext key
        rw [Bool.eq_iff_iff]
        simp [or_comm]

/-- Of the values written under a key the last one stands. -/
theorem lookup_insertAll_reverse {key : κ} (new entries : Entries κ α) :
    (insertAll new entries).lookup key = (new.reverse.lookup key).or (entries.lookup key) := by
  induction new generalizing entries with
  | nil => simp [insertAll]
  | cons first rest ih =>
      rw [insertAll_cons, ih, List.reverse_cons, List.lookup_append, Option.or_assoc]
      congr 1
      by_cases same : key = first.1
      · subst same
        rw [lookup_insert_self, List.lookup_cons_self]
        rfl
      · rw [lookup_insert_of_ne first.2 same, lookup_cons_of_ne same first.2]
        rfl

/-- Of two values written under a key the second one stands. -/
theorem insert_insert (key : κ) (first second : α) (entries : Entries κ α) :
    insert key second (insert key first entries) = insert key second entries := by
  induction entries with
  | nil => simp [insert]
  | cons entry rest ih =>
      by_cases here : entry.1 == key
      · simp [insert, here]
      · simp [insert, here, ih]

theorem insert_eq_self_iff {key : κ} {value : α} {entries : Entries κ α} :
    insert key value entries = entries ↔ entries.lookup key = some value := by
  constructor
  · intro same
    rw [← same, lookup_insert_self]
  · intro found
    induction entries with
    | nil => simp at found
    | cons entry rest ih =>
        by_cases here : entry.1 == key
        · obtain ⟨name, old⟩ := entry
          obtain rfl : name = key := eq_of_beq here
          obtain rfl : old = value := by simpa using found
          simp [insert]
        · have different : key ≠ entry.1 := fun same => here (by simp [same])
          rw [lookup_cons_of_ne different entry.2] at found
          rw [insert, if_neg here, ih found]

/-- Entries under one key leave a mapping as it is exactly if it holds the last of them. -/
theorem insertAll_eq_self_iff {key : κ} {new entries : Entries κ α}
    (oneKey : ∀ entry ∈ new, entry.1 = key) :
    insertAll new entries = entries ↔
      ∀ last ∈ new.getLast?, entries.lookup key = some last.2 := by
  have written : ∀ last ∈ new.getLast?, insertAll new entries = insert key last.2 entries := by
    induction new generalizing entries with
    | nil => simp
    | cons first rest ih =>
        obtain ⟨isKey, restKey⟩ := List.forall_mem_cons.mp oneKey
        intro last isLast
        rw [insertAll_cons, isKey]
        cases rest with
        | nil =>
            obtain rfl : first = last := by simpa using isLast
            rfl
        | cons second others =>
            rw [List.getLast?_cons_cons] at isLast
            rw [ih restKey last isLast, insert_insert]
  cases isLast : new.getLast? with
  | none => simp [insertAll, List.getLast?_eq_none_iff.mp isLast]
  | some last => simp [written last isLast, insert_eq_self_iff]

theorem lookup_filter {key : κ} {entries : Entries κ α} (distinct : (keys entries).Nodup)
    (keep : κ × α → Bool) :
    (entries.filter keep).lookup key =
      (entries.lookup key).filter fun value => keep (key, value) := by
  induction entries with
  | nil => rfl
  | cons first rest ih =>
      obtain ⟨absent, restDistinct⟩ := List.nodup_cons.mp distinct
      obtain ⟨name, value⟩ := first
      by_cases same : key = name
      · subst same
        have noMore : rest.lookup key = none := lookup_eq_none_iff.mpr absent
        rw [List.lookup_cons_self]
        by_cases kept : keep (key, value) = true
        · simp [kept, Option.filter]
        · simp [kept, Option.filter, ih restDistinct, noMore]
      · rw [lookup_cons_of_ne same, ← ih restDistinct, List.filter_cons]
        split
        · exact lookup_cons_of_ne same _ _
        · rfl

/-- A mapping is its keys in their order with what it holds for them. -/
theorem ext_lookup {entries others : Entries κ α} (distinct : (keys entries).Nodup)
    (sameKeys : keys entries = keys others)
    (sameValues : ∀ key, entries.lookup key = others.lookup key) : entries = others := by
  induction entries generalizing others with
  | nil =>
      have empty : others.map Prod.fst = [] := sameKeys.symm
      rw [List.map_eq_nil_iff.mp empty]
  | cons first rest ih =>
      obtain ⟨name, value⟩ := first
      cases others with
      | nil => simp [keys] at sameKeys
      | cons second more =>
          obtain ⟨otherName, otherValue⟩ := second
          obtain ⟨absent, restDistinct⟩ := List.nodup_cons.mp distinct
          obtain ⟨rfl, moreKeys⟩ : name = otherName ∧ keys rest = keys more := by
            simpa [keys] using sameKeys
          have sameValue : value = otherValue := by
            simpa [List.lookup_cons_self] using sameValues name
          have sameRest : rest = more := by
            refine ih restDistinct moreKeys fun key => ?_
            by_cases isName : key = name
            · subst isName
              have absentMore : key ∉ keys more := moreKeys ▸ absent
              rw [lookup_eq_none_iff.mpr absent, lookup_eq_none_iff.mpr absentMore]
            · simpa [lookup_cons_of_ne isName] using sameValues key
          rw [sameValue, sameRest]

end CurlScript.Entries
