import CurlScript.Proofs.Entries
import CurlScript.Yaml.Reader

/-!
The keys of a mapping that has been read: no two of them are the same key.
-/

namespace CurlScript.Yaml

theorem text_beq_text (a b : String) : (Scalar.text a == Scalar.text b) = decide (a = b) := by
  show Scalar.same (.text a) (.text b) = decide (a = b)
  by_cases same : a = b <;> simp [Scalar.same, Scalar.rank?, Rank.same, same]

theorem rank_same_comm (a b : Rank) : a.same b = b.same a := by
  cases a <;> cases b
  case number.number a b =>
    have values : a.same b = b.same a := by
      cases a <;> cases b <;> simp only [Number.Double.same, Bool.and_comm]
    simp only [Rank.same, values, eq_comm]
  all_goals simp only [Rank.same, reduceCtorEq, eq_comm]

theorem beq_comm (a b : Scalar) : (a == b) = (b == a) := by
  show a.same b = b.same a
  unfold Scalar.same
  cases a.rank? <;> cases b.rank? <;> simp [rank_same_comm]

theorem apart_of_value {node : Node} {entries : Entries Scalar Value}
    (read : node.value = .ok (.mapping entries)) : Entries.Apart entries := by
  cases node with
  | scalar tag plain text =>
      rw [Node.value] at read
      cases scalar : scalarOf tag plain text <;> simp [scalar, Except.map] at read
  | list tag items =>
      rw [Node.value] at read
      split at read
      · cases values : Node.values items <;> simp [values, Except.map] at read
      · split at read
        · cases pairs : Node.pairs items <;> simp [pairs, Except.map] at read
        · cases read
  | mapping tag nodes =>
      rw [Node.value] at read
      split at read
      · cases merged : Node.merged nodes with
        | error error => simp [merged, bind, Except.bind] at read
        | ok merged' =>
            cases own : Node.entries nodes with
            | error error => simp [merged, own, bind, Except.bind] at read
            | ok own' =>
                simp only [merged, own, bind, Except.bind, pure, Except.pure, Except.ok.injEq]
                  at read
                split at read
                · cases read
                · obtain rfl := Value.mapping.inj read
                  exact Entries.apart_insertAll (Entries.apart_insertAll List.Pairwise.nil)
      · cases read

theorem apart_of_read {source : String} {entries : Entries Scalar Value}
    (found : read source = .ok (.mapping entries)) : Entries.Apart entries := by
  unfold read at found
  split at found
  · cases found
  · cases found
  · exact apart_of_value found

/-- Keys that are texts are distinct texts. -/
theorem nodup_shown_of_apart {entries : Entries Scalar Value} (apart : Entries.Apart entries)
    (texts : ∀ entry ∈ entries, ∃ name, entry.1 = .text name) :
    (entries.map fun entry => entry.1.shown).Nodup := by
  rw [List.Nodup, List.pairwise_map]
  refine List.Pairwise.imp_of_mem ?_ apart
  intro a b memberA memberB different
  obtain ⟨first, isFirst⟩ := texts a memberA
  obtain ⟨second, isSecond⟩ := texts b memberB
  rw [isFirst, isSecond, text_beq_text, decide_eq_false_iff_not] at different
  rw [isFirst, isSecond]
  exact different

end CurlScript.Yaml
