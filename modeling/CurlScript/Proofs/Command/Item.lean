import CurlScript.Command.Item

/-!
The operands of a command line by a second reading: what is left when each value flag has taken
the token after it, less the flags without a value and the options of unknown name.
-/

namespace CurlScript.Command

def takesValue (token : String) : Bool :=
  match Flag.ofToken? token with
  | some (.value _) => true
  | _ => false

theorem takesValue_eq_false {token : String}
    (noValueFlag : ∀ flag, Flag.ofToken? token ≠ some (.value flag)) :
    takesValue token = false := by
  unfold takesValue
  split
  · rename_i flag found
    exact absurd found (noValueFlag flag)
  · rfl

def isOperand (token : String) : Bool :=
  (Flag.ofToken? token).isNone && !token.startsWith "-"

def unclaimed : List String → List String
  | [] => []
  | [token] => if takesValue token then [] else [token]
  | token :: next :: rest =>
    if takesValue token then unclaimed rest else token :: unclaimed (next :: rest)

namespace Item

def texts : Item → List String
  | .value _ argument => argument.toList
  | .insecure => []
  | .skipped token => [token]
  | .operand token => [token]

theorem operand?_ofSingle (token : String) :
    (ofSingle token).operand? = if isOperand token then some token else none := by
  unfold ofSingle isOperand
  cases Flag.ofToken? token with
  | none => cases token.startsWith "-" <;> rfl
  | some flag => cases flag <;> rfl

theorem mem_texts_ofSingle {token text : String} (member : text ∈ (ofSingle token).texts) :
    text = token := by
  unfold ofSingle at member
  cases found : Flag.ofToken? token with
  | none =>
      rw [found] at member
      cases dashed : token.startsWith "-" <;> simpa [dashed, texts] using member
  | some flag =>
      rw [found] at member
      cases flag <;> simp [texts] at member
      exact member

theorem mem_texts_ofTokens {tokens : List String} {item : Item} {text : String}
    (belongs : item ∈ ofTokens tokens) (member : text ∈ item.texts) : text ∈ tokens := by
  fun_induction ofTokens tokens with
  | case1 => simp at belongs
  | case2 token =>
      rw [List.mem_singleton.mp belongs] at member
      simp [mem_texts_ofSingle member]
  | case3 token next rest flag found ih =>
      rcases List.mem_cons.mp belongs with first | later
      · rw [first] at member
        simp_all [texts]
      · have inRest := ih later
        simp [inRest]
  | case4 token next rest other ih =>
      rcases List.mem_cons.mp belongs with first | later
      · rw [first] at member
        simp [mem_texts_ofSingle member]
      · exact List.mem_cons_of_mem _ (ih later)

theorem operands_ofTokens (tokens : List String) :
    (ofTokens tokens).filterMap operand? = (unclaimed tokens).filter isOperand := by
  fun_induction ofTokens tokens with
  | case1 => rfl
  | case2 token =>
      have notBoth : takesValue token = true → isOperand token = false := by
        unfold takesValue isOperand
        cases Flag.ofToken? token <;> simp
      simp only [List.filterMap_cons, operand?_ofSingle, List.filterMap_nil, unclaimed]
      cases takes : takesValue token
      · cases operand : isOperand token <;> simp [operand]
      · simp [notBoth takes]
  | case3 token next rest flag found ih =>
      have takes : takesValue token = true := by simp [takesValue, found]
      rw [List.filterMap_cons_none rfl, ih]
      simp [unclaimed, takes]
  | case4 token next rest other ih =>
      have takesNot : takesValue token = false := takesValue_eq_false other
      rw [List.filterMap_cons, operand?_ofSingle, ih]
      cases operand : isOperand token <;> simp [unclaimed, takesNot, operand]

theorem isOperand_of_mem_ofTokens {tokens : List String} {token : String}
    (belongs : .operand token ∈ ofTokens tokens) : isOperand token = true := by
  have listed : token ∈ (ofTokens tokens).filterMap operand? :=
    List.mem_filterMap.mpr ⟨.operand token, belongs, rfl⟩
  rw [operands_ofTokens] at listed
  exact (List.mem_filter.mp listed).2

inductive Spelled : Item → List String → Prop
  | value {flag spelling argument} : spelling ∈ (Flag.value flag).spellings →
      Spelled (.value flag (some argument)) [spelling, argument]
  | insecure {spelling} : spelling ∈ Flag.insecure.spellings → Spelled .insecure [spelling]
  | ignored {spelling} : spelling ∈ Flag.ignored.spellings →
      Spelled (.skipped spelling) [spelling]
  | unknown {token} : Flag.ofToken? token = none → token.startsWith "-" = true →
      Spelled (.skipped token) [token]
  | operand {token} : isOperand token = true → Spelled (.operand token) [token]

theorem ofTokens_cons_single {token : String} (takesNot : takesValue token = false)
    (rest : List String) : ofTokens (token :: rest) = ofSingle token :: ofTokens rest := by
  cases rest with
  | nil => rfl
  | cons next others =>
      unfold takesValue at takesNot
      rw [ofTokens]
      split
      · rename_i flag found
        simp [found] at takesNot
      · rfl

theorem ofTokens_spelled_append {item : Item} {tokens : List String}
    (spelled : Spelled item tokens) (rest : List String) :
    ofTokens (tokens ++ rest) = item :: ofTokens rest := by
  cases spelled with
  | value member =>
      have found := (Flag.ofToken?_eq_some_iff _ _).mpr member
      simp [ofTokens, found]
  | insecure member =>
      have found := (Flag.ofToken?_eq_some_iff _ _).mpr member
      rw [List.singleton_append, ofTokens_cons_single (by simp [takesValue, found])]
      simp [ofSingle, found]
  | ignored member =>
      have found := (Flag.ofToken?_eq_some_iff _ _).mpr member
      rw [List.singleton_append, ofTokens_cons_single (by simp [takesValue, found])]
      simp [ofSingle, found]
  | unknown notFound dashed =>
      rw [List.singleton_append, ofTokens_cons_single (by simp [takesValue, notFound])]
      simp [ofSingle, notFound, dashed]
  | operand operand =>
      simp only [isOperand, Bool.and_eq_true, Option.isNone_iff_eq_none,
        Bool.not_eq_true'] at operand
      rw [List.singleton_append, ofTokens_cons_single (by simp [takesValue, operand.1])]
      simp [ofSingle, operand.1, operand.2]

/-- Items that are written out one after the other are read back. -/
theorem ofTokens_spelled {written : List (Item × List String)}
    (spelled : ∀ entry ∈ written, Spelled entry.1 entry.2) :
    ofTokens (written.flatMap Prod.snd) = written.map Prod.fst := by
  induction written with
  | nil => rfl
  | cons entry rest ih =>
      obtain ⟨first, others⟩ := List.forall_mem_cons.mp spelled
      rw [List.flatMap_cons, ofTokens_spelled_append first, ih others]
      rfl

end Item

end CurlScript.Command
