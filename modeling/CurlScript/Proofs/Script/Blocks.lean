import CurlScript.Proofs.Script.Line
import CurlScript.Proofs.Text.Ends

/-!
Lines that are nested in blocks: deeper ones stand behind a header, and every `try` has one handler.
-/

namespace CurlScript.Script

open Text

def opens (text : String) : Bool :=
  ends ":" text || ends "(" text

def Handled (depth : Nat) (behind : List Line) : Prop :=
  ∃ body handler handling rest, behind = body ++ handler :: (handling ++ rest) ∧
    (∀ line ∈ body ++ handling, depth < line.depth) ∧
    handler.depth = depth ∧ begins "except " handler.text = true ∧
    ∀ next ∈ rest.head?,
      next.depth ≤ depth ∧ (next.depth = depth → begins "except " next.text = false)

structure Nested (line : Line) (behind : List Line) : Prop where
  opened : opens line.text = true →
    ∃ next rest, behind = next :: rest ∧ next.depth = line.depth + 1
  level : opens line.text = false → ∀ next ∈ behind.head?, next.depth ≤ line.depth
  handled : line.text = "try:" → Handled line.depth behind

def EachNested : List Line → Prop
  | [] => True
  | line :: behind => Nested line behind ∧ EachNested behind

inductive Kind where
  | plain
  | opening
  | attempt
  | handler
deriving DecidableEq, Repr

def kind (text : String) : Kind :=
  if text = "try:" then .attempt
  else if begins "except " text then .handler
  else if opens text then .opening
  else .plain

section Kinds

variable {text : String}

theorem kind_plain (plain : kind text = .plain) :
    text ≠ "try:" ∧ begins "except " text = false ∧ opens text = false := by
  unfold kind at plain
  grind

theorem kind_opening (opening : kind text = .opening) :
    text ≠ "try:" ∧ begins "except " text = false ∧ opens text = true := by
  unfold kind at opening
  grind

theorem kind_handler (handler : kind text = .handler) :
    text ≠ "try:" ∧ begins "except " text = true := by
  unfold kind at handler
  grind

end Kinds

inductive Blocks : Nat → List Line → Prop
  | nil {depth : Nat} : Blocks depth []
  | line {depth : Nat} {text : String} {rest : List Line} : kind text = .plain →
      Blocks depth rest → Blocks depth (⟨depth, text, false⟩ :: rest)
  | block {depth : Nat} {header : String} {body rest : List Line} : kind header = .opening →
      body ≠ [] → Blocks (depth + 1) body → Blocks depth rest →
      Blocks depth (⟨depth, header, false⟩ :: (body ++ rest))
  | attempt {depth : Nat} {handler : String} {body handling rest : List Line} :
      kind handler = .handler → opens handler = true → body ≠ [] → handling ≠ [] →
      Blocks (depth + 1) body → Blocks (depth + 1) handling → Blocks depth rest →
      Blocks depth (⟨depth, "try:", false⟩ ::
        (body ++ ⟨depth, handler, false⟩ :: (handling ++ rest)))

namespace Blocks

variable {depth : Nat} {lines more : List Line}

theorem append (first : Blocks depth lines) (second : Blocks depth more) :
    Blocks depth (lines ++ more) := by
  induction first with
  | nil => exact second
  | line plain _ ih => exact .line plain (ih second)
  | block opening nonempty body _ _ ih =>
      rw [List.cons_append, List.append_assoc]
      exact .block opening nonempty body (ih second)
  | attempt handler opened nonempty others body handling _ _ _ ih =>
      simp only [List.cons_append, List.append_assoc]
      exact .attempt handler opened nonempty others body handling (ih second)

theorem le_depth (blocks : Blocks depth lines) : ∀ line ∈ lines, depth ≤ line.depth := by
  induction blocks with
  | nil => simp
  | line _ _ ih =>
      rw [List.forall_mem_cons]
      exact ⟨Nat.le_refl _, ih⟩
  | block _ _ _ _ ihBody ihRest =>
      rw [List.forall_mem_cons, List.forall_mem_append]
      exact ⟨Nat.le_refl _, fun line member => Nat.le_of_succ_le (ihBody line member), ihRest⟩
  | attempt _ _ _ _ _ _ _ ihBody ihHandling ihRest =>
      rw [List.forall_mem_cons, List.forall_mem_append, List.forall_mem_cons,
        List.forall_mem_append]
      exact ⟨Nat.le_refl _, fun line member => Nat.le_of_succ_le (ihBody line member),
        Nat.le_refl _, fun line member => Nat.le_of_succ_le (ihHandling line member), ihRest⟩

theorem first (blocks : Blocks depth lines) :
    ∀ next ∈ lines.head?, next.depth = depth ∧ begins "except " next.text = false := by
  cases blocks with
  | nil => simp
  | line plain _ => simpa using (kind_plain plain).2.1
  | block opening _ _ _ => simpa using (kind_opening opening).2.1
  | attempt _ _ _ _ _ _ _ =>
      have notHandler : begins "except " "try:" = false := by decide
      simpa using notHandler

theorem exists_first (blocks : Blocks depth lines) (nonempty : lines ≠ []) :
    ∃ next rest, lines = next :: rest ∧ next.depth = depth := by
  obtain ⟨next, rest, rfl⟩ := List.exists_cons_of_ne_nil nonempty
  exact ⟨next, rest, rfl, (blocks.first next rfl).1⟩

end Blocks

theorem Handled.extend {depth : Nat} {behind more : List Line} (handled : Handled depth behind)
    (outer : ∀ next ∈ more.head?, next.depth < depth) : Handled depth (behind ++ more) := by
  obtain ⟨body, handler, handling, rest, rfl, deeper, level, isHandler, last⟩ := handled
  -- Only if nothing stood behind the handler, the added lines decide what comes next.
  refine ⟨body, handler, handling, rest ++ more, by simp, deeper, level, isHandler, ?_⟩
  cases rest with
  | nil =>
      intro next isNext
      have less := outer next isNext
      exact ⟨by omega, by omega⟩
  | cons next others => exact last

theorem Nested.extend {line : Line} {behind more : List Line} (nested : Nested line behind)
    (outer : ∀ next ∈ more.head?, next.depth < line.depth) : Nested line (behind ++ more) where
  opened := by
    intro opening
    obtain ⟨next, rest, rfl, deeper⟩ := nested.opened opening
    exact ⟨next, rest ++ more, rfl, deeper⟩
  level := by
    intro plain
    cases behind with
    | nil => exact fun next isNext => Nat.le_of_lt (outer next isNext)
    | cons next others => exact nested.level plain
  handled := fun attempt => (nested.handled attempt).extend outer

theorem EachNested.append {lines more : List Line} (nested : EachNested lines)
    (outer : ∀ line ∈ lines, ∀ next ∈ more.head?, next.depth < line.depth)
    (rest : EachNested more) : EachNested (lines ++ more) := by
  induction lines with
  | nil => exact rest
  | cons line behind ih =>
      rw [List.forall_mem_cons] at outer
      exact ⟨nested.1.extend outer.1, ih nested.2 outer.2⟩

theorem Blocks.outer {depth : Nat} {body more : List Line} (blocks : Blocks (depth + 1) body)
    (level : ∀ next ∈ more.head?, next.depth = depth) :
    ∀ line ∈ body, ∀ next ∈ more.head?, next.depth < line.depth := by
  intro line member next isNext
  have inner := blocks.le_depth line member
  have same := level next isNext
  omega

theorem Blocks.nested_header {depth : Nat} {header : String} {body : List Line}
    (blocks : Blocks (depth + 1) body) (nonempty : body ≠ []) (opened : opens header = true)
    (rest : List Line) (handled : header = "try:" → Handled depth (body ++ rest)) :
    Nested ⟨depth, header, false⟩ (body ++ rest) where
  opened := by
    intro _
    obtain ⟨next, others, rfl, deeper⟩ := blocks.exists_first nonempty
    exact ⟨next, others ++ rest, rfl, deeper⟩
  level := fun closed => by simp [opened] at closed
  handled := handled

theorem Blocks.eachNested {depth : Nat} {lines : List Line} (blocks : Blocks depth lines) :
    EachNested lines := by
  -- A body is nested on its own; the head of what follows it closes it, a level further out.
  induction blocks with
  | nil => trivial
  | @line depth text rest plain blocks ih =>
      obtain ⟨notAttempt, -, closed⟩ := kind_plain plain
      refine ⟨⟨?_, ?_, ?_⟩, ih⟩
      · exact fun opening => by simp [closed] at opening
      · exact fun _ next isNext => Nat.le_of_eq (blocks.first next isNext).1
      · exact fun attempt => absurd attempt notAttempt
  | @block depth header body rest opening nonempty inner after ihBody ihRest =>
      obtain ⟨notAttempt, -, opened⟩ := kind_opening opening
      have outer := inner.outer fun next isNext => (after.first next isNext).1
      exact ⟨inner.nested_header nonempty opened rest fun attempt => absurd attempt notAttempt,
        ihBody.append outer ihRest⟩
  | @attempt depth handler body handling rest isHandler opened nonempty others inner handles after
      ihBody ihHandling ihRest =>
      obtain ⟨notAttempt, first⟩ := kind_handler isHandler
      have handled : Handled depth (body ++ ⟨depth, handler, false⟩ :: (handling ++ rest)) := by
        refine ⟨body, _, handling, rest, rfl, ?_, rfl, first, ?_⟩
        · rw [List.forall_mem_append]
          exact ⟨inner.le_depth, handles.le_depth⟩
        · intro next isNext
          obtain ⟨level, noHandler⟩ := after.first next isNext
          exact ⟨Nat.le_of_eq level, fun _ => noHandler⟩
      have outerBody := inner.outer
        (show ∀ next ∈ (⟨depth, handler, false⟩ :: (handling ++ rest)).head?, next.depth = depth by
          simp)
      have outerHandling := handles.outer fun next isNext => (after.first next isNext).1
      exact ⟨inner.nested_header nonempty (by decide) _ fun _ => handled,
        ihBody.append outerBody
          ⟨handles.nested_header others opened rest fun attempt => absurd attempt notAttempt,
            ihHandling.append outerHandling ihRest⟩⟩

theorem Blocks.paired {depth : Nat} {lines : List Line} (blocks : Blocks depth lines) :
    lines.countP (begins "except " ·.text) = lines.countP (·.text == "try:") := by
  induction blocks with
  | nil => rfl
  | line plain _ ih =>
      obtain ⟨notAttempt, notHandler, -⟩ := kind_plain plain
      simp [notAttempt, notHandler, ih]
  | block opening _ _ _ ihBody ihRest =>
      obtain ⟨notAttempt, notHandler, -⟩ := kind_opening opening
      simp [notAttempt, notHandler, ihBody, ihRest]
  | attempt isHandler _ _ _ _ _ _ ihBody ihHandling ihRest =>
      obtain ⟨notAttempt, first⟩ := kind_handler isHandler
      have notHandler : begins "except " "try:" = false := by decide
      simp only [List.countP_cons, List.countP_append, notAttempt, first, notHandler, ihBody,
        ihHandling, ihRest, beq_iff_eq, beq_self_eq_true]
      simp
      omega

end CurlScript.Script
