import CurlScript.Proofs.Text.Padded

/-!
Lines moved to the right: spaces stand in front of every line but the first, which is to say behind
every line end.
-/

namespace CurlScript.Text

def lines (text : String) : List (List Char) :=
  pieces '\n' text.toList

def spaces (count : Nat) : List Char :=
  List.replicate count ' '

def shifted (count : Nat) : List (List Char) → List (List Char)
  | [] => []
  | first :: rest => first :: rest.map (spaces count ++ ·)

def pushed (count : Nat) (text : List Char) : List Char :=
  text.flatMap fun c => if c = '\n' then '\n' :: spaces count else [c]

theorem spaces_add (first second : Nat) : spaces (first + second) = spaces first ++ spaces second :=
  List.replicate_add first second ' '

theorem break_not_mem_spaces (count : Nat) : '\n' ∉ spaces count := by
  simp [spaces]

/-- A mark between two texts separates their pieces. -/
theorem pieces_append_mark (mark : Char) (before after : List Char) :
    pieces mark (before ++ mark :: after) = pieces mark before ++ pieces mark after := by
  induction before with
  | nil => simp [pieces]
  | cons c rest ih =>
      rw [List.cons_append, pieces, pieces, ih]
      split
      · rfl
      · obtain ⟨first, others, split⟩ := List.exists_cons_of_ne_nil (pieces_ne_nil mark rest)
        rw [split]
        rfl

theorem intercalate_lines (text : String) : List.intercalate ['\n'] (lines text) = text.toList := by
  have joined := joined_pieces '\n' text.toList
  rw [joined_eq_intercalate, String.toList_intercalate, List.map_map] at joined
  simpa [Function.comp_def, lines] using joined

theorem length_shifted (count : Nat) (all : List (List Char)) :
    (shifted count all).length = all.length := by
  cases all <;> simp [shifted]

theorem map_dropWhile_shifted (count : Nat) (all : List (List Char)) :
    (shifted count all).map (List.dropWhile (· == ' ')) = all.map (List.dropWhile (· == ' ')) := by
  have dropped : ∀ line : List Char,
      (spaces count ++ line).dropWhile (· == ' ') = line.dropWhile (· == ' ') := by
    intro line
    apply List.dropWhile_append_of_pos
    simp [spaces]
  cases all with
  | nil => rfl
  | cons first rest => simp [shifted, dropped]

section Pushed

variable (count : Nat)

theorem pushed_append (text more : List Char) :
    pushed count (text ++ more) = pushed count text ++ pushed count more :=
  List.flatMap_append

theorem pushed_break (text : List Char) :
    pushed count ('\n' :: text) = '\n' :: (spaces count ++ pushed count text) := by
  simp [pushed]

theorem pushed_eq_self {text : List Char} (unbroken : '\n' ∉ text) : pushed count text = text := by
  have each : ∀ c ∈ text, (if c = '\n' then '\n' :: spaces count else [c]) = [c] := by
    intro c member
    have noBreak : c ≠ '\n' := by
      rintro rfl
      exact unbroken member
    rw [if_neg noBreak]
  rw [pushed, List.flatMap_congr each, List.flatMap_singleton']

theorem pieces_pushed (text : List Char) :
    pieces '\n' (pushed count text) = shifted count (pieces '\n' text) := by
  fun_induction pieces '\n' text with
  | case1 => rfl
  | case2 rest ih =>
      obtain ⟨first, others, split⟩ := List.exists_cons_of_ne_nil (pieces_ne_nil '\n' rest)
      rw [pushed_break, pieces, if_pos rfl, pieces_append_left (break_not_mem_spaces count), ih,
        split]
      rfl
  | case3 c rest noBreak none ih => exact absurd none (pieces_ne_nil '\n' rest)
  | case4 c rest noBreak first others split ih =>
      have start : pushed count (c :: rest) = [c] ++ pushed count rest := by
        simp [pushed, noBreak]
      rw [start, pieces_append_left (by simpa using Ne.symm noBreak), ih, split]
      rfl

end Pushed

end CurlScript.Text
