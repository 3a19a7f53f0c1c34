import CurlScript.Proofs.Script.Writer
import CurlScript.Script

/-!
The lines that a writer receives, each at the depth where it arrives. A script consists of the lines
of its imports, of its preamble and of its body, in this order.
-/

namespace CurlScript.Script

structure Line where
  depth : Nat
  text : String
  raw : Bool := false
deriving DecidableEq, Repr

namespace Line

def shown (line : Line) : String :=
  if line.raw then line.text else indentedLine line.depth line.text

def deeper (line : Line) : Line :=
  { line with depth := line.depth + 1 }

end Line

def handed : Nat → List Step → List Line
  | _, [] => []
  | depth, .line text :: rest => ⟨depth, text, false⟩ :: handed depth rest
  | depth, .raw text :: rest => ⟨depth, text, true⟩ :: handed depth rest
  | depth, .enter :: rest => handed (depth + 1) rest
  | depth, .leave :: rest => handed (depth - 1) rest

namespace Writer

theorem written_run (writer : Writer) (steps : List Step) :
    (writer.run steps).written =
      ((handed writer.depth steps).map Line.shown).reverse ++ writer.written := by
  induction steps generalizing writer with
  | nil => rfl
  | cons step rest ih =>
      change ((writer.step step).run rest).written = _
      rw [ih]
      cases step <;> simp [step, handed, Line.shown]

theorem handed_append (writer : Writer) (steps more : List Step) :
    handed writer.depth (steps ++ more) =
      handed writer.depth steps ++ handed (writer.run steps).depth more := by
  induction steps generalizing writer with
  | nil => rfl
  | cons step rest ih =>
      have tail := ih (writer.step step)
      cases step with
      | line text => exact congrArg _ tail
      | raw text => exact congrArg _ tail
      | enter => exact tail
      | leave => exact tail

theorem depth_run_stepsOf (writer : Writer) (pieces : List Piece) :
    (writer.run (Piece.stepsOf pieces)).depth = writer.depth := by
  rw [run_stepsOf]
  rfl

end Writer

def linesAt (depth : Nat) (pieces : List Piece) : List Line :=
  handed depth (Piece.stepsOf pieces)

theorem write_eq_textOfLines_shown (pieces : List Piece) :
    write pieces = textOfLines ((linesAt 0 pieces).map Line.shown) := by
  rw [write, Writer.text, Writer.written_run]
  simp [linesAt]

theorem handed_stepsOf_append (depth : Nat) (pieces : List Piece) (more : List Step) :
    handed depth (Piece.stepsOf pieces ++ more) = linesAt depth pieces ++ handed depth more := by
  have parts := Writer.handed_append { depth } (Piece.stepsOf pieces) more
  rwa [Writer.depth_run_stepsOf] at parts

theorem handed_lines_append (depth : Nat) (texts : List String) (more : List Step) :
    handed depth (texts.map .line ++ more) =
      texts.map (fun text => ⟨depth, text, false⟩) ++ handed depth more := by
  induction texts with
  | nil => rfl
  | cons text rest ih => exact congrArg _ ih

def callLines (depth : Nat) (head : String) (arguments : List String) (closer : String) :
    List Line :=
  ⟨depth, head, false⟩ ::
    (arguments.dropLast.map (· ++ ",") ++ arguments.getLast?.toList).map
      (fun text => ⟨depth + 1, text, false⟩) ++
    [⟨depth, closer, false⟩]

theorem withCommas_eq (arguments : List String) :
    withCommas arguments = arguments.dropLast.map (· ++ ",") ++ arguments.getLast?.toList := by
  fun_induction withCommas arguments with
  | case1 => rfl
  | case2 argument => rfl
  | case3 argument next rest ih => simpa using ih

section Pieces

variable (depth : Nat) (rest : List Piece)

@[simp]
theorem linesAt_nil : linesAt depth [] = [] :=
  rfl

@[simp]
theorem linesAt_line (text : String) :
    linesAt depth (.line text :: rest) = ⟨depth, text, false⟩ :: linesAt depth rest :=
  rfl

@[simp]
theorem linesAt_raw (text : String) :
    linesAt depth (.raw text :: rest) = ⟨depth, text, true⟩ :: linesAt depth rest :=
  rfl

@[simp]
theorem linesAt_call (head : String) (arguments : List String) (closer : String) :
    linesAt depth (.call head arguments closer :: rest) =
      callLines depth head arguments closer ++ linesAt depth rest := by
  have steps : Piece.stepsOf (.call head arguments closer :: rest) =
      .line head :: .enter :: ((withCommas arguments).map .line ++
        .leave :: .line closer :: Piece.stepsOf rest) := by
    simp [Piece.stepsOf, Piece.steps, callSteps]
  rw [linesAt, steps, handed, handed, handed_lines_append, callLines, ← withCommas_eq]
  simp [handed, linesAt]

@[simp]
theorem linesAt_indented (body : List Piece) :
    linesAt depth (.indented body :: rest) = linesAt (depth + 1) body ++ linesAt depth rest := by
  have steps : Piece.stepsOf (.indented body :: rest) =
      .enter :: (Piece.stepsOf body ++ .leave :: Piece.stepsOf rest) := by
    simp [Piece.stepsOf, Piece.steps]
  rw [linesAt, steps, handed, handed_stepsOf_append]
  rfl

@[simp]
theorem linesAt_block (header : String) (body : List Piece) :
    linesAt depth (.block header body :: rest) =
      ⟨depth, header, false⟩ :: (linesAt (depth + 1) body ++ linesAt depth rest) :=
  congrArg _ (linesAt_indented depth rest body)

@[simp]
theorem linesAt_append (pieces : List Piece) :
    linesAt depth (pieces ++ rest) = linesAt depth pieces ++ linesAt depth rest := by
  have steps : Piece.stepsOf (pieces ++ rest) = Piece.stepsOf pieces ++ Piece.stepsOf rest := by
    induction pieces with
    | nil => rfl
    | cons piece others ih =>
        rw [List.cons_append, Piece.stepsOf, Piece.stepsOf, ih, List.append_assoc]
  rw [linesAt, steps, handed_stepsOf_append]
  rfl

end Pieces

theorem callLines_succ (depth : Nat) (head : String) (arguments : List String) (closer : String) :
    callLines (depth + 1) head arguments closer =
      (callLines depth head arguments closer).map Line.deeper := by
  simp [callLines, Line.deeper, Function.comp_def]

theorem linesAt_succ (depth : Nat) : (pieces : List Piece) →
    linesAt (depth + 1) pieces = (linesAt depth pieces).map Line.deeper
  | [] => rfl
  | .line text :: rest => by simp [linesAt_succ depth rest, Line.deeper]
  | .raw text :: rest => by simp [linesAt_succ depth rest, Line.deeper]
  | .call head arguments closer :: rest => by
    simp [linesAt_succ depth rest, callLines_succ]
  | .block header body :: rest => by
    simp [linesAt_succ depth rest, linesAt_succ (depth + 1) body, Line.deeper]
  | .indented body :: rest => by
    simp [linesAt_succ depth rest, linesAt_succ (depth + 1) body]

def importLines (options : Options) : List Line :=
  linesAt 0 (if options.includeImports then imports options.library else [])

def preambleLines (request : Draft) : List Line :=
  linesAt 0 (preamble request)

def bodyLines (request : Draft) (options : Options) : List Line :=
  linesAt 0 (body request options)

def scriptLines (request : Draft) (options : Options) : List Line :=
  linesAt 0 (pieces request options)

theorem scriptLines_eq (request : Draft) (options : Options) :
    scriptLines request options =
      importLines options ++ preambleLines request ++ bodyLines request options := by
  simp [scriptLines, pieces, importLines, preambleLines, bodyLines]

theorem ofRequest_eq_textOfLines (request : Request) (options : Options) :
    ofRequest request options =
      textOfLines ((scriptLines request.toDraft options).map Line.shown) :=
  write_eq_textOfLines_shown (pieces request.toDraft options)

theorem ofRequest_of_toDraft {request : Draft} {sent : Request} (same : sent.toDraft = request)
    (options : Options) :
    ofRequest sent options = textOfLines ((scriptLines request options).map Line.shown) := by
  rw [ofRequest_eq_textOfLines, same]

end CurlScript.Script
