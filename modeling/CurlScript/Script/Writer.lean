import CurlScript.Script.Piece

/-!
Writing a script step by step: a buffer of lines and the depth of the next one.
-/

namespace CurlScript.Script

structure Writer where
  written : List String := []
  depth : Nat := 0
deriving DecidableEq, Repr

inductive Step where
  | line (text : String)
  | raw (text : String)
  | enter
  | leave
deriving DecidableEq, Repr

namespace Writer

def step (writer : Writer) : Step → Writer
  | .line text => { writer with written := indentedLine writer.depth text :: writer.written }
  | .raw text => { writer with written := text :: writer.written }
  | .enter => { writer with depth := writer.depth + 1 }
  | .leave => { writer with depth := writer.depth - 1 }

def run (writer : Writer) (steps : List Step) : Writer :=
  steps.foldl step writer

def text (writer : Writer) : String :=
  textOfLines writer.written.reverse

end Writer

def callSteps (head : String) (arguments : List String) (closer : String) : List Step :=
  .line head :: .enter :: (withCommas arguments).map .line ++ [.leave, .line closer]

mutual

def Piece.steps : Piece → List Step
  | .line text => [.line text]
  | .raw text => [.raw text]
  | .call head arguments closer => callSteps head arguments closer
  | .block header body => .line header :: .enter :: Piece.stepsOf body ++ [.leave]
  | .indented body => .enter :: Piece.stepsOf body ++ [.leave]

def Piece.stepsOf : List Piece → List Step
  | [] => []
  | piece :: rest => piece.steps ++ Piece.stepsOf rest

end

def write (pieces : List Piece) : String :=
  (({} : Writer).run (Piece.stepsOf pieces)).text

end CurlScript.Script
