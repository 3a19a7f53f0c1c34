/-!
Line ends: a carriage return, a line feed, or the two together.
-/

namespace CurlScript.Text

def unifyLines : List Char → List Char
  | [] => []
  | '\r' :: '\n' :: rest => '\n' :: unifyLines rest
  | c :: rest => (if c = '\r' then '\n' else c) :: unifyLines rest

def withUnixLines (text : String) : String :=
  String.ofList (unifyLines text.toList)

def dropFinalBreak : List Char → List Char
  | [] => []
  | ['\n'] => []
  | ['\r'] => []
  | '\r' :: '\n' :: rest => '\r' :: '\n' :: dropFinalBreak rest
  | c :: rest => c :: dropFinalBreak rest

theorem carriageReturn_not_mem_unifyLines (text : List Char) : '\r' ∉ unifyLines text := by
  fun_induction unifyLines text with
  | case1 => simp
  | case2 rest ih => simpa using ih
  | case3 c rest _ ih =>
    by_cases same : c = '\r'
    · simpa [same] using ih
    · simpa [same, eq_comm] using ih

end CurlScript.Text
