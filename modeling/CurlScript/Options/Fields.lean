import CurlScript.Record
import CurlScript.Options

/-!
Options from loosely typed fields.
-/

namespace CurlScript.Options

open Record

def library? : Reading Library := fun path value =>
  match value with
  | .text name =>
    match Library.ofName? name with
    | some library => .valid library
    | none => fail path .notChoice
  | _ => fail path .notChoice

def ofFields (fields : Entries String Json) : Checked Options :=
  let make library includeImports wrapAsync addErrorHandling useSession (_ : Unit) : Options :=
    { library, includeImports, wrapAsync, addErrorHandling, useSession }
  (required fields [] "library" library?).map make
    |>.ap (required fields [] "include_imports" bool)
    |>.ap (required fields [] "wrap_async" bool)
    |>.ap (required fields [] "add_error_handling" bool)
    |>.ap (required fields [] "use_session" bool)
    |>.ap (noOthers fields fieldNames)

end CurlScript.Options
