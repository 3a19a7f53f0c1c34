/-!
The flags of a command line and their spellings.
-/

namespace CurlScript.Command

inductive ValueFlag where
  | method
  | header
  | data
  | cookie
  | user
  | proxy
  | proxyUser
  | userAgent
  | referer
  | timeout
deriving DecidableEq, Repr

inductive Flag where
  | value (flag : ValueFlag)
  | insecure
  | ignored
deriving DecidableEq, Repr

def Flag.spellings : Flag → List String
  | .value .method => ["-X", "--request"]
  | .value .header => ["-H", "--header"]
  | .value .data => ["-d", "--data", "--data-raw", "--data-binary"]
  | .value .cookie => ["-b", "--cookie"]
  | .value .user => ["-u", "--user"]
  | .value .proxy => ["-x", "--proxy"]
  | .value .proxyUser => ["-U", "--proxy-user"]
  | .value .userAgent => ["-A", "--user-agent"]
  | .value .referer => ["-e", "--referer"]
  | .value .timeout => ["-m", "--max-time", "--connect-timeout"]
  | .insecure => ["-k", "--insecure"]
  | .ignored => ["--compressed", "-s", "--silent", "-S", "-i", "-v", "-L", "--location"]

def Flag.all : List Flag :=
  [.value .method, .value .header, .value .data, .value .cookie, .value .user, .value .proxy,
   .value .proxyUser, .value .userAgent, .value .referer, .value .timeout, .insecure, .ignored]

def Flag.ofToken? (token : String) : Option Flag :=
  Flag.all.find? fun flag => flag.spellings.contains token

theorem Flag.mem_all (flag : Flag) : flag ∈ Flag.all := by
  cases flag with
  | value flag => cases flag <;> decide
  | insecure => decide
  | ignored => decide

theorem Flag.ofToken?_spelling :
    ∀ flag ∈ Flag.all, ∀ token ∈ flag.spellings, Flag.ofToken? token = some flag := by
  decide

/-- A token spells a flag exactly when it is among the spellings of that flag. -/
theorem Flag.ofToken?_eq_some_iff (token : String) (flag : Flag) :
    Flag.ofToken? token = some flag ↔ token ∈ flag.spellings := by
  constructor
  · intro found
    simpa using List.find?_some found
  · exact fun spelled => Flag.ofToken?_spelling flag flag.mem_all token spelled

end CurlScript.Command
