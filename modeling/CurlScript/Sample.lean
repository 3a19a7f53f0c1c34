/-!
Sample commands.
-/

namespace CurlScript.Sample

def first : String :=
  "curl 'https://api.github.com/users/octocat' -H 'Accept: application/json'"

def others : List String :=
  ["curl -X POST 'https://httpbin.org/post' -H 'Content-Type: application/json'" ++
    " -d '\x7b\"name\": \"John\"\x7d'",
   "curl 'https://api.example.com/data' -H 'Authorization: Bearer token123' -b 'session=abc'",
   "curl -X PUT 'https://api.example.com/users/1' -u admin:pass" ++
    " -d '\x7b\"status\": \"active\"\x7d' -k"]

def all : List String :=
  first :: others

def get (number : Int) : String :=
  all.getD ((number - 1).emod all.length).toNat first

end CurlScript.Sample
