import CurlScript.Yaml

/-!
Keys in order: numbers and times by value, texts by code points and bytes by their numbers. Keys of
different kinds have no order, nor have times with and without an offset.
-/

namespace CurlScript.Config

def before? (a b : Yaml.Scalar) : Option Bool :=
  match a.rank?, b.rank? with
  | some (.number a), some (.number b) => some (a.less b)
  | some (.text a), some (.text b) => some (a < b)
  | some (.bytes a), some (.bytes b) => some (a < b)
  | some (.date a), some (.date b) => some (a < b)
  | some (.moment zoned a), some (.moment zoned' b) =>
    if zoned = zoned' then some (a < b) else none
  | _, _ => none

def haveOrder (a b : Yaml.Scalar) : Bool :=
  (before? a b).isSome

def sorted? (keys : List Yaml.Scalar) : Option (List Yaml.Scalar) :=
  if keys.Pairwise fun a b => haveOrder a b then
    some (keys.mergeSort fun a b => before? b a ≠ some true)
  else none

end CurlScript.Config
