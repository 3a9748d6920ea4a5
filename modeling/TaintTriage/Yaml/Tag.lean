/-!
The tags of the nodes of a document.  A tag is an address; those of the format itself begin with
one address in common and have a name behind it.
-/

namespace TaintTriage.Yaml

/-- A tag. -/
inductive Tag where
  | null | bool | int | float | binary | timestamp | str
  | seq | omap | pairs | map | set
  /-- The key under which further entries are merged in. -/
  | merge
  /-- The key of the value that a mapping itself stands for. -/
  | value
  /-- A tag that is not known here. -/
  | other (address : String)
deriving DecidableEq, Repr, Inhabited

/-- Where the tags of the format itself are. -/
def coreAddress : String := "tag:yaml.org,2002:"

namespace Tag

/-- The tags of the format itself by name. -/
def core : List (String × Tag) :=
  [("null", .null), ("bool", .bool), ("int", .int), ("float", .float), ("binary", .binary),
   ("timestamp", .timestamp), ("str", .str), ("seq", .seq), ("omap", .omap), ("pairs", .pairs),
   ("map", .map), ("set", .set), ("merge", .merge), ("value", .value)]

def ofAddress (address : String) : Tag :=
  let head := coreAddress.toList
  let s := address.toList
  if head.isPrefixOf s then
    (core.lookup (String.ofList (s.drop head.length))).getD (.other address)
  else .other address

example : ofAddress "tag:yaml.org,2002:int" = .int := by decide +kernel
example : ofAddress "!int" = .other "!int" := by decide +kernel

end Tag

end TaintTriage.Yaml
