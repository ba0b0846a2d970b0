/-!
# Kinds of nodes

What a node of a document says it is, by its tag or by its look.
-/

namespace Chip8.Yaml

/-- What kind of value a node has. -/
inductive Kind where
  | null
  | truth
  | integer
  | fraction
  | text
  | binary
  | moment
  | sequence
  | mapping
  | set
  /-- A sequence of mappings with one entry each, as pairs. -/
  | pairs
  /-- As a key it merges other mappings into a mapping; it has no value. -/
  | merge
  /-- As a key it is a text, and tells the value of a mapping of another kind; it has no value. -/
  | default
  /-- Another kind, of which there are no values. -/
  | other
deriving DecidableEq, Repr

namespace Kind

/-- The beginning of the tags of the format itself. -/
def coreTag : String := "tag:yaml.org,2002:"

/-- The tags of the format itself, without their beginning. -/
def names : List (String × Kind) :=
  [("null", null), ("bool", truth), ("int", integer), ("float", fraction), ("str", text),
    ("binary", binary), ("timestamp", moment), ("seq", sequence), ("map", mapping), ("set", set),
    ("omap", pairs), ("pairs", pairs), ("merge", merge), ("value", default)]

/-- The kind that a tag names. -/
def ofTag (tag : String) : Kind :=
  ((names.find? fun (name, _) => coreTag ++ name == tag).map (·.2)).getD other

end Kind

end Chip8.Yaml
