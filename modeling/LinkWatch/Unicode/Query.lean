import LinkWatch.Unicode.Age
import LinkWatch.Unicode.Property
import LinkWatch.Unicode.Script
import LinkWatch.Unicode.Segmentation

/-!
# Sets by name

The set that a name stands for: of a property, a category or a script by itself, or of a property
with a value. Names are compared without regard to case, blanks, hyphens and underscores.
-/

namespace LinkWatch.Unicode

/-- A name without its blanks, hyphens, underscores and leading `is`, in lower case. -/
def normalName (name : String) : String :=
  let keep (cs : List Char) : List Char :=
    (cs.filter fun c => c.toNat < 128 && c != ' ' && c != '_' && c != '-').map Char.toLower
  match name.toList with
  | a :: b :: r =>
    if a.toLower = 'i' ∧ b.toLower = 's' then
      if keep r = ['c'] then "isc" else String.ofList (keep r)
    else String.ofList (keep (a :: b :: r))
  | cs => String.ofList (keep cs)

/-- The set of a property, a category or a script by its name alone. -/
def namedSet? (name : String) : Option CharSet :=
  let n := normalName name
  (propertySet? n).orElse fun _ => (categorySet? n).orElse fun _ => scriptSet? n

/-- The set of a property with a value. -/
def valuedSet? (property value : String) : Option CharSet :=
  let v := normalName value
  match normalName property with
  | "generalcategory" | "gc" => categorySet? v
  | "script" | "sc" => scriptSet? v
  | "scriptextensions" | "scx" => scriptExtensionSet? v
  | "age" => ageSet? v
  | "graphemeclusterbreak" | "gcb" => breakSet? clusterBreaks v
  | "wordbreak" | "wb" => breakSet? wordBreaks v
  | "sentencebreak" | "sb" => breakSet? sentenceBreaks v
  | _ => none

end LinkWatch.Unicode
