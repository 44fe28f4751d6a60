import EventXref.Text.Age
import EventXref.Text.Break
import EventXref.Text.Category
import EventXref.Text.Script
import EventXref.Text.Trait

namespace EventXref.Text

namespace Property

def withoutIs : List Char → Option (List Char)
  | a :: b :: t => if a.toLower = 'i' ∧ b.toLower = 's' then some t else none
  | _ => none

/-- How names are compared: in lower case, without blanks, dashes, underscores and characters of
more than seven bits. A lone `isc` is a name of its own. -/
def normalName (name : List Char) : String :=
  let plain := fun (t : List Char) =>
    (t.filter fun c => !(c == ' ' || c == '-' || c == '_') && c.toNat < 0x80).map Char.toLower
  match withoutIs name with
  | none => String.ofList (plain name)
  | some t => if plain t = ['c'] then "isc" else String.ofList (plain t)

def categoriesFirst : List String := ["cf", "sc", "lc"]

def single? (name : List Char) : Option CharSet :=
  let name := normalName name
  let trait := if categoriesFirst.contains name then none else Trait.named? name
  trait <|> Category.named? name <|> Script.named? name

def valued? (property value : List Char) : Option CharSet :=
  let value := normalName value
  match normalName property with
  | "gc" | "generalcategory" => Category.named? value
  | "sc" | "script" => Script.named? value
  | "scx" | "scriptextensions" => Script.sharing? value
  | "age" => Age.named? value
  | "gcb" | "graphemeclusterbreak" => Break.named? Break.graphemeKinds value
  | "wb" | "wordbreak" => Break.named? Break.wordKinds value
  | "sb" | "sentencebreak" => Break.named? Break.sentenceKinds value
  | _ => none

/-- The characters that a description names, and whether it asks for all others instead. The first
of the signs for unequal, a colon and the sign for equal that occurs at all divides it. -/
def described? (t : List Char) : Option (CharSet × Bool) :=
  match Text.cut? ['!', '='] t with
  | some (property, value) => (valued? property value).map (·, true)
  | none =>
    match Text.cut? [':'] t <|> Text.cut? ['='] t with
    | some (property, value) => (valued? property value).map (·, false)
    | none => (single? t).map (·, false)

end Property

end EventXref.Text
