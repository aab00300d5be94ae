import ItemQuery.Catalog.Entry
import ItemQuery.Json.Reader

/-! Catalogs: the items, the labels of their quality tiers and the data of the named sets, which is
kept as it came until a backend reads it. -/
namespace ItemQuery

structure Catalog where
  /-- In ascending order of tier. -/
  qualityLabels : List Text
  entries : List Entry
  backend : Option Text
  setData : Json

namespace Catalog

def defaultQualityLabels : List Text :=
  ["Poor", "Common", "Uncommon", "Rare", "Epic", "Legendary", "Artifact", "Heirloom"].map
    String.toList

def empty : Catalog := ⟨defaultQualityLabels, [], none, .null⟩

open Schema in
def read : Reader Catalog := readObject fun v =>
  Catalog.mk <$> optional "quality_labels" defaultQualityLabels (readList readText) v
    <*> optional "items" [] (readList Entry.read) v
    <*> optional "set_backend" none (nullable readText) v
    <*> optional "sets" .null Validated.valid v

/-- Reads a catalog from JSON text. -/
def parse (t : Text) : Validated Catalog :=
  match Json.parse? t with
  | some v => read v
  | none => .fail .malformedJson

end Catalog

end ItemQuery
