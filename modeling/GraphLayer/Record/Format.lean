import GraphLayer.Json.Reader
import GraphLayer.Record.Decode
import GraphLayer.Toml.Reader
import GraphLayer.Yaml.Reader

/-!
# The formats of catalogs and configurations

* `Format`, with `Format.read?`, which reads a text as a tree;
* `Catalog.read` and `GeneratorConfig.read?`, a catalog and a configuration from a text;
* `Catalog.formatOf` and `GeneratorConfig.formatOf`, the format that a path stands for.
-/

namespace GraphLayer

/-- The formats of documents. -/
inductive Format where
  | json
  | yaml
  | toml
  deriving DecidableEq, Repr

/-- Read a text as a tree. -/
def Format.read? (f : Format) (text : String) : Option Node :=
  match f with
  | .json => (Json.read? text).map Node.ofJson
  | .yaml => Yaml.read? text
  | .toml => Toml.read? text

/-- Why a text is no catalog. -/
inductive CatalogFault where
  /-- It is no document of its format, or a document of something else. -/
  | unreadable
  | repeated (e : RepeatedClass)
  deriving DecidableEq, Repr

namespace Catalog

/-- The format of the file of a catalog, which is `yaml` unless its extension is `json`. -/
def formatOf (p : Path) : Format := if p.hasExtension "json" then .json else .yaml

/-- Read a catalog, whose classes must be declared once. -/
def read (f : Format) (text : String) : Except CatalogFault Catalog :=
  match (f.read? text).bind Catalog.ofNode? with
  | none => .error .unreadable
  | some c => (ofClasses c.classes).mapError .repeated

end Catalog

namespace GeneratorConfig

/-- The format of the file of a configuration, which is `yaml` unless its extension is `toml`. -/
def formatOf (p : Path) : Format := if p.hasExtension "toml" then .toml else .yaml

/-- Read a configuration. -/
def read? (f : Format) (text : String) : Option GeneratorConfig :=
  (f.read? text).bind GeneratorConfig.ofNode?

end GeneratorConfig

end GraphLayer
