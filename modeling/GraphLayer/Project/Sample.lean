import GraphLayer.Files.Store
import GraphLayer.Template.Starter

/-!
# A sample project

Two entities: one that is loaded in batches, and one that is loaded by one identifier at a time.

* `Sample.configuration` and `Sample.catalog`, the two files of the project;
* `Sample.write`, which puts them into a directory.
-/

namespace GraphLayer.Sample

open Starter (ofLines)

/-- The catalog. -/
def catalog : String := ofLines
  ["classes:",
   "  - name: Widget",
   "    members:",
   "      - \x7b name: getWidgetId, returns: long \x7d",
   "      - \x7b name: getName, returns: String \x7d",
   "      - \x7b name: isActive, returns: boolean \x7d",
   "      - \x7b name: getParts, returns: \"List<Part>\" \x7d",
   "  - name: WidgetService",
   "    members:",
   "      - name: getWidget",
   "        params: [\x7b name: widgetId, type: long \x7d]",
   "        returns: Widget",
   "      - name: getWidgets",
   "        params: [\x7b name: widgetIds, type: \"long[]\" \x7d]",
   "        returns: \"List<Widget>\"",
   "      - name: addWidget",
   "        params: [\x7b name: name, type: String \x7d]",
   "        returns: Widget",
   "      - name: deleteWidget",
   "        params: [\x7b name: widgetId, type: long \x7d]",
   "        returns: void",
   "  - name: Part",
   "    members:",
   "      - \x7b name: getPartId, returns: Long \x7d",
   "      - \x7b name: getLabel, returns: String \x7d",
   "  - name: PartService",
   "    members:",
   "      - name: getPart",
   "        params: [\x7b name: partId, type: long \x7d]",
   "        returns: Part",
   "      - name: findByLabel",
   "        params: [\x7b name: label, type: String \x7d]",
   "        returns: \"Part[]\""]

/-- The configuration. -/
def configuration : String := ofLines
  ["catalog: catalog.yaml",
   "output:",
   "  schema_dir: graphql",
   "  contract_dir: src/graphql/contract",
   "  implementation_dir: src/graphql/resolvers",
   "  loader_dir: src/graphql/loaders",
   "loader:",
   "  max_batch_size: 100",
   "  cache_ttl_ms: 60000",
   "  cache_max_size: 1000",
   "entities:",
   "  Part:",
   "    service: PartService",
   "  Widget:",
   "    service: WidgetService"]

variable {m : Type → Type} [Monad m] [FileStore m]

/-- Put the sample project into a directory; the path of its configuration, unless something
could not be written. -/
def write (dir : Path) : m (Option Path) := do
  let config := dir.join ⟨"servgraph.yaml"⟩
  if ← FileStore.createDirs dir then
    if ← FileStore.writeText (dir.join ⟨"catalog.yaml"⟩) catalog then
      if ← FileStore.writeText config configuration then
        return some config
  return none

end GraphLayer.Sample
