/-!
# The starter project

* `Starter.files`, the files of a new project as templates of its name.
-/

namespace GraphLayer.Starter

/-- A file of the starter project. -/
structure File where
  name : String
  template : String

/-- Lines with a line feed after each of them. -/
def ofLines (lines : List String) : String := String.join (lines.map fun l => l ++ "\n")

/-- The configuration. -/
def configuration : String := ofLines
  ["# servgraph configuration for \x7b\x7bproject_name\x7d\x7d",
   "catalog: catalog.yaml",
   "",
   "output:",
   "  schema_dir: graphql",
   "  contract_dir: src/graphql/contract",
   "  implementation_dir: src/graphql/resolvers",
   "  loader_dir: src/graphql/loaders",
   "",
   "modules:",
   "  model: crate::model",
   "  service: crate::service",
   "",
   "loader:",
   "  max_batch_size: 100",
   "  cache_ttl_ms: 60000",
   "  cache_max_size: 1000",
   "",
   "entities:",
   "  Part:",
   "    service: PartService",
   "  Widget:",
   "    service: WidgetService",
   "    # methods:",
   "    #   read_one: fetchWidget",
   "    # operation_names:",
   "    #   getWidgets: widgetsById",
   "    # ignored_fields: [internalCode]",
   "    # overwrite:",
   "    #   implementation: true"]

/-- The catalog. -/
def catalog : String := ofLines
  ["# Service catalog for \x7b\x7bproject_name\x7d\x7d",
   "# List the model classes and service classes the generator may introspect.",
   "classes:",
   "  - name: Widget",
   "    members:",
   "      - \x7b name: getWidgetId, returns: long \x7d",
   "      - \x7b name: getName, returns: String \x7d",
   "      - \x7b name: isActive, returns: boolean \x7d",
   "      - \x7b name: getParts, returns: \"List<Part>\" \x7d",
   "  - name: WidgetService",
   "    members:",
   "      - name: getWidget",
   "        params: [\x7b name: widgetId, type: long \x7d]",
   "        returns: Widget",
   "      - name: getWidgets",
   "        params: [\x7b name: widgetIds, type: \"long[]\" \x7d]",
   "        returns: \"List<Widget>\"",
   "      - name: addWidget",
   "        params: [\x7b name: name, type: String \x7d]",
   "        returns: Widget",
   "      - name: deleteWidget",
   "        params: [\x7b name: widgetId, type: long \x7d]",
   "        returns: void",
   "  - name: Part",
   "    members:",
   "      - \x7b name: getPartId, returns: Long \x7d",
   "      - \x7b name: getLabel, returns: String \x7d",
   "  - name: PartService",
   "    members:",
   "      - name: getPart",
   "        params: [\x7b name: partId, type: long \x7d]",
   "        returns: Part",
   "      - name: findByLabel",
   "        params: [\x7b name: label, type: String \x7d]",
   "        returns: \"Part[]\""]

/-- The files of a new project, in order. -/
def files : List File := [⟨"servgraph.yaml", configuration⟩, ⟨"catalog.yaml", catalog⟩]

end GraphLayer.Starter
