import SearchStore.Description.Config
import SearchStore.Finder
import SearchStore.Mapping.Registry
import SearchStore.Storage.Reader
import SearchStore.Storage.Writer

/-!
# Descriptions of components
-/

namespace SearchStore

/-- The fields that a connector shows. -/
def Connector.descriptionFields (c : Connector) (connected : Bool) : List (String × Description) :=
  [("name", .quoted c.name), ("config", c.config.description), ("connected", .bool connected)]

/-- The description of a connector over a given connection. -/
def Connector.staticDescription (c : Connector) (connected : Bool) : Description :=
  .record "StaticConnector" (c.descriptionFields connected) true

/-- The description of a connector that opens connections to the nodes. -/
def Connector.description (c : Connector) (connected : Bool) : Description :=
  .record "ElasticsearchConnector" (c.descriptionFields connected) false

/-- The description of a connection to a node. -/
def connectionDescription : Description := .record "ElasticsearchConnection" [] true

/-- The description of a finder. -/
def Finder.description {ι : Type} (f : Finder ι) : Description :=
  .record "ElasticsearchFinder"
    [("connector", .quoted f.connector.name), ("config", f.config.description)] true

/-- The description of a target. -/
def Target.description (t : Target) : Description :=
  .record "StorageTarget"
    [("index", t.index.description), ("doc_type", t.docType.description)] false

/-- The description of a writer. -/
def Writer.description (w : Writer) : Description :=
  .record "ElasticsearchWriter"
    [("connector", .quoted w.connector.name), ("target", w.target.description)] true

/-- The description of a reader. -/
def Reader.description {ι : Type} (r : Reader ι) : Description :=
  .record "ElasticsearchReader"
    [("connector", .quoted r.connector.name), ("target", r.target.description),
      ("offset", .word (toString r.offset.toNat))] true

/-- The description of a registry. -/
def Registry.description {ι : Type} (r : Registry ι) : Description :=
  .record "TypeRegistry" [("types", .texts r.types)] false

/-- The description of the mapper of a registry. -/
def Registry.mapperDescription {ι : Type} (r : Registry ι) : Description :=
  .record "RegistryMapper" [("registry", r.description)] false

end SearchStore
