/-
# Configuration documents

Configuration files are YAML documents.
-/
import RouteDiscovery.Node.Load
import RouteDiscovery.Yaml.Node

namespace RouteDiscovery

/-- The reader of configuration files. -/
def yamlReader : DocumentReader Yaml.Node where
  parse text := (Yaml.Node.parse text).mapError Yaml.Error.message
  wrongForm := Yaml.Error.wrongForm.message

end RouteDiscovery
