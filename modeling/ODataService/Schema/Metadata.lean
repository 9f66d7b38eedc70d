import ODataService.Schema.EdmType
import ODataService.Schema.ObjectType
import ODataService.Schema.Xml

/-!
# The `$metadata` document and the service document

Both list the entity sets of a service in the order of its registry. `$metadata` gives each one an
entity type with the key `id` and a property for every other declared field.
-/

namespace ODataService.Schema

/-- The property that is the key of every entity type. -/
def keyName : String := "id"

def propertyElement (name type nullable : String) : Xml :=
  .element "Property" [("Name", .text name), ("Type", .text type), ("Nullable", .text nullable)] []

/-- The declared fields that become properties: all but the key. -/
def properties (t : Option ObjectType) : Assoc Field :=
  match t with
  | some t => t.fields.filter (·.1 != keyName)
  | none => []

def entityType (name : String) (t : Option ObjectType) : Xml :=
  .element "EntityType" [("Name", .text name)]
    (.element "Key" [] [.element "PropertyRef" [("Name", .text keyName)] []] ::
      propertyElement keyName "Edm.String" "false" ::
      (properties t).map fun (field, f) => propertyElement field (edmType f.type) "true")

def entitySet (space name : String) : Xml :=
  .element "EntitySet" [("Name", .text name), ("EntityType", .text s!"{space}.{name}")] []

/-- The root element of the `$metadata` document of a namespace: its value as an attribute and the
text that stands for it in the names of entity types. -/
def metadataTree (types : Assoc (Option ObjectType)) (space : XmlValue) (spaceText : String) :
    Xml :=
  let container :=
    Xml.element "EntityContainer" [("Name", .text "Container")]
      (types.keys.map (entitySet spaceText))
  let schema :=
    Xml.element "Schema"
      [("xmlns", .text "http://docs.oasis-open.org/odata/ns/edm"), ("Namespace", space)]
      (types.map (fun (name, t) => entityType name t) ++ [container])
  .element "edmx:Edmx"
    [("xmlns:edmx", .text "http://docs.oasis-open.org/odata/ns/edmx"), ("Version", .text "4.0")]
    [.element "edmx:DataServices" [] [schema]]

/-- The object types of a registry by texts; a name of another kind cannot be published. -/
def publishedTypes : Registry → Except ValueFault (Assoc (Option ObjectType))
  | [] => .ok []
  | (.str name, t) :: g => (publishedTypes g).map ((name, t) :: ·)
  | (name, _) :: _ => .error (Xml.unwritable name.toJson)

/-- The `$metadata` document. The namespace is a text, but may be any value. -/
def metadataDocument (g : Registry) (space : Json) : Except ValueFault String := do
  let value ← Xml.attributeValue space
  let types ← publishedTypes g
  return Xml.document (metadataTree types value space.display)

/-- The field types of the published properties that are not known, in order. -/
def unknownTypes (g : Registry) : List String :=
  (g.flatMap fun (_, t) => (properties t).map fun (_, f) => f.type).filter
    fun type => (knownEdmType? type).isNone

/-- The URL of the `$metadata` document. -/
def metadataUrl (basePath : String) : String := s!"{basePath}/$metadata"

def serviceDocument (g : Registry) (basePath : String) : Json :=
  .obj [("@odata.context", .str (metadataUrl basePath)),
    ("value", .arr (g.keys.map fun name =>
      .obj [("name", name.toJson), ("kind", .str "EntitySet"), ("url", name.toJson)]))]

end ODataService.Schema
