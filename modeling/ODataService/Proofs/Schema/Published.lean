import ODataService.Proofs.Schema.XmlRoundTrip
import ODataService.Schema.Metadata

/-!
# What a service publishes about its entity sets

A client reads the `$metadata` document as a model (`readModel?`): the entity types with their keys
and properties, and the entity sets. For every registry this is the model that its object types
describe (`Model.describe`), whatever characters their names and the names of their fields consist
of, and the service document lists the same entity sets (`metadata_read_back`).
-/

namespace ODataService.Schema

open Xml (isLegalText)

/-! ## Models -/

structure Model.Property where
  name : String
  type : String
  nullable : Bool
deriving DecidableEq, Repr

structure Model.EntityType where
  name : String
  key : String
  properties : List Model.Property
deriving DecidableEq, Repr

structure Model.EntitySet where
  name : String
  type : String
deriving DecidableEq, Repr

/-- What a client knows of a service. -/
structure Model where
  space : String
  types : List Model.EntityType
  sets : List Model.EntitySet
deriving DecidableEq, Repr

/-- The fields that an object type declares; a name without a declaration has none. -/
def fieldsOf (t : Option ObjectType) : Assoc Field := t.elim [] ObjectType.fields

namespace Model

/-- The entity type of an object type: behind the key, a property for every field that is not
called like it. -/
def EntityType.describe (name : String) (t : Option ObjectType) : EntityType where
  name := name
  key := "id"
  properties := ⟨"id", "Edm.String", false⟩ ::
    ((fieldsOf t).filter fun e => e.1 ≠ "id").map fun (field, f) => ⟨field, edmType f.type, true⟩

/-- The model of a registry. -/
def describe (space : String) (types : Assoc (Option ObjectType)) : Model where
  space := space
  types := types.map fun (name, t) => .describe name t
  sets := types.keys.map fun name => ⟨name, space ++ "." ++ name⟩

/-! ## Reading models -/

def readFlag? (s : String) : Option Bool :=
  match s with
  | "true" => some true
  | "false" => some false
  | _ => none

def Property.ofXml? : Xml → Option Property
  | .element "Property" [("Name", .text name), ("Type", .text type), ("Nullable", .text flag)] [] =>
    (readFlag? flag).map fun nullable => ⟨name, type, nullable⟩
  | _ => none

def EntityType.ofXml? : Xml → Option EntityType
  | .element "EntityType" [("Name", .text name)]
      (.element "Key" [] [.element "PropertyRef" [("Name", .text key)] []] :: properties) =>
    (properties.mapM Property.ofXml?).map fun properties => ⟨name, key, properties⟩
  | _ => none

def EntitySet.ofXml? : Xml → Option EntitySet
  | .element "EntitySet" [("Name", .text name), ("EntityType", .text type)] [] => some ⟨name, type⟩
  | _ => none

def readContainer? : Xml → Option (List EntitySet)
  | .element "EntityContainer" [("Name", .text _)] sets => sets.mapM EntitySet.ofXml?
  | _ => none

/-- The model of a schema: its entity types, and its container behind them. -/
def ofSchema? : Xml → Option Model
  | .element "Schema"
      [("xmlns", .text "http://docs.oasis-open.org/odata/ns/edm"), ("Namespace", .text space)]
      children => do
    let types ← children.dropLast.mapM EntityType.ofXml?
    let container ← children.getLast?
    let sets ← readContainer? container
    return ⟨space, types, sets⟩
  | _ => none

def ofXml? : Xml → Option Model
  | .element "edmx:Edmx"
      [("xmlns:edmx", .text "http://docs.oasis-open.org/odata/ns/edmx"), ("Version", .text "4.0")]
      [.element "edmx:DataServices" [] [schema]] => ofSchema? schema
  | _ => none

end Model

/-- Reads the model in a `$metadata` document. -/
def readModel? (document : String) : Option Model := (Xml.read? document).bind Model.ofXml?

/-- Reads the name of an entity set in a service document. -/
def listedName? : Json → Option String
  | .obj entry =>
    match Json.member entry "kind", Json.member entry "name" with
    | .str "EntitySet", .str name => some name
    | _, _ => none
  | _ => none

/-- Reads the names of the entity sets that a service document lists. -/
def listedNames? : Json → Option (List String)
  | .obj members =>
    match Json.member members "value" with
    | .arr entries => entries.mapM listedName?
    | _ => none
  | _ => none

/-! ## The tree is read as the model -/

/-- What is read of each element is what each was made from. -/
theorem mapM_map_some {α β γ : Type} {g : β → Option γ} {f : α → β} {k : α → γ}
    (h : ∀ a, g (f a) = some (k a)) (as : List α) : (as.map f).mapM g = some (as.map k) := by
  have hcomp : g ∘ f = fun a => some (k a) := funext h
  rw [List.mapM_map, hcomp]
  exact List.mapM_pure

/-- The element of a field is read as that property. -/
theorem ofXml?_propertyElement (field : String × Field) :
    Model.Property.ofXml? (propertyElement field.1 (edmType field.2.type) "true") =
      some ⟨field.1, edmType field.2.type, true⟩ := rfl

/-- All fields are published but the one that would be the key a second time. -/
theorem properties_eq (t : Option ObjectType) :
    properties t = (fieldsOf t).filter fun e => e.1 ≠ "id" := by
  cases t <;> simp [properties, fieldsOf, keyName, bne, beq_eq_decide]

/-- The element of an entity type is read as the type. -/
theorem ofXml?_entityType (e : String × Option ObjectType) :
    Model.EntityType.ofXml? (entityType e.1 e.2) = some (.describe e.1 e.2) := by
  have hproperties := mapM_map_some ofXml?_propertyElement (properties e.2)
  -- the key is published first, and it is never null
  have hkey : Model.Property.ofXml? (propertyElement keyName "Edm.String" "false") =
      some ⟨"id", "Edm.String", false⟩ := rfl
  rw [properties_eq] at hproperties
  rw [entityType, properties_eq, Model.EntityType.ofXml?, List.mapM_cons, hkey, hproperties]
  rfl

/-- The element of an entity set is read as the set. -/
theorem ofXml?_entitySet (space name : String) :
    Model.EntitySet.ofXml? (entitySet space name) = some ⟨name, space ++ "." ++ name⟩ :=
  rfl

/-- The tree of the metadata is read as the model. -/
theorem ofXml?_metadataTree (types : Assoc (Option ObjectType)) (space : String) :
    Model.ofXml? (metadataTree types (.text space) space) = some (.describe space types) := by
  have htypes := mapM_map_some ofXml?_entityType types
  have hsets := mapM_map_some (ofXml?_entitySet space) types.keys
  -- the container is the last child of the schema, the types are those in front
  rw [metadataTree, Model.ofXml?, Model.ofSchema?, List.dropLast_concat, List.getLast?_concat,
    htypes]
  simp [Model.readContainer?, hsets]
  rfl

/-! ## The tree is written so that it can be read -/

/-- Whether documents may hold the names of all object types of a registry and of their fields. -/
def legalNames (types : Assoc (Option ObjectType)) : Bool :=
  types.all fun (name, t) => isLegalText name && (fieldsOf t).keys.all isLegalText

/-- Two legal texts are legal in a row. -/
theorem isLegalText_append (a b : String) :
    isLegalText (a ++ b) = (isLegalText a && isLegalText b) := by
  simp [isLegalText]

/-- The name of a type is legal. -/
theorem isLegalText_edmType (type : String) : isLegalText (edmType type) = true := by
  -- whatever the type of the field, its EDM type is one of the table's, or the default
  have htable : ∀ e ∈ edmTypes, isLegalText e.2 = true := by decide
  unfold edmType knownEdmType?
  cases h : edmTypes.lookup type with
  | none => decide
  | some edm =>
    obtain ⟨front, behind, hedm, -⟩ := List.lookup_eq_some_iff.1 h
    exact htable (type, edm) (by rw [hedm]; simp)

open Xml (Readable ReadableAttribute)

/-- The element of a property can be read back. -/
theorem readable_propertyElement {name type nullable : String} (hname : isLegalText name = true)
    (htype : isLegalText type = true) (hnullable : isLegalText nullable = true) :
    Readable (propertyElement name type nullable) := by
  refine .element (by decide) ?_ (by simp) (by simp)
  simp only [List.forall_mem_cons, List.not_mem_nil, false_imp_iff, implies_true, and_true]
  exact ⟨.text (by decide) hname, .text (by decide) htype, .text (by decide) hnullable⟩

/-- The element of an entity type can be read back. -/
theorem readable_entityType {name : String} {t : Option ObjectType}
    (hname : isLegalText name = true) (hfields : (fieldsOf t).keys.all isLegalText = true) :
    Readable (entityType name t) := by
  have hreference : Readable (.element "PropertyRef" [("Name", .text keyName)] []) :=
    .element (by decide) (by simpa using .text (by decide) (by decide)) (by simp) (by simp)
  have hkey : Readable (.element "Key" [] [.element "PropertyRef" [("Name", .text keyName)] []]) :=
    .element (by decide) (by simp) (by simp) (by simpa using hreference)
  -- the names are those of the fields, and the types are those of the table
  have hproperties : ∀ e ∈ properties t,
      Readable (propertyElement e.1 (edmType e.2.type) "true") := by
    intro e he
    have hfield : isLegalText e.1 = true := by
      rw [properties_eq] at he
      exact List.all_eq_true.1 hfields _ (List.mem_map_of_mem (List.mem_filter.1 he).1)
    exact readable_propertyElement hfield (isLegalText_edmType _) (by decide)
  refine .element (by decide) (by simpa using .text (by decide) hname) (by simp) ?_
  simp only [List.forall_mem_cons, List.forall_mem_map]
  exact ⟨hkey, readable_propertyElement (by decide) (by decide) (by decide), hproperties⟩

/-- The element of an entity set can be read back. -/
theorem readable_entitySet {space name : String} (hspace : isLegalText space = true)
    (hname : isLegalText name = true) : Readable (entitySet space name) := by
  -- the type is named with the name space in front
  have htype : isLegalText (space ++ "." ++ name) = true := by
    simp only [isLegalText_append, hspace, hname]
    decide
  refine .element (by decide) ?_ (by simp) (by simp)
  simp only [List.forall_mem_cons, List.not_mem_nil, false_imp_iff, implies_true, and_true]
  exact ⟨.text (by decide) hname, .text (by decide) htype⟩

/-- The element of the container can be read back. -/
theorem readable_container {space : String} {names : List String}
    (hspace : isLegalText space = true) (hnames : ∀ name ∈ names, isLegalText name = true) :
    Readable (.element "EntityContainer" [("Name", .text "Container")]
      (names.map (entitySet space))) := by
  refine .element (by decide) (by simpa using .text (by decide) (by decide)) (by simp) ?_
  rw [List.forall_mem_map]
  exact fun name hname => readable_entitySet hspace (hnames name hname)

/-- The element of the schema can be read back. -/
theorem readable_schema {space : String} {children : List Xml} (hspace : isLegalText space = true)
    (hchildren : ∀ x ∈ children, Readable x) :
    Readable (.element "Schema"
      [("xmlns", .text "http://docs.oasis-open.org/odata/ns/edm"), ("Namespace", .text space)]
      children) := by
  refine .element (by decide) ?_ (by simp) hchildren
  simp only [List.forall_mem_cons, List.not_mem_nil, false_imp_iff, implies_true, and_true]
  exact ⟨.text (by decide) (by decide), .text (by decide) hspace⟩

/-- The tree of the metadata can be read back. -/
theorem readable_metadataTree {types : Assoc (Option ObjectType)} {space : String}
    (hspace : isLegalText space = true) (hnames : legalNames types = true) :
    Readable (metadataTree types (.text space) space) := by
  simp only [legalNames, List.all_eq_true, Bool.and_eq_true] at hnames
  have hkeys : ∀ name ∈ types.keys, isLegalText name = true := by
    rw [Assoc.keys, List.forall_mem_map]
    exact fun e he => (hnames e he).1
  have htypes : ∀ e ∈ types, Readable (entityType e.1 e.2) := fun e he =>
    readable_entityType (hnames e he).1 (List.all_eq_true.2 (hnames e he).2)
  -- from the inside out: the schema, the services, and the document
  have hschema := readable_schema hspace (List.forall_mem_append.2 ⟨List.forall_mem_map.2 htypes,
    List.forall_mem_singleton.2 (readable_container hspace hkeys)⟩)
  have hservices : Readable (.element "edmx:DataServices" [] [_]) :=
    .element (by decide) (by simp) (by simp) (by simpa using hschema)
  refine .element (by decide) ?_ (by simp) (by simpa using hservices)
  simp only [List.forall_mem_cons, List.not_mem_nil, false_imp_iff, implies_true, and_true]
  exact ⟨.text (by decide) (by decide), .text (by decide) (by decide)⟩

/-- The types are published as they are declared. -/
theorem publishedTypes_ofAssoc (types : Assoc (Option ObjectType)) :
    publishedTypes (Keyed.ofAssoc types) = .ok types := by
  induction types with
  | nil => rfl
  | cons e types ih =>
    show (publishedTypes (Keyed.ofAssoc types)).map ((e.1, e.2) :: ·) = .ok (e :: types)
    rw [ih]
    rfl

/-- The service document lists the entity sets in their order. -/
theorem listedNames?_serviceDocument (types : Assoc (Option ObjectType)) (basePath : String) :
    listedNames? (serviceDocument (Keyed.ofAssoc types) basePath) = some types.keys := by
  -- each entry tells the name it was made for
  have hentry (name : String) : listedName? (.obj [("name", .str name), ("kind", .str "EntitySet"),
      ("url", .str name)]) = some name := rfl
  have hnames := mapM_map_some hentry types.keys
  rw [List.map_id'] at hnames
  have hkeys : (Keyed.ofAssoc types).keys = types.keys.map .str := by
    simp [Keyed.keys, Keyed.ofAssoc, Assoc.keys]
  rw [serviceDocument, hkeys, List.map_map]
  exact hnames

/-- No two properties of an entity type are called alike, since no two fields are. -/
theorem nodup_describe {name : String} {t : Option ObjectType} (h : (fieldsOf t).keys.Nodup) :
    ((Model.EntityType.describe name t).properties.map Model.Property.name).Nodup := by
  -- the key comes first, and a field of its name is left out
  have hnames : (Model.EntityType.describe name t).properties.map Model.Property.name =
      "id" :: (fieldsOf t).keys.filter (· ≠ "id") := by
    rw [Model.EntityType.describe, List.map_cons, List.map_map, Assoc.keys, List.filter_map]
    rfl
  rw [hnames, List.nodup_cons]
  exact ⟨by simp, h.filter _⟩

/-- The metadata are the document of the tree. -/
theorem metadataDocument_ofAssoc (types : Assoc (Option ObjectType)) (space : String) :
    metadataDocument (Keyed.ofAssoc types) (.str space) =
      .ok (Xml.document (metadataTree types (.text space) space)) := by
  rw [metadataDocument, publishedTypes_ofAssoc]
  rfl

/-- **`$metadata` can be read back.** The document of a registry is read as the model that the
registry describes, whatever legal characters are in its names. The properties of an entity type
have different names, and the service document lists the entity sets of the model. -/
theorem metadata_read_back {types : Assoc (Option ObjectType)} {space : String} (basePath : String)
    (hspace : isLegalText space = true) (hnames : legalNames types = true) :
    (∃ document, metadataDocument (Keyed.ofAssoc types) (.str space) = .ok document ∧
      readModel? document = some (.describe space types)) ∧
    ((∀ e ∈ types, (fieldsOf e.2).keys.Nodup) → ∀ t ∈ (Model.describe space types).types,
      (t.properties.map Model.Property.name).Nodup) ∧
    listedNames? (serviceDocument (Keyed.ofAssoc types) basePath) = some types.keys := by
  -- the text is read as the tree, and the tree as the model
  have hread : readModel? (Xml.document (metadataTree types (.text space) space)) =
      some (.describe space types) := by
    rw [readModel?, Xml.read?_document (readable_metadataTree hspace hnames)]
    exact ofXml?_metadataTree types space
  refine ⟨⟨_, metadataDocument_ofAssoc types space, hread⟩, ?_,
    listedNames?_serviceDocument types basePath⟩
  intro hfields t ht
  obtain ⟨e, he, rfl⟩ := List.mem_map.1 ht
  exact nodup_describe (hfields e he)

/-- The registry of an entity set whose names look like markup, and of one without a declaration. -/
def markupTypes : Assoc (Option ObjectType) :=
  [("a\" Name=\"b", some { name := "a", fields := [("x</Property>", { type := "number" }),
      ("id", {}), ("&lt;\n\t", { type := "unheard of" })] }), ("Plain", none)]

theorem metadata_read_back_markup :
    isLegalText "N & 'S'" = true ∧ legalNames markupTypes = true ∧
    (∃ document, metadataDocument (Keyed.ofAssoc markupTypes) (.str "N & 'S'") = .ok document ∧
      readModel? document = some {
        space := "N & 'S'"
        types := [
          ⟨"a\" Name=\"b", "id", [⟨"id", "Edm.String", false⟩, ⟨"x</Property>", "Edm.Double", true⟩,
            ⟨"&lt;\n\t", "Edm.String", true⟩]⟩,
          ⟨"Plain", "id", [⟨"id", "Edm.String", false⟩]⟩]
        sets := [⟨"a\" Name=\"b", "N & 'S'.a\" Name=\"b"⟩, ⟨"Plain", "N & 'S'.Plain"⟩] }) ∧
    (∀ t ∈ (Model.describe "N & 'S'" markupTypes).types,
      (t.properties.map Model.Property.name).Nodup) ∧
    listedNames? (serviceDocument (Keyed.ofAssoc markupTypes) "/odata") =
      some ["a\" Name=\"b", "Plain"] := by
  have hspace : isLegalText "N & 'S'" = true := by decide
  have hnames : legalNames markupTypes = true := by decide
  have hfields : ∀ e ∈ markupTypes, (fieldsOf e.2).keys.Nodup := by decide
  obtain ⟨⟨document, hdocument, hmodel⟩, hnodup, hlisted⟩ :=
    metadata_read_back "/odata" hspace hnames
  exact ⟨hspace, hnames, ⟨document, hdocument, hmodel⟩, hnodup hfields, hlisted⟩

end ODataService.Schema
