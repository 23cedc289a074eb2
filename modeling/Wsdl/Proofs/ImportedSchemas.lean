-- What the schemas that a description imports can change. They are looked at
-- in one place, where each is compared with its import, and what they declare
-- is put among the components, where nothing looks at it. So whatever the
-- files are that imports lead to, the rest of a reading is the same.
import Wsdl.Proofs.DroppedRepeats
import Wsdl.Proofs.Reordering

namespace Wsdl

/-! ## Descriptions without imported schemas -/

namespace Written

/-- The schema without the document that was found for an import. -/
def Schema.withoutDocument : Schema → Schema
  | imported s => imported { s with document := none }
  | inline s => inline s

def Types.withoutDocuments (t : Types) : Types :=
  { t with schemas := t.schemas.map Schema.withoutDocument }

/-- The description as if no imported schema had been found. -/
def Description.withoutDocuments (w : Description) : Description :=
  { w with types := w.types.map Types.withoutDocuments }

@[simp] theorem Schema.targetNamespace_withoutDocument (s : Schema) :
    s.withoutDocument.targetNamespace = s.targetNamespace := by
  cases s <;> rfl

@[simp] theorem Types.inline_withoutDocuments (t : Types) :
    t.withoutDocuments.inline = t.inline := by
  rw [inline, inline, withoutDocuments, List.filterMap_map]
  refine congrArg (List.filterMap · _) (funext fun s => ?_)
  cases s <;> rfl

end Written

open Written (Schema)

namespace Sources

theorem map_withoutDocument_attach (limits : Limits)
    (find? : Option String → Option String → Option Written.SchemaDocument) (count : Nat)
    (ss : List Schema) :
    (attach limits find? count ss).map Schema.withoutDocument
      = ss.map Schema.withoutDocument := by
  induction ss generalizing count with
  | nil => rfl
  | cons s ss ih =>
    cases s with
    | imported i => rw [attach, List.map_cons, List.map_cons, ih]; rfl
    | inline i => rw [attach, List.map_cons, List.map_cons, ih]

/-- Completing a description does no more than to add the documents. -/
theorem withoutDocuments_complete (s : Sources) (base : Option Iri) (w : Written.Description) :
    (s.complete base w).withoutDocuments = w.withoutDocuments := by
  have htypes (t : Written.Types) :
      { t with schemas := attach s.limits (s.schema? base) 0 t.schemas }.withoutDocuments
        = t.withoutDocuments := by
    simp only [Written.Types.withoutDocuments, map_withoutDocument_attach]
  simp only [complete, Written.Description.withoutDocuments, Option.map_map, Function.comp_def,
    htypes]

end Sources

/-! ## Components without declarations -/

namespace Component

/-- The components without the names that schemas declare. -/
def Description.withoutDeclarations (d : Description) : Description :=
  { d with elements := [], types := [] }

theorem sameNames_withoutDeclarations (d : Description) : SameNames d.withoutDeclarations d :=
  ⟨rfl, rfl⟩

/-- The operation that is bound is found by the names of interfaces. -/
theorem deriveBindingOperation_congr {d d' : Description} (h : d.interface? = d'.interface?) :
    deriveBindingOperation d = deriveBindingOperation d' := by
  funext i o
  simp only [deriveBindingOperation, patternOf, Description.operation?_congr h]

theorem deriveBinding_withoutDocuments (w : Written.Description) :
    deriveBinding w.withoutDocuments (interfacePart w.withoutDocuments)
      = deriveBinding w (interfacePart w) := by
  have hnames : (interfacePart w.withoutDocuments).interface? = (interfacePart w).interface? := rfl
  funext b
  simp only [deriveBinding, deriveBindingOperation_congr hnames, hnames]
  rfl

/-- Imported schemas make no difference to the components but for what they
declare. -/
theorem derive_withoutDocuments (w : Written.Description) :
    (derive w.withoutDocuments).withoutDeclarations = (derive w).withoutDeclarations := by
  simp only [derive, Description.withoutDeclarations, deriveBinding_withoutDocuments]
  rfl

end Component

/-! ## What the checks look at -/

/-- Whether the violation is about the target namespace of an imported
schema. -/
def Violation.isAboutImported (v : Violation) : Bool :=
  v.id == "Schema-1069" || v.id == "Schema-1070"

namespace Log

/-- The log without violations about imported schemas. -/
def withoutImported (l : Log) : Log := l.filter (! ·.isAboutImported)

theorem withoutImported_append_eq (l m : Log) :
    (l ++ m).withoutImported = l.withoutImported ++ m.withoutImported := List.filter_append ..

/-- What is left out of both parts is not missed where repeats are dropped: it
could only repeat what is left out too. -/
theorem withoutImported_append (earlier later : Log) :
    (Log.append earlier later).withoutImported
      = Log.append earlier.withoutImported later.withoutImported := by
  simp only [Log.append, withoutImported, List.filter_append, List.filter_filter]
  congr 1
  refine List.filter_congr fun v _ => ?_
  cases hv : v.isAboutImported <;> simp [hv]

end Log

namespace Check

open Component Written

section

variable (w : Written.Description) (d : Component.Description)

theorem withoutImported_importedSchema (s : ImportedSchema) :
    Log.withoutImported (importedSchema s) = [] := by
  refine List.filter_eq_nil_iff.2 fun v hv => ?_
  rcases List.mem_append.1 hv with hv | hv
  · obtain ⟨_, _, rfl⟩ := List.mem_map.1 hv
    simp [Violation.isAboutImported, Rule.violationAt, Rule.id]
  · obtain ⟨_, _, rfl⟩ := List.mem_map.1 hv
    simp [Violation.isAboutImported, Rule.violationAt, Rule.id]

/-- What is left of the checks of types is about inline schemas. -/
theorem withoutImported_typesChecks (t : Types) :
    Log.withoutImported (typesChecks t) = Log.withoutImported (schemaDeclarations t) := by
  have himported : Log.withoutImported (t.imported.flatMap importedSchema) = [] := by
    rw [Log.withoutImported, List.filter_flatMap]
    exact List.flatMap_eq_nil_iff.2 fun s _ => withoutImported_importedSchema s
  rw [typesChecks, Log.withoutImported_append_eq, himported, List.nil_append]

/-- Elements are looked up by the namespaces of the imports, found or not. -/
theorem isAvailable_withoutDocuments (t : Option Types) :
    isAvailable (t.map Types.withoutDocuments) = isAvailable t := by
  funext q
  cases t with
  | none => rfl
  | some t => simp [isAvailable, Types.withoutDocuments, List.any_map, Function.comp_def]

theorem writtenInterfaceChecks_withoutDocuments (t : Option Types) :
    writtenInterfaceChecks (t.map Types.withoutDocuments) = writtenInterfaceChecks t := by
  have hcontent : contentElement (t.map Types.withoutDocuments) = contentElement t := by
    funext c place
    simp only [contentElement, elementAvailability, isAvailable_withoutDocuments]
  have hoperation : writtenOperationChecks (t.map Types.withoutDocuments)
      = writtenOperationChecks t := by
    funext o
    simp only [writtenOperationChecks, hcontent]
  funext i
  simp only [writtenInterfaceChecks, hcontent, hoperation]

theorem withoutImported_document :
    Log.withoutImported (document w.withoutDocuments) = Log.withoutImported (document w) := by
  have htypes : Log.withoutImported (w.withoutDocuments.types.toList.flatMap typesChecks)
      = Log.withoutImported (w.types.toList.flatMap typesChecks) := by
    rw [Description.withoutDocuments]
    cases w.types with
    | none => rfl
    | some t =>
      simp only [Option.map_some, Option.toList_some, List.flatMap_cons, List.flatMap_nil,
        List.append_nil, withoutImported_typesChecks, schemaDeclarations,
        Types.inline_withoutDocuments]
  simp only [document, Log.withoutImported_append_eq, htypes]
  rw [Description.withoutDocuments, writtenInterfaceChecks_withoutDocuments]
  rfl

/-- The checks of components look at interfaces, bindings and services. -/
theorem component_withoutDeclarations : component d.withoutDeclarations = component d := by
  have hnames := sameNames_withoutDeclarations d
  simp only [component, interfaceWalk, bindingWalk, serviceWalk, references,
    hnames.interfaceChecks_eq, hnames.bindingChecks_eq, hnames.endpointChecks_eq,
    hnames.interfaceReferences_eq, hnames.bindingReferences_eq, hnames.serviceReferences_eq]
  rfl

theorem interfaceReports_withoutDeclarations :
    interfaceReports d.withoutDeclarations = interfaceReports d := by
  have hcycle : interfaceCycle d.withoutDeclarations = interfaceCycle d := by
    funext i
    rw [interfaceCycle, interfaceCycle,
      Description.extendsItself_congr (sameNames_withoutDeclarations d).interface]
  rw [interfaceReports, interfaceReports, hcycle]
  rfl

/-- Without registered assertions a validation always gives a log. -/
theorem validate_builtInOnly (resolver : Resolver) :
    validate [] resolver w d
      = .ok (Log.append (document w ++ component d)
          (namespaceReports resolver w ++ interfaceReports d)) := by
  obtain ⟨hlog, count, hcount⟩ := Table.run_builtInOnly resolver w d []
  rw [validate_eq Table.ofRegistry_nil hcount, Table.reports, hlog]
  rfl

end

/-- Validations of descriptions that differ in imported schemas give the same
violations, but for those about imported schemas. -/
theorem validate_congr {w w' : Written.Description} {d d' : Component.Description}
    (hw : w.withoutDocuments = w'.withoutDocuments)
    (hd : d.withoutDeclarations = d'.withoutDeclarations) (resolver : Resolver) :
    (validate [] resolver w d).map Log.withoutImported
      = (validate [] resolver w' d').map Log.withoutImported := by
  have hdocument : Log.withoutImported (document w) = Log.withoutImported (document w') := by
    rw [← withoutImported_document w, hw, withoutImported_document]
  have hcomponent : component d = component d' := by
    rw [← component_withoutDeclarations d, hd, component_withoutDeclarations]
  have hinterface : interfaceReports d = interfaceReports d' := by
    rw [← interfaceReports_withoutDeclarations d, hd, interfaceReports_withoutDeclarations]
  have hnamespace : namespaceReports resolver w = namespaceReports resolver w' := by
    have h := congrArg (namespaceReports resolver) hw
    exact h
  simp only [validate_builtInOnly, Except.map, Log.withoutImported_append,
    Log.withoutImported_append_eq, hdocument, hcomponent, hinterface, hnamespace]

end Check

/-! ## Readings -/

/-- The reading without the documents of imported schemas, without what schemas
declare, and without the violations about imported schemas. -/
def Reading.withoutImported (x : Reading) : Reading :=
  ⟨x.base, x.written.withoutDocuments, x.description.withoutDeclarations,
    x.violations.map Log.withoutImported⟩

namespace Reader

/-- What becomes of a description once it is written down. -/
def readingFrom (r : Reader) (base : Option Iri) (w : Written.Description) :
    Except Error Reading := do
  let d := Component.derive w
  let violations ← if r.validates then (r.validate w d).map some else pure none
  return ⟨base.map (·.text), w, d, violations⟩

theorem readText_eq (r : Reader) (base : Option Iri) (xml : String) :
    r.readText base xml = r.written base xml >>= r.readingFrom base := rfl

/-- The reader with other files. -/
def withFiles (r : Reader) (fs : FileSystem) : Reader :=
  { r with sources := { r.sources with files := fs } }

/-- The description that a text writes, before any schema is looked for. -/
def unfinished (r : Reader) (base : Option Iri) (xml : String) :
    Except Error Written.Description := do
  match ← Xml.Document.parse r.sources.limits xml with
  | none => throw (.document .noRoot none none)
  | some root => Written.ofElement (base.map (·.text)) root

/-- Schemas are looked for once nothing can go wrong any more. -/
theorem written_eq (r : Reader) (base : Option Iri) (xml : String) :
    r.written base xml = (r.unfinished base xml).map (r.sources.complete base) := by
  unfold written unfinished
  rcases Xml.Document.parse r.sources.limits xml with e | _ | root
  · rfl
  · rfl
  · rfl

theorem map_withoutImported_readingFrom (r : Reader) (base : Option Iri)
    (w : Written.Description) :
    (r.readingFrom base w).map Reading.withoutImported
      = (if r.validates then
          ((r.validate w (Component.derive w)).map Log.withoutImported).map some
        else .ok none).map fun violations =>
          ⟨base.map (·.text), w.withoutDocuments, (Component.derive w).withoutDeclarations,
            violations⟩ := by
  unfold readingFrom
  cases r.validates with
  | false => rfl
  | true =>
    dsimp only
    cases r.validate w (Component.derive w) with
    | error e => rfl
    | ok log => rfl

theorem readingFrom_congr {r : Reader} (hr : r.registry = []) (fs fs' : FileSystem)
    (base : Option Iri) {w w' : Written.Description}
    (hw : w.withoutDocuments = w'.withoutDocuments) :
    ((r.withFiles fs).readingFrom base w).map Reading.withoutImported
      = ((r.withFiles fs').readingFrom base w').map Reading.withoutImported := by
  have hd : (Component.derive w).withoutDeclarations
      = (Component.derive w').withoutDeclarations := by
    rw [← Component.derive_withoutDocuments w, hw, Component.derive_withoutDocuments]
  have hvalidates (fs : FileSystem) : (r.withFiles fs).validates = r.validates := rfl
  have hvalidate (fs : FileSystem) :
      (r.withFiles fs).validate = Check.validate [] r.resolver := by
    rw [← hr]
    rfl
  simp only [map_withoutImported_readingFrom, hvalidates, hvalidate, hw, hd,
    Check.validate_congr hw hd]

end Reader

/-! ## The law -/

/-- A description reads the same, or fails with the same error, whatever the
files are, but for what is found at the places of imported schemas: the
documents themselves, the names that they declare, and what is said about their
target namespaces. -/
theorem imported_schemas_change_nothing_else (limits : Limits) (allowRemote : Bool)
    (catalog : Option Catalog) (validates : Bool) (base : Option Iri) (xml : String)
    (fs fs' : FileSystem) :
    ((Reader.mk ⟨fs, limits, allowRemote, catalog⟩ validates []).readText base xml).map
        Reading.withoutImported
      = ((Reader.mk ⟨fs', limits, allowRemote, catalog⟩ validates []).readText base xml).map
        Reading.withoutImported := by
  let r : Reader := ⟨⟨fs, limits, allowRemote, catalog⟩, validates, []⟩
  show ((r.withFiles fs).readText base xml).map _ = ((r.withFiles fs').readText base xml).map _
  have hunfinished : (r.withFiles fs').unfinished base xml = (r.withFiles fs).unfinished base xml :=
    rfl
  rw [Reader.readText_eq, Reader.readText_eq, Reader.written_eq, Reader.written_eq, hunfinished]
  cases (r.withFiles fs).unfinished base xml with
  | error e => rfl
  | ok w =>
    exact Reader.readingFrom_congr rfl fs fs' base
      (by rw [Sources.withoutDocuments_complete, Sources.withoutDocuments_complete])

end Wsdl
