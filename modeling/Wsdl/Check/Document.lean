-- The assertions on descriptions as written. Each is a list of the
-- violations that it finds, with their places.
import Wsdl.Component.Basic
import Wsdl.Iri.Parse
import Wsdl.Written.Basic

namespace Wsdl.Check

open Written

/-- How messages call what may have no name. -/
def writtenName (n : Option String) : String := n.getD Component.anonymous

/-! ## The description and its imports -/

def targetNamespace (w : Description) : List Violation :=
  (w.targetNamespace.toList.filter (! Iri.isAbsoluteText ·)).map fun ns =>
    Rule.writtenNamespaceIsAbsolute.violationAt w.place [ns]

def foreignImport (w : Description) (i : Import) : List Violation :=
  (i.space.toList.filter (some · == w.targetNamespace)).map fun ns =>
    Rule.importIsForeign.violationAt i.place [ns]

/-! ## Schemas -/

def importedNamespace (s : ImportedSchema) : List Violation :=
  (s.document.toList.filter (·.targetNamespace.isNone)).map fun _ =>
    Rule.importedSchemaHasNamespace.violationAt s.place [s.space.getD "", s.location.getD ""]

def importedMatch (s : ImportedSchema) : List Violation :=
  ((s.document.bind (·.targetNamespace)).toList.filter (some · != s.space)).map fun ns =>
    Rule.importedSchemaMatches.violationAt s.place [s.location.getD "", ns, s.space.getD ""]

/-- A violation for every name that one of the earlier schemas has too. -/
def repeatedIn (r : Rule) (ns : String) (place : Locator) (has : QName → Bool)
    (names : List QName) : List Violation :=
  (names.filter has).map fun q => r.violationAt place [q.localName, ns]

/-- The schemas that came before, by namespace. -/
abbrev SchemaGroups := List (String × List SchemaDocument)

/-- The schemas of a namespace that came before. -/
def SchemaGroups.earlier (g : SchemaGroups) (ns : String) : List SchemaDocument :=
  (g.lookup ns).getD []

def SchemaGroups.add (ns : String) (s : SchemaDocument) : SchemaGroups → SchemaGroups
  | [] => [(ns, [s])]
  | (n, ss) :: g => if n = ns then (n, ss ++ [s]) :: g else (n, ss) :: add ns s g

/-- What an inline schema declares again that an earlier one of its
namespace has. -/
def repeatedDeclarations (earlier : List SchemaDocument) (ns : String) (s : InlineSchema) :
    List Violation :=
  repeatedIn .elementIsDeclaredOnce ns s.place (fun q => earlier.any (·.declares q))
      s.document.elements
    ++ repeatedIn .typeIsDefinedOnce ns s.place (fun q => earlier.any (·.defines q))
      s.document.types

/-- Compares each schema with those before it. Schemas without a target
namespace are passed over. -/
def declarationsFrom (g : SchemaGroups) : List InlineSchema → List Violation
  | [] => []
  | s :: ss =>
    match s.document.targetNamespace with
    | none => declarationsFrom g ss
    | some ns =>
      repeatedDeclarations (g.earlier ns) ns s ++ declarationsFrom (g.add ns s.document) ss

def schemaDeclarations (t : Types) : List Violation := declarationsFrom [] t.inline

def importedSchema (s : ImportedSchema) : List Violation := importedNamespace s ++ importedMatch s

def typesChecks (t : Types) : List Violation :=
  t.imported.flatMap importedSchema ++ schemaDeclarations t

/-! ## Interfaces -/

def defaultStyles (i : Interface) : List Violation :=
  (i.styleDefault.filter (! Iri.isAbsoluteText ·)).map fun s =>
    Rule.defaultStyleIsAbsolute.violationAt i.place [s, writtenName i.name]

/-- Whether a schema of the description is for the namespace of the name.
That of the schema language is always there. -/
def isAvailable (t : Option Types) (q : QName) : Bool :=
  q.isIn schemaNamespace || ((t.map (·.schemas)).getD []).any (·.targetNamespace == q.space)

def elementAvailability (t : Option Types) (q : QName) (place : Locator) : List Violation :=
  if isAvailable t q then [] else [Rule.elementIsAvailable.violationAt place [q.text]]

/-- The element that some content refers to. -/
def contentElement (t : Option Types) (c : Option Content) (place : Locator) : List Violation :=
  (c.bind (·.name?)).toList.flatMap fun q => elementAvailability t q place

/-- A violation for every written label that is no placeholder of the
operation's pattern. Where the pattern is not predefined, any label is. -/
def labelChecks (r : Rule) (o : Operation) (labels : List (Option String × Locator)) :
    List Violation :=
  match Pattern.find? o.patternIri with
  | none => []
  | some p =>
    labels.flatMap fun (label, place) =>
      (label.toList.filter (! p.hasLabel ·)).map fun l =>
        r.violationAt place [l, writtenName o.name, p.iri]

def writtenMessageLabels (o : Operation) : List Violation :=
  labelChecks .messageLabelIsKnown o (o.messages.map fun m => (m.label, m.place))

def writtenFaultLabels (o : Operation) : List Violation :=
  labelChecks .faultLabelIsKnown o (o.faults.map fun f => (f.label, f.place))

def writtenOperationChecks (t : Option Types) (o : Operation) : List Violation :=
  (o.messages.flatMap fun m => contentElement t m.content m.place)
    ++ writtenMessageLabels o ++ writtenFaultLabels o

def writtenInterfaceChecks (t : Option Types) (i : Interface) : List Violation :=
  defaultStyles i ++ (i.faults.flatMap fun f => contentElement t f.content f.place)
    ++ i.operations.flatMap (writtenOperationChecks t)

/-! ## The whole check -/

/-- Every violation of the assertions on the written description. -/
def document (w : Description) : List Violation :=
  targetNamespace w ++ w.imports.flatMap (foreignImport w)
    ++ w.types.toList.flatMap typesChecks
    ++ w.interfaces.flatMap (writtenInterfaceChecks w.types)

end Wsdl.Check
