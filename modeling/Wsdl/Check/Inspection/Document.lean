-- The inspection of a written description: one inspection for each assertion,
-- and the order in which they have their turn.
import Wsdl.Check.Document
import Wsdl.Check.Inspection.Basic

namespace Wsdl.Check

open Written

namespace Inspection

/-! ## The description and its imports -/

def targetNamespace (w : Description) : Inspection :=
  expectText w.targetNamespace Iri.isAbsoluteText fun ns =>
    Rule.writtenNamespaceIsAbsolute.violationAt w.place [ns]

def foreignImport (w : Description) (i : Import) : Inspection :=
  expectText i.space (some · != w.targetNamespace) fun ns =>
    Rule.importIsForeign.violationAt i.place [ns]

/-! ## Schemas -/

def importedNamespace (s : ImportedSchema) : Inspection :=
  match s.document with
  | none => idle
  | some document =>
    expect document.targetNamespace.isSome
      (Rule.importedSchemaHasNamespace.violationAt s.place [s.space.getD "", s.location.getD ""])

def importedMatch (s : ImportedSchema) : Inspection :=
  expectText (s.document.bind (·.targetNamespace)) (some · == s.space) fun ns =>
    Rule.importedSchemaMatches.violationAt s.place [s.location.getD "", ns, s.space.getD ""]

/-- Whether none of the names is one that an earlier schema has. -/
def newIn (r : Rule) (ns : String) (place : Locator) (has : QName → Bool) (names : List QName) :
    Inspection :=
  each names fun q => expect (!has q) (r.violationAt place [q.localName, ns])

/-- Inspects each schema against those before it. -/
def declarationsFrom (g : SchemaGroups) : List InlineSchema → Inspection
  | [] => idle
  | s :: ss =>
    match s.document.targetNamespace with
    | none => declarationsFrom g ss
    | some ns =>
      let earlier := g.earlier ns
      all [newIn .elementIsDeclaredOnce ns s.place (fun q => earlier.any (·.declares q))
          s.document.elements,
        newIn .typeIsDefinedOnce ns s.place (fun q => earlier.any (·.defines q)) s.document.types,
        declarationsFrom (g.add ns s.document) ss]

def schemaDeclarations (t : Types) : Inspection := declarationsFrom [] t.inline

def importedSchema (s : ImportedSchema) : Inspection := all [importedNamespace s, importedMatch s]

def types (t : Types) : Inspection :=
  all [each t.imported importedSchema, schemaDeclarations t]

/-! ## Interfaces -/

def defaultStyles (i : Interface) : Inspection :=
  each i.styleDefault fun s =>
    expect (Iri.isAbsoluteText s)
      (Rule.defaultStyleIsAbsolute.violationAt i.place [s, writtenName i.name])

def elementAvailability (t : Option Types) (q : QName) (place : Locator) : Inspection :=
  expect (isAvailable t q) (Rule.elementIsAvailable.violationAt place [q.text])

/-- The element that some content refers to, if it refers to one. -/
def contentElement (t : Option Types) (c : Option Content) (place : Locator) : Inspection :=
  each (c.bind (·.name?)).toList fun q => elementAvailability t q place

/-- Whether every written label is a placeholder of the operation's pattern, if
that is predefined. -/
def labels (r : Rule) (o : Operation) (labels : List (Option String × Locator)) : Inspection :=
  match Pattern.find? o.patternIri with
  | none => idle
  | some p =>
    each labels fun (label, place) =>
      expectText label p.hasLabel fun l => r.violationAt place [l, writtenName o.name, p.iri]

def writtenMessageLabels (o : Operation) : Inspection :=
  labels .messageLabelIsKnown o (o.messages.map fun m => (m.label, m.place))

def writtenFaultLabels (o : Operation) : Inspection :=
  labels .faultLabelIsKnown o (o.faults.map fun f => (f.label, f.place))

def writtenOperation (t : Option Types) (o : Operation) : Inspection :=
  all [each o.messages fun m => contentElement t m.content m.place,
    writtenMessageLabels o, writtenFaultLabels o]

def writtenInterface (t : Option Types) (i : Interface) : Inspection :=
  all [defaultStyles i, each i.faults fun f => contentElement t f.content f.place,
    each i.operations (writtenOperation t)]

/-! ## The whole inspection -/

def document (w : Description) : Inspection :=
  all [targetNamespace w, each w.imports (foreignImport w), each w.types.toList types,
    each w.interfaces (writtenInterface w.types)]

end Inspection

/-- Inspects a written description, adds the reports to a log, and gives the
summary of them. -/
def inspectDocument (w : Description) : StateM Log Summary := (Inspection.document w).summarize

end Wsdl.Check
