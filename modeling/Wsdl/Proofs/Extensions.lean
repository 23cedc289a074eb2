-- Extensions of a description. The reader looks at names, positions, scopes
-- and the attributes in no namespace, and at children in the namespaces that
-- it knows. The rest of a document can be anything: it changes nothing that is
-- read, and cannot make reading fail.
import Mathlib.Data.List.Basic
import Wsdl.Reader.Basic

namespace Wsdl

/-! ## What is not looked at -/

namespace Xml.Element

/-- The namespace of the children that are looked at, by the name of the
element: below types and in schemas it is that of schemas. -/
def innerSpace (n : QName) : String :=
  if n.isIn schemaNamespace || n.isNamed wsdlNamespace "types" then schemaNamespace
  else wsdlNamespace

mutual

/-- The element with no text, no attributes in namespaces, and no children
in other namespaces than the one that is looked at. The same goes for the
children that it keeps, and all below. -/
def strip : Element → Element
  | ⟨n, as, _, cs, s, p⟩ =>
    ⟨n, as.filter (·.1.space.isNone), none, stripAll (innerSpace n) cs, s, p⟩

/-- Those of the elements that are in a namespace, each stripped. -/
def stripAll (ns : String) : List Element → List Element
  | [] => []
  | e :: es => if e.name.isIn ns then strip e :: stripAll ns es else stripAll ns es

end

theorem stripAll_eq (ns : String) (es : List Element) :
    stripAll ns es = (es.filter (·.name.isIn ns)).map strip := by
  induction es with
  | nil => rfl
  | cons e es ih =>
    rw [stripAll, List.filter_cons, ih]
    split <;> rfl

variable (e : Element)

@[simp] theorem name_strip : e.strip.name = e.name := by
  cases e
  rw [strip]

@[simp] theorem localName_strip : e.strip.localName = e.localName := by
  rw [localName, name_strip, localName]

@[simp] theorem scope_strip : e.strip.scope = e.scope := by
  cases e
  rw [strip]

@[simp] theorem position_strip : e.strip.position = e.position := by
  cases e
  rw [strip]

@[simp] theorem isNamed_strip (ns l : String) : e.strip.isNamed ns l = e.isNamed ns l := by
  rw [isNamed, name_strip, isNamed]

theorem children_strip :
    e.strip.children = (e.childrenIn (innerSpace e.name)).map strip := by
  cases e
  rw [strip, childrenIn, stripAll_eq]

/-- Attributes are looked up among those in no namespace. -/
@[simp] theorem attribute?_strip (l : String) : e.strip.attribute? l = e.attribute? l := by
  cases e
  rw [strip, attribute?, attribute?, List.find?_filter]
  refine congrArg (Option.map _) (congrArg (List.find? · _) (funext fun a => ?_))
  rw [Bool.eq_iff_iff]
  simp

@[simp] theorem describe_strip : e.strip.describe = e.describe := by
  rw [describe, describe, attribute?_strip, localName_strip]

@[simp] theorem nameAttribute?_strip (l : String) :
    e.strip.nameAttribute? l = e.nameAttribute? l := by
  rw [nameAttribute?, nameAttribute?, attribute?_strip, scope_strip]

variable {e}

theorem childrenIn_strip {ns : String} (h : innerSpace e.name = ns) :
    e.strip.childrenIn ns = (e.childrenIn ns).map strip := by
  subst h
  rw [childrenIn, children_strip, List.filter_map, childrenIn, List.filter_filter]
  congr 1
  exact List.filter_congr fun c _ => by simp

/-- Outside of types, elements of the language are looked at for others of
it. -/
theorem innerSpace_of_isIn (h : e.name.isIn wsdlNamespace) (ht : e.localName ≠ "types") :
    innerSpace e.name = wsdlNamespace := by
  have hspace : e.name.space = some wsdlNamespace := beq_iff_eq.1 h
  have hne : wsdlNamespace ≠ schemaNamespace := by decide
  rw [localName] at ht
  simp [innerSpace, QName.isNamed, QName.isIn, hspace, hne, ht]

theorem innerSpace_of_isNamed_types (h : e.isNamed wsdlNamespace "types") :
    innerSpace e.name = schemaNamespace := by
  rw [isNamed] at h
  simp [innerSpace, h]

theorem innerSpace_of_isIn_schema (h : e.name.isIn schemaNamespace) :
    innerSpace e.name = schemaNamespace := by
  simp [innerSpace, h]

end Xml.Element

open Xml (Element)

open Xml.Element

namespace Written

/-! ## Attributes -/

section

variable (base : Option String) (e : Element) (l : String)

@[simp] theorem placeOf_strip : placeOf base e.strip = placeOf base e := by
  rw [placeOf, placeOf, position_strip, describe_strip]

@[simp] theorem problem_strip (p : ReadProblem) : problem base e.strip p = problem base e p := by
  rw [problem, problem, describe_strip, placeOf_strip]

@[simp] theorem required_strip : required base e.strip l = required base e l := by
  rw [required, required, attribute?_strip, problem_strip]

@[simp] theorem requiredNCName_strip :
    requiredNCName base e.strip l = requiredNCName base e l := by
  simp only [requiredNCName, required_strip, problem_strip]

@[simp] theorem expand_strip (written : String) : expand e.strip written = expand e written := by
  rw [expand, expand, scope_strip]

@[simp] theorem requiredQName_strip : requiredQName base e.strip l = requiredQName base e l := by
  simp only [requiredQName, required_strip, expand_strip]

@[simp] theorem wordsOf_strip : wordsOf e.strip l = wordsOf e l := by
  rw [wordsOf, wordsOf, attribute?_strip]

@[simp] theorem contentOf_strip : contentOf e.strip = contentOf e := by
  simp only [contentOf, attribute?_strip, expand_strip]

end

/-! ## Children -/

theorem mapM_strip {α : Type} {f : Element → Except Error α} {es : List Element}
    (h : ∀ e ∈ es, f e.strip = f e) : (es.map strip).mapM f = es.mapM f := by
  induction es with
  | nil => rfl
  | cons e es ih =>
    rw [List.map_cons, List.mapM_cons, List.mapM_cons, h e List.mem_cons_self,
      ih fun e he => h e (List.mem_cons_of_mem _ he)]

theorem readChildren_strip {α : Type} {f : Element → Except Error (Option α)} {e : Element}
    (he : innerSpace e.name = wsdlNamespace)
    (hf : ∀ c : Element, c.name.isIn wsdlNamespace → f c.strip = f c) :
    readChildren f e.strip = readChildren f e := by
  rw [readChildren, readChildren, childrenIn_strip he]
  refine congrArg (Except.map _) (mapM_strip fun c hc => ?_)
  exact hf c (List.mem_filter.1 hc).2

/-! ## Interfaces -/

section

variable {base : Option String} {e : Element}

@[simp] theorem readMessage_strip (d : Direction) :
    readMessage base d e.strip = readMessage base d e := by
  simp only [readMessage, attribute?_strip, contentOf_strip, placeOf_strip]

@[simp] theorem readFaultReference_strip (d : Direction) :
    readFaultReference base d e.strip = readFaultReference base d e := by
  simp only [readFaultReference, requiredQName_strip, attribute?_strip, placeOf_strip]

@[simp] theorem readOperationPart_strip :
    readOperationPart base e.strip = readOperationPart base e := by
  simp only [readOperationPart, localName_strip, readMessage_strip, readFaultReference_strip]

theorem readOperation_strip (h : innerSpace e.name = wsdlNamespace) :
    readOperation base e.strip = readOperation base e := by
  have hparts : readChildren (readOperationPart base) e.strip
      = readChildren (readOperationPart base) e :=
    readChildren_strip h fun _ _ => readOperationPart_strip
  simp only [readOperation, requiredNCName_strip, hparts, attribute?_strip, wordsOf_strip,
    placeOf_strip]

@[simp] theorem readInterfaceFault_strip :
    readInterfaceFault base e.strip = readInterfaceFault base e := by
  simp only [readInterfaceFault, requiredNCName_strip, contentOf_strip, placeOf_strip]

theorem readInterfacePart_strip (h : e.name.isIn wsdlNamespace) :
    readInterfacePart base e.strip = readInterfacePart base e := by
  rw [readInterfacePart, readInterfacePart, localName_strip]
  split
  · rw [readInterfaceFault_strip]
  · next hname => rw [readOperation_strip (innerSpace_of_isIn h (by simp [hname]))]
  · rfl

theorem readInterface_strip (h : innerSpace e.name = wsdlNamespace) :
    readInterface base e.strip = readInterface base e := by
  have hparts : readChildren (readInterfacePart base) e.strip
      = readChildren (readInterfacePart base) e :=
    readChildren_strip h fun _ hc => readInterfacePart_strip hc
  have hexpand : expand e.strip = expand e := funext (expand_strip e)
  simp only [readInterface, requiredNCName_strip, wordsOf_strip, hexpand, hparts, placeOf_strip]

/-! ## Bindings -/

@[simp] theorem readBindingMessage_strip (d : Direction) :
    readBindingMessage base d e.strip = readBindingMessage base d e := by
  rw [readBindingMessage, readBindingMessage, attribute?_strip, placeOf_strip]

@[simp] theorem readBindingFaultReference_strip (d : Direction) :
    readBindingFaultReference base d e.strip = readBindingFaultReference base d e := by
  simp only [readBindingFaultReference, requiredQName_strip, attribute?_strip, placeOf_strip]

@[simp] theorem readBindingOperationPart_strip :
    readBindingOperationPart base e.strip = readBindingOperationPart base e := by
  simp only [readBindingOperationPart, localName_strip, readBindingMessage_strip,
    readBindingFaultReference_strip]

theorem readBindingOperation_strip (h : innerSpace e.name = wsdlNamespace) :
    readBindingOperation base e.strip = readBindingOperation base e := by
  have hparts : readChildren (readBindingOperationPart base) e.strip
      = readChildren (readBindingOperationPart base) e :=
    readChildren_strip h fun _ _ => readBindingOperationPart_strip
  simp only [readBindingOperation, requiredQName_strip, hparts, placeOf_strip]

@[simp] theorem readBindingFault_strip :
    readBindingFault base e.strip = readBindingFault base e := by
  simp only [readBindingFault, requiredQName_strip, placeOf_strip]

theorem readBindingPart_strip (h : e.name.isIn wsdlNamespace) :
    readBindingPart base e.strip = readBindingPart base e := by
  rw [readBindingPart, readBindingPart, localName_strip]
  split
  · rw [readBindingFault_strip]
  · next hname => rw [readBindingOperation_strip (innerSpace_of_isIn h (by simp [hname]))]
  · rfl

theorem readBinding_strip (h : innerSpace e.name = wsdlNamespace) :
    readBinding base e.strip = readBinding base e := by
  have hparts : readChildren (readBindingPart base) e.strip
      = readChildren (readBindingPart base) e :=
    readChildren_strip h fun _ hc => readBindingPart_strip hc
  simp only [readBinding, requiredNCName_strip, nameAttribute?_strip, required_strip, hparts,
    placeOf_strip]

/-! ## Services -/

@[simp] theorem readEndpoint_strip : readEndpoint base e.strip = readEndpoint base e := by
  simp only [readEndpoint, requiredNCName_strip, requiredQName_strip, attribute?_strip,
    placeOf_strip]

@[simp] theorem readServicePart_strip : readServicePart base e.strip = readServicePart base e := by
  rw [readServicePart, readServicePart, localName_strip, readEndpoint_strip]

theorem readService_strip (h : innerSpace e.name = wsdlNamespace) :
    readService base e.strip = readService base e := by
  have hparts : readChildren (readServicePart base) e.strip
      = readChildren (readServicePart base) e :=
    readChildren_strip h fun _ _ => readServicePart_strip
  simp only [readService, requiredNCName_strip, requiredQName_strip, hparts, placeOf_strip]

/-! ## Types -/

theorem namesOf_strip (h : e.name.isIn schemaNamespace) (kinds : List String) :
    SchemaDocument.namesOf e.strip kinds = SchemaDocument.namesOf e kinds := by
  rw [SchemaDocument.namesOf, SchemaDocument.namesOf, attribute?_strip,
    childrenIn_strip (innerSpace_of_isIn_schema h), List.filter_map, List.filterMap_map]
  simp only [Function.comp_def, localName_strip, attribute?_strip]

theorem schemaDocument_strip (h : e.name.isIn schemaNamespace) :
    SchemaDocument.ofElement e.strip = SchemaDocument.ofElement e := by
  simp only [SchemaDocument.ofElement, namesOf_strip h, attribute?_strip]

theorem readSchema_strip (h : e.name.isIn schemaNamespace) :
    readSchema base e.strip = readSchema base e := by
  simp only [readSchema, isNamed_strip, attribute?_strip, placeOf_strip, schemaDocument_strip h]

/-- Only what is in the namespace of schemas is one, or imports one. -/
theorem isIn_of_readSchema {s : Schema} (h : readSchema base e = some s) :
    e.name.isIn schemaNamespace := by
  rw [readSchema] at h
  split at h
  · next himport => exact (Bool.and_eq_true_iff.1 himport).1
  · split at h
    · next hschema => exact (Bool.and_eq_true_iff.1 hschema).1
    · cases h

/-- The children of types are not looked through for their namespace first:
what is outside of it is no schema. -/
theorem readTypes_strip (h : innerSpace e.name = schemaNamespace) :
    readTypes base e.strip = readTypes base e := by
  rw [readTypes, readTypes, children_strip, h, placeOf_strip, List.filterMap_map]
  refine congrArg (Types.mk · _) ?_
  rw [Element.childrenIn, List.filterMap_filter]
  refine List.filterMap_congr fun c _ => ?_
  by_cases hc : c.name.isIn schemaNamespace
  · rw [if_pos hc]
    exact readSchema_strip hc
  · rw [if_neg hc]
    exact (Option.eq_none_iff_forall_ne_some.2 fun s hs => hc (isIn_of_readSchema hs)).symm

/-! ## Descriptions -/

theorem readDescriptionPart_strip (h : e.name.isIn wsdlNamespace) :
    readDescriptionPart base e.strip = readDescriptionPart base e := by
  have hinner (hne : e.localName ≠ "types") : innerSpace e.name = wsdlNamespace :=
    innerSpace_of_isIn h hne
  rw [readDescriptionPart, readDescriptionPart, localName_strip]
  split
  · rw [attribute?_strip, attribute?_strip, placeOf_strip]
  · rw [attribute?_strip, placeOf_strip]
  · next hname =>
    have htypes : e.isNamed wsdlNamespace "types" :=
      Bool.and_eq_true_iff.2 ⟨h, beq_iff_eq.2 hname⟩
    rw [readTypes_strip (innerSpace_of_isNamed_types htypes)]
  · next hname => rw [readInterface_strip (hinner (by simp [hname]))]
  · next hname => rw [readBinding_strip (hinner (by simp [hname]))]
  · next hname => rw [readService_strip (hinner (by simp [hname]))]
  · rfl

theorem readDescriptionParts_strip {es : List Element} (hasTypes : Bool)
    (h : ∀ e ∈ es, e.name.isIn wsdlNamespace) :
    readDescriptionParts base hasTypes (es.map strip) = readDescriptionParts base hasTypes es := by
  induction es generalizing hasTypes with
  | nil => rfl
  | cons e es ih =>
    rw [List.map_cons, readDescriptionParts, readDescriptionParts, localName_strip, problem_strip,
      readDescriptionPart_strip (h e List.mem_cons_self),
      ih _ fun e he => h e (List.mem_cons_of_mem _ he)]

theorem ofElement_of_not_isNamed (h : ¬ e.isNamed wsdlNamespace "description") :
    ofElement base e = .error (problem base e (.notDescription e.name)) := by
  rw [ofElement, Bool.eq_false_iff.2 h]
  rfl

theorem ofElement_strip (base : Option String) (root : Element) :
    ofElement base root.strip = ofElement base root := by
  by_cases hroot : root.isNamed wsdlNamespace "description"
  · have hinner : innerSpace root.name = wsdlNamespace := by
      obtain ⟨hspace, hname⟩ := Bool.and_eq_true_iff.1 hroot
      exact innerSpace_of_isIn hspace (by simp [Element.localName, beq_iff_eq.1 hname])
    have hparts : readDescriptionParts base false (root.strip.childrenIn wsdlNamespace)
        = readDescriptionParts base false (root.childrenIn wsdlNamespace) := by
      rw [childrenIn_strip hinner]
      exact readDescriptionParts_strip false fun e he => (List.mem_filter.1 he).2
    simp only [ofElement, isNamed_strip, name_strip, problem_strip, required_strip, hparts,
      placeOf_strip]
  · rw [ofElement_of_not_isNamed (by simpa using hroot), ofElement_of_not_isNamed hroot,
      problem_strip, name_strip]

end

end Written

/-! ## The law -/

/-- A description reads the same, or fails the same, without everything that
is not looked at: without text, attributes in namespaces, and children in
other namespaces, at every level. So two descriptions that differ in nothing
else read the same, whichever of it each of them has. -/
theorem Sources.extensions_change_nothing_that_is_read (s : Sources) (base : Option Iri)
    (root : Element) :
    s.ofRoot base root.strip = s.ofRoot base root ∧
      ∀ root' : Element, root'.strip = root.strip → s.ofRoot base root' = s.ofRoot base root := by
  have hstrip (e : Element) : s.ofRoot base e.strip = s.ofRoot base e := by
    rw [Sources.ofRoot, Sources.ofRoot, Written.ofElement_strip]
  refine ⟨hstrip root, fun root' h => ?_⟩
  rw [← hstrip root', h, hstrip root]

def exampleElement (ns name : String) (attributes : List (QName × String))
    (children : List Element) : Element :=
  ⟨⟨some ns, name⟩, attributes, none, children, .empty, ⟨1, 1⟩⟩

def examplePlain : Element :=
  exampleElement wsdlNamespace "description" [(⟨none, "targetNamespace"⟩, "urn:greeter")]
    [exampleElement wsdlNamespace "types" []
      [exampleElement schemaNamespace "schema" [] []],
     exampleElement wsdlNamespace "interface" [(⟨none, "name"⟩, "Greeter")] []]

/-- Has an interface without a name, an attribute that is called as one of
the language, and a description among the schemas. All are in namespaces where
they are not looked at. -/
def exampleExtended : Element :=
  { exampleElement wsdlNamespace "description"
      [(⟨some "urn:other", "targetNamespace"⟩, "urn:none"),
       (⟨none, "targetNamespace"⟩, "urn:greeter")]
      [exampleElement "urn:other" "interface" [] [],
       exampleElement wsdlNamespace "types" []
        [exampleElement wsdlNamespace "description" [] [],
         exampleElement schemaNamespace "schema" [] []],
       exampleElement wsdlNamespace "interface" [(⟨none, "name"⟩, "Greeter")]
        [exampleElement "urn:other" "operation" [] []]] with
    text := some "hello" }

def exampleSources : Sources :=
  ⟨⟨.ofText "/", fun _ => .error .notFound⟩, .standard, false, none⟩

theorem the_extended_description_reads_as_the_plain_one :
    exampleExtended.strip = examplePlain.strip ∧
      exampleExtended.children.length = 3 ∧ examplePlain.children.length = 2 ∧
      exampleSources.ofRoot none exampleExtended = exampleSources.ofRoot none examplePlain ∧
      (exampleSources.ofRoot none examplePlain).isOk = true := by
  have hstrip : exampleExtended.strip = examplePlain.strip := rfl
  obtain ⟨_, hsame⟩ := exampleSources.extensions_change_nothing_that_is_read none examplePlain
  exact ⟨hstrip, rfl, rfl, hsame exampleExtended hstrip, by decide⟩

end Wsdl
