-- How many imported schemas are loaded. Only what is found counts against the
-- limit, so it is the first imports that can be loaded whose schemas are
-- attached, however many others stand between them.
import Wsdl.Proofs.Extensions

namespace Wsdl

open Written (Schema SchemaDocument)
open Xml (Element)

/-! ## Children of types -/

namespace Written

/-- Whether the element is a schema or imports one. -/
def saysSchema (c : Element) : Bool :=
  c.isNamed schemaNamespace "import" || c.isNamed schemaNamespace "schema"

/-- The entry for a child of types says what the child says. For an import there
may be a document besides. -/
inductive IsEntryOf (base : Option String) (c : Element) : Schema → Prop
  | imported (document : Option SchemaDocument) (h : c.isNamed schemaNamespace "import") :
      IsEntryOf base c (.imported
        ⟨c.attribute? "namespace", c.attribute? "schemaLocation", document, placeOf base c⟩)
  | inline (h : c.isNamed schemaNamespace "schema") :
      IsEntryOf base c (.inline ⟨c.attribute? "id", .ofElement c, placeOf base c⟩)

variable {base : Option String} {c : Element}

theorem readSchema_of_import (h : c.isNamed schemaNamespace "import") :
    readSchema base c = some (.imported
      ⟨c.attribute? "namespace", c.attribute? "schemaLocation", none, placeOf base c⟩) := by
  rw [readSchema, if_pos h]

theorem isSome_readSchema : (readSchema base c).isSome = saysSchema c := by
  rw [readSchema, saysSchema]
  split
  · next h => simp [h]
  · split <;> simp_all

end Written

namespace Sources

open Written (IsEntryOf readSchema saysSchema placeOf)

/-! ## Attaching schemas -/

section

variable (limits : Limits) (find? : Option String → Option String → Option SchemaDocument)

/-- Whether the entry is an import whose schema can be found. -/
def isFindable : Schema → Bool
  | .imported i => (find? i.space i.location).isSome
  | .inline _ => false

/-- Whether the entry is an import with its schema. -/
def isAttached : Schema → Bool
  | .imported i => i.document.isSome
  | .inline _ => false

/-- What becomes of an import when so many schemas were found before. -/
def withDocument (count : Nat) (i : Written.ImportedSchema) : Schema :=
  .imported { i with
    document := if count < limits.schemaImports then find? i.space i.location else none }

variable {limits find?} {count : Nat}

theorem attach_imported (i : Written.ImportedSchema) (rest : List Schema) :
    attach limits find? count (.imported i :: rest)
      = withDocument limits find? count i
        :: attach limits find?
            (count + if isAttached (withDocument limits find? count i) then 1 else 0) rest := by
  have hcheck : limits.check .schemaImports (count + 1)
      = if count < limits.schemaImports then .ok ()
        else .error ⟨.schemaImports, count + 1, limits.schemaImports⟩ := by
    simp only [Limits.check, Limits.of, Nat.lt_succ_iff, ← Nat.not_lt, ite_not]
  simp only [attach, withDocument, isAttached, hcheck]
  by_cases hroom : count < limits.schemaImports
  · simp only [if_pos hroom]
    split <;> rfl
  · simp only [if_neg hroom]
    rfl

theorem isAttached_withDocument (i : Written.ImportedSchema) :
    isAttached (withDocument limits find? count i)
      = (decide (count < limits.schemaImports) && isFindable find? (.imported i)) := by
  by_cases hroom : count < limits.schemaImports
  · simp [withDocument, isAttached, isFindable, hroom]
  · simp [withDocument, isAttached, hroom]

/-- The count goes up with each schema that is found, until it is the limit. -/
theorem count_withDocument (hcount : count ≤ limits.schemaImports) (i : Written.ImportedSchema) :
    (count + if isAttached (withDocument limits find? count i) then 1 else 0)
      = min limits.schemaImports (count + if isFindable find? (.imported i) then 1 else 0) := by
  rw [isAttached_withDocument]
  by_cases hroom : count < limits.schemaImports
  · simp only [hroom, decide_true, Bool.true_and]
    split <;> omega
  · simp only [hroom, decide_false, Bool.false_and, Bool.false_eq_true, if_false]
    omega

/-- What stands before an entry matters to it by the number of the schemas that
can be found for it. -/
theorem attach_append (hcount : count ≤ limits.schemaImports) (ss rest : List Schema) :
    attach limits find? count (ss ++ rest)
      = attach limits find? count ss
        ++ attach limits find? (min limits.schemaImports (count + ss.countP (isFindable find?)))
            rest := by
  induction ss generalizing count with
  | nil => simp [attach, Nat.min_eq_right hcount]
  | cons s ss ih =>
    cases s with
    | inline i => simp [attach, ih hcount, isFindable]
    | imported i =>
      have hnext := Nat.min_le_left limits.schemaImports
        (count + if isFindable find? (.imported i) then 1 else 0)
      have htotal : min limits.schemaImports (min limits.schemaImports
            (count + if isFindable find? (.imported i) then 1 else 0)
              + ss.countP (isFindable find?))
          = min limits.schemaImports
              (count + (Schema.imported i :: ss).countP (isFindable find?)) := by
        rw [List.countP_cons]
        omega
      rw [List.cons_append, attach_imported, attach_imported, count_withDocument hcount, ih hnext,
        htotal, List.cons_append]

/-- As many schemas are attached as can be found, up to the limit. -/
theorem countP_isAttached (hcount : count ≤ limits.schemaImports) (ss : List Schema) :
    count + (attach limits find? count ss).countP isAttached
      = min limits.schemaImports (count + ss.countP (isFindable find?)) := by
  induction ss generalizing count with
  | nil => simp [attach, Nat.min_eq_right hcount]
  | cons s ss ih =>
    cases s with
    | inline i => simpa [attach, isFindable, isAttached] using ih hcount
    | imported i =>
      have hafter : (count + if isAttached (withDocument limits find? count i) then 1 else 0)
          = min limits.schemaImports (count + if isFindable find? (.imported i) then 1 else 0) :=
        count_withDocument hcount i
      have hrest := ih (Nat.le_trans (Nat.le_of_eq hafter) (Nat.min_le_left _ _))
      rw [attach_imported, List.countP_cons, List.countP_cons]
      omega

theorem length_attach (ss : List Schema) : (attach limits find? count ss).length = ss.length := by
  induction ss generalizing count with
  | nil => rfl
  | cons s ss ih =>
    cases s with
    | imported i => rw [attach_imported, List.length_cons, List.length_cons, ih]
    | inline i => rw [attach, List.length_cons, List.length_cons, ih]

theorem forall₂_attach (base : Option String) (cs : List Element) :
    List.Forall₂ (IsEntryOf base) (cs.filter saysSchema)
      (attach limits find? count (cs.filterMap (readSchema base))) := by
  induction cs generalizing count with
  | nil => exact .nil
  | cons c cs ih =>
    by_cases himport : c.isNamed schemaNamespace "import"
    · have hsays : saysSchema c := by simp [saysSchema, himport]
      rw [List.filter_cons_of_pos hsays,
        List.filterMap_cons_some (Written.readSchema_of_import himport), attach_imported]
      exact .cons (.imported _ himport) ih
    · by_cases hschema : c.isNamed schemaNamespace "schema"
      · have hsays : saysSchema c := by simp [saysSchema, hschema]
        have hread : readSchema base c
            = some (.inline ⟨c.attribute? "id", .ofElement c, placeOf base c⟩) := by
          rw [readSchema, if_neg himport, if_pos hschema]
        rw [List.filter_cons_of_pos hsays, List.filterMap_cons_some hread, attach]
        exact .cons (.inline hschema) ih
      · have hsays : ¬ saysSchema c := by simp [saysSchema, himport, hschema]
        have hread : readSchema base c = none := by
          rw [readSchema, if_neg himport, if_neg hschema]
        rw [List.filter_cons_of_neg hsays, List.filterMap_cons_none hread]
        exact ih

end

/-! ## The types of a description -/

variable (s : Sources) (base : Option Iri)

/-- What a types element says, with the schemas that it imports. -/
def typesOf (e : Element) : Written.Types :=
  let t := Written.readTypes (base.map (·.text)) e
  { t with schemas := attach s.limits (s.schema? base) 0 t.schemas }

/-- The schema that an import leads to, by itself. -/
def importedBy? (c : Element) : Option SchemaDocument :=
  s.schema? base (c.attribute? "namespace") (c.attribute? "schemaLocation")

/-- Whether the element is an import that leads to a schema. -/
def isLoadable (c : Element) : Bool :=
  c.isNamed schemaNamespace "import" && (s.importedBy? base c).isSome

theorem countP_isFindable (cs : List Element) :
    (cs.filterMap (readSchema (base.map (·.text)))).countP (isFindable (s.schema? base))
      = cs.countP (s.isLoadable base) := by
  rw [List.countP_filterMap]
  refine List.countP_congr fun c _ => ?_
  rw [isLoadable]
  by_cases himport : c.isNamed schemaNamespace "import"
  · simp [Written.readSchema_of_import himport, himport, isFindable, importedBy?]
  · rw [readSchema, if_neg himport]
    split <;> simp [himport, isFindable]

/-! ## The law -/

/-- The types of a description have an entry for each child that is a schema or
imports one, in order. An import has a schema if and only if it leads to one by
itself and fewer imports than the limit that lead to one stand before it, and it
has that one. So as many schemas are attached as there are such imports, up to
the limit. -/
theorem the_first_loadable_imports_get_their_schemas (e : Element) :
    (∀ w : Written.Description, w.types = some (Written.readTypes (base.map (·.text)) e) →
      (s.complete base w).types = some (s.typesOf base e)) ∧
    List.Forall₂ (IsEntryOf (base.map (·.text))) (e.children.filter saysSchema)
      (s.typesOf base e).schemas ∧
    (∀ before c after, e.children = before ++ c :: after → c.isNamed schemaNamespace "import" →
      ∃ document,
        (s.typesOf base e).schemas[before.countP saysSchema]? = some (.imported
          ⟨c.attribute? "namespace", c.attribute? "schemaLocation", document,
            placeOf (base.map (·.text)) c⟩) ∧
        ∀ found, document = some found ↔ s.importedBy? base c = some found ∧
          before.countP (s.isLoadable base) < s.limits.schemaImports) ∧
    (s.typesOf base e).imported.countP (·.document.isSome)
      = min s.limits.schemaImports (e.children.countP (s.isLoadable base)) := by
  have hzero : 0 ≤ s.limits.schemaImports := Nat.zero_le _
  refine ⟨?_, forall₂_attach _ _, ?_, ?_⟩
  · intro w hw
    rw [complete, hw]
    rfl
  · intro before c after hsplit himport
    let count := min s.limits.schemaImports (before.countP (s.isLoadable base))
    refine ⟨if count < s.limits.schemaImports then s.importedBy? base c else none, ?_,
      fun found => ?_⟩
    · have hlength : (attach s.limits (s.schema? base) 0
          (before.filterMap (readSchema (base.map (·.text))))).length
          = before.countP saysSchema := by
        simp only [length_attach, List.length_filterMap_eq_countP, Written.isSome_readSchema]
      rw [typesOf, Written.readTypes, hsplit, List.filterMap_append,
        List.filterMap_cons_some (Written.readSchema_of_import himport), attach_append hzero,
        attach_imported, countP_isFindable, Nat.zero_add,
        List.getElem?_append_right (Nat.le_of_eq hlength), hlength, Nat.sub_self]
      rfl
    · have hroom : count < s.limits.schemaImports
          ↔ before.countP (s.isLoadable base) < s.limits.schemaImports := by omega
      simp only [hroom]
      split <;> simp_all
  · have hcount : 0 + (s.typesOf base e).schemas.countP isAttached
        = min s.limits.schemaImports (0 + (e.children.filterMap
            (readSchema (base.map (·.text)))).countP (isFindable (s.schema? base))) :=
      countP_isAttached hzero _
    rw [Nat.zero_add, Nat.zero_add, countP_isFindable] at hcount
    rw [← hcount, Written.Types.imported, List.countP_filterMap]
    refine List.countP_congr fun entry _ => ?_
    cases entry <;> simp [Schema.imported?, isAttached]

/-- One file: a schema that declares nothing. At most one schema is loaded. -/
def exampleLibrary : Sources where
  files :=
    { workingDirectory := .ofText "/"
      contents := fun p =>
        if p = .ofText "s" then
          .ok (Text.encodeText "<schema xmlns='http://www.w3.org/2001/XMLSchema'/>")
        else .error .notFound }
  limits := { Limits.standard with schemaImports := 1 }
  allowRemote := false
  catalog := none

def exampleImport (location : String) : Element :=
  exampleElement schemaNamespace "import" [(⟨none, "schemaLocation"⟩, location)] []

def exampleImports : Element :=
  exampleElement wsdlNamespace "types" []
    [exampleImport "t", exampleImport "s", exampleImport "s"]

/-- The first import leads nowhere and leaves room for the second one, which
leaves none for the third. -/
theorem the_import_that_fails_leaves_room_for_the_next :
    (exampleLibrary.typesOf none exampleImports).schemas[1]?
        = some (.imported ⟨none, some "s", some ⟨none, [], []⟩, placeOf none (exampleImport "s")⟩) ∧
      (exampleLibrary.typesOf none exampleImports).schemas[2]?
        = some (.imported ⟨none, some "s", none, placeOf none (exampleImport "s")⟩) := by
  have hlost : exampleLibrary.importedBy? none (exampleImport "t") = none := by decide +kernel
  have hfound : exampleLibrary.importedBy? none (exampleImport "s") = some ⟨none, [], []⟩ := by
    decide +kernel
  obtain ⟨_, _, hlaw, _⟩ :=
    exampleLibrary.the_first_loadable_imports_get_their_schemas none exampleImports
  obtain ⟨second, hsecond, hattached⟩ :=
    hlaw [exampleImport "t"] (exampleImport "s") [exampleImport "s"] rfl rfl
  obtain ⟨third, hthird, hleft⟩ :=
    hlaw [exampleImport "t", exampleImport "s"] (exampleImport "s") [] rfl rfl
  have himport (l : String) : (exampleImport l).isNamed schemaNamespace "import" = true := rfl
  have hroom : [exampleImport "t"].countP (exampleLibrary.isLoadable none) = 0 := by
    simp [isLoadable, hlost]
  have hfull : [exampleImport "t", exampleImport "s"].countP (exampleLibrary.isLoadable none)
      = 1 := by
    simp [isLoadable, hlost, hfound, himport]
  have hsome : second = some ⟨none, [], []⟩ := (hattached _).2 ⟨hfound, hroom ▸ Nat.one_pos⟩
  have hnone : third = none := by
    refine Option.eq_none_iff_forall_ne_some.2 fun found h => ?_
    have hlt := ((hleft found).1 h).2
    rw [hfull] at hlt
    exact absurd hlt (Nat.lt_irrefl 1)
  subst hsome hnone
  exact ⟨hsecond, hthird⟩

end Sources

end Wsdl
