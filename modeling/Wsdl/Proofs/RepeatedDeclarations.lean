-- What inline schemas declare again. The schemas are gone through once, and those
-- that came before are kept by target namespace, each to be compared with the ones
-- behind it. That comes to comparing any two of them that have one target namespace.
import Mathlib.Data.List.Nodup
import Wsdl.Proofs.Enumeration
import Wsdl.Proofs.Repeats
import Wsdl.Proofs.Validators

namespace Wsdl.Check

open Written

/-! ## What two schemas declare -/

/-- What a schema has names of. -/
inductive Declared where
  | elements
  | types
  deriving DecidableEq, Repr

namespace Declared

/-- Both of them, in the order in which they are looked at. -/
def all : List Declared := [elements, types]

def names : Declared → SchemaDocument → List QName
  | elements, s => s.elements
  | types, s => s.types

/-- The rule against declaring one of them again. -/
def rule : Declared → Rule
  | elements => .elementIsDeclaredOnce
  | types => .typeIsDefinedOnce

end Declared

/-- A name is declared again at a place: by the schema at `n`, among the elements or the
types, as `i` has it, at `k` there. A schema before it declares the name for the same
target namespace. -/
inductive DeclaredAgain (ss : List InlineSchema) : Nat × Nat × Nat → Violation → Prop
  | intro {m n i k : Nat} {e s : InlineSchema} {ns : String} {x : Declared} {q : QName} :
      ss[n]? = some s → s.document.targetNamespace = some ns →
        Declared.all[i]? = some x → (x.names s.document)[k]? = some q →
        m < n → ss[m]? = some e → e.document.targetNamespace = some ns →
        q ∈ x.names e.document →
        DeclaredAgain ss (n, i, k) (x.rule.violationAt s.place [q.localName, ns])

/-- The schemas have no name in common, unless they are for different namespaces or
for none. -/
def Apart (e s : InlineSchema) : Prop :=
  ∀ ns, e.document.targetNamespace = some ns → s.document.targetNamespace = some ns →
    ∀ x : Declared, (x.names e.document).Disjoint (x.names s.document)

theorem Apart.symm {e s : InlineSchema} (h : Apart e s) : Apart s e := by
  intro ns hs he x q hq hq'
  exact h ns he hs x hq' hq

/-- No two schemas have a name in common exactly where none is declared again. -/
theorem not_declaredAgain_iff (ss : List InlineSchema) :
    (∀ p v, ¬ DeclaredAgain ss p v) ↔ ss.Pairwise Apart := by
  rw [pairwise_iff_getElem?]
  constructor
  · intro hnone m n e s hlt he hs ns hens hns x q hqe hqs
    obtain ⟨i, hi⟩ : ∃ i, Declared.all[i]? = some x := by
      cases x with
      | elements => exact ⟨0, rfl⟩
      | types => exact ⟨1, rfl⟩
    obtain ⟨k, hk⟩ := List.mem_iff_getElem?.1 hqs
    exact hnone _ _ (.intro hs hns hi hk hlt he hens hqe)
  · intro hapart p v hagain
    cases hagain with
    | intro hs hns _ hk hlt he hens hq =>
      exact hapart _ _ _ _ hlt he hs _ hens hns _ hq (List.mem_of_getElem? hk)

/-! ## The schemas by namespace -/

/-- What the schemas of a target namespace declare. -/
def documentsOf (ns : String) (ss : List InlineSchema) : List SchemaDocument :=
  (ss.filter (·.document.targetNamespace == some ns)).map (·.document)

theorem mem_documentsOf_iff {ns : String} {ss : List InlineSchema} {d : SchemaDocument} :
    d ∈ documentsOf ns ss
      ↔ ∃ e ∈ ss, e.document.targetNamespace = some ns ∧ e.document = d := by
  unfold documentsOf
  simp [and_assoc]

theorem documentsOf_append_singleton (ns : String) (ss : List InlineSchema) (s : InlineSchema) :
    documentsOf ns (ss ++ [s]) = documentsOf ns ss
      ++ if s.document.targetNamespace = some ns then [s.document] else [] := by
  unfold documentsOf
  by_cases hs : s.document.targetNamespace = some ns
  · simp [hs]
  · simp [hs]

theorem SchemaGroups.earlier_cons (g : SchemaGroups) (n ns : String) (ds : List SchemaDocument) :
    SchemaGroups.earlier ((n, ds) :: g) ns = if ns = n then ds else g.earlier ns :=
  Groups.seconds_cons n ns ds g

theorem SchemaGroups.earlier_add (g : SchemaGroups) (n ns : String) (d : SchemaDocument) :
    (g.add n d).earlier ns = g.earlier ns ++ if n = ns then [d] else [] := by
  induction g with
  | nil =>
    rw [add, earlier_cons]
    by_cases hn : ns = n
    · simp [hn, earlier]
    · simp [hn, Ne.symm hn, earlier]
  | cons group g ih =>
    obtain ⟨x, ds⟩ := group
    unfold add
    split
    · next hx =>
      subst hx
      rw [earlier_cons, earlier_cons]
      by_cases hn : ns = x
      · simp [hn]
      · simp [hn, Ne.symm hn]
    · next hx =>
      rw [earlier_cons, earlier_cons, ih]
      by_cases hn : ns = x
      · subst hn
        simp [Ne.symm hx]
      · simp [hn]

/-! ## What is reported -/

/-- What a schema declares again that is declared before. -/
def declaredAgain (earlier : List InlineSchema) (s : InlineSchema) : List Violation :=
  match s.document.targetNamespace with
  | none => []
  | some ns => repeatedDeclarations (documentsOf ns earlier) ns s

theorem declaredAgain_of_none {earlier : List InlineSchema} {s : InlineSchema}
    (hs : s.document.targetNamespace = none) : declaredAgain earlier s = [] := by
  rw [declaredAgain, hs]

theorem declaredAgain_of_some {earlier : List InlineSchema} {s : InlineSchema} {ns : String}
    (hs : s.document.targetNamespace = some ns) :
    declaredAgain earlier s = repeatedDeclarations (documentsOf ns earlier) ns s := by
  rw [declaredAgain, hs]

/-- The groups hold what came before, so each schema is compared with all of that. -/
theorem declarationsFrom_eq {g : SchemaGroups} {earlier : List InlineSchema}
    (h : ∀ ns, g.earlier ns = documentsOf ns earlier) (ss : List InlineSchema) :
    declarationsFrom g ss
      = (withEarlier earlier ss).flatMap fun p => declaredAgain p.1 p.2 := by
  induction ss generalizing g earlier with
  | nil => rfl
  | cons s ss ih =>
    rw [withEarlier, List.flatMap_cons]
    cases hs : s.document.targetNamespace with
    | none =>
      have hnext (ns : String) : g.earlier ns = documentsOf ns (earlier ++ [s]) := by
        simp [documentsOf_append_singleton, hs, h]
      simp only [declarationsFrom, declaredAgain_of_none hs, hs, ih hnext, List.nil_append]
    | some ns =>
      have hnext (ns' : String) :
          (g.add ns s.document).earlier ns' = documentsOf ns' (earlier ++ [s]) := by
        simp [SchemaGroups.earlier_add, documentsOf_append_singleton, hs, h]
      simp only [declarationsFrom, declaredAgain_of_some hs, hs, ih hnext, h]

theorem repeatedDeclarations_eq (ds : List SchemaDocument) (ns : String) (s : InlineSchema) :
    repeatedDeclarations ds ns s = Declared.all.flatMap fun x =>
      repeatedIn x.rule ns s.place (fun q => ds.any fun d => (x.names d).contains q)
        (x.names s.document) := by
  simp only [Declared.all, List.flatMap_cons, List.flatMap_nil, List.append_nil]
  rfl

theorem enumerates_declaredAgain (earlier : List InlineSchema) (s : InlineSchema) :
    Enumerates (Prod.Lex (· < ·) (· < ·)) (fun (p : Nat × Nat) v => ∃ ns x q,
        s.document.targetNamespace = some ns ∧ Declared.all[p.1]? = some x ∧
          (x.names s.document)[p.2]? = some q ∧
          (∃ e ∈ earlier, e.document.targetNamespace = some ns ∧ q ∈ x.names e.document) ∧
          v = x.rule.violationAt s.place [q.localName, ns])
      (declaredAgain earlier s) := by
  unfold declaredAgain
  split
  · next hs => exact enumerates_nil.congr fun p v => by simp [hs]
  · next ns hs =>
    rw [repeatedDeclarations_eq]
    have hall := (enumerates_getElem? Declared.all).flatMap fun x =>
      ((enumerates_getElem? (x.names s.document)).filter fun q =>
        (documentsOf ns earlier).any fun d => (x.names d).contains q).map fun q =>
          x.rule.violationAt s.place [q.localName, ns]
    refine hall.congr fun p v => ?_
    simp only [List.any_eq_true, List.contains_iff_mem, mem_documentsOf_iff]
    constructor
    · rintro ⟨x, hx, q, ⟨hq, _, ⟨e, he, hens, rfl⟩, hqe⟩, rfl⟩
      exact ⟨ns, x, q, hs, hx, hq, ⟨e, he, hens, hqe⟩, rfl⟩
    · rintro ⟨ns', x, q, hns, hx, hq, ⟨e, he, hens, hqe⟩, rfl⟩
      obtain rfl := Option.some.inj (hs.symm.trans hns)
      exact ⟨x, hx, q, ⟨hq, _, ⟨e, he, hens, rfl⟩, hqe⟩, rfl⟩

theorem enumerates_schemaDeclarations (t : Types) :
    Enumerates (Prod.Lex (· < ·) (Prod.Lex (· < ·) (· < ·))) (DeclaredAgain t.inline)
      (schemaDeclarations t) := by
  have heq : schemaDeclarations t
      = (withEarlier [] t.inline).flatMap fun p => declaredAgain p.1 p.2 :=
    declarationsFrom_eq (fun _ => rfl) t.inline
  rw [heq]
  refine ((enumerates_withEarlier t.inline).flatMap fun p =>
    enumerates_declaredAgain p.1 p.2).congr fun p v => ?_
  constructor
  · rintro ⟨⟨_, s⟩, ⟨hs, rfl⟩, ns, x, q, hns, hx, hq, ⟨e, he, hens, hqe⟩, rfl⟩
    obtain ⟨m, hlt, hm⟩ := mem_take_iff.1 he
    exact .intro hs hns hx hq hlt hm hens hqe
  · intro hagain
    cases hagain with
    | @intro m n _ _ e s ns x q hs hns hx hq hlt he hens hqe =>
      have hmem : e ∈ t.inline.take n := mem_take_iff.2 ⟨m, hlt, he⟩
      exact ⟨(t.inline.take n, s), ⟨hs, rfl⟩, ns, x, q, hns, hx, hq, ⟨e, hmem, hens, hqe⟩, rfl⟩

/-! ## The law -/

open Check (Inspection)

/-- A schema is told of each name that it declares again: of elements and then of types,
one by one where they stand in it, and after all that the schemas before it are told.
Of anything else none is told. So all is well exactly if no two schemas of one target
namespace have a name in common, whatever the order of the schemas. -/
theorem each_name_that_is_declared_again_is_told (t : Types) :
    Enumerates (Prod.Lex (· < ·) (Prod.Lex (· < ·) (· < ·))) (DeclaredAgain t.inline)
        (Inspection.schemaDeclarations t).reports ∧
      ((Inspection.schemaDeclarations t).holds = true ↔ t.inline.Pairwise Apart) ∧
      ∀ t' : Types, t.schemas.Perm t'.schemas →
        (Inspection.schemaDeclarations t').holds = (Inspection.schemaDeclarations t).holds := by
  have hholds (t : Types) :
      (Inspection.schemaDeclarations t).holds = true ↔ t.inline.Pairwise Apart := by
    rw [(Inspection.tells_schemaDeclarations t).holds_iff,
      (enumerates_schemaDeclarations t).eq_nil_iff, not_declaredAgain_iff]
  refine ⟨?_, hholds t, ?_⟩
  · rw [(Inspection.tells_schemaDeclarations t).reports_eq]
    exact enumerates_schemaDeclarations t
  · intro t' hperm
    have hinline : t.inline.Perm t'.inline := hperm.filterMap _
    rw [Bool.eq_iff_iff, hholds, hholds]
    exact (hinline.pairwise_iff Apart.symm).symm

def exampleSchema (ns : Option String) (elements types : List String) : Schema :=
  .inline ⟨none, ⟨ns, elements.map (⟨ns, ·⟩), types.map (⟨ns, ·⟩)⟩, .nowhere⟩

/-- Two schemas are for the shop, one is for none, and one is imported. -/
def exampleSchemas : List Schema :=
  [exampleSchema (some "urn:shop") ["bill", "bill"] ["Sum"], exampleSchema none ["bill"] [],
   .imported ⟨some "urn:shop", none, some ⟨some "urn:shop", [⟨some "urn:shop", "bill"⟩], []⟩,
     .nowhere⟩,
   exampleSchema (some "urn:shop") ["bill", "note", "bill"] ["Sum"]]

/-- The last schema is told of both its bills, and then of the sum. In the other order
something is told as well. -/
theorem the_last_schema_is_told_of_both_its_bills :
    exampleSchemas.Perm exampleSchemas.reverse ∧
      (Inspection.schemaDeclarations ⟨exampleSchemas, .nowhere⟩).reports.map (·.id)
        = ["Schema-1073", "Schema-1073", "Schema-1073b"] ∧
      (Inspection.schemaDeclarations ⟨exampleSchemas, .nowhere⟩).holds = false ∧
      (Inspection.schemaDeclarations ⟨exampleSchemas.reverse, .nowhere⟩).holds = false := by
  have hperm : exampleSchemas.Perm exampleSchemas.reverse := (List.reverse_perm _).symm
  obtain ⟨_, _, horder⟩ :=
    each_name_that_is_declared_again_is_told ⟨exampleSchemas, .nowhere⟩
  have hfails : (Inspection.schemaDeclarations ⟨exampleSchemas, .nowhere⟩).holds = false := by
    decide
  refine ⟨hperm, by decide, hfails, ?_⟩
  rw [horder ⟨exampleSchemas.reverse, .nowhere⟩ hperm, hfails]

end Wsdl.Check
