-- Which endpoints do not match their service. The binding of an endpoint leads to
-- an interface by name, and so does the service. The two interfaces are compared as
-- they are, with all that is in them, and yet only their names count: a name leads
-- to one interface only, whatever others have it too.
import Wsdl.Proofs.Validators

namespace Wsdl.Component

/-! ## Two names -/

/-- Of two names that lead to interfaces, each leads to one of its own. -/
theorem Description.interface?_inj {d : Description} {p q : QName} {i j : Interface}
    (hi : d.interface? p = some i) (hj : d.interface? q = some j) : i = j ↔ p = q := by
  constructor
  · rintro rfl
    have hp := name_of_interface? hi
    rw [name_of_interface? hj] at hp
    exact (Option.some.inj hp).symm
  · rintro rfl
    rw [hi] at hj
    exact Option.some.inj hj

/-- The binding of an endpoint is for an interface called `bound`, its service
implements one called `implemented`, and all three are there. -/
structure Endpoint.Faces (e : Endpoint) (s : Service) (d : Description)
    (bound implemented : QName) : Prop where
  binding : ∃ q b, e.binding = some q ∧ d.binding? q = some b ∧ b.interface = some bound
  interface : (d.interface? bound).isSome = true
  service : s.interface = some implemented
  implemented : (d.interface? implemented).isSome = true

section

variable {d : Description} {s : Service} {e : Endpoint}

/-- What is compared are the interfaces to which two names lead. -/
theorem exists_faces_iff {i j : Interface} :
    ((e.bindingIn d).bind (·.interfaceIn d) = some i ∧ s.interfaceIn d = some j) ↔
      ∃ bound implemented, e.Faces s d bound implemented ∧
        d.interface? bound = some i ∧ d.interface? implemented = some j := by
  constructor
  · rintro ⟨hi, hj⟩
    obtain ⟨b, hb, hi⟩ := Option.bind_eq_some_iff.1 hi
    obtain ⟨q, hq, hb⟩ := Option.bind_eq_some_iff.1 hb
    obtain ⟨bound, hbound, hi⟩ := Option.bind_eq_some_iff.1 hi
    obtain ⟨implemented, himplemented, hj⟩ := Option.bind_eq_some_iff.1 hj
    have hfaces : e.Faces s d bound implemented :=
      ⟨⟨q, b, hq, hb, hbound⟩, Option.isSome_of_eq_some hi, himplemented,
        Option.isSome_of_eq_some hj⟩
    exact ⟨bound, implemented, hfaces, hi, hj⟩
  · rintro ⟨bound, implemented, hfaces, hi, hj⟩
    obtain ⟨q, b, hq, hb, hbound⟩ := hfaces.binding
    simp [Endpoint.bindingIn, Binding.interfaceIn, Service.interfaceIn, hq, hb, hbound, hi,
      hfaces.service, hj]

/-- Two interfaces that are there are compared by their names. -/
theorem endpointInterface_of_faces {bound implemented : QName}
    (h : e.Faces s d bound implemented) :
    Check.endpointInterface d s e = if bound = implemented then [] else
      [Rule.endpointMatchesService.violation
        [e.text, bound.text, s.text, implemented.text]] := by
  obtain ⟨i, hi⟩ := Option.isSome_iff_exists.1 h.interface
  obtain ⟨j, hj⟩ := Option.isSome_iff_exists.1 h.implemented
  obtain ⟨hbound, hservice⟩ := exists_faces_iff.2 ⟨bound, implemented, h, hi, hj⟩
  have hitext : i.text = bound.text := by
    rw [Interface.text, Description.name_of_interface? hi, nameText]
  have hjtext : j.text = implemented.text := by
    rw [Interface.text, Description.name_of_interface? hj, nameText]
  have hnames := Description.interface?_inj hi hj
  unfold Check.endpointInterface Check.violatedIf
  simp only [hbound, hservice, hitext, hjtext, bne_iff_ne, ne_eq, hnames]
  by_cases heq : bound = implemented
  · simp [heq]
  · simp [heq]

/-- Where one of them is not there, there is nothing to compare. -/
theorem exists_faces (h : Check.endpointInterface d s e ≠ []) :
    ∃ bound implemented, e.Faces s d bound implemented := by
  unfold Check.endpointInterface at h
  split at h
  · next i j hi hj =>
    obtain ⟨bound, implemented, hfaces, _⟩ := exists_faces_iff.1 ⟨hi, hj⟩
    exact ⟨bound, implemented, hfaces⟩
  · exact absurd rfl h

end

/-! ## The law -/

open Check (Inspection)

/-- An endpoint is reported where the interface of its binding and that of its service
are there and have names that differ. To compare the interfaces themselves comes to
the same. -/
theorem an_endpoint_is_reported_iff_the_names_differ (d : Description) (s : Service)
    (e : Endpoint) :
    ((Inspection.endpointInterface d s e).reports ≠ [] ↔
        ∃ bound implemented, e.Faces s d bound implemented ∧ bound ≠ implemented) ∧
      ((Inspection.endpointInterface d s e).holds = true ↔
        (Inspection.endpointInterface d s e).reports = []) ∧
      (∀ bound implemented, e.Faces s d bound implemented → bound ≠ implemented →
        (Inspection.endpointInterface d s e).reports =
          [Rule.endpointMatchesService.violation
            [e.text, bound.text, s.text, implemented.text]]) ∧
      ∀ p q i j, d.interface? p = some i → d.interface? q = some j → (i = j ↔ p = q) := by
  have htells := Inspection.tells_endpointInterface d s e
  rw [htells.holds_iff, htells.reports_eq]
  refine ⟨?_, Iff.rfl, fun bound implemented hfaces hne => ?_,
    fun p q i j hi hj => Description.interface?_inj hi hj⟩
  · constructor
    · intro hreported
      obtain ⟨bound, implemented, hfaces⟩ := exists_faces hreported
      refine ⟨bound, implemented, hfaces, fun heq => hreported ?_⟩
      rw [endpointInterface_of_faces hfaces, if_pos heq]
    · rintro ⟨bound, implemented, hfaces, hne⟩
      rw [endpointInterface_of_faces hfaces, if_neg hne]
      simp
  · rw [endpointInterface_of_faces hfaces, if_neg hne]

/-- Two interfaces that have only their names apart, and a third one that has the name
of the second. -/
def exampleTwins : Description :=
  ⟨none, [⟨some ⟨none, "A"⟩, [], [], [], []⟩, ⟨some ⟨none, "B"⟩, [], [], [], []⟩,
      ⟨some ⟨none, "B"⟩, [⟨none, "A"⟩], [], [], []⟩],
    [⟨some ⟨none, "ToB"⟩, some ⟨none, "B"⟩, none, [], []⟩], [], [], []⟩

def exampleDoor : Endpoint := ⟨some "door", some ⟨none, "ToB"⟩, none⟩

/-- For a service that implements the name of both the door is right, and for one that
implements the twin it is not. -/
example :
    Check.endpointInterface exampleTwins ⟨some ⟨none, "S"⟩, some ⟨none, "B"⟩, []⟩ exampleDoor
        = [] ∧
      Check.endpointInterface exampleTwins ⟨some ⟨none, "S"⟩, some ⟨none, "A"⟩, []⟩ exampleDoor
        = [Rule.endpointMatchesService.violation ["door", "B", "S", "A"]] := by
  decide

end Wsdl.Component
