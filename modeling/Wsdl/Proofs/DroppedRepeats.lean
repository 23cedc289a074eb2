-- What a validation makes of its three parts: the check of the written
-- description, the check of the components, and the run of the table. A report
-- of the table that repeats one of the checks is dropped. This hides neither
-- an error nor an id, whatever the registered assertions report.
import Wsdl.Command.Run
import Wsdl.Proofs.Summary
import Wsdl.Proofs.Validation

namespace Wsdl

/-! ## Logs without repeats -/

namespace Log

variable (earlier later : Log)

theorem mem_append_iff {v : Violation} :
    v ∈ Log.append earlier later ↔ v ∈ earlier ++ later := by
  by_cases h : v ∈ earlier <;> simp [Log.append, h]

theorem isValid_append :
    (Summary.of (Log.append earlier later)).isValid = (Summary.of (earlier ++ later)).isValid := by
  rw [Bool.eq_iff_iff, Summary.isValid_of_iff, Summary.isValid_of_iff]
  simp only [mem_append_iff]

/-- The ids of what is dropped have occurred before. -/
theorem ids_append :
    (Summary.of (Log.append earlier later)).ids = (Summary.of (earlier ++ later)).ids := by
  have hdropped : ∀ v ∈ later, (! earlier.contains v) = false →
      v.id ∈ (Log.ids earlier).foldl Summary.addId [] := by
    intro v _ hv
    have hmem : v ∈ earlier := by simpa using hv
    exact Summary.mem_foldl_addId.2 (Or.inr (List.mem_map.2 ⟨v, hmem, rfl⟩))
  rw [Summary.of_eq, Summary.of_eq]
  simp only [Log.append, Log.ids, List.map_append, List.foldl_append]
  exact Summary.foldl_addId_filter hdropped

end Log

namespace Check

/-! ## The table by itself -/

section

variable (t : Table) (resolver : Resolver) (w : Written.Description) (d : Component.Description)

/-- What the table reports by itself. -/
def Table.reports : Log := (t.run resolver w d (.on [])).1.log

/-- The table reports the same after others as by itself. -/
theorem Table.log_run_on (log : Log) :
    (t.run resolver w d (.on log)).1.log = log ++ t.reports resolver w d := by
  rw [Table.reports, Table.log_run, Table.log_run, Table.invocations_eq_follow,
    Table.invocations_eq_follow]
  rfl

theorem Table.result_run_eq (s s' : Session) :
    (t.run resolver w d s).2 = (t.run resolver w d s').2 := by
  rw [Table.result_run, Table.result_run, Table.invocations_eq_follow,
    Table.invocations_eq_follow]

end

/-- Where the table by itself ends well, so does the validation. -/
theorem validate_eq {r : Registry} {t : Table} (ht : Table.ofRegistry r = .ok t)
    {resolver : Resolver} {w : Written.Description} {d : Component.Description} {count : Summary}
    (hrun : (t.run resolver w d (.on [])).2 = .ok count) :
    validate r resolver w d
      = .ok (Log.append (document w ++ component d) (t.reports resolver w d)) := by
  have hlog := t.log_run_on resolver w d (document w ++ component d)
  rw [t.result_run_eq resolver w d _ (.on (document w ++ component d))] at hrun
  unfold validate
  rw [ht]
  simp only [Except.mapError, bind, Except.bind, pure, Except.pure, hrun, hlog]
  rw [dropRepeats_append, Log.append]

end Check

/-! ## Readings -/

/-- A reader that validates gives the violations along with what it read. -/
theorem Reader.validate_of_readText {rd : Reader} {base : Option Iri} {xml : String} {x : Reading}
    (hv : rd.validates = true) (h : rd.readText base xml = .ok x) :
    ∃ log, rd.validate x.written x.description = .ok log ∧ x.violations = some log := by
  unfold Reader.readText at h
  obtain ⟨w, _, h⟩ := bind_eq_ok_iff.1 h
  simp only [hv, if_true] at h
  obtain ⟨violations, hviolations, h⟩ := bind_eq_ok_iff.1 h
  obtain rfl := Except.ok.inj h
  cases hlog : rd.validate w (Component.derive w) with
  | error e => simp [hlog, Except.map] at hviolations
  | ok log =>
    rw [hlog] at hviolations
    exact ⟨log, rfl, (Except.ok.inj hviolations).symm⟩

namespace Command

/-- What a validation reads, its reader reads from a text. -/
theorem readText_of_readingOf {fs : FileSystem} {v : Validation} {rd : Reader} {x : Reading}
    (hrd : readerOf fs v = .ok rd) (h : readingOf fs v = .ok x) :
    ∃ base xml, rd.readText base xml = .ok x := by
  unfold readingOf at h
  obtain ⟨rd', hrd', h⟩ := bind_eq_ok_iff.1 h
  obtain rfl : rd = rd' := Except.ok.inj (hrd.symm.trans hrd')
  obtain ⟨xml, _, h⟩ := bind_eq_ok_iff.1 (mapError_eq_ok_iff.1 h)
  exact ⟨_, xml, h⟩

theorem code_run {fs : FileSystem} {args : List String} {v : Validation} {x : Reading}
    (hargs : readArguments args = .validate v) (h : readingOf fs v = .ok x) :
    (run fs args).code = codeOf x := by
  simp only [run, hargs, runValidation, h]

end Command

/-! ## The law -/

namespace Check

/-- Where the table by itself ends well, a validation gives the violations of
the written description, those of the components, and of what the table reports
all that is not among them. The description is valid if each of the three parts
finds no error, and the ids are those of the three parts, one after the other.
This is what a reading and the command line go by. -/
theorem dropping_repeats_hides_no_error_and_no_id {rd : Reader} {t : Table}
    (ht : Table.ofRegistry rd.registry = .ok t) {w : Written.Description}
    {d : Component.Description} {count : Summary}
    (hrun : (t.run rd.resolver w d (.on [])).2 = .ok count) :
    ∃ log, rd.validate w d = .ok log ∧
      log = document w ++ component d ++ (t.reports rd.resolver w d).filter
        (fun v => v ∉ document w ∧ v ∉ component d) ∧
      (Summary.of log).isValid = ((Summary.of (document w)).isValid
        && (Summary.of (component d)).isValid
        && (Summary.of (t.reports rd.resolver w d)).isValid) ∧
      (Summary.of log).ids = (((Summary.of (document w)).merge (Summary.of (component d))).merge
        (Summary.of (t.reports rd.resolver w d))).ids ∧
      (rd.validates = true → ∀ base xml x, rd.readText base xml = .ok x → x.written = w →
        x.description = d →
          x.summary = some (Summary.of log) ∧ x.isValid = (Summary.of log).isValid) ∧
      (rd.validates = true → ∀ fs args v x, Command.readArguments args = .validate v →
        Command.readerOf fs v = .ok rd → Command.readingOf fs v = .ok x → x.written = w →
        x.description = d →
          (Command.run fs args).code = if (Summary.of log).isValid then 0 else 1) := by
  have hlog : rd.validate w d = .ok (Log.append (document w ++ component d)
      (t.reports rd.resolver w d)) := validate_eq ht hrun
  have hreading : rd.validates = true → ∀ base xml x, rd.readText base xml = .ok x →
      x.written = w → x.description = d → x.violations = some
        (Log.append (document w ++ component d) (t.reports rd.resolver w d)) := by
    rintro hv base xml x hx rfl rfl
    obtain ⟨log, hlog', hviolations⟩ := rd.validate_of_readText hv hx
    rw [hviolations, ← Except.ok.inj (hlog'.symm.trans hlog)]
  refine ⟨_, hlog, ?_, ?_, ?_, ?_, ?_⟩
  · refine congrArg (document w ++ component d ++ ·) (List.filter_congr fun v _ => ?_)
    simp
  · rw [Log.isValid_append, Summary.isValid_of_append, Summary.isValid_of_append]
  · rw [Log.ids_append, Summary.merge_of, Summary.merge_of]
  · intro hv base xml x hx hw hd
    have hsummary := congrArg (Option.map Summary.of) (hreading hv base xml x hx hw hd)
    exact ⟨hsummary, by rw [Reading.isValid, Reading.summary, hsummary]; rfl⟩
  · intro hv fs args v x hargs hrd hx hw hd
    obtain ⟨base, xml, htext⟩ := Command.readText_of_readingOf hrd hx
    have hviolations := hreading hv base xml x htext hw hd
    rw [Command.code_run hargs hx, Command.codeOf, Reading.isValid, Reading.summary, hviolations]
    rfl

/-- Two services of one name. -/
def exampleTwins : Component.Description :=
  ⟨none, [], [], [⟨some ⟨none, "S"⟩, none, []⟩, ⟨some ⟨none, "S"⟩, none, []⟩], [], []⟩

/-- Repeats what the check of components says, and adds a warning twice. -/
def exampleEcho : Assertion where
  id := "Description-9"
  run _ _ _ := .ofViolations
    [Rule.serviceNameIsUnique.violation ["S"], ⟨.nowhere, "Description-9", [], .warning⟩,
      ⟨.nowhere, "Description-9", [], .warning⟩]

def exampleEchoTable : Table := ⟨[⟨exampleEcho, .description⟩], by decide⟩

def exampleReader : Reader :=
  ⟨⟨⟨.ofText "/", fun _ => .error .notFound⟩, .standard, false, none⟩, true,
    exampleEchoTable.registry⟩

/-- The repeat is dropped, and both of the warnings stay. -/
theorem the_echo_is_dropped_and_the_warnings_stay :
    Table.ofRegistry exampleReader.registry = .ok exampleEchoTable ∧
      (exampleEchoTable.run exampleReader.resolver Table.exampleWritten exampleTwins (.on [])).2
        = .ok ⟨1, 2, ["Service-1060", "Description-9"]⟩ ∧
      exampleReader.validate Table.exampleWritten exampleTwins
        = .ok [Rule.serviceNameIsUnique.violation ["S"], ⟨.nowhere, "Description-9", [], .warning⟩,
          ⟨.nowhere, "Description-9", [], .warning⟩] := by
  have ht : Table.ofRegistry exampleReader.registry = .ok exampleEchoTable :=
    Table.ofRegistry_registry exampleEchoTable
  have hrun : (exampleEchoTable.run exampleReader.resolver Table.exampleWritten exampleTwins
      (.on [])).2 = .ok ⟨1, 2, ["Service-1060", "Description-9"]⟩ := rfl
  obtain ⟨log, hlog, hparts, _⟩ := dropping_repeats_hides_no_error_and_no_id ht hrun
  refine ⟨ht, hrun, ?_⟩
  rw [hlog, hparts]
  rfl

end Check

end Wsdl
