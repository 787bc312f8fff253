import Mathlib.Data.List.Basic
import JavaTree.Program

/-!
# How a run of the program ends

A run ends in one of three ways, which its status tells apart: it shows how the program is used, it
prints a result, or it reports a failure.  Whatever goes wrong in an extraction, the run ends in one
of them, prints a whole result or none, and reports a failure once.

## Main definitions

* `Record.Modest`, `Extractor.Reserved` — records that do not report a failure, and extractors that
  leave this to the program.
* `Course` — the ways in which a run can go, with what it leaves behind.
* `errorCount`, `stopCount` — how often failures and interruptions are reported.

## Main results

* `reserved_extractor` — the extractor for a disk leaves it to the program to report failures.
* `execute_course` — every run goes one of these ways.
* `execute_outcome` — the status, the output and the reports of a run.
-/

namespace JavaTree

/-! ## Modest records -/

/-- A record that does not report how a run ends: it is no error, and no warning of the program
itself. -/
def Record.Modest (x : Record) : Prop :=
  x.level ≠ .error ∧ ¬ (x.reporter = .program ∧ x.level = .warning)

/-- An extractor that leaves it to the program to report failures. -/
def Extractor.Reserved (e : Extractor) : Prop := ∀ f r, ∀ x ∈ (e f r).records, x.Modest

/-- A record of a level below those of warnings and errors does not report how a run ends. -/
lemma modest_of_level {x : Record} (herror : x.level ≠ .error) (hwarning : x.level ≠ .warning) :
    x.Modest :=
  ⟨herror, fun h => hwarning h.2⟩

section

variable (d : Disk) (f : NodeFilter) (asked : Asked)

/-- Warnings are no errors. -/
lemma modest_warnings : ∀ x ∈ f.warnings, x.Modest := by
  intro x hx
  obtain ⟨kind, -, rfl⟩ := List.mem_map.1 hx
  exact ⟨nofun, nofun⟩

/-- Nothing that is logged while a file is parsed is an error. -/
lemma modest_parseFile (name : String) (path : Path) :
    ∀ x ∈ (parseFile d f asked name path).records, x.Modest := by
  intro x hx
  obtain rfl := List.mem_singleton.1 hx
  exact modest_of_level nofun nofun

/-- Nothing that is logged while files are parsed is an error. -/
lemma modest_elementsOfSources (sources : List SourceFile) :
    ∀ x ∈ (elementsOfSources d f sources).records, x.Modest := by
  induction sources with
  | nil =>
    intro x hx
    cases hx
  | cons s ss ih =>
    have hrecord : (parsingRecord .debug s.relativePath).Modest := modest_of_level nofun nofun
    unfold elementsOfSources
    split
    · exact List.forall_mem_singleton.2 hrecord
    · exact List.forall_mem_cons.2 ⟨hrecord, ih⟩

/-- Nothing that is logged while a project is parsed is an error. -/
lemma modest_parseFolder (project : Path) :
    ∀ x ∈ (parseFolder d f asked project).records, x.Modest := by
  unfold parseFolder
  split
  · exact List.forall_mem_singleton.2 (modest_of_level nofun nofun)
  · rename_i sources hsources
    have hfiles := modest_elementsOfSources d f sources
    simp only
    split
    · exact List.forall_mem_cons.2 ⟨modest_of_level nofun nofun, hfiles⟩
    · exact List.forall_mem_append.2 ⟨List.forall_mem_cons.2 ⟨modest_of_level nofun nofun, hfiles⟩,
        List.forall_mem_singleton.2 (modest_of_level nofun nofun)⟩

/-- **The extractor for a disk leaves it to the program to report failures.** -/
theorem reserved_extractor : (extractor d).Reserved := by
  intro f r
  have hextract : ∀ x ∈ (extract d f r).records, x.Modest := by
    unfold extract
    split
    · exact modest_parseFolder d f _ r.path
    · exact modest_parseFile d f _ r.path.text r.path
  exact List.forall_mem_append.2 ⟨modest_warnings f, hextract⟩

/-- Nothing that is logged while the filter is read is an error. -/
lemma modest_loadFilter (path : Option Path) : ∀ x ∈ (loadFilter d path).records, x.Modest := by
  unfold loadFilter
  intro x hx
  split at hx
  · cases hx
  · split at hx
    · cases hx
    · split at hx
      · cases hx
      · obtain rfl := List.mem_singleton.1 hx
        exact modest_of_level nofun nofun

/-- Nothing that is logged about the properties file is an error. -/
lemma modest_propertiesRecords (r : Request) : ∀ x ∈ propertiesRecords r, x.Modest := by
  unfold propertiesRecords
  split
  · intro x hx
    cases hx
  · exact List.forall_mem_singleton.2 (modest_of_level nofun nofun)

end

/-! ## The course of a run -/

/-- What is reported before an extraction ends. -/
def recordsBefore (d : Disk) (e : Extractor) (r : Request) (f : NodeFilter) : List Record :=
  (loadFilter d r.properties).records ++ propertiesRecords r ++ (e f r).records

/-- The ways in which a run can go, and what it leaves behind. -/
inductive Course (d : Disk) (e : Extractor) (arguments : List String) : Run → Prop
  /-- The arguments ask for nothing. -/
  | refused {err : UsageError} (hread : readArguments arguments = .error err) :
      Course d e arguments (usageRun err)
  /-- There is no filter in the properties file. -/
  | noFilter {r : Request} {err : ConfigurationError} (hread : readArguments arguments = .ok r)
      (hload : (loadFilter d r.properties).result = .error err) :
      Course d e arguments (failedRun (loadFilter d r.properties).records err.failure)
  /-- The extraction fails. -/
  | failed {r : Request} {f : NodeFilter} {failure : Failure}
      (hread : readArguments arguments = .ok r) (hload : (loadFilter d r.properties).result = .ok f)
      (hextract : (e f r).result = .error failure) :
      Course d e arguments (failedRun (recordsBefore d e r f) failure)
  /-- The extraction has a result. -/
  | done {r : Request} {f : NodeFilter} {text : String} (hread : readArguments arguments = .ok r)
      (hload : (loadFilter d r.properties).result = .ok f) (hextract : (e f r).result = .ok text) :
      Course d e arguments ⟨0, text ++ "\n", recordsBefore d e r f⟩

section

variable {d : Disk} {e : Extractor} {arguments : List String} {run : Run}

/-- **Every run goes one of these ways.** -/
theorem execute_course (d : Disk) (e : Extractor) (arguments : List String) :
    Course d e arguments (execute d e arguments) := by
  unfold execute
  cases hread : readArguments arguments with
  | error err => exact .refused hread
  | ok r =>
    simp only [fulfil]
    cases hload : (loadFilter d r.properties).result with
    | error err => exact .noFilter hread hload
    | ok f =>
      simp only
      cases hextract : (e f r).result with
      | error failure => exact .failed hread hload hextract
      | ok text => exact .done hread hload hextract

/-- A run goes one way only. -/
lemma Course.eq_execute (h : Course d e arguments run) : run = execute d e arguments := by
  cases h with
  | refused hread => rw [execute, hread]
  | noFilter hread hload => simp only [execute, hread, fulfil, hload]
  | failed hread hload hextract =>
    simp only [execute, hread, fulfil, hload, hextract, recordsBefore]
  | done hread hload hextract =>
    simp only [execute, hread, fulfil, hload, hextract, recordsBefore]

end

section

variable {arguments : List String} {r : Request}

/-- Arguments are read if and only if they can be parsed, since no arguments at all are no request.
-/
lemma readArguments_eq_ok_iff :
    readArguments arguments = .ok r ↔ Request.parse arguments = .ok r := by
  unfold readArguments
  cases arguments with
  | nil =>
    have hparse : Request.parse [] = .error .notOneTarget := by decide
    simp [hparse]
  | cons a as => simp

/-- Arguments are refused if there are none or if they cannot be parsed. -/
lemma exists_readArguments_eq_error_iff :
    (∃ err, readArguments arguments = .error err) ↔
      arguments = [] ∨ ∃ err, Request.parse arguments = .error err := by
  unfold readArguments
  cases arguments with
  | nil => simp
  | cons a as => simp

end

/-! ## Reports of failures -/

/-- How often records report a failure. -/
def errorCount (records : List Record) : Nat := records.countP fun x => x.level == .error

/-- How often records report that the user has stopped the program. -/
def stopCount (records : List Record) : Nat :=
  records.countP fun x => x.reporter == .program && x.level == .warning

section

variable {records : List Record} {failure : Failure}

/-- There are no errors among modest records. -/
lemma errorCount_of_modest (h : ∀ x ∈ records, x.Modest) : errorCount records = 0 := by
  apply List.countP_eq_zero.2
  intro x hx
  simpa using (h x hx).1

/-- There are no stops among modest records. -/
lemma stopCount_of_modest (h : ∀ x ∈ records, x.Modest) : stopCount records = 0 := by
  apply List.countP_eq_zero.2
  intro x hx
  simpa using (h x hx).2

/-- A run that fails reports it in one error, unless the user has stopped the program. -/
lemma errorCount_failedRun (h : ∀ x ∈ records, x.Modest) (hkind : failure.kind ≠ .interrupted) :
    errorCount (failedRun records failure).records = 1 := by
  have hlevel : failure.record.level = .error := by
    unfold Failure.record
    split <;> simp_all
  have hrecords := errorCount_of_modest h
  unfold errorCount at hrecords ⊢
  simp only [failedRun, List.countP_append, hrecords, List.countP_singleton, hlevel,
    beq_self_eq_true, ↓reduceIte]

/-- A run that the user stops reports it in one warning, and in no error. -/
lemma counts_failedRun_of_interrupted (h : ∀ x ∈ records, x.Modest)
    (hkind : failure.kind = .interrupted) :
    errorCount (failedRun records failure).records = 0 ∧
      stopCount (failedRun records failure).records = 1 := by
  have hrecord : failure.record = ⟨.program, .warning, "사용자에 의해 중단되었습니다"⟩ := by
    rw [Failure.record, hkind]
  have herrors := errorCount_of_modest h
  have hstops := stopCount_of_modest h
  unfold errorCount at herrors ⊢
  unfold stopCount at hstops ⊢
  simp only [failedRun, List.countP_append, herrors, hstops, hrecord, List.countP_singleton]
  decide

end

/-! ## How a run ends -/

section

variable {d : Disk} {e : Extractor} {arguments : List String} {run : Run}

/-- A run ends with status 0, 1 or 2. -/
lemma Course.status_cases (h : Course d e arguments run) :
    run.status = 0 ∨ run.status = 1 ∨ run.status = 2 := by
  cases h with
  | refused => exact .inr (.inr rfl)
  | noFilter => exact .inr (.inl rfl)
  | failed => exact .inr (.inl rfl)
  | done => exact .inl rfl

/-- The status is 2 exactly if the arguments ask for nothing. -/
lemma Course.status_eq_two_iff (h : Course d e arguments run) :
    run.status = 2 ↔ ∃ err, readArguments arguments = .error err := by
  cases h with
  | refused hread => exact ⟨fun _ => ⟨_, hread⟩, fun _ => rfl⟩
  | noFilter hread | failed hread | done hread =>
    constructor
    · intro hstatus
      cases hstatus
    · rintro ⟨err, herr⟩
      rw [hread] at herr
      cases herr

/-- A run with status 2 prints the usage, and goes the same way on every disk and with every
extractor. -/
lemma Course.of_status_eq_two (h : Course d e arguments run) (hstatus : run.status = 2) :
    run.output = usage ++ "\n" ∧ ∀ d' e', Course d' e' arguments run := by
  cases h with
  | refused hread => exact ⟨rfl, fun d' e' => .refused hread⟩
  | noFilter => cases hstatus
  | failed => cases hstatus
  | done => cases hstatus

/-- The status is 0 exactly if there is a filter and a result. -/
lemma Course.status_eq_zero_iff (h : Course d e arguments run) :
    run.status = 0 ↔ ∃ r f text, readArguments arguments = .ok r ∧
      (loadFilter d r.properties).result = .ok f ∧ (e f r).result = .ok text := by
  constructor
  · intro hstatus
    cases h with
    | refused => cases hstatus
    | noFilter => cases hstatus
    | failed => cases hstatus
    | done hread hload hextract => exact ⟨_, _, _, hread, hload, hextract⟩
  · rintro ⟨r, f, text, hread, hload, hextract⟩
    have hdone : Course d e arguments ⟨0, text ++ "\n", recordsBefore d e r f⟩ :=
      .done hread hload hextract
    rw [h.eq_execute, ← hdone.eq_execute]

/-- Nothing that is logged before a run fails is an error. -/
lemma modest_recordsBefore (d : Disk) (he : e.Reserved) (r : Request) (f : NodeFilter) :
    ∀ x ∈ recordsBefore d e r f, x.Modest := by
  have hload := modest_loadFilter d r.properties
  have hproperties := modest_propertiesRecords r
  exact List.forall_mem_append.2 ⟨List.forall_mem_append.2 ⟨hload, hproperties⟩, he f r⟩

/-- A run with status 1 prints nothing.  Either there is no filter, and the run goes the same way
with every extractor, or the extraction fails. -/
lemma Course.of_status_eq_one (h : Course d e arguments run) (he : e.Reserved)
    (hstatus : run.status = 1) :
    run.output = "" ∧ ∃ r, readArguments arguments = .ok r ∧
      ((∃ err, (loadFilter d r.properties).result = .error err ∧
          (∀ e', Course d e' arguments run) ∧ errorCount run.records = 1) ∨
        ∃ f failure, (loadFilter d r.properties).result = .ok f ∧
          (e f r).result = .error failure ∧
          (failure.kind ≠ .interrupted → errorCount run.records = 1) ∧
          (failure.kind = .interrupted →
            errorCount run.records = 0 ∧ stopCount run.records = 1)) := by
  cases h with
  | refused => cases hstatus
  | done => cases hstatus
  | noFilter hread hload =>
    rename_i r err
    have hkind : err.failure.kind ≠ .interrupted := nofun
    have hcount := errorCount_failedRun (modest_loadFilter d r.properties) hkind
    exact ⟨rfl, r, hread, .inl ⟨err, hload, fun e' => .noFilter hread hload, hcount⟩⟩
  | failed hread hload hextract =>
    rename_i r f failure
    have hbefore := modest_recordsBefore d he r f
    exact ⟨rfl, r, hread, .inr ⟨f, failure, hload, hextract, errorCount_failedRun hbefore,
      counts_failedRun_of_interrupted hbefore⟩⟩

end

/-- **How a run ends.** The status is 2 exactly if the arguments ask for nothing; then the usage is
all that is printed, and neither a properties file nor an extraction has to do with it.  It is 0
exactly if there is a filter and the extraction has a result, which is what is printed.  Else it is
1 and nothing is printed; there is no extraction without a filter, and the failure is reported once:
in an error, or in a warning if the user has stopped the program.

**Proof sketch.** A run takes one of the courses of `Course`, and each status belongs to its courses
only. What was logged before a failure is no error, so the errors of a failed run are those of the
failure itself. -/
theorem execute_outcome (d : Disk) (e : Extractor) (he : e.Reserved) (arguments : List String) :
    ((execute d e arguments).status = 0 ∨ (execute d e arguments).status = 1 ∨
      (execute d e arguments).status = 2) ∧
    ((execute d e arguments).status = 2 ↔
      arguments = [] ∨ ∃ err, Request.parse arguments = .error err) ∧
    ((execute d e arguments).status = 2 →
      (execute d e arguments).output = usage ++ "\n" ∧
        ∀ d' e', execute d' e' arguments = execute d e arguments) ∧
    ((execute d e arguments).status = 0 ↔
      ∃ r f text, Request.parse arguments = .ok r ∧ (loadFilter d r.properties).result = .ok f ∧
        (e f r).result = .ok text) ∧
    (∀ r f text, Request.parse arguments = .ok r → (loadFilter d r.properties).result = .ok f →
      (e f r).result = .ok text → (execute d e arguments).output = text ++ "\n") ∧
    ((execute d e arguments).status = 1 →
      (execute d e arguments).output = "" ∧
        ∃ r, Request.parse arguments = .ok r ∧
          ((∃ err, (loadFilter d r.properties).result = .error err ∧
              (∀ e', execute d e' arguments = execute d e arguments) ∧
              errorCount (execute d e arguments).records = 1) ∨
            ∃ f failure, (loadFilter d r.properties).result = .ok f ∧
              (e f r).result = .error failure ∧
              (failure.kind ≠ .interrupted → errorCount (execute d e arguments).records = 1) ∧
              (failure.kind = .interrupted → errorCount (execute d e arguments).records = 0 ∧
                stopCount (execute d e arguments).records = 1))) := by
  have hcourse := execute_course d e arguments
  refine ⟨hcourse.status_cases, ?_, ?_, ?_, ?_, ?_⟩
  · rw [hcourse.status_eq_two_iff, exists_readArguments_eq_error_iff]
  · intro hstatus
    obtain ⟨houtput, hany⟩ := hcourse.of_status_eq_two hstatus
    exact ⟨houtput, fun d' e' => (hany d' e').eq_execute.symm⟩
  · simp only [hcourse.status_eq_zero_iff, readArguments_eq_ok_iff]
  · intro r f text hparse hload hextract
    have hdone : Course d e arguments ⟨0, text ++ "\n", recordsBefore d e r f⟩ :=
      .done (readArguments_eq_ok_iff.2 hparse) hload hextract
    rw [← hdone.eq_execute]
  · intro hstatus
    obtain ⟨houtput, r, hread, hfailure⟩ := hcourse.of_status_eq_one he hstatus
    refine ⟨houtput, r, readArguments_eq_ok_iff.1 hread, ?_⟩
    rcases hfailure with ⟨err, hload, hany, hcount⟩ | hfailed
    · exact .inl ⟨err, hload, fun e' => (hany e').eq_execute.symm, hcount⟩
    · exact .inr hfailed

/-- An extractor that the user stops in its work. -/
def stoppedExtractor : Extractor := fun _ _ =>
  ⟨[parsingRecord .info "A.java"], .error ⟨.interrupted, ""⟩⟩

/-- A run that the user stops fails without an error, and prints nothing. -/
theorem execute_outcome_stopped :
    stoppedExtractor.Reserved ∧
      (execute ⟨.folder [], []⟩ stoppedExtractor ["-file=A.java"]).status = 1 ∧
      (execute ⟨.folder [], []⟩ stoppedExtractor ["-file=A.java"]).output = "" ∧
      errorCount (execute ⟨.folder [], []⟩ stoppedExtractor ["-file=A.java"]).records = 0 ∧
      stopCount (execute ⟨.folder [], []⟩ stoppedExtractor ["-file=A.java"]).records = 1 := by
  have hreserved : stoppedExtractor.Reserved := by
    intro f r x hx
    obtain rfl := List.mem_singleton.1 hx
    exact modest_of_level nofun nofun
  have hparse : Request.parse ["-file=A.java"] = .ok ⟨.file, ⟨.here, ["A.java"]⟩, none, .xml⟩ := by
    decide
  have hstatus : (execute ⟨.folder [], []⟩ stoppedExtractor ["-file=A.java"]).status = 1 := by
    decide
  obtain ⟨-, -, -, -, -, hone⟩ :=
    execute_outcome ⟨.folder [], []⟩ stoppedExtractor hreserved ["-file=A.java"]
  obtain ⟨houtput, r, hr, hfailure⟩ := hone hstatus
  obtain rfl := Except.ok.inj (hparse.symm.trans hr)
  rcases hfailure with ⟨err, hload, -⟩ | ⟨f, failure, -, hextract, -, hstopped⟩
  · cases hload
  · obtain rfl := Except.error.inj hextract
    exact ⟨hreserved, hstatus, houtput, hstopped rfl⟩

end JavaTree
