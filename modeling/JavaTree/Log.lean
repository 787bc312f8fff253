/-!
# Log records

What a program tells about its work, with a level that says how much it matters.  A log is named for
the moment in which it is opened.

## Main definitions

* `Level`, `Reporter`, `Record` — levels, the parts of the program that report, and records.
* `Threshold` — which records are shown; `Threshold.ofName?` — its names.
* `Traced` — a result together with the records on the way to it.
* `Moment`, `logName` — moments, and the name of a log.
-/

namespace JavaTree

/-- How much a record matters. -/
inductive Level
  | debug
  | info
  | warning
  | error
  deriving Repr, DecidableEq

/-- The name of a level. -/
def Level.name : Level → String
  | debug => "DEBUG"
  | info => "INFO"
  | warning => "WARNING"
  | error => "ERROR"

/-- The rank of a level. -/
def Level.rank : Level → Nat
  | debug => 10
  | info => 20
  | warning => 30
  | error => 40

/-- The parts of the program that report. -/
inductive Reporter
  | program
  | extraction
  | configuration
  | parsing
  deriving Repr, DecidableEq

/-- The name of a part in the log. -/
def Reporter.name : Reporter → String
  | program => "astextractor"
  | extraction => "astextractor.extractor"
  | configuration => "astextractor.config.config_manager"
  | parsing => "astextractor.parser.java_ast_parser"

/-- A record. -/
structure Record where
  reporter : Reporter
  level : Level
  message : String
  deriving Repr, DecidableEq

namespace Record

/-- A record as shown to the user. -/
def brief (r : Record) : String := r.level.name ++ " - " ++ r.message

/-- A record as written to the log, without its time. -/
def full (r : Record) : String := r.reporter.name ++ " - " ++ r.brief

end Record

/-- The lowest rank of records that are shown to the user. -/
structure Threshold where
  rank : Nat
  deriving Repr, DecidableEq

namespace Threshold

/-- The names of thresholds. -/
def names : List (String × Nat) :=
  [("NOTSET", 0), ("DEBUG", 10), ("INFO", 20), ("WARNING", 30), ("WARN", 30), ("ERROR", 40),
    ("CRITICAL", 50), ("FATAL", 50)]

/-- The threshold of a name in capital letters. -/
def ofName? (name : String) : Option Threshold := (names.lookup name).map Threshold.mk

/-- Whether a record is shown. -/
def shows (t : Threshold) (r : Record) : Bool := t.rank ≤ r.level.rank

end Threshold

/-- A result and the records on the way to it. -/
structure Traced (α : Type) where
  records : List Record
  result : α

namespace Traced

variable {α β ε : Type}

/-- A result without records. -/
def quiet (result : α) : Traced α := ⟨[], result⟩

/-- A result with records before its own. -/
def after (records : List Record) (t : Traced α) : Traced α := ⟨records ++ t.records, t.result⟩

end Traced

/-! ## The name of a log -/

/-- A moment, as a clock and a calendar show it. -/
structure Moment where
  year : Nat := 1970
  month : Nat := 1
  day : Nat := 1
  hour : Nat := 0
  minute : Nat := 0
  second : Nat := 0
  deriving Repr, DecidableEq

/-- A number with two digits at least. -/
def twoDigits (n : Nat) : String := if n < 10 then "0" ++ toString n else toString n

/-- A moment as it stands in the name of a file. -/
def Moment.stamp (m : Moment) : String :=
  toString m.year ++ twoDigits m.month ++ twoDigits m.day ++ "_" ++
    twoDigits m.hour ++ twoDigits m.minute ++ twoDigits m.second

/-- The name of a log that is opened in a moment. -/
def logName (m : Moment) : String := "astextractor_" ++ m.stamp ++ ".log"

end JavaTree
