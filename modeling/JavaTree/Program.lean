import JavaTree.Configuration
import JavaTree.EnvironmentFile
import JavaTree.Extraction
import JavaTree.Request
import JavaTree.Text.Upper

/-!
# The program

What the program does with its arguments: it prints the tree that they ask for, or says how it is
used.  It reports on its work in a log, whose place and extent the environment sets.

## Main definitions

* `Failure` — why a request is not carried out, as far as reports tell apart.
* `Run`, `execute` — carrying out arguments: what is printed, and what is reported.
* `Setup`, `setUp` — where the log goes and what is shown of it.
* `Outcome`, `start` — the whole program.
-/

namespace JavaTree

/-- The kinds of reasons why a request is not carried out. -/
inductive FailureKind
  | configuration
  | syntaxMistake
  | conversion
  /-- A file or a value that cannot be processed. -/
  | processing
  /-- The user has stopped the program. -/
  | interrupted
  | other
  deriving Repr, DecidableEq

/-- Why a request is not carried out. -/
structure Failure where
  kind : FailureKind
  message : String
  deriving Repr, DecidableEq

/-- The failure that an error in the extraction is. -/
def ExtractionError.failure (e : ExtractionError) : Failure :=
  match e with
  | .syntaxMistake .. => ⟨.syntaxMistake, e.message⟩
  | .conversion .malformed => ⟨.conversion, e.message⟩
  | _ => ⟨.processing, e.message⟩

/-- The failure that an error in the configuration is. -/
def ConfigurationError.failure (e : ConfigurationError) : Failure := ⟨.configuration, e.message⟩

/-- The record for a failure. -/
def Failure.record (f : Failure) : Record :=
  match f.kind with
  | .configuration => ⟨.program, .error, "속성 파일 로드 실패: " ++ f.message⟩
  | .syntaxMistake => ⟨.program, .error, "Java 소스 파싱 실패: " ++ f.message⟩
  | .conversion => ⟨.program, .error, "출력 형식 변환 실패: " ++ f.message⟩
  | .processing => ⟨.program, .error, "파일을 처리할 수 없습니다: " ++ f.message⟩
  | .interrupted => ⟨.program, .warning, "사용자에 의해 중단되었습니다"⟩
  | .other => ⟨.program, .error, "실행 중 오류 발생: " ++ f.message⟩

/-! ## Carrying out arguments -/

/-- Carries out requests with a filter. -/
abbrev Extractor := NodeFilter → Request → Traced (Except Failure String)

/-- Extraction from a disk. -/
def extract (d : Disk) (f : NodeFilter) (r : Request) : Traced (Except ExtractionError String) :=
  match r.target with
  | .project => parseFolder d f (.inl r.representation) r.path
  | .file => parseFile d f (.inl r.representation) r.path.text r.path

/-- The extractor for a disk, which warns of unknown kinds first. -/
def extractor (d : Disk) : Extractor := fun f r =>
  let t := extract d f r
  ⟨f.warnings ++ t.records, t.result.mapError ExtractionError.failure⟩

/-- What a run leaves behind. -/
structure Run where
  status : Nat
  output : String
  records : List Record
  deriving Repr, DecidableEq

/-- How the program is used. -/
def usage : String :=
  "ASTExtractor: Abstract Syntax Tree Extractor for Java Source Code\n\n" ++
  "Run as:\n" ++
  " astextractor -project=\"path/to/project\" -properties=\"path/to/propertiesfile\" " ++
  "-repr=XML|JSON\n" ++
  "Or as:\n" ++
  " astextractor -file=\"path/to/file\" -properties=\"path/to/propertiesfile\" -repr=XML|JSON\n" ++
  "where -properties allows setting the location of the properties file " ++
  "(default is no properties so all syntax tree nodes are returned)\n" ++
  "and -repr allows selecting the representation of the tree (default is XML)"

/-- The request that the arguments of the program ask for. -/
def readArguments (arguments : List String) : Except UsageError Request :=
  if arguments.isEmpty then .error .noArguments else Request.parse arguments

/-- A run that shows how the program is used. -/
def usageRun (e : UsageError) : Run :=
  ⟨2, usage ++ "\n", [⟨.program, .debug, "인자 오류: " ++ e.message⟩]⟩

/-- A run that ends with a failure, after some records. -/
def failedRun (records : List Record) (f : Failure) : Run := ⟨1, "", records ++ [f.record]⟩

/-- The record that the properties file of a request has been read. -/
def propertiesRecords (r : Request) : List Record :=
  match r.properties with
  | none => []
  | some path => [⟨.program, .info, "속성 파일 로드 성공: " ++ path.text⟩]

/-- Carries out a request. -/
def fulfil (d : Disk) (e : Extractor) (r : Request) : Run :=
  let loaded := loadFilter d r.properties
  match loaded.result with
  | .error err => failedRun loaded.records err.failure
  | .ok f =>
    let t := e f r
    let records := loaded.records ++ propertiesRecords r ++ t.records
    match t.result with
    | .ok text => ⟨0, text ++ "\n", records⟩
    | .error failure => failedRun records failure

/-- Carries out arguments. -/
def execute (d : Disk) (e : Extractor) (arguments : List String) : Run :=
  match readArguments arguments with
  | .error err => usageRun err
  | .ok r => fulfil d e r

/-! ## The whole program -/

/-- Where the log goes, and which records are shown. -/
structure Setup where
  folder : Path
  /-- The file that is the log. -/
  log : Path
  threshold : Threshold
  deriving Repr, DecidableEq

/-- The variable that names the folder for logs. -/
def folderVariable : String := "ASTEXTRACTOR_LOG_DIR"

/-- The variable that names the level of records that are shown. -/
def levelVariable : String := "ASTEXTRACTOR_LOG_LEVEL"

/-- The folder for logs. -/
def logFolder (env : Environment) : Path :=
  Path.ofString ((env.lookup folderVariable).getD "logs")

/-- The name of the level of records that are shown. -/
def levelName (env : Environment) : String := upper ((env.lookup levelVariable).getD "INFO")

/-- The outcome of a start of the program.  The disk is the one on which there are the folder for
the log and the log, as it is opened. -/
inductive Outcome
  /-- The folder for the log cannot be made, or a folder stands where the log should be. -/
  | noFolder (e : Disk.FolderError)
  /-- There is no such level; the log is made but stays empty. -/
  | noLevel (name : String) (folder : Path) (disk : Disk)
  | ran (setup : Setup) (run : Run) (disk : Disk)

/-- The message for a level that there is not. -/
def unknownLevelMessage (name : String) : String := "Unknown level: " ++ quoted name

/-- The name of the file that sets variables. -/
def environmentFile : Path := ⟨.here, [".env"]⟩

/-- The environment with what the file for it sets, and the lines of the file that cannot be read.
-/
def readEnvironment (d : Disk) (env : Environment) : Environment × List Nat :=
  match d.content? environmentFile with
  | none => (env, [])
  | some content => env.load (unifyLineEnds (decodeSettings content))

/-- The message for a line that sets no variable. -/
def badBindingMessage (line : Nat) : String :=
  "python-dotenv could not parse statement starting at line " ++ toString line

/-- Runs the program in an environment and at a moment, with an extractor for the disk that it
finds.  The log is there before the arguments are read. -/
def startIn (d : Disk) (env : Environment) (e : Disk → Extractor) (arguments : List String)
    (moment : Moment) : Outcome :=
  let folder := logFolder env
  let log := folder.child (logName moment)
  match d.makeFolder folder with
  | .error err => .noFolder err
  | .ok d =>
    match d.openFile? folder (logName moment) with
    | none => .noFolder (.taken log)
    | some d =>
      match Threshold.ofName? (levelName env) with
      | none => .noLevel (levelName env) folder d
      | some threshold => .ran ⟨folder, log, threshold⟩ (execute d (e d) arguments) d

/-- Runs the program: its outcome, and messages on the file that sets variables. -/
def start (d : Disk) (env : Environment) (e : Disk → Extractor) (arguments : List String)
    (moment : Moment := {}) : Outcome × List String :=
  let (env, bad) := readEnvironment d env
  (startIn d env e arguments moment, bad.map badBindingMessage)

end JavaTree
