import JavaTree.FileTree
import JavaTree.Log
import JavaTree.NodeFilter.Check
import JavaTree.Properties
import JavaTree.Text.Encoding

/-!
# Configuration

A node filter in a properties file: two keys list the omitted kinds and the leaf kinds, every other
key is a kind that is switched on or off.

## Main definitions

* `ConfigurationError` — why there is no filter.
* `filterOfEntries` — the filter that properties describe.
* `loadFilter` — the filter in a properties file.
-/

namespace JavaTree

/-- Why there is no filter. -/
inductive ConfigurationError
  | noFile (path : Path)
  | unreadable (e : PropertiesError)
  /-- Keys with values that are neither yes nor no. -/
  | noTruthValues (entries : List (String × String))
  deriving Repr, DecidableEq

namespace ConfigurationError

/-- The line for a key with a value that is neither yes nor no. -/
def valueLine (entry : String × String) : String :=
  "\n  - 항목: " ++ FilterData.kindsPlace ++ " -> " ++ entry.1 ++
    ", 원인: true/false 값이어야 합니다 (입력값: " ++ quoted entry.2 ++ ")"

/-- The message for an error. -/
def message : ConfigurationError → String
  | noFile path => "속성 파일을 찾을 수 없습니다: " ++ path.text
  | unreadable e => e.message
  | noTruthValues entries => "속성 파일 검증 실패:" ++ String.join (entries.map valueLine)

end ConfigurationError

/-- The key of the omitted kinds. -/
def omitKey : String := "OMIT"

/-- The key of the leaf kinds. -/
def leafKey : String := "LEAF"

/-- The entries that switch kinds. -/
def kindEntries (entries : List (String × String)) : List (String × String) :=
  entries.filter fun e => e.1 != omitKey && e.1 != leafKey

/-- What a filter is built from according to properties. -/
def FilterData.ofEntries (entries : List (String × String)) : FilterData :=
  { kinds := some (.map ((kindEntries entries).map fun e => (e.1, .text e.2)))
    omitted := (entries.lookup omitKey).map .text
    leaves := (entries.lookup leafKey).map .text }

/-- The filter that properties describe, or the entries that stand in the way. -/
def filterOfEntries (entries : List (String × String)) :
    Except (List (String × String)) NodeFilter :=
  match (FilterData.ofEntries entries).check with
  | .ok f => .ok f
  | .error _ => .error ((kindEntries entries).filter fun e => (flagWord? e.2).isNone)

/-- The filter that the text of a properties file describes. -/
def filterOfText (text : String) : Except ConfigurationError NodeFilter :=
  match parseProperties text with
  | .error e => .error (.unreadable e)
  | .ok entries => (filterOfEntries entries).mapError .noTruthValues

/-- The record that a filter has been read. -/
def loadedRecord (path : Path) (f : NodeFilter) : Record :=
  ⟨.configuration, .debug,
    "속성 파일 로드 완료: " ++ path.text ++ " (제외 " ++ toString f.omitted.length ++ "개, 리프 " ++
      toString f.leaves.length ++ "개, 개별 설정 " ++ toString f.flags.length ++ "개)"⟩

/-- The filter in a properties file; without a file nothing is filtered. -/
def loadFilter (d : Disk) : Option Path → Traced (Except ConfigurationError NodeFilter)
  | none => .quiet (.ok {})
  | some path =>
    match d.content? path with
    | none => .quiet (.error (.noFile path))
    | some content =>
      match filterOfText (unifyLineEnds (decodeSettings content)) with
      | .error e => .quiet (.error e)
      | .ok f => ⟨[loadedRecord path f], .ok f⟩

end JavaTree
