import JavaTree.Collection
import JavaTree.Java.Parse
import JavaTree.Log
import JavaTree.Representation
import JavaTree.Syntax.Build
import JavaTree.Text.Encoding

/-!
# Extracting trees

The tree of a source, of a file, or of all files of a project, in a representation.

## Main definitions

* `SyntaxMistake` — where a source is no Java, and what is missing there.
* `ExtractionError` — why there is no result.
* `elementOfTree`, `showTree` — the element of a syntax tree, and its representation.
* `readSource`, `parseString`, `parseFile`, `parseFolder` — sources, files and projects.
* `NodeFilter.warnings` — records for kinds that no node has.
-/

namespace JavaTree

/-- A mistake in a source, at a line and a column counted from one; the token that is missing, if
one is. -/
structure SyntaxMistake where
  line : Nat
  column : Nat
  missing : Option String
  deriving Repr, DecidableEq

namespace SyntaxMistake

/-- The mistake that a node of a syntax tree is. -/
def ofNode (t : SyntaxTree) : SyntaxMistake :=
  ⟨t.start.row + 1, t.start.column + 1, if t.missing then some t.kind else none⟩

/-- How every message about a mistake begins. -/
def heading : String := "구문 오류: "

/-- The message for a mistake. -/
def message (m : SyntaxMistake) : String :=
  let place := heading ++ toString m.line ++ "행 " ++ toString m.column
  match m.missing with
  | some token => place ++ "열에 '" ++ token ++ "'이(가) 누락되었습니다"
  | none => place ++ "열을 해석할 수 없습니다"

end SyntaxMistake

/-- Why there is no result. -/
inductive ExtractionError
  /-- There is no file at the path. -/
  | noFile (path : Path)
  /-- A source, or the file of the given name, holds a mistake. -/
  | syntaxMistake (file : Option String) (mistake : SyntaxMistake)
  /-- Nothing can be collected. -/
  | collection (e : CollectionError)
  /-- The path of a file holds characters that no document can hold. -/
  | unwritablePath
  /-- The result cannot be shown. -/
  | conversion (e : ConversionError)
  deriving Repr, DecidableEq

namespace ExtractionError

/-- The message for an error. -/
def message : ExtractionError → String
  | noFile path => "파일을 찾을 수 없습니다: " ++ path.text
  | syntaxMistake none m => m.message
  | syntaxMistake (some file) m => file ++ ": " ++ m.message
  | collection e => e.message
  | unwritablePath =>
    "All strings must be XML compatible: Unicode or ASCII, no NULL bytes or control characters"
  | conversion .malformed => "XML 형식이 올바르지 않습니다"
  | conversion (.unsupported code) => Representation.unsupported code

end ExtractionError

/-! ## Trees -/

/-- The element of a syntax tree without mistakes. -/
def elementOfTree (f : NodeFilter) (t : SyntaxTree) : Except SyntaxMistake Xml.Node :=
  if t.hasError then .error (.ofNode t.findMistake) else .ok (t.build f)

/-- An element in a representation; it is written and read on the way. -/
def showElement (asked : Asked) (n : Xml.Node) : Except ExtractionError String :=
  (convert n.render asked).mapError .conversion

/-- A syntax tree in a representation. -/
def showTree (f : NodeFilter) (asked : Asked) (t : SyntaxTree) : Except ExtractionError String :=
  match elementOfTree f t with
  | .ok n => showElement asked n
  | .error m => .error (.syntaxMistake none m)

/-- The tree of a source in a representation. -/
def parseString (f : NodeFilter) (asked : Asked) (source : String) :
    Except ExtractionError String :=
  showTree f asked (Java.parse source)

/-! ## Files -/

/-- The text of a source file. -/
def readSource (d : Disk) (path : Path) : Except ExtractionError String :=
  match d.content? path with
  | some content => .ok (decodeSource content)
  | none => .error (.noFile path)

/-- The element of a source file, which messages call by the given name. -/
def elementOfFile (d : Disk) (f : NodeFilter) (name : String) (path : Path) :
    Except ExtractionError Xml.Node :=
  (readSource d path).bind fun source =>
    (elementOfTree f (Java.parse source)).mapError (.syntaxMistake (some name))

/-- A record that a file is parsed. -/
def parsingRecord (level : Level) (name : String) : Record :=
  ⟨.extraction, level, "파일 파싱: " ++ name⟩

/-- The tree of a source file, which messages call by the given name, in a representation. -/
def parseFile (d : Disk) (f : NodeFilter) (asked : Asked) (name : String) (path : Path) :
    Traced (Except ExtractionError String) :=
  ⟨[parsingRecord .info name],
    match elementOfFile d f name path with
    | .ok n => showElement asked n
    | .error e => .error e⟩

/-! ## Projects -/

/-- The element of a file in a project: its path and its tree. -/
def fileElement (path : String) (tree : Xml.Node) : Xml.Node :=
  .parent "file" [.leaf "path" path, .parent "ast" [tree]]

/-- The element of a collected file. -/
def elementOfSource (d : Disk) (f : NodeFilter) (s : SourceFile) :
    Except ExtractionError Xml.Node :=
  match elementOfFile d f s.path.text s.path with
  | .error e => .error e
  | .ok tree =>
    if s.relativePath.toList.all Xml.isChar then .ok (fileElement s.relativePath tree)
    else .error .unwritablePath

/-- The elements of collected files, up to the first error. -/
def elementsOfSources (d : Disk) (f : NodeFilter) : List SourceFile →
    Traced (Except ExtractionError (List Xml.Node))
  | [] => .quiet (.ok [])
  | s :: ss =>
    let record := parsingRecord .debug s.relativePath
    match elementOfSource d f s with
    | .error e => ⟨[record], .error e⟩
    | .ok n =>
      let others := elementsOfSources d f ss
      ⟨record :: others.records, others.result.map (n :: ·)⟩

/-- The element of a project. -/
def folderElement (files : List Xml.Node) : Xml.Node :=
  if files.isEmpty then .element ⟨{ part := "folder" }, [], []⟩ none [] none
  else .parent "folder" files

/-- The trees of all source files of a project in a representation. -/
def parseFolder (d : Disk) (f : NodeFilter) (asked : Asked) (project : Path) :
    Traced (Except ExtractionError String) :=
  let started : Record :=
    ⟨.extraction, .info, "폴더 파싱: " ++ (project.under d.currentPath).text⟩
  match collect d project [] with
  | .error e => ⟨[started], .error (.collection e)⟩
  | .ok sources =>
    let files := elementsOfSources d f sources
    match files.result with
    | .error e => ⟨started :: files.records, .error e⟩
    | .ok elements =>
      let done : Record :=
        ⟨.extraction, .info, "파싱 완료: " ++ toString elements.length ++ "개 파일"⟩
      ⟨started :: files.records ++ [done], showElement asked (folderElement elements)⟩

/-! ## Warnings -/

/-- A record for a kind that no node has. -/
def unknownKindRecord (kind : String) : Record :=
  ⟨.parsing, .warning, "알 수 없는 노드 종류가 속성 파일에 지정되었습니다: " ++ kind⟩

/-- Records for those kinds of a filter that no node has. -/
def NodeFilter.warnings (f : NodeFilter) : List Record :=
  (f.unknownKinds Java.nodeKinds).map unknownKindRecord

end JavaTree
