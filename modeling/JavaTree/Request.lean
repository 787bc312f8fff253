import JavaTree.Path
import JavaTree.Representation

/-!
# Requests

What the arguments of the command line ask for: the tree of a project or of a file, with a
properties file and a representation.

## Main definitions

* `Arguments`, `Arguments.read` — the values of the options.
* `UsageError` — why arguments ask for nothing.
* `Request`, `Request.ofArguments`, `Request.parse` — requests and how they are read.

## Implementation notes

The value of an option is what follows the equals sign in the last token for it.  A value that
consists of two hyphens is no value at all.
-/

namespace JavaTree

/-- The options. -/
inductive OptionName
  | project
  | file
  | properties
  | representation
  deriving Repr, DecidableEq

/-- The name of an option in arguments. -/
def OptionName.text : OptionName → String
  | project => "project"
  | file => "file"
  | properties => "properties"
  | representation => "repr"

/-- The value of an option; nothing if it consists of two hyphens. -/
abbrev OptionValue := Option String

/-- The values of the options. -/
structure Arguments where
  project : OptionValue := some ""
  file : OptionValue := some ""
  properties : OptionValue := some ""
  representation : OptionValue := some ""
  deriving Repr, DecidableEq

/-- What is left of a text after a beginning, if it begins so. -/
def dropBeginning? : List Char → List Char → Option (List Char)
  | [], cs => some cs
  | _ :: _, [] => none
  | a :: as, c :: cs => if a == c then dropBeginning? as cs else none

/-- The characters of a token before the value of an option. -/
def OptionName.opening (name : OptionName) : List Char := '-' :: name.text.toList ++ ['=']

/-- The value that a token gives to an option. -/
def tokenValue? (name : OptionName) (token : String) : Option (List Char) :=
  dropBeginning? name.opening token.toList

/-- A value without a pair of quotes around it. -/
def stripQuotes (value : List Char) : List Char :=
  match value with
  | '"' :: rest =>
    match rest.reverse with
    | '"' :: middle => middle.reverse
    | _ => value
  | _ => value

/-- The value of an option as a token gives it. -/
def OptionValue.ofChars (value : List Char) : OptionValue :=
  if value == ['-', '-'] then none else some (String.ofList (stripQuotes value))

/-- The value of an option in tokens: that of the last token for it. -/
def optionValue (name : OptionName) (tokens : List String) : OptionValue :=
  match (tokens.filterMap (tokenValue? name)).getLast? with
  | some value => OptionValue.ofChars value
  | none => some ""

/-- The values of the options in tokens; other tokens do not matter. -/
def Arguments.read (tokens : List String) : Arguments :=
  { project := optionValue .project tokens
    file := optionValue .file tokens
    properties := optionValue .properties tokens
    representation := optionValue .representation tokens }

/-- Why arguments ask for nothing. -/
inductive UsageError
  | noArguments
  /-- Neither a project nor a file, or both. -/
  | notOneTarget
  | unsupported (code : String)
  deriving Repr, DecidableEq

/-- The message for an error. -/
def UsageError.message : UsageError → String
  | noArguments => "인자가 지정되지 않았습니다"
  | notOneTarget => "-project와 -file 중 정확히 하나를 지정해야 합니다"
  | unsupported code => Representation.unsupported code

/-- What is to be shown. -/
inductive Target
  | project
  | file
  deriving Repr, DecidableEq

/-- A request. -/
structure Request where
  target : Target
  path : Path
  properties : Option Path
  representation : Representation
  deriving Repr, DecidableEq

namespace Request

/-- The request that values of the options ask for. -/
def ofArguments (a : Arguments) : Except UsageError Request :=
  let project := a.project.getD ""
  let file := a.file.getD ""
  let properties := a.properties.getD ""
  if (project == "") = (file == "") then .error .notOneTarget
  else
    match Representation.ofCode? (a.representation.getD "") with
    | none => .error (.unsupported (a.representation.getD ""))
    | some r =>
      let settings := if properties == "" then none else some (Path.ofString properties)
      if project == "" then .ok ⟨.file, Path.ofString file, settings, r⟩
      else .ok ⟨.project, Path.ofString project, settings, r⟩

/-- The message for something of another kind in place of a request. -/
def foreignMessage (kind : String) : String := "알 수 없는 요청 유형입니다: " ++ kind

/-- The request that tokens ask for. -/
def parse (tokens : List String) : Except UsageError Request := ofArguments (Arguments.read tokens)

end Request

end JavaTree
