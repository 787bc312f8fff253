import JavaTree.Xml.Basic
import JavaTree.Xml.Content
import JavaTree.Xml.Token

/-!
# From tokens to elements

The tokens of a document are put together into its tree.  Prefixes of names are resolved to the
namespaces that are declared around them.  Blank text that only sets elements apart is dropped
while reading, as far as the beginning of an element shows that it holds no text of its own.

## Main definitions

* `Xml.Scope`, `Xml.resolveTag` — namespaces in force, and tags with resolved names.
* `Xml.Frame`, `Xml.Assembly`, `Xml.Assembly.step` — elements that are still open, and how a token
  changes them.
* `Xml.assemble?` — the root element of a list of tokens.
-/

namespace JavaTree.Xml

/-! ## Namespaces -/

/-- The namespaces in force by prefix, the innermost declaration first. -/
abbrev Scope := List (String × String)

/-- The namespace of the prefix `xml`. -/
def xmlSpace : String := "http://www.w3.org/XML/1998/namespace"

/-- The namespace of declarations, which nothing else may be in. -/
def xmlnsSpace : String := "http://www.w3.org/2000/xmlns/"

/-- Whether an attribute declares a namespace: the prefix that it declares. -/
def declared? (name : Written) : Option String :=
  if name.label == "" && name.part == "xmlns" then some ""
  else if name.label == "xmlns" then some name.part
  else none

/-- The characters of resource identifiers, apart from the percent sign. -/
def isUriChar (c : Char) : Bool :=
  c.isAlphanum || "-._~:/?#[]@!$&'()*+,;=".toList.contains c

/-- Whether a text is made of the characters of resource identifiers and of percent codes. -/
def isUri : List Char → Bool
  | [] => true
  | '%' :: a :: b :: cs =>
    (digitValue? 16 a).isSome && (digitValue? 16 b).isSome && isUri cs
  | c :: cs => isUriChar c && isUri cs

/-- Whether a prefix may be declared to stand for a namespace. -/
def mayDeclare (label uri : String) : Bool :=
  if label == "xml" then uri == xmlSpace
  else label != "xmlns" && uri != xmlSpace && uri != xmlnsSpace && (label == "" || uri != "") &&
    isUri uri.toList

/-- The name for a prefixed name: a prefix has to be declared; a name without prefix is in the
default namespace, if names of its kind are. -/
def resolveName? (scope : Scope) (useDefault : Bool) (name : Written) : Option Name :=
  if name.label == "" then
    match if useDefault then scope.lookup "" else none with
    | some uri => some ⟨if uri == "" then none else some uri, "", name.part⟩
    | none => some ⟨none, "", name.part⟩
  else if name.label == "xml" then some ⟨some xmlSpace, "xml", name.part⟩
  else (scope.lookup name.label).map fun uri => ⟨some uri, name.label, name.part⟩

/-- Whether no element occurs twice in a list. -/
def allDistinct {α : Type} [BEq α] : List α → Bool
  | [] => true
  | a :: as => !as.contains a && allDistinct as

/-- The tag with resolved names, and the namespaces in force in the element.  No attribute may
occur twice, not even under two prefixes for one namespace. -/
def resolveTag (scope : Scope) (name : Written) (attributes : List (Written × String)) :
    Option (Tag × Scope) := do
  let declarations := attributes.filterMap fun (n, v) => (declared? n).map fun label => (label, v)
  let plain := attributes.filter fun (n, _) => (declared? n).isNone
  if !declarations.all (fun (label, uri) => mayDeclare label uri) then none
  else if !allDistinct (attributes.map fun (n, _) => (n.label, n.part)) then none
  else
    let kept := declarations.filter fun (label, _) => label != "xml"
    let scope := kept.reverse ++ scope
    let resolved ← resolveName? scope true name
    let attributes ← plain.mapM fun (n, v) =>
      (resolveName? scope false n).map fun r => (⟨r, v⟩ : Attribute)
    if allDistinct (attributes.map fun a => (a.name.space, a.name.part)) then
      pure (⟨resolved, kept, attributes⟩, scope)
    else none

/-! ## Open elements -/

/-- Whether blank text in an element may be dropped. -/
inductive BlankRule
  /-- As long as no other text has been seen. -/
  | droppable
  /-- No longer, because other text has been seen. -/
  | seenText
  /-- At any time, because the element asks for it. -/
  | loose
  /-- Never, because the element asks to keep it. -/
  | kept
  deriving Repr, DecidableEq

/-- Whether the rule lets blank text go. -/
def BlankRule.allows : BlankRule → Bool
  | droppable | loose => true
  | seenText | kept => false

/-- The rule after text that is kept. -/
def BlankRule.afterText : BlankRule → BlankRule
  | droppable => seenText
  | r => r

/-- The rule that an element has from the one around it. -/
def BlankRule.within : BlankRule → BlankRule
  | seenText => droppable
  | r => r

/-- An element that is still open, with what it holds so far, the last node first. -/
structure Frame where
  written : Written
  tag : Tag
  scope : Scope
  blanks : BlankRule
  content : Option Content := none
  text : Option String := none
  children : List Node := []

/-- The text and a further one after it. -/
def joinText (text : Option String) (more : List Char) : Option String :=
  some (text.getD "" ++ String.ofList more)

/-- Adds characters after what an element holds. -/
def Frame.addText (f : Frame) (cs : List Char) : Frame :=
  match f.children with
  | [] => { f with text := joinText f.text cs }
  | n :: ns => { f with children := n.withTail (joinText n.tail cs) :: ns }

/-- Adds a node after what an element holds. -/
def Frame.addNode (f : Frame) (n : Node) : Frame := { f with children := n :: f.children }

/-- Whether the last thing an element holds is text. -/
def Frame.endsInText (f : Frame) : Bool :=
  match f.children with
  | [] => f.text.isSome
  | n :: _ => n.tail.isSome

/-- Whether a blank run of text is dropped where nothing is declared of the element: something comes
after it that ends the run, the element holds something else than text alone, and neither begins
nor ends in text. -/
def Frame.setsApart (f : Frame) : Follow → Bool
  | .text => false
  | .closing => !f.children.isEmpty && f.text.isNone && !f.endsInText
  | .markup | .lineEnd => f.text.isNone && !f.endsInText

/-- Whether a run of text is dropped. -/
def Frame.drops (f : Frame) (cs : List Char) (follow : Follow) : Bool :=
  cs.all isSpace && f.blanks.allows &&
    match f.content with
    | some .elements => true
    | some .mixed => false
    | none => f.setsApart follow

/-- Adds a run of text, or drops it. -/
def Frame.addRun (f : Frame) (cs : List Char) (follow : Follow) : Frame :=
  if f.drops cs follow then f
  else
    let f := f.addText cs
    { f with blanks := f.blanks.afterText }

/-- Adds the text and the nodes that another frame holds. -/
def Frame.addAll (f g : Frame) : Frame :=
  let f := match g.text with
    | some t => f.addText t.toList
    | none => f
  { f with children := g.children ++ f.children }

/-- A frame for what a declared name stands for.  It is read as if it stood alone, without the
namespaces around it. -/
def Frame.apart : Frame :=
  { written := ⟨"", ""⟩, tag := { name := { part := "" } }, scope := [], blanks := .droppable }

/-- The element of a frame. -/
def Frame.node (f : Frame) : Node := .element f.tag f.text f.children.reverse none

/-- The elements that are open, the innermost first, and the root once it is complete. -/
structure Assembly where
  frames : List Frame
  root : Option Node

namespace Assembly

/-- Adds a complete element to the one around it, or takes it as the root. -/
def complete (n : Node) : List Frame → Option Assembly
  | [] => some ⟨[], some n⟩
  | f :: fs => some ⟨f.addNode n :: fs, none⟩

/-- How the attribute `xml:space` sets the treatment of blanks; else it is as around the element,
where text seen there does not count. -/
def blankRule (tag : Tag) (around : BlankRule) : BlankRule :=
  match tag.attributes.find? fun a => a.name.space == some xmlSpace && a.name.part == "space" with
  | some a =>
    if a.value == "preserve" then .kept
    else if a.value == "default" then .loose
    else around.within
  | none => around.within

/-- Takes in a token.  Outside the root there are only comments, instructions and blanks. -/
def step (contents : Contents) (a : Assembly) (t : Token) : Option Assembly :=
  match t, a.frames with
  | .opening name attributes empty, frames => do
    if a.root.isSome then none
    else
      let scope := (frames.head?.map (·.scope)).getD []
      let around := (frames.head?.map (·.blanks)).getD .droppable
      let (tag, scope) ← resolveTag scope name attributes
      if empty then complete (.element tag none [] none) frames
      else
        let frame : Frame := ⟨name, tag, scope, blankRule tag around, contents.of? name, none, []⟩
        pure ⟨frame :: frames, none⟩
  | .closing name, f :: fs => if f.written == name then complete f.node fs else none
  | .closing _, [] => none
  | .run cs follow, f :: fs => some ⟨f.addRun cs follow :: fs, none⟩
  | .run cs _, [] => if cs.all isSpace then some a else none
  | .chars cs, f :: fs => some ⟨f.addText cs :: fs, none⟩
  | .chars _, [] => none
  | .comment text, f :: fs => some ⟨f.addNode (.comment text none) :: fs, none⟩
  | .comment _, [] => some a
  | .instruction target text, f :: fs =>
    some ⟨f.addNode (.instruction target text none) :: fs, none⟩
  | .instruction _ _, [] => some a
  | .enter, f :: fs => some ⟨.apart :: f :: fs, none⟩
  | .enter, [] => none
  | .leave, g :: f :: fs =>
    if g.written == Frame.apart.written then some ⟨f.addAll g :: fs, none⟩ else none
  | .leave, _ => none

/-- Takes in tokens one after the other, as long as none of them is out of place. -/
def steps (contents : Contents) (a : Option Assembly) (ts : List Token) : Option Assembly :=
  ts.foldl (fun a t => a.bind fun a => a.step contents t) a

end Assembly

/-- The root element that a list of tokens describes; `contents` is what is declared of the content
of elements. -/
def assemble? (contents : Contents) (ts : List Token) : Option Node :=
  match Assembly.steps contents (some ⟨[], none⟩) ts with
  | some ⟨[], some root⟩ => some root
  | _ => none

end JavaTree.Xml
