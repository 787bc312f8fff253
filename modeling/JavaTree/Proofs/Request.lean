import Mathlib.Data.List.Basic
import JavaTree.Request

/-!
# What the command line asks for

The tokens of a command line give values to the options.  Of the tokens for an option only the last
one counts, and of that only what follows the equals sign, without a pair of quotes around it.  The
values tell whether there is a request, and which one.  Two hyphens are the one text that is not
taken as it stands: an option with this text counts as one without a token.

## Main definitions

* `OptionName.lastText?`, `OptionName.value` — what tokens say for an option, and its value.
* `OptionName.Dashed`, `OptionName.heeded` — two hyphens as a text, and the value that is heeded.
* `Acceptable`, `requestFor` — values that ask for something, and what they ask for.

## Main results

* `Request.ofArguments_eq_ok_iff` — arguments give the request that their values ask for.
* `Request.parse_eq_ok_iff_heeded` — tokens give the request that the heeded values ask for.
* `Request.parse_by_values_iff` — when tokens give the request that the values ask for.
-/

namespace JavaTree

/-! ## Values -/

namespace OptionName

/-- Whether a token is for an option: it starts with a hyphen, the name and an equals sign. -/
def opens (name : OptionName) (token : String) : Bool := name.opening.isPrefixOf token.toList

/-- What follows the equals sign in the last token for an option. -/
def lastText? (name : OptionName) (tokens : List String) : Option (List Char) :=
  (tokens.reverse.find? name.opens).map fun token => token.toList.drop name.opening.length

end OptionName

/-- A text without one pair of quotes around it. -/
def unquote (text : List Char) : List Char :=
  if 2 ≤ text.length ∧ text.head? = some '"' ∧ text.getLast? = some '"' then text.tail.dropLast
  else text

namespace OptionName

/-- The value of an option; it is empty if no token is for the option. -/
def value (tokens : List String) (name : OptionName) : String :=
  String.ofList (unquote ((name.lastText? tokens).getD []))

/-- The last token for an option says two hyphens and nothing else. -/
def Dashed (tokens : List String) (name : OptionName) : Prop :=
  name.lastText? tokens = some ['-', '-']

instance (tokens : List String) (name : OptionName) : Decidable (Dashed tokens name) :=
  inferInstanceAs (Decidable (_ = _))

/-- The value of an option as it is heeded: two hyphens are no value. -/
def heeded (tokens : List String) (name : OptionName) : String :=
  if Dashed tokens name then "" else value tokens name

end OptionName

/-- Values that ask for something: there is one for the project or for the file but not for both,
and the representation is one of those that there are. -/
def Acceptable (v : OptionName → String) : Prop :=
  (v .project = "" ↔ v .file ≠ "") ∧
    (v .representation = "" ∨ v .representation = "XML" ∨ v .representation = "JSON")

instance (v : OptionName → String) : Decidable (Acceptable v) :=
  inferInstanceAs (Decidable (_ ∧ _))

/-- What acceptable values ask for. -/
def requestFor (v : OptionName → String) : Request where
  target := if v .project = "" then .file else .project
  path := Path.ofString (if v .project = "" then v .file else v .project)
  properties := if v .properties = "" then none else some (Path.ofString (v .properties))
  representation := if v .representation = "JSON" then .json else .xml

/-! ## Reading values -/

section

variable (name : OptionName) (tokens : List String)

/-- A beginning can be dropped where it stands, and only there. -/
lemma dropBeginning?_eq (start cs : List Char) :
    dropBeginning? start cs =
      if start.isPrefixOf cs then some (cs.drop start.length) else none := by
  induction start generalizing cs with
  | nil => simp [dropBeginning?]
  | cons a start ih =>
    cases cs with
    | nil => simp [dropBeginning?]
    | cons c cs =>
      rw [dropBeginning?, ih]
      by_cases h : a = c
      · simp [h]
      · simp [h]

/-- The last of the values that tokens give to an option is what the last token for it says. -/
lemma getLast?_filterMap_tokenValue? :
    (tokens.filterMap (tokenValue? name)).getLast? = name.lastText? tokens := by
  rw [List.getLast?_filterMap, OptionName.lastText?]
  induction tokens.reverse with
  | nil => rfl
  | cons token rest ih =>
    rw [List.findSome?_cons, List.find?_cons, tokenValue?, dropBeginning?_eq]
    cases h : name.opens token with
    | false =>
      rw [OptionName.opens] at h
      simp only [h, Bool.false_eq_true, ↓reduceIte, ih]
    | true =>
      rw [OptionName.opens] at h
      simp only [h, ↓reduceIte, Option.map_some]

end

section

variable {text middle : List Char}

/-- A text that is a pair of quotes around another text. -/
def InQuotes (text middle : List Char) : Prop := text = '"' :: (middle ++ ['"'])

/-- A text in quotes is taken out of them. -/
lemma unquote_of_inQuotes (h : InQuotes text middle) : unquote text = middle := by
  have hhead : text.head? = some '"' := by rw [h, List.head?_cons]
  have hlast : text.getLast? = some '"' := by
    rw [h, ← List.cons_append, List.getLast?_concat]
  have hlength : 2 ≤ text.length := by
    rw [h, List.length_cons, List.length_append, List.length_singleton]
    omega
  rw [unquote, if_pos ⟨hlength, hhead, hlast⟩, h, List.tail_cons, List.dropLast_concat]

/-- Any other text is left as it is. -/
lemma unquote_of_not_inQuotes (h : ∀ middle, ¬ InQuotes text middle) : unquote text = text := by
  rw [unquote, if_neg]
  rintro ⟨hlength, hhead, hlast⟩
  rcases text with _ | ⟨c, rest⟩
  · cases hhead
  · have hrest : rest ≠ [] := by
      rintro rfl
      simp at hlength
    rw [List.getLast?_cons_of_ne_nil hrest] at hlast
    apply h rest.dropLast
    rw [InQuotes, List.dropLast_append_getLast? '"' hlast, Option.some.inj hhead]

/-- One pair of quotes around a text is stripped. -/
lemma stripQuotes_of_inQuotes (h : InQuotes text middle) : stripQuotes text = middle := by
  rw [h]
  simp [stripQuotes]

/-- A text that is not in quotes is not stripped. -/
lemma stripQuotes_of_not_inQuotes (h : ∀ middle, ¬ InQuotes text middle) :
    stripQuotes text = text := by
  unfold stripQuotes
  split
  · rename_i rest
    split
    · rename_i middle hreverse
      have hrest : rest = middle.reverse ++ ['"'] := by
        rw [← List.reverse_reverse rest, hreverse, List.reverse_cons]
      exact absurd (congrArg ('"' :: ·) hrest) (h middle.reverse)
    · rfl
  · rfl

/-- Quotes are stripped from a text that is in quotes, and only once. -/
lemma stripQuotes_eq_unquote (text : List Char) : stripQuotes text = unquote text := by
  by_cases h : ∃ middle, InQuotes text middle
  · obtain ⟨middle, hmiddle⟩ := h
    rw [stripQuotes_of_inQuotes hmiddle, unquote_of_inQuotes hmiddle]
  · have hplain := not_exists.1 h
    rw [stripQuotes_of_not_inQuotes hplain, unquote_of_not_inQuotes hplain]

end

/-- What is read for an option is the value that is heeded.

**Proof sketch.** The last token for the option counts. It is none, or its text is two dashes and
counts as none, or it is read without its quotes. -/
lemma getD_optionValue (name : OptionName) (tokens : List String) :
    (optionValue name tokens).getD "" = name.heeded tokens := by
  have hread := getLast?_filterMap_tokenValue? name tokens
  have hdashed : OptionName.Dashed tokens name ↔ name.lastText? tokens = some ['-', '-'] := Iff.rfl
  rw [OptionName.heeded, OptionName.value]
  cases htext : name.lastText? tokens with
  | none =>
    have hvalue : optionValue name tokens = some "" := by rw [optionValue, hread, htext]
    rw [htext] at hdashed
    rw [hvalue, if_neg (by simp [hdashed])]
    rfl
  | some text =>
    have hvalue : optionValue name tokens = OptionValue.ofChars text := by
      rw [optionValue, hread, htext]
    rw [htext, Option.some.injEq] at hdashed
    rw [hvalue, OptionValue.ofChars, Option.getD_some, stripQuotes_eq_unquote]
    by_cases hdashes : text = ['-', '-']
    · rw [if_pos (beq_iff_eq.2 hdashes), if_pos (hdashed.2 hdashes)]
      rfl
    · rw [if_neg (mt beq_iff_eq.1 hdashes), if_neg (mt hdashed.1 hdashes)]
      rfl

/-- The values in arguments; what is no value counts as empty. -/
def Arguments.value (a : Arguments) : OptionName → String
  | .project => a.project.getD ""
  | .file => a.file.getD ""
  | .properties => a.properties.getD ""
  | .representation => a.representation.getD ""

/-- The value that is read for an option is the one that counts. -/
lemma Arguments.value_read (tokens : List String) :
    (Arguments.read tokens).value = OptionName.heeded tokens := by
  funext name
  cases name <;> exact getD_optionValue _ tokens

/-! ## Requests -/

/-- Three codes are known, the empty one among them, and only one of them is for JSON.

**Proof sketch.** By the three codes. -/
lemma ofCode?_eq_some_iff {code : String} {r : Representation} :
    Representation.ofCode? code = some r ↔
      (code = "" ∨ code = "XML" ∨ code = "JSON") ∧ r = if code = "JSON" then .json else .xml := by
  unfold Representation.ofCode?
  by_cases hjson : code = "JSON"
  · subst hjson
    exact ⟨fun h => ⟨.inr (.inr rfl), (Option.some.inj h).symm⟩, fun h => congrArg some h.2.symm⟩
  · by_cases hxml : code = "" ∨ code = "XML"
    · have hcode : (code == "" || code == "XML") = true := by simpa using hxml
      rw [if_pos hcode, if_neg hjson, Option.some.injEq]
      exact ⟨fun h => ⟨hxml.imp_right .inl, h.symm⟩, fun h => h.2.symm⟩
    · have hcode : ¬ (code == "" || code == "XML") = true := by simpa using hxml
      rw [if_neg hcode, if_neg (mt beq_iff_eq.1 hjson)]
      constructor
      · intro h
        cases h
      rintro ⟨h | h | h, -⟩
      · exact absurd (.inl h) hxml
      · exact absurd (.inr h) hxml
      · exact absurd h hjson

namespace Request

/-- Arguments are refused unless they name one target, and then unless there is a representation for
the code.

**Proof sketch.** By whether one target is named, and then by the code. -/
lemma ofArguments_eq (a : Arguments) :
    ofArguments a =
      if a.value .project = "" ↔ a.value .file ≠ "" then
        match Representation.ofCode? (a.value .representation) with
        | some r => .ok { requestFor a.value with representation := r }
        | none => .error (.unsupported (a.value .representation))
      else .error .notOneTarget := by
  have hproject : (a.project.getD "" == "") = decide (a.value .project = "") := rfl
  have hfile : (a.file.getD "" == "") = decide (a.value .file = "") := rfl
  unfold ofArguments requestFor
  simp only [hproject, hfile, beq_iff_eq, decide_eq_true_eq, decide_eq_decide]
  by_cases hone : a.value .project = "" ↔ a.value .file ≠ ""
  · rw [if_neg (by tauto), if_pos hone]
    have hrepr : a.value .representation = a.representation.getD "" := rfl
    rw [hrepr]
    cases Representation.ofCode? (a.representation.getD "") with
    | none => rfl
    | some r =>
      by_cases hempty : a.value .project = ""
      · simp only [hempty, ↓reduceIte]
        rfl
      · simp only [hempty, ↓reduceIte]
        rfl
  · rw [if_pos (by tauto), if_neg hone]

/-- **Arguments give the request that their values ask for**, and no other arguments give any.

**Proof sketch.** By `ofArguments_eq`: the representation of a code that is known is the one that
the request asks for. -/
theorem ofArguments_eq_ok_iff (a : Arguments) (r : Request) :
    ofArguments a = .ok r ↔ Acceptable a.value ∧ r = requestFor a.value := by
  rw [ofArguments_eq, Acceptable]
  by_cases hone : a.value .project = "" ↔ a.value .file ≠ ""
  · rw [if_pos hone]
    cases hcode : Representation.ofCode? (a.value .representation) with
    | none =>
      have hnone : ¬ (a.value .representation = "" ∨ a.value .representation = "XML" ∨
          a.value .representation = "JSON") := by
        intro h
        have hsome := ofCode?_eq_some_iff.2 ⟨h, rfl⟩
        rw [hcode] at hsome
        cases hsome
      constructor
      · intro h
        cases h
      · rintro ⟨⟨-, h⟩, -⟩
        exact absurd h hnone
    | some shown =>
      obtain ⟨h, hshown⟩ := ofCode?_eq_some_iff.1 hcode
      have hrequest : { requestFor a.value with representation := shown } = requestFor a.value := by
        rw [hshown]
        rfl
      simp only [hrequest, Except.ok.injEq]
      exact ⟨fun hr => ⟨⟨hone, h⟩, hr.symm⟩, fun hr => hr.2.symm⟩
  · rw [if_neg hone]
    constructor
    · intro h
      cases h
    · rintro ⟨⟨h, -⟩, -⟩
      exact absurd h hone

/-- Tokens give the request that the heeded values of their options ask for. -/
theorem parse_eq_ok_iff_heeded (tokens : List String) (r : Request) :
    parse tokens = .ok r ↔
      Acceptable (OptionName.heeded tokens) ∧ r = requestFor (OptionName.heeded tokens) := by
  rw [parse, ofArguments_eq_ok_iff, Arguments.value_read]

end Request

/-! ## Two hyphens -/

section

variable {tokens : List String} {name : OptionName}

/-- The value of a dashed option is two dashes. -/
lemma OptionName.value_of_dashed (h : OptionName.Dashed tokens name) :
    name.value tokens = "--" := by
  unfold OptionName.Dashed at h
  rw [OptionName.value, h]
  rfl

/-- The value of a dashed option counts as none. -/
lemma OptionName.heeded_of_dashed (h : OptionName.Dashed tokens name) : name.heeded tokens = "" :=
  if_pos h

/-- The value of an option that is not dashed counts as it is. -/
lemma OptionName.heeded_of_not_dashed (h : ¬ OptionName.Dashed tokens name) :
    name.heeded tokens = name.value tokens :=
  if_neg h

/-- An option without a value counts as one without. -/
lemma OptionName.heeded_of_value_eq (h : name.value tokens = "") : name.heeded tokens = "" := by
  by_cases hdashed : OptionName.Dashed tokens name
  · exact OptionName.heeded_of_dashed hdashed
  · rw [OptionName.heeded_of_not_dashed hdashed, h]

/-- Where both the values and the heeded values ask for something, and for the same, no option says
two hyphens.

**Proof sketch.** By the option. If it is dashed and one of the two targets, the other target is not
given and no target is left; the properties file would be named in one request and not in the other;
and two dashes are no code. -/
lemma not_dashed_of_requestFor_eq (h : Acceptable (OptionName.value tokens))
    (h' : Acceptable (OptionName.heeded tokens))
    (heq : requestFor (OptionName.heeded tokens) = requestFor (OptionName.value tokens)) :
    ¬ OptionName.Dashed tokens name := by
  intro hdashed
  have hvalue := OptionName.value_of_dashed hdashed
  have hheeded := OptionName.heeded_of_dashed hdashed
  cases name with
  | project =>
    have hfile : OptionName.value tokens .file = "" := by
      by_contra hne
      exact absurd (hvalue.symm.trans (h.1.2 hne)) (by decide)
    exact h'.1.1 hheeded (OptionName.heeded_of_value_eq hfile)
  | file =>
    have hproject : OptionName.value tokens .project = "" := by
      apply h.1.2
      rw [hvalue]
      decide
    exact h'.1.1 (OptionName.heeded_of_value_eq hproject) hheeded
  | properties =>
    have hproperties := congrArg Request.properties heq
    simp only [requestFor, hvalue, hheeded] at hproperties
    cases hproperties
  | representation =>
    have hcode := h.2
    rw [hvalue] at hcode
    exact absurd hcode (by decide)

end

namespace Request

/-- **When tokens give the request that their values ask for**: whenever no option says two hyphens,
and otherwise only if there is no request either way.  The values are the texts as they stand in
the tokens, whatever their characters, so other tokens do not matter.

**Proof sketch.** Tokens are parsed by the heeded values. If no option is dashed these are the
values themselves. Otherwise the two agree only if neither of them asks for anything, by
`not_dashed_of_requestFor_eq`. -/
theorem parse_by_values_iff (tokens : List String) :
    (∀ r, parse tokens = .ok r ↔
        Acceptable (OptionName.value tokens) ∧ r = requestFor (OptionName.value tokens)) ↔
      (∀ name, ¬ OptionName.Dashed tokens name) ∨
        ¬ Acceptable (OptionName.value tokens) ∧ ¬ Acceptable (OptionName.heeded tokens) := by
  simp only [parse_eq_ok_iff_heeded]
  constructor
  · intro h
    by_cases hvalue : Acceptable (OptionName.value tokens)
    · have hrequest := (h _).2 ⟨hvalue, rfl⟩
      exact .inl fun name => not_dashed_of_requestFor_eq hvalue hrequest.1 hrequest.2.symm
    · refine .inr ⟨hvalue, fun hheeded => ?_⟩
      exact hvalue ((h _).1 ⟨hheeded, rfl⟩).1
  · rintro (hnone | ⟨hvalue, hheeded⟩) r
    · have heq : OptionName.heeded tokens = OptionName.value tokens := by
        funext name
        exact OptionName.heeded_of_not_dashed (hnone name)
      rw [heq]
    · constructor
      · rintro ⟨h, -⟩
        exact absurd h hheeded
      · rintro ⟨h, -⟩
        exact absurd h hvalue

/-- Two hyphens as a path ask for nothing, though they are a path as it stands. -/
theorem parse_dashed_file :
    parse ["-file=--"] = .error .notOneTarget ∧ Acceptable (OptionName.value ["-file=--"]) := by
  decide

end Request

end JavaTree
