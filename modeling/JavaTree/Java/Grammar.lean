import JavaTree.Java.Token

/-!
# The grammar of Java

The rules of Java as data, with the precedences of its operators.  A source is a list of statements
and methods, so that a fragment can be read as well as a compilation unit.

## Main definitions

* `Java.Precedence` — the precedence levels.
* `Java.expressionRules`, `Java.statementRules`, `Java.declarationRules`, `Java.typeRules` and so on
  — the rules by subject.
* `Java.grammar` — the grammar; `Java.automaton` — the same, compiled.

## Implementation notes

Rules that are mentioned in one word of several others without being symbols of their own (`name`,
`simpleType`, `initializer`, `member`) are plain definitions.
-/

namespace JavaTree.Java

open JavaTree.Grammar Rule

/-! ## Precedences -/

namespace Precedence

/-- Contextual words read as identifiers. -/
def reserved : Int := -3

/-- Assignments. -/
def assign : Int := 1

/-- Declarations and the values of annotations. -/
def declaration : Int := 2

/-- Conditional expressions. -/
def ternary : Int := 3

/-- Comparisons. -/
def relation : Int := 10

/-- The weight of a reading as a generic type. -/
def generic : Int := 10

/-- Casts. -/
def cast : Int := 14

/-- Prefix and postfix operators. -/
def unary : Int := 15

/-- The weight of a reading as a class literal. -/
def classLiteral : Int := 17

/-- The binary operators with their precedences. -/
def binary : List (String × Int) := [
  (">", 10), ("<", 10), (">=", 10), ("<=", 10), ("==", 9), ("!=", 9), ("&&", 5), ("||", 4),
  ("+", 12), ("-", 12), ("*", 13), ("/", 13), ("&", 8), ("|", 6), ("^", 7), ("%", 13),
  ("<<", 11), (">>", 11), (">>>", 11)]

end Precedence

/-! ## Shorthands -/

/-- Groups to the left at a precedence. -/
def leftAt (level : Int) (r : Rule) : Rule := prec level (some .left) r

/-- Groups to the right at a precedence. -/
def rightAt (level : Int) (r : Rule) : Rule := prec level (some .right) r

/-- An identifier, or a contextual word in its place. -/
def anyIdentifier : Rule := alt "identifier" "_reserved_identifier"

/-- A simple or qualified name. -/
def name : Rule := choice ["identifier", "_reserved_identifier", "scoped_identifier"]

/-- An identifier in the place of a type. -/
def typeName : Rule := named "type_identifier" "identifier"

/-- A type without dimensions and annotations. -/
def simpleType : Rule :=
  choice ["void_type", "integral_type", "floating_point_type", "boolean_type", typeName,
    "scoped_type_identifier", "generic_type"]

/-- What a variable is initialised with. -/
def initializer : Rule := alt "expression" "array_initializer"

/-- A member of a class. -/
def member : Rule :=
  choice ["field_declaration", "record_declaration", "method_declaration",
    "compact_constructor_declaration", "class_declaration", "interface_declaration",
    "annotation_type_declaration", "enum_declaration", "block", "static_initializer",
    "constructor_declaration", lit ";"]

/-- One of several literal tokens. -/
def oneOf (texts : List String) : Rule := choice (texts.map lit)

/-- A rule in round brackets. -/
def round (r : Rule) : Rule := seqs [lit "(", r, lit ")"]

/-- A rule in curly brackets. -/
def curly (r : Rule) : Rule := seqs [lit "\x7b", r, lit "\x7d"]

/-- Any number of annotations. -/
def annotations : Rule := many "_annotation"

/-- Modifiers, if any. -/
def modifiers : Rule := optional "modifiers"

/-! ## Sources and literals -/

/-- The start rule and what it lists. -/
def sourceRules : List (String × Rule) := [
  ("program", many "_toplevel_statement"),
  ("_toplevel_statement", alt "statement" "method_declaration"),
  ("_literal",
    choice ["decimal_integer_literal", "hex_integer_literal", "octal_integer_literal",
      "binary_integer_literal", "decimal_floating_point_literal", "hex_floating_point_literal",
      "true", "false", "character_literal", "string_literal", "null_literal"]),
  ("true", lit "true"),
  ("false", lit "false"),
  ("string_literal", alt "_string_literal" "_multiline_string_literal"),
  ("_string_literal",
    seqs [lit "\"", many (choice ["string_fragment", "escape_sequence", "string_interpolation"]),
      lit "\""]),
  ("_multiline_string_literal",
    seqs [lit "\"\"\"",
      many (choice [named "multiline_string_fragment" "_multiline_string_fragment",
        "escape_sequence", "string_interpolation"]),
      lit "\"\"\""]),
  ("_multiline_string_fragment", alt "text_block_run" "text_block_quote_run"),
  ("string_interpolation", seqs [lit "\\\x7b", "expression", lit "\x7d"]),
  ("null_literal", lit "null")]

/-! ## Expressions -/

/-- The rules of expressions. -/
def expressionRules : List (String × Rule) := [
  ("expression",
    choice ["assignment_expression", "binary_expression", "instanceof_expression",
      "lambda_expression", "ternary_expression", "update_expression", "primary_expression",
      "unary_expression", "cast_expression", "switch_expression"]),
  ("cast_expression",
    prec Precedence.cast none (alt
      (seqs [lit "(", "_type", lit ")", "expression"])
      (seqs [lit "(", separated1 "&" "_type", lit ")",
        alt "primary_expression" "lambda_expression"]))),
  ("assignment_expression",
    rightAt Precedence.assign (seqs [
      choice ["identifier", "_reserved_identifier", "field_access", "array_access"],
      oneOf ["=", "+=", "-=", "*=", "/=", "&=", "|=", "^=", "%=", "<<=", ">>=", ">>>="],
      "expression"])),
  ("binary_expression",
    choice (Precedence.binary.map fun (operator, level) =>
      leftAt level (seqs ["expression", lit operator, "expression"]))),
  ("instanceof_expression",
    prec Precedence.relation none (seqs ["expression", lit "instanceof", optional (lit "final"),
      alt (seq "_type" (optional anyIdentifier)) "record_pattern"])),
  ("lambda_expression",
    seqs [choice ["identifier", "formal_parameters", "inferred_parameters", "_reserved_identifier"],
      lit "->", alt "expression" "block"]),
  ("inferred_parameters", round (commas1 anyIdentifier)),
  ("ternary_expression",
    rightAt Precedence.ternary
      (seqs ["expression", lit "?", "expression", lit ":", "expression"])),
  ("unary_expression",
    choice (["+", "-", "!", "~"].map fun operator =>
      leftAt Precedence.unary (seq (lit operator) "expression"))),
  ("update_expression",
    leftAt Precedence.unary (choice [
      seq "expression" (lit "++"), seq "expression" (lit "--"),
      seq (lit "++") "expression", seq (lit "--") "expression"])),
  ("primary_expression",
    choice ["_literal", "class_literal", "this", "identifier", "_reserved_identifier",
      "parenthesized_expression", "object_creation_expression", "field_access", "array_access",
      "method_invocation", "method_reference", "array_creation_expression",
      "template_expression"]),
  ("array_creation_expression",
    rightAt 0 (seqs [lit "new", annotations, simpleType,
      alt (seq (many1 "dimensions_expr") (optional "dimensions"))
        (seq "dimensions" "array_initializer")])),
  ("dimensions_expr", seqs [annotations, lit "[", "expression", lit "]"]),
  ("parenthesized_expression", round "expression"),
  ("class_literal",
    weight Precedence.classLiteral (seqs ["_unannotated_type", lit ".", lit "class"])),
  ("object_creation_expression",
    alt "_unqualified_object_creation_expression"
      (seqs ["primary_expression", lit ".", "_unqualified_object_creation_expression"])),
  ("_unqualified_object_creation_expression",
    rightAt 0 (seqs [lit "new",
      alt (seqs [annotations, "type_arguments", annotations]) annotations,
      simpleType, "argument_list", optional "class_body"])),
  ("field_access",
    seqs [alt "primary_expression" "super", optional (seq (lit ".") "super"), lit ".",
      choice ["identifier", "_reserved_identifier", "this"]]),
  ("template_expression", seqs ["primary_expression", lit ".", "string_literal"]),
  ("array_access", seqs ["primary_expression", lit "[", "expression", lit "]"]),
  ("method_invocation",
    seq
      (alt anyIdentifier
        (seqs [alt "primary_expression" "super", lit ".", optional (seq "super" (lit ".")),
          optional "type_arguments", anyIdentifier]))
      "argument_list"),
  ("argument_list", round (commas "expression")),
  ("method_reference",
    seqs [choice ["_type", "primary_expression", "super"], lit "::", optional "type_arguments",
      alt (lit "new") "identifier"]),
  ("type_arguments", seqs [lit "<", commas (alt "_type" "wildcard"), lit ">"]),
  ("wildcard", seqs [annotations, lit "?", optional "_wildcard_bounds"]),
  ("_wildcard_bounds", alt (seq (lit "extends") "_type") (seq "super" "_type")),
  ("dimensions", rightAt 0 (many1 (seqs [annotations, lit "[", lit "]"])))]

/-! ## Switches and patterns -/

/-- The rules of switches and patterns. -/
def switchRules : List (String × Rule) := [
  ("switch_expression", seqs [lit "switch", "parenthesized_expression", "switch_block"]),
  ("switch_block", curly (alt (many "switch_block_statement_group") (many "switch_rule"))),
  ("switch_block_statement_group",
    leftAt 0 (seq (many1 (seq "switch_label" (lit ":"))) (many "statement"))),
  ("switch_rule",
    seqs ["switch_label", lit "->", choice ["expression_statement", "throw_statement", "block"]]),
  ("switch_label",
    alt (seqs [lit "case", alt "pattern" (commas1 "expression"), optional "guard"])
      (lit "default")),
  ("pattern", alt "type_pattern" "record_pattern"),
  ("type_pattern", seq "_unannotated_type" anyIdentifier),
  ("record_pattern",
    seq (choice ["identifier", "_reserved_identifier", "generic_type"]) "record_pattern_body"),
  ("record_pattern_body", round (commas (alt "record_pattern_component" "record_pattern"))),
  ("record_pattern_component",
    alt "underscore_pattern" (seq "_unannotated_type" anyIdentifier)),
  ("underscore_pattern", lit "_"),
  ("guard", seq (lit "when") "expression")]

/-! ## Statements -/

/-- The rules of statements. -/
def statementRules : List (String × Rule) := [
  ("statement",
    choice ["declaration", "expression_statement", "labeled_statement", "if_statement",
      "while_statement", "for_statement", "enhanced_for_statement", "block", lit ";",
      "assert_statement", "do_statement", "break_statement", "continue_statement",
      "return_statement", "yield_statement", "switch_expression", "synchronized_statement",
      "local_variable_declaration", "throw_statement", "try_statement",
      "try_with_resources_statement"]),
  ("block", curly (many "statement")),
  ("expression_statement", seq "expression" (lit ";")),
  ("labeled_statement", seqs ["identifier", lit ":", "statement"]),
  ("assert_statement",
    alt (seqs [lit "assert", "expression", lit ";"])
      (seqs [lit "assert", "expression", lit ":", "expression", lit ";"])),
  ("do_statement",
    seqs [lit "do", "statement", lit "while", "parenthesized_expression", lit ";"]),
  ("break_statement", seqs [lit "break", optional "identifier", lit ";"]),
  ("continue_statement", seqs [lit "continue", optional "identifier", lit ";"]),
  ("return_statement", seqs [lit "return", optional "expression", lit ";"]),
  ("yield_statement", seqs [lit "yield", "expression", lit ";"]),
  ("synchronized_statement", seqs [lit "synchronized", "parenthesized_expression", "block"]),
  ("throw_statement", seqs [lit "throw", "expression", lit ";"]),
  ("try_statement",
    seqs [lit "try", "block",
      alt (many1 "catch_clause") (seq (many "catch_clause") "finally_clause")]),
  ("catch_clause", seqs [lit "catch", lit "(", "catch_formal_parameter", lit ")", "block"]),
  ("catch_formal_parameter", seqs [modifiers, "catch_type", "_variable_declarator_id"]),
  ("catch_type", separated1 "|" "_unannotated_type"),
  ("finally_clause", seq (lit "finally") "block"),
  ("try_with_resources_statement",
    seqs [lit "try", "resource_specification", "block", many "catch_clause",
      optional "finally_clause"]),
  ("resource_specification",
    seqs [lit "(", separated1 ";" "resource", optional (lit ";"), lit ")"]),
  ("resource",
    choice [
      seqs [modifiers, "_unannotated_type", "_variable_declarator_id", lit "=", "expression"],
      "identifier", "field_access"]),
  ("if_statement",
    rightAt 0 (seqs [lit "if", "parenthesized_expression", "statement",
      optional (seq (lit "else") "statement")])),
  ("while_statement", seqs [lit "while", "parenthesized_expression", "statement"]),
  ("for_statement",
    seqs [lit "for", lit "(",
      alt "local_variable_declaration" (seq (commas "expression") (lit ";")),
      optional "expression", lit ";", commas "expression", lit ")", "statement"]),
  ("enhanced_for_statement",
    seqs [lit "for", lit "(", modifiers, "_unannotated_type", "_variable_declarator_id", lit ":",
      "expression", lit ")", "statement"])]

/-! ## Annotations -/

/-- The rules of annotations. -/
def annotationRules : List (String × Rule) := [
  ("_annotation", alt "marker_annotation" "annotation"),
  ("marker_annotation", seq (lit "@") name),
  ("annotation", seqs [lit "@", name, "annotation_argument_list"]),
  ("annotation_argument_list", round (alt "_element_value" (commas "element_value_pair"))),
  ("element_value_pair", seqs [anyIdentifier, lit "=", "_element_value"]),
  ("_element_value",
    prec Precedence.declaration none
      (choice ["expression", "element_value_array_initializer", "_annotation"])),
  ("element_value_array_initializer",
    seqs [lit "\x7b", commas "_element_value", optional (lit ","), lit "\x7d"])]

/-! ## Declarations -/

/-- The rules of modules, packages and imports. -/
def moduleRules : List (String × Rule) := [
  ("declaration",
    prec Precedence.declaration none
      (choice ["module_declaration", "package_declaration", "import_declaration",
        "class_declaration", "record_declaration", "interface_declaration",
        "annotation_type_declaration", "enum_declaration"])),
  ("module_declaration",
    seqs [annotations, optional (lit "open"), lit "module", name, "module_body"]),
  ("module_body", curly (many "module_directive")),
  ("module_directive",
    choice ["requires_module_directive", "exports_module_directive", "opens_module_directive",
      "uses_module_directive", "provides_module_directive"]),
  ("requires_module_directive", seqs [lit "requires", many "requires_modifier", name, lit ";"]),
  ("requires_modifier", oneOf ["transitive", "static"]),
  ("exports_module_directive",
    seqs [lit "exports", name, optional (seq (lit "to") (commas1 name)), lit ";"]),
  ("opens_module_directive",
    seqs [lit "opens", name, optional (seq (lit "to") (commas1 name)), lit ";"]),
  ("uses_module_directive", seqs [lit "uses", name, lit ";"]),
  ("provides_module_directive", seqs [lit "provides", name, lit "with", commas1 name, lit ";"]),
  ("package_declaration", seqs [annotations, lit "package", name, lit ";"]),
  ("import_declaration",
    seqs [lit "import", optional (lit "static"), name, optional (seq (lit ".") "asterisk"),
      lit ";"]),
  ("asterisk", lit "*")]

/-- The rules of type declarations and their members. -/
def declarationRules : List (String × Rule) := [
  ("enum_declaration",
    seqs [modifiers, lit "enum", "identifier", optional "super_interfaces", "enum_body"]),
  ("enum_body",
    curly (seqs [commas "enum_constant", optional (lit ","), optional "enum_body_declarations"])),
  ("enum_body_declarations", seq (lit ";") (many member)),
  ("enum_constant",
    seqs [modifiers, "identifier", optional "argument_list", optional "class_body"]),
  ("class_declaration",
    seqs [modifiers, lit "class", "identifier", optional "type_parameters", optional "superclass",
      optional "super_interfaces", optional "permits", "class_body"]),
  ("modifiers",
    many1 (alt "_annotation"
      (oneOf ["public", "protected", "private", "abstract", "static", "final", "strictfp",
        "default", "synchronized", "native", "transient", "volatile", "sealed", "non-sealed"]))),
  ("type_parameters", seqs [lit "<", commas1 "type_parameter", lit ">"]),
  ("type_parameter", seqs [annotations, typeName, optional "type_bound"]),
  ("type_bound", seq (lit "extends") (separated1 "&" "_type")),
  ("superclass", seq (lit "extends") "_type"),
  ("super_interfaces", seq (lit "implements") "type_list"),
  ("type_list", commas1 "_type"),
  ("permits", seq (lit "permits") "type_list"),
  ("class_body", curly (many member)),
  ("static_initializer", seq (lit "static") "block"),
  ("constructor_declaration",
    seqs [modifiers, "_constructor_declarator", optional "throws", "constructor_body"]),
  ("_constructor_declarator",
    seqs [optional "type_parameters", anyIdentifier, "formal_parameters"]),
  ("constructor_body",
    curly (seq (optional "explicit_constructor_invocation") (many "statement"))),
  ("explicit_constructor_invocation",
    seqs [
      alt (seq (optional "type_arguments") (alt "this" "super"))
        (seqs ["primary_expression", lit ".", optional "type_arguments", "super"]),
      "argument_list", lit ";"]),
  ("scoped_identifier", seqs [name, lit ".", anyIdentifier]),
  ("field_declaration",
    seqs [modifiers, "_unannotated_type", "_variable_declarator_list", lit ";"]),
  ("record_declaration",
    seqs [modifiers, lit "record", "identifier", optional "type_parameters", "formal_parameters",
      optional "super_interfaces", "class_body"]),
  ("annotation_type_declaration",
    seqs [modifiers, lit "@interface", "identifier", "annotation_type_body"]),
  ("annotation_type_body",
    curly (many (choice ["annotation_type_element_declaration", "constant_declaration",
      "class_declaration", "interface_declaration", "enum_declaration",
      "annotation_type_declaration", lit ";"]))),
  ("annotation_type_element_declaration",
    seqs [modifiers, "_unannotated_type", anyIdentifier, lit "(", lit ")", optional "dimensions",
      optional "_default_value", lit ";"]),
  ("_default_value", seq (lit "default") "_element_value"),
  ("interface_declaration",
    seqs [modifiers, lit "interface", "identifier", optional "type_parameters",
      optional "extends_interfaces", optional "permits", "interface_body"]),
  ("extends_interfaces", seq (lit "extends") "type_list"),
  ("interface_body",
    curly (many (choice ["constant_declaration", "enum_declaration", "method_declaration",
      "class_declaration", "interface_declaration", "record_declaration",
      "annotation_type_declaration", lit ";"]))),
  ("constant_declaration",
    seqs [modifiers, "_unannotated_type", "_variable_declarator_list", lit ";"]),
  ("_variable_declarator_list", commas1 "variable_declarator"),
  ("variable_declarator",
    seq "_variable_declarator_id" (optional (seq (lit "=") initializer))),
  ("_variable_declarator_id",
    seq (choice ["identifier", "_reserved_identifier", "underscore_pattern"])
      (optional "dimensions")),
  ("array_initializer", seqs [lit "\x7b", commas initializer, optional (lit ","), lit "\x7d"])]

/-! ## Types and methods -/

/-- The rules of types. -/
def typeRules : List (String × Rule) := [
  ("_type", alt "_unannotated_type" "annotated_type"),
  ("_unannotated_type", alt simpleType "array_type"),
  ("annotated_type", seq (many1 "_annotation") "_unannotated_type"),
  ("scoped_type_identifier",
    seqs [choice [typeName, "scoped_type_identifier", "generic_type"], lit ".", annotations,
      typeName]),
  ("generic_type",
    weight Precedence.generic (seq (alt typeName "scoped_type_identifier") "type_arguments")),
  ("array_type", seq "_unannotated_type" "dimensions"),
  ("integral_type", oneOf ["byte", "short", "int", "long", "char"]),
  ("floating_point_type", oneOf ["float", "double"]),
  ("boolean_type", lit "boolean"),
  ("void_type", lit "void")]

/-- The rules of methods and variables. -/
def methodRules : List (String × Rule) := [
  ("_method_header",
    seqs [optional (seq "type_parameters" annotations), "_unannotated_type",
      "_method_declarator", optional "throws"]),
  ("_method_declarator", seqs [anyIdentifier, "formal_parameters", optional "dimensions"]),
  ("formal_parameters",
    round (alt "receiver_parameter"
      (seq (optional (seq "receiver_parameter" (lit ",")))
        (commas (alt "formal_parameter" "spread_parameter"))))),
  ("formal_parameter", seqs [modifiers, "_unannotated_type", "_variable_declarator_id"]),
  ("receiver_parameter",
    seqs [annotations, "_unannotated_type", many (seq "identifier" (lit ".")), "this"]),
  ("spread_parameter",
    seqs [modifiers, "_unannotated_type", lit "...", annotations, "variable_declarator"]),
  ("throws", seq (lit "throws") (commas1 "_type")),
  ("local_variable_declaration",
    seqs [modifiers, "_unannotated_type", "_variable_declarator_list", lit ";"]),
  ("method_declaration", seqs [modifiers, "_method_header", alt "block" (lit ";")]),
  ("compact_constructor_declaration", seqs [modifiers, "identifier", "block"]),
  ("_reserved_identifier",
    alt
      (prec Precedence.reserved none
        (named "identifier" (oneOf ["open", "module", "record", "with", "sealed"])))
      (named "identifier" (lit "yield"))),
  ("this", lit "this"),
  ("super", lit "super")]

/-! ## The grammar -/

/-- The grammar of Java. -/
def grammar : RuleSet where
  blanks := blank
  tokens := tokens
  word := "identifier"
  comments := ["line_comment", "block_comment"]
  unseen := ["expression", "primary_expression", "statement", "declaration", "module_directive"]
  rules := sourceRules ++ expressionRules ++ switchRules ++ statementRules ++ annotationRules ++
    moduleRules ++ declarationRules ++ typeRules ++ methodRules

/-- The grammar of Java, compiled. -/
def automaton : Automaton := grammar.compile

end JavaTree.Java
