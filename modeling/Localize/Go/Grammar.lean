import Localize.Parsing.Table

/-! # The Go grammar

The parse table of the Go grammar, with its symbols and the shapes of its productions. The
table is an LR(1) automaton whose states with the same items were merged wherever their
tokens cannot be confused; where the grammar is ambiguous (a name that may be a type or a
value, a call that may be a conversion) a state keeps several actions, and the parser follows
all of them. State 0 is the error state, which recovers on every token that may restart a
parse, and state 1 is the start state.

The symbols are numbered as the table numbers them: `0` is the end of the text, then come the
tokens, then the nonterminals. A token written the same way as an identifier (a keyword) is
read as an identifier first, and as the keyword where the keyword can be parsed.
-/

namespace Localize.Go.Grammar

open Localize.Parsing

/-- The number of token symbols, the end of the text included. -/
def tokenCount : Nat := 95

/-- The name of each symbol, as the nodes of a syntax tree are called. -/
def symbolNames : Array String := #[
  "end",
  "\n",
  ";",
  "\x00",
  "package",
  "import",
  ".",
  "blank_identifier",
  "(",
  ")",
  "const",
  ",",
  "=",
  "var",
  "func",
  "[",
  "]",
  "...",
  "type",
  "*",
  "struct",
  "~",
  "\x7b",
  "\x7d",
  "interface",
  "|",
  "map",
  "chan",
  "<-",
  ":=",
  "++",
  "--",
  "*=",
  "/=",
  "%=",
  "<<=",
  ">>=",
  "&=",
  "&^=",
  "+=",
  "-=",
  "|=",
  "^=",
  ":",
  "fallthrough",
  "break",
  "continue",
  "goto",
  "return",
  "go",
  "defer",
  "if",
  "else",
  "for",
  "range",
  "switch",
  "case",
  "default",
  "select",
  "identifier",
  "identifier",
  "+",
  "-",
  "!",
  "^",
  "&",
  "/",
  "%",
  "<<",
  ">>",
  "&^",
  "==",
  "!=",
  "<",
  "<=",
  ">",
  ">=",
  "&&",
  "||",
  "identifier",
  "\x60",
  "raw_string_literal_content",
  "\"",
  "interpreted_string_literal_content",
  "\"",
  "escape_sequence",
  "int_literal",
  "float_literal",
  "imaginary_literal",
  "rune_literal",
  "nil",
  "true",
  "false",
  "iota",
  "comment",
  "source_file",
  "_top_level_declaration",
  "package_clause",
  "import_declaration",
  "import_spec",
  "dot",
  "import_spec_list",
  "_declaration",
  "const_declaration",
  "const_spec",
  "var_declaration",
  "var_spec",
  "var_spec_list",
  "function_declaration",
  "method_declaration",
  "type_parameter_list",
  "type_parameter_declaration",
  "parameter_list",
  "parameter_declaration",
  "variadic_parameter_declaration",
  "type_alias",
  "type_declaration",
  "type_spec",
  "field_name_list",
  "expression_list",
  "_type",
  "parenthesized_type",
  "_simple_type",
  "generic_type",
  "type_arguments",
  "pointer_type",
  "array_type",
  "implicit_length_array_type",
  "slice_type",
  "struct_type",
  "negated_type",
  "field_declaration_list",
  "field_declaration",
  "interface_type",
  "_interface_elem",
  "method_elem",
  "type_elem",
  "map_type",
  "channel_type",
  "function_type",
  "block",
  "statement_list",
  "_statement",
  "empty_statement",
  "_simple_statement",
  "expression_statement",
  "send_statement",
  "receive_statement",
  "inc_statement",
  "dec_statement",
  "assignment_statement",
  "short_var_declaration",
  "labeled_statement",
  "labeled_statement",
  "fallthrough_statement",
  "break_statement",
  "continue_statement",
  "goto_statement",
  "return_statement",
  "go_statement",
  "defer_statement",
  "if_statement",
  "for_statement",
  "for_clause",
  "range_clause",
  "expression_switch_statement",
  "expression_case",
  "default_case",
  "type_switch_statement",
  "_type_switch_header",
  "type_case",
  "select_statement",
  "communication_case",
  "_expression",
  "parenthesized_expression",
  "call_expression",
  "variadic_argument",
  "argument_list",
  "argument_list",
  "selector_expression",
  "index_expression",
  "slice_expression",
  "type_assertion_expression",
  "type_conversion_expression",
  "type_instantiation_expression",
  "composite_literal",
  "literal_value",
  "literal_element",
  "keyed_element",
  "func_literal",
  "unary_expression",
  "binary_expression",
  "qualified_type",
  "_type_identifier",
  "_field_identifier",
  "_package_identifier",
  "_string_literal",
  "raw_string_literal",
  "interpreted_string_literal",
  "source_file_repeat1",
  "import_spec_list_repeat1",
  "const_declaration_repeat1",
  "const_spec_repeat1",
  "var_spec_repeat1",
  "var_spec_list_repeat1",
  "type_parameter_list_repeat1",
  "parameter_list_repeat1",
  "type_declaration_repeat1",
  "field_name_list_repeat1",
  "expression_list_repeat1",
  "type_arguments_repeat1",
  "field_declaration_list_repeat1",
  "field_declaration_repeat1",
  "interface_type_repeat1",
  "type_elem_repeat1",
  "statement_list_repeat1",
  "expression_switch_statement_repeat1",
  "type_switch_statement_repeat1",
  "type_case_repeat1",
  "select_statement_repeat1",
  "argument_list_repeat1",
  "literal_value_repeat1",
  "interpreted_string_literal_repeat1"
]

/-- For each symbol, `1` when its nodes are visible in the syntax tree. -/
def visibleFlags : String := "0111111111111111111111111111111111111111111111111111111111111111111111111111111111111111111111110111110111111111111111110101111111111101111111010111111111111111111111111011101111111111111111111000011000000000000000000000000"

/-- For each symbol, `1` when its nodes are named (not punctuation or keywords). -/
def namedFlags : String := "1000000100000000000000000000000000000000000000000000000000011000000000000000000101010111111111110111110111111111111111110101111111111101111111010111111111111111111111111011101111111111111111111000011000000000000000000000000"

/-- The text of each token written as a fixed string, empty for the other symbols. -/
def tokenTexts : Array String := #[
  "",
  "\n",
  ";",
  "\x00",
  "package",
  "import",
  ".",
  "_",
  "(",
  ")",
  "const",
  ",",
  "=",
  "var",
  "func",
  "[",
  "]",
  "...",
  "type",
  "*",
  "struct",
  "~",
  "\x7b",
  "\x7d",
  "interface",
  "|",
  "map",
  "chan",
  "<-",
  ":=",
  "++",
  "--",
  "*=",
  "/=",
  "%=",
  "<<=",
  ">>=",
  "&=",
  "&^=",
  "+=",
  "-=",
  "|=",
  "^=",
  ":",
  "fallthrough",
  "break",
  "continue",
  "goto",
  "return",
  "go",
  "defer",
  "if",
  "else",
  "for",
  "range",
  "switch",
  "case",
  "default",
  "select",
  "new",
  "make",
  "+",
  "-",
  "!",
  "^",
  "&",
  "/",
  "%",
  "<<",
  ">>",
  "&^",
  "==",
  "!=",
  "<",
  "<=",
  ">",
  ">=",
  "&&",
  "||",
  "",
  "\x60",
  "",
  "\"",
  "",
  "\"",
  "",
  "",
  "",
  "",
  "",
  "nil",
  "true",
  "false",
  "iota",
  ""
]

/-- A line break where it ends a statement. -/
def newline : Nat := 1

/-- The semicolon. -/
def semicolon : Nat := 2

/-- The NUL character, which ends a statement like a semicolon. -/
def nul : Nat := 3

/-- Identifiers; keywords are read as identifiers first. -/
def identifier : Nat := 79

/-- Integer literals. -/
def intLiteral : Nat := 86

/-- Floating-point literals. -/
def floatLiteral : Nat := 87

/-- Imaginary literals. -/
def imaginaryLiteral : Nat := 88

/-- Rune literals. -/
def runeLiteral : Nat := 89

/-- The backquote that opens and closes a raw string literal. -/
def backquote : Nat := 80

/-- The text of a raw string literal. -/
def rawContent : Nat := 81

/-- The double quote that opens an interpreted string literal. -/
def openQuote : Nat := 82

/-- The double quote that closes an interpreted string literal. -/
def closeQuote : Nat := 84

/-- A run of characters inside an interpreted string literal. -/
def stringContent : Nat := 83

/-- An escape sequence inside an interpreted string literal. -/
def escapeSequence : Nat := 85

/-- Line and block comments. -/
def comment : Nat := 94

/-- The keywords: tokens that read like identifiers, with their symbols. -/
def keywords : List (String × Nat) := [
  ("package", 4),
  ("import", 5),
  ("_", 7),
  ("const", 10),
  ("var", 13),
  ("func", 14),
  ("type", 18),
  ("struct", 20),
  ("interface", 24),
  ("map", 26),
  ("chan", 27),
  ("fallthrough", 44),
  ("break", 45),
  ("continue", 46),
  ("goto", 47),
  ("return", 48),
  ("go", 49),
  ("defer", 50),
  ("if", 51),
  ("else", 52),
  ("for", 53),
  ("range", 54),
  ("switch", 55),
  ("case", 56),
  ("default", 57),
  ("select", 58),
  ("new", 59),
  ("make", 60),
  ("nil", 90),
  ("true", 91),
  ("false", 92),
  ("iota", 93)
]

/-- The shape of each production: the children it renames, and the fields of its
children, by their position among the children that are not extras. -/
def productionShapes : Array ProductionShape := #[
  ⟨#[], #[]⟩,
  ⟨#[(0, "type_identifier", true)], #[]⟩,
  ⟨#[(1, "package_identifier", true)], #[]⟩,
  ⟨#[], #[(0, "path")]⟩,
  ⟨#[], #[(0, "name")]⟩,
  ⟨#[], #[(1, "operand"), (0, "operator")]⟩,
  ⟨#[], #[(1, "value")]⟩,
  ⟨#[(1, "label_name", true)], #[]⟩,
  ⟨#[], #[(1, "body")]⟩,
  ⟨#[], #[(1, "arguments"), (0, "function")]⟩,
  ⟨#[(0, "type_identifier", true)], #[(0, "type"), (1, "type_arguments")]⟩,
  ⟨#[(0, "type_identifier", true)], #[(1, "body"), (0, "type")]⟩,
  ⟨#[], #[(1, "body"), (0, "type")]⟩,
  ⟨#[], #[(0, "type"), (1, "type_arguments")]⟩,
  ⟨#[], #[(0, "name"), (1, "path")]⟩,
  ⟨#[(0, "package_identifier", true)], #[(0, "name"), (1, "path")]⟩,
  ⟨#[], #[(1, "parameters")]⟩,
  ⟨#[], #[(0, "name"), (1, "name")]⟩,
  ⟨#[], #[(0, "name"), (1, "type")]⟩,
  ⟨#[], #[(0, "type")]⟩,
  ⟨#[], #[(1, "name"), (2, "parameters")]⟩,
  ⟨#[], #[(1, "parameters"), (2, "result")]⟩,
  ⟨#[], #[(2, "body"), (1, "parameters")]⟩,
  ⟨#[], #[(2, "element")]⟩,
  ⟨#[(0, "type_identifier", true)], #[(0, "name"), (1, "type")]⟩,
  ⟨#[(0, "type_identifier", true)], #[(0, "type")]⟩,
  ⟨#[(0, "label_name", true)], #[(0, "label")]⟩,
  ⟨#[], #[(2, "value")]⟩,
  ⟨#[], #[(1, "condition"), (2, "consequence")]⟩,
  ⟨#[], #[(1, "right")]⟩,
  ⟨#[], #[(2, "body")]⟩,
  ⟨#[(0, "package_identifier", true), (2, "type_identifier", true)], #[(2, "name"), (0, "package")]⟩,
  ⟨#[], #[(0, "left"), (1, "operator"), (2, "right")]⟩,
  ⟨#[], #[(0, "left"), (2, "right")]⟩,
  ⟨#[(2, "field_identifier", true)], #[(2, "field"), (0, "operand")]⟩,
  ⟨#[], #[(0, "channel"), (2, "value")]⟩,
  ⟨#[], #[(2, "arguments"), (0, "function"), (1, "type_arguments")]⟩,
  ⟨#[], #[(0, "name"), (2, "value")]⟩,
  ⟨#[], #[(1, "name")]⟩,
  ⟨#[], #[(0, "name"), (2, "type")]⟩,
  ⟨#[], #[]⟩,
  ⟨#[], #[(1, "type")]⟩,
  ⟨#[], #[(1, "name"), (3, "parameters"), (2, "type_parameters")]⟩,
  ⟨#[], #[(1, "name"), (2, "parameters"), (3, "result")]⟩,
  ⟨#[], #[(3, "body"), (1, "name"), (2, "parameters")]⟩,
  ⟨#[(2, "field_identifier", true)], #[(2, "name"), (3, "parameters"), (1, "receiver")]⟩,
  ⟨#[], #[(3, "body"), (1, "parameters"), (2, "result")]⟩,
  ⟨#[], #[(3, "element")]⟩,
  ⟨#[], #[(3, "element"), (1, "length")]⟩,
  ⟨#[(0, "type_identifier", true)], #[(0, "name"), (2, "type")]⟩,
  ⟨#[(0, "type_identifier", true)], #[(0, "name"), (2, "type"), (1, "type_parameters")]⟩,
  ⟨#[(1, "type_identifier", true)], #[(1, "type")]⟩,
  ⟨#[(0, "field_identifier", true)], #[(0, "name"), (1, "type")]⟩,
  ⟨#[(0, "type_identifier", true)], #[(1, "tag"), (0, "type")]⟩,
  ⟨#[], #[(1, "tag"), (0, "type")]⟩,
  ⟨#[(0, "field_identifier", true)], #[(0, "name"), (1, "parameters")]⟩,
  ⟨#[], #[(2, "update")]⟩,
  ⟨#[], #[(1, "condition")]⟩,
  ⟨#[], #[(0, "initializer")]⟩,
  ⟨#[], #[]⟩,
  ⟨#[], #[(0, "right")]⟩,
  ⟨#[], #[(2, "operand"), (0, "type")]⟩,
  ⟨#[], #[(0, "operand")]⟩,
  ⟨#[], #[(2, "index"), (0, "operand")]⟩,
  ⟨#[], #[(0, "name"), (1, "type"), (3, "value")]⟩,
  ⟨#[], #[(0, "name"), (1, "name"), (3, "value")]⟩,
  ⟨#[], #[(0, "name"), (3, "value")]⟩,
  ⟨#[], #[(0, "name"), (2, "type")]⟩,
  ⟨#[(1, "type_constraint", true)], #[(0, "name"), (1, "type")]⟩,
  ⟨#[], #[(1, "name"), (3, "parameters"), (4, "result"), (2, "type_parameters")]⟩,
  ⟨#[], #[(4, "body"), (1, "name"), (3, "parameters"), (2, "type_parameters")]⟩,
  ⟨#[], #[(4, "body"), (1, "name"), (2, "parameters"), (3, "result")]⟩,
  ⟨#[(2, "field_identifier", true)], #[(2, "name"), (3, "parameters"), (1, "receiver"), (4, "result")]⟩,
  ⟨#[(2, "field_identifier", true)], #[(4, "body"), (2, "name"), (3, "parameters"), (1, "receiver")]⟩,
  ⟨#[(1, "type_identifier", true)], #[(2, "tag"), (1, "type")]⟩,
  ⟨#[], #[(2, "tag"), (1, "type")]⟩,
  ⟨#[(1, "field_identifier", true)], #[(1, "name")]⟩,
  ⟨#[(0, "field_identifier", true)], #[(0, "name"), (2, "tag"), (1, "type")]⟩,
  ⟨#[(0, "field_identifier", true)], #[(0, "name"), (2, "type")]⟩,
  ⟨#[(0, "field_identifier", true)], #[(0, "name"), (1, "parameters"), (2, "result")]⟩,
  ⟨#[], #[(2, "key"), (4, "value")]⟩,
  ⟨#[], #[(3, "condition"), (4, "consequence"), (1, "initializer")]⟩,
  ⟨#[], #[(4, "alternative"), (1, "condition"), (2, "consequence")]⟩,
  ⟨#[], #[(1, "condition"), (3, "update")]⟩,
  ⟨#[], #[(0, "left"), (3, "right")]⟩,
  ⟨#[], #[(0, "initializer"), (3, "update")]⟩,
  ⟨#[], #[(2, "condition"), (0, "initializer")]⟩,
  ⟨#[], #[(1, "initializer")]⟩,
  ⟨#[], #[(1, "communication")]⟩,
  ⟨#[], #[(0, "key"), (2, "value")]⟩,
  ⟨#[], #[(0, "operand"), (3, "type")]⟩,
  ⟨#[], #[(3, "end"), (0, "operand")]⟩,
  ⟨#[], #[(0, "operand"), (2, "start")]⟩,
  ⟨#[], #[(0, "name"), (1, "name"), (2, "type"), (4, "value")]⟩,
  ⟨#[], #[(0, "name"), (2, "type"), (4, "value")]⟩,
  ⟨#[(2, "type_constraint", true)], #[(0, "name"), (2, "type")]⟩,
  ⟨#[], #[(5, "body"), (1, "name"), (3, "parameters"), (4, "result"), (2, "type_parameters")]⟩,
  ⟨#[(2, "field_identifier", true)], #[(5, "body"), (2, "name"), (3, "parameters"), (1, "receiver"), (4, "result")]⟩,
  ⟨#[(0, "field_identifier", true)], #[(0, "name"), (3, "tag"), (2, "type")]⟩,
  ⟨#[], #[(2, "condition"), (0, "initializer"), (4, "update")]⟩,
  ⟨#[], #[(1, "initializer"), (3, "value")]⟩,
  ⟨#[], #[(0, "value")]⟩,
  ⟨#[], #[(4, "end"), (0, "operand"), (2, "start")]⟩,
  ⟨#[], #[(6, "alternative"), (3, "condition"), (4, "consequence"), (1, "initializer")]⟩,
  ⟨#[], #[(1, "type"), (2, "type")]⟩,
  ⟨#[], #[(5, "capacity"), (3, "end"), (0, "operand")]⟩,
  ⟨#[], #[(0, "alias"), (2, "value")]⟩,
  ⟨#[], #[(0, "initializer"), (2, "value")]⟩,
  ⟨#[], #[(6, "capacity"), (4, "end"), (0, "operand"), (2, "start")]⟩,
  ⟨#[], #[(2, "alias"), (0, "initializer"), (4, "value")]⟩
]

/-- The parse table, encoded as a sequence of numbers (see `Table.decode`). -/
def encodedTable : String :=
  "coUbwMBEBBBCc$AQABACABADABAEABAFABAGABAHABAIABAJABAKABALABAMABANABAOABAPABAQABARABASABATABAUABAVABAWABAXABAYABAZABA6ABA7ABA8ABA9ABA@ABA$ABAbAABAbBABAbCABAbDABAbEABAbFABAbGABAbHABAbIABAbJABAbKABAbLABAbMABAbNABAbOABAbPABCePBQABAdMABAdNABAdOABAdPABAdQABAdWABAdXABAdYABAdZABAd6ABAd7ABAd8ABAd9ABAd@ABAd$ABAeAABAeBABAeCABAeDABAeEABAeFABAeGABAeHABAeIABAeJABAeKABAeLABAfEABAfFABAfHABAfIABAfLABAfMABAfOABAfPABAfQABAfRABAfSABAfTABAfUABAfVABAfWABAf6ABAf7ABAf@ABAf$ABAgDABAgFABAgGABAgHABAgIABAgJABAgKABAgTABAgUABAgYABAgZABAg6ABAg9ABCe6BQABCe7BQABAg$ABCe8BQABAhAABAhBABCe@BQABAhCABAhDABAhEABAhFABAhGABAhHABAhIABAhJABAhKABAhLABAhMABAhNABAhOABAhPABAhQABAhRABAhSABAhTABAhUABAhVABAhWABAhXABAiTABAiUABAiVABAiWABAiXABAiYABAiZABAi6ABAi7ABAi8ABAi9ABAi@ABAi$ABAjAABAjBABAjCABAjDABAjEABAjFABAjGABAjHABAjIABAkJABAkKABAkRABAkWABCfNBQABAkXACCfNBQAAk$ACCd6BPBCfNBQADCd6BPBCfNBQAAlAABAlBABAlCABAlFABAlGABAlHABDBCc$BQABAlIABAlJABAlKABAlLABAlMABAlNABCeOBQABAlOABAlPABAlQABAlRABAlSABAlTABAlUABAlVABAlWABAlXABAlYABAlZABAl6ABAl7ABAl8ABAl9ABAl@ABAl$ABAmAABAmBABAmCABAmDABAmEABCd6BQACCd6BQAAlAABAmMABAmNABAmOABCeQBQABCeRBQABAmPABAmQABAmRABCdXBQABAmSABAmTABAmUABAmVABAmWABAmXABAmYABAmZABAm6ABAm7ABAm8ABAm9ABAm@ABAm$ABAnAABAnBABAnCABAnDABAnEABAnFABAnGABAnHABAnIABCdBCQCBCdEBQABAnVABCdCCQABCdDBQDBAn@ABAn$ABAoBABAoJABAoLABAoMABAoNABAoOABAoPABAoQABAoRABAoSABAoTABAo6ABAo7ABAo8ABAo9ABAo@ABAo$ABApAABApBABApCABApDABApEABApFABApGABApHABApIABApJABApKABApLABApMABApNABApOABApPABApQABApUABCdIBQEBApXABApYABApZABAp6ABAp7ABAp8ABAp9ABAp@ABAp$ABCdHCQABAqFABAqIABAqJABAqKABAqLABAqMABAqNABAqOABAqPABAqQABAqRABAqSABAqTABAqUABCdJCQABArDABArEABArFABArGABArLABArMABArPABArVABArWABArXABArYABArZABAr6ABAr7ABAr8ABAr9ABAr@ABAr$ABAsAABAsBABAsCABAsDABAsEABAsFABAsGABAsHABAsIABAsJABAsKABAsOABAsPABCdUCQABCd9CQABCf@CQFBAsUABAsVABAsWABCeBCQABAtAABAk$ABCd6BPBCCd6BPBAlAABCeCCQABCeMCQABAtBABAtCABAtDABAtEABAtFABCeNBQABAtHABAtIABCeKCQGBCe7CQHBCe8CQHBCe9CQHBAtXABAt$ABAuBABAuCABAuDABCe@CQABAuEABAuFABAuGABAuHABAuOABAuPABAuQABAuRABAuSABAuTABAuUABAuVABAuWABAuXABAuYABAuZABAu6ABAu7ABAu8ABAu9ABAu@ABAu$ABAvAABAvBABAvCABAvDABAvEABCe$CQABCfACQABAvNABAvWABAvXABAvYABAvZABAv6ABAv7ABAv8ABAv9ABAv@ABAv$ABAwAABAwBABAwCABAwDABAwEABAwFABAwGABAwHABAwIABAwJABAwKABAwRABAwSABAwTABAwUABAwVABAwWABAwXABAwYABAwZABAw6ABAw7ABAw8ABAw9ABAw@ABAw$ABAxAABAxBABAxCABAxDABAxEABAxFABAxGABAxHABAxIABAxJABAxKABAxPABAxRABAxSABAxTABAxUABAxVABAxWABAxXABAxYABAx6ABAx7ABCfCCQIBAx8ABAyAABAyBABAyCABAyEABAyFABAyGABAyHABAyIABAyJABAyKABAyMABCfPCQJBAyPABAyTABAyUABCd7CRKBCfZCQLBAy6ABAy7ABAy8ABCgGCQABCgHCQABCfZCQMBCd7CRNBAzQABAzRABAzSABAzVABAzWABAzXABAzYABAzZABAz6ABAz7ABAz8ABAz9ABAz@ABAz$ABA0AABA0BABA0CABA0DABA0EABA0FABA0GABA0HABA0IABA0JABA0KABA1DABA1EABA1FABCeUCQABCeVCQABCdXCQABCc$CQACCgHCQAACBCCgHCQAADBCCgHCQAAEBCCgHCQAAFBCCgHCQAAGBCCgHCQAAHBCCgHCQAAIBCCgHCQAAJBCCgHCQAAKBCCgHCQAALBCCgHCQAAMBCCgHCQAANBCCgHCQAAOBCCgHCQAAPBCCgHCQAAQBCCgHCQAARBCCgHCQAASBCCgHCQAATBCCgHCQAAUBCCgHCQAAVBCCgHCQAAWBCCgHCQAAXBCCgHCQAAYBCCgHCQAAZBCCgHCQAA6BCCgHCQAA7BCCgHCQAA8BCCgHCQAA9BCCgHCQAA@BCCgHCQAA$BCCgHCQAAbABCCgHCQAAbBBCCgHCQAAbCBCCgHCQAAbDBCCgHCQAAbEBCCgHCQAAbFBCCgHCQAAbGBCCgHCQAAbHBCCgHCQAAbIBCCgHCQAAbJBCCgHCQAAbKBCCgHCQAAbLBCCgHCQAAbMBCCgHCQAAbNBCCgHCQAAbOBCCgHCQAAbPBBCdDCQOBCdFCQABA2DABA2EABA2FABA2GABCdDCQPBA2IABCeLCQQBA2JABA2NABA2QABA2RABA2UABA2VABCdZDQABA28ABA29ABA2@ABCfODQABA3BABCdHDQABA3XABA3YABA3ZABA36ABA38ABA3$ABA4BABA4CABA4DABAlAABA4EABA4FABCdICQRBA4GABCdLCQABA4KABA4LABA4MABA4NABA4RABA4UABA4YABA46ABA47ABA48ABA49ABA4@ABA4$ABA5AABA5FABA5GABA5HABA5KABA5LABA5MABCdKCQSBA5OABA5PABA5SABCdQCQABA5WACCd6BPBAqJABA5ZABA56ABA5@ABA5$ABAbaBABAbaCABCdRBQTBAbaEABAbaFABAbaIABCdMDQUBCeLDQVBCf9DQWBCeADQXBCdUDQABAbbBABAbbCABAbbDABAbbEABAbbFABAbbGABAbbHABAbbLABCdVCQYBAbbOABCeDCQABCeEBQZBAbbRABAbbSABCeEBQTBAbb6ABAbb7ABAbb8ABAbb9ABCeZCQ6BCeMDQABCeNCQABAbcLABAbcMABAbcNABCeFDQABCeIBQABAbcQABAbcTABAbcUABAbcVABAbcWABAbcYABAbcZABAbc6ABAbc7ABAbc9ABAbc@ABCeKDQ7BAbc$ABAbdAABAbdEABAbdHABAbdIABAbdLABAbdMABAbdTABAbdUABAbdVABAbdZABAbeQABAbeRABAbeVABAbeYABAbeZABAbfOABAbfPABAbfTABAbfUABAbfVABAbfYABCfBDQ8BAbgPABCfDCQABAbgTABAb" ++
  "gUABCfECQ9BAbgVABAbgWABAbgXABAbgYABAbgZABAbg6ABAbg7ABAbg8ABAbg9ABAbg@ABAbg$ABAbhAABAbhBABAbhCABAbhDABAbhEABAbhFABAbhGABAbhHABAbhIABAbhJABCfCDQ@BCfFDQABAbhMABAbhNABAbhQABAbhTABAbhUABAbhWABAbhXABCfLDQABAbhZABAbh6ABAbh7ABAbh8ABAbh9ABAbh@ABAbh$ABAbiAABAbiBABAbiCABAbiDABAbiEABAbiFABAbiGABAbiHABAbiIABAbiJABAbiKABAbiLABAbiMABAbiNABAbiOABAbjKABCfRCQABAbjMABAbjNABAbjPABAbjQABCgADQ$BAbjSABAbjVABAbjWABAbjYABCf6CQABCf7BQABAbjZABAbj6ABAbj7ABAbj9ABAbj@ABCeYDQ6BCgFDQACCg@CQAAy7BBCg@CQABCgGDQABCeWDQbABCeXDQbBBAbkAABAbkBABAbkCABAbkDABAbkFABAbkGABAbkIABAbkJABAbkKABAbkLABAbkNABAbkOABCfTDQbCBCfSCQABAbkSABAbkTABAbkUABAbkWABAbkXABAbk9ABAblFABAblHABAblIABAblJABAblKABAblLABAblMABAblNABAblUABAblVABCgRCQABAblWABAblXABAblYABAblZABAbl6ABAbl7ABAbl8ABAbl9ABAbl@ABAbl$ABAbmAABAbmBABAbmCABAbmDABAbmEABAbmFABAbmGABAbmHABAbmIABAbmJABAbmNABAbmPABAbmQABCf$DQbABCeSDQbDBCfPDQbECCgRCQAAmRBBAbmRABAbmTABAbmVABCdFDQABAbmXABAbmYABAbmZABAbm6ABAbm8ABAbnAABAbnBABAbnDABAbnEABAbnGABAbnHABAbnIABAbnKABAbnLABAbnNABAbnOABAbnPABAbnQABAbnSABAbnTABAbnVABAbnWABAbnXABAbnYABAbn6ABAbn7ABAbn$ABAboAABAboCABAboDABAboFABAboHABAboIABCgJCQABCdHEQACCgJCQAAfFBBCgKCQABCdIDQbFBAboJABAboMABAboQABAboRACCgKCQAApXBBCgMCQABCdLDQACCgMCQAAfIBBAboSABAboTABCgLCQbGBCdKDQbFBAboYABAboZABAbo8ABAbo@ABAbo$ABAbpAACCd6BPBA5MACCd6BQAA5MABAbpBABAbpGABAbpLABCdKDQbHBAbpQABAbpRABCgLCQbICCgLCQbIAqJBBCdQDQABCdSCQbJBCdRCQSBAbpWABAbpZABAbp6ABAbp8ABAbp9ABAbp@ABAbp$ABAbqAABAbqBABAbqDABAbqEABAbqIABAbqJABCdMEQbKBCdMEQbLBCdMEQbMBCdNEQbNBCf9EQbOBCd$EQbPBCd@EQbQBCgPCQABCdUEQACCgPCQAAf7BBCdTDQbRDCd6BPBCfNBQAAgFADCd6BPBCfNBQAA5ZACCfNBQAAp7ABCdVDQbSBCeECQbTBCeECQbJBAbqZABCeECQbUBCeECQbVBCeECQbWBAbrBABAbrDABAbrFABCeDDQABAbrHABAbrIABAbrJABAbrKABCgXCQABCeNDQACCgXCQAAbrPBCCgXCQAAbrQBCCgXCQAAbrRBBCeHCQbXBCeICQABAbrXABAbr6ABAbr9ABCeFEQABAbsAABAbsBABAbsCABAbsDABAbsFABAbsGABAbsHABAbsIABAbsJABAbsKABAbsLABAbsQABAbsUABAbsVABAbsXABAbsYABAbs6ABAbs7ABAbs8ABAbs@ABAbs$ABAbtBABAbtCABAbtDABAbtEABAbtGABAbtHABAbtJABAbtKABAbtLABAbtMABAbtOABAbtPABAbtTABAbtUABAbtWABAbtXABAbtZABAbt7ABAbt8ACCgRCQAAuQBBAbt9ABAbuBABAbuCABAbuEABAbuFABAbuHABAbuJABAbuKABAbuLABAbuMABAbuOABAbuPABAbuRABAbuSABAbuTABAbuUABAbuWABAbuXABAbuZABAbu6ABAbu7ABAbu9ABAbu@ABAbvDABAbvEABAbvGABAbvHABAbvJABAbvLABAbvMABAbvPABAbvQABAbvRABAbvSABAbvTABAbvUABAbvVABAbvWABAbvXABAbvYABAbvZABAbv6ABAbv7ABCfDDQbYBAbv8ABCfDDQbZBCfDDQb6BAbwNABAbwOABCfHCQABCfFEQABCgYCQACCgYCQAAyBBCCgYCQAAyCBBAbwQABAbwRABAbwTABAbwUABAbwVABCfIEQb7BAbwYABAbw6ABCfFEQGBAbw7ABAbxAABAbxIABAbxKABAbxLABAbxMABAbxNABAbxOABAbxPABAbxQABAbxRABAbxSABAbxZABAbx6ABAbx7ABAbx8ABAbx9ABAbx@ABAbx$ABCeTBQb8BAbyAABAbyBABAbyCABAbyDABAbyEABAbyFABAbyGABAbyHABAbyIABAbyJABAbyKABAbyLABAbyMABAbyNABAbyOABAbyPABAbyQABCfLEQABCg7CQACCg7CQAAyKBCCg7CQAAyCBBCfRDQABAbyUABAbyWABAbyXABAbyZABAby6ABAby7ABAby$ABCd8DSABAbzBABAbzCABCf6DQABAbzEABAbzIABAbzJABAbzLABAbzMABAbzNABCfXEPb9BAbzOABAbzPABCfYEPTBAbzSABAbzTABAbzVABAbzWABAbzXABAbzYABAbzZABAbz6ABAbz7ABAbz8ABAbz9ABAbz@ABAbz$ABAb0AABCfSDQABAb0BABCfQCQABAb0EABAb0FABAb0HABAb0IABAb0JABAb0KABAb0LABAb0PABAb0SABAb0TABAb0WABAb0XABAb0@ABAb0$ABAb1AABAb1DABCfVEQb@BAb1ZABAb16ABCfUEQb$BAb17ABCdFEQABCgICQABAb19ABAb1@ABAb1$ACCgICQAAb2ABCCgICQAAb2BBCCgICQAAb2CBBAb2DABAb2EABAb2FABAb2GABAb2HABAb2IABAb2JABAb2KABAb2LABAb2MABAb2NABAb2OABAb2PABAb2QABAb2RABAb2SABAb2TABAb2UABAb2VABAb2WABAb2XABAb2YABAb2ZABAb26ABAb27ABAb28ABAb29ABAb2@ABAb2$ABAb3AABAb3BABAb3CABAb3DABAb3EABAb3FABAb3GABAb3HABAb3IABAb3KABAb3LABCdIEQcABCdIEQcBBAb3QABAb3RABAb3SABAb3TABAb3VABAb3YABAb3ZABAb36ABAb37ABAb38ABAb3@ABAb3$ABAb4AABAb4BABAb4DABAb4EABAb4HABAb4IABCdKEQcABCdKEQcCBCdSDQcDBCdRDQbHBCdQEQABCgOCQABAb4MACCgOCQAAb4NBBAb4OABAb4PABAb4QABAb4RABAb4SABAb4TABAb4UABCdPCQcEBAb4WABCdODQABAb4YABAb4ZABCdMFQcFBCdMFQcGBCdMFQcHBCdNFQcIBCdNFQcJBCeEDQcKBCeEDQcLBCgUCQcMBCeEDQcNBCeEDQcOBCgUCQbICCgUCQbIAbbRBBCeDEQABCgTCQABAb5DABAb5EABAb5FACCgTCQAAb5GBCCgTCQAAb5HBCCgTCQAAb5IBBCeNEQABCeHDQcPBCgWCQACCgWCQAAbcQBBCeFFQABCgVCQABAb5JABAb5KABAb5LACCgVCQAAb5MBCCgVCQAAb5NBCCgVCQAAb5OBBAb5PABAb5QABAb5RABCeJFQcQBAb5SABAb5TABAb5UABAb5VABAb5WABAb5XABAb5YABAb5ZABAb56ABAb57ABAb58ABAb59ABAb5@ABAb5$ABAcaAABAca" ++
  "BABAcaCABAcaDABAcaEABAcaFABAcaGABAcaHABAcaIABAcaJABAcaKABAcaLABAcaMABAcaNABAcaOABAcaPABAcaQABAcaRABAcaSABAcaTABAcaUABAcaVABAcaWABAcaXABAcaZABAca6ABAca7ABAca8ABAca9ABAca@ABAca$ABAcbCABAcbDABAcbEABAcbFABAcbGABAcbHABAcbIABAcbJABAcbKABAcbLABAcbMABAcbNABAcbOABAcbPABAcbQABAcbRABAcbSABAcbTABAcbUABAcbVABCfBFQcRBAcbWABAcbXABAcbYABAcbZABAcb6ABAcb7ABAcb8ABAcb9ABAcb@ABAcb$ABAccAABAccBABCfBFQcSBCfDEQcTBCfEEQcUBCfDEQcVBCfDEQcWBCfGDQGBCfHDQABAccHABCfFFQcXBAccIABAccKABAccLABAccNABAccOABAccQABCfIFQb7BCgZCQACCgZCQAAbhUBCCgZCQAAyCBBAccSABCfFFQGBAccTABAccUABAccYABAcc7ABAcc8ABAcc$ABAcdAABCfMDQcYBAcdLABAcdMABAcdNABAcdQABCfREQABAceGACCgRCQAAceHBBAceIACCgWCQAAbjSBBCd8ESABCgSCQABAceJACCgSCQAAceKBBCf6EQABCg9CQABCf8DQcZBAceLACCg9CQAAceMBBAceNABCfXFPb9BCfYFPTBCg6CQABAceOACCg6CQAAccNBBAcePABAceQABAceRABCfWFQc6BCfSEQABCg8CQABAceSACCg8CQAAceTBBAceUABAceVABAceZABAce6ABAce8ABAce9ABAce$ABAcfAABAcfBABAcfDABAcfEABAcfGABAcfHABAcfIABAcfJABAcfLABAcfMABAcfOABAcfPABAcfQABAcfRABAcfTABAcfUABAcfYABAcfZABAcf7ABAcf8ABAcf@ABAcgAABAcgBABCfVFQc7BCfVFQc8BAcgDABAcgEABCdFFQABAcgFABAcgGABAcgHABAcgIABAcgJABAcgKABAcgLABAcgMABAcgNABAcgOABAcgQABAcgRABCdIFQc9BAcgSABAcgTABAcgUABAcgVABAcgWABAcgXABAcgYABAcgZABAcg6ABAcg7ABAcg8ABAcg9ABAcg@ABAcg$ABAchAABAchBABAchCABAchDABAchEABAchFABAchGABAchHABAchIABAchNABAchOABAchPABCdKFQc@BCdQFQABAchQABAchRABCdPDQc$BCdOEQABCgNCQABAchSACCgNCQAAchTBBCdMGQdABCdNGQdBBCeEEQdCBCeDFQABCeFGQABAchUABAchVABAchWABAchXABAchYABAchZABAch6ABAch7ABAch8ABAch9ABAch$ABAciAABAciBABAciCACCgRCQAAbuHBBAciDABAciEABAciFABAciGABAciHABAciIABAciLABAciMABAciOABAciPABAciQABCfDFQdDBCfGEQGBAciSABCfFGQcXBAciTABAciUABCfFGQdEBAciVABCfKDQbJBAciXABAciZABCfJFQdFBAci6ABAci@ABAci$ABAcjBABAcjCABAcjEABAcjFABAcjGABAcjIABAcjJABCeTDQbBBAcjLABAcjMABAcjNABAcjOABAcjQABAcjRABAcjTABAcjUABAcjVABAcjWABAcjYABAcjZABCfMEQcYBAcj9ABAcj@ABAckAABAckBABAckDABAckFABAckGABCfRFQABCd8FSABCf6FQABCfYGPTBCfSFQABAckHABAckIABAckJABAckKABAckLABAckMABAckNABAckOABAckPABAckQABAckRABAckSABAckTABAckUABAckVABAckWABAckXABAckYABAckZABAck6ABAck7ABAck8ABAck9ABAck@ABAck$ABAclAABAclBABAclCABAclDABAclEABAclFABAclGABAclHABAclIABAclJABAclKABAclLABAclMABAclOABCfVGQdGBAclQABAclSABAclTABAclUABAclVABAclWABAclXABAclYABAclZABAcl6ABAcl7ABCdOFQABAcl8ABCfBHQdHBAcl@ABAcmCABAcmDABAcmEABCfFHQdEBCfKEQbJBCfKEQdIBAcmHABAcmIABAcmJABAcmKABAcmLABAcmMABAcmNABAcmOABAcmPABAcmQABAcmRABAcmSABAcmTABAcmUABAcmVABAcmWABAcmXABAcmYABAcmZABAcm6ABAcm7ABAcm8ABAcm9ABAcm@ABAcm$ABAcnAABAcnBABAcnCABAcnDABAcnEABAcnFABAcnGABAcnHABAcnIABAcnJABAcnKABAcnLABAcnMABAcnOABAcnPABAcnQABAcnRABAcnSABAcnTABAcnUABAcnVABAcnWABAcnXABAcnZABAcn6ABCfVHQdJBAcn7ABAcn8ABAcn9ABAcn@ACCgRCQAAciQBBCfJHQdKBAcn$ABCfJHQdLBCfKFQdIBAcoAABAcoBABAcoCABAcoDABAcoEABAcoFABAcoGABAcoHABAcoIABAcoJABAcoLABAcoMABAcoNABCfVIQdMBAcoPABAcoQABAcoSABCfJJQdNBAcoTACAc7ACBBBBBBBBBBBBBBBBBBBBBBBBBBBBBBBBBBBBBBBBBBBBBBBBBBBBBBBBBBBBBBBBBBBBBBBBBBBBBBCCBBBBBBBBBBBc@AbQCBADBCEBEFBFGBIHBKIBNJBOKBPLBSMBTNBUOBVPBWQBYRB6SB7TB8UBbMVBbNWBbOXBbPYBbQZBbR6BbS7BbT8BbV9BbX@Bb6$Bb7bABb8bBBb9bCBb@bDBb$bEBcAbFBcBbGBcPbHBcQbIBcSbJBcWbKBcXbLBcYbMBcZbNBc6bOBc7bPBc8bQBc9BBc@b$c$bQdBbRdCbSdGbTdHbTdJbTdMbUdNbVdUbTdXbWdZbXd6bYd7bZd9b6d@b7d$b8eAb9eBb@eCb$eFcAeJcBeKcCeLcDeMcEeOcFePcGeQcHeRcIeScJeUcKeVcLeWcMeXcNeYcOe6cPe7cQe8cRe9cSe@cTe$cUfAcVfBcWfCcXfFcYfIcZfLc6fNc7fOc8fPc9fTc@fUc$fVdAfWdBfXdCfYdDfZdEf9dFf@dGf$dHgAdIgFdJgGdKgHdLCbRGBBBUbBBBBc@ACbSBcPBBc@AHbTBGbUBHbVBIbWBcPbHBcQbIBcSBBc@FdDdRdEdSdFdTgFdUgGdV9bXBIbYBOKBPbZBTNBUOBVQBYRB6SB7b6B8b7Bb7b8Bb8b9Bb9b@Bb@b$Bb$cABcAcBBcBcCBcPcDBcQcEBcScFBcWcGBcXcHBcYcIBcZcJBc6cKBc7cLBc8cMBc9BBc@9dZeMd6eNd7eOd9b6d@ePd$eQeAeReBeSeCb$eFcAeJeTeKcCeLcDfNeUfOeVfPeWfTeXfUeYfVeZfWe6fXe7fYe8fZe9f9e@f@e$f$fAgAfBgFfCgGfDDcNBIcOBcPBBc@BdIfGDcPBIcQBcPBBc@CdKfJdLfKDcRBIcSBcPBBc@BdQfN$bXBIbYBOKBPcTBQcUBRcVBTNBUOBVQBYRB6SB7cWB8b7Bb7b8Bb8cXBb9cYBb@cZBb$c6BcAc7BcBcCBcPcDBcQcEBcScFBcWcGBcXcHBcYcIBcZcJBc6cKBc7cLBc8cMBc9BBc@9dZfXd6fYd7eOd9b6d@ePd$eQeAeReBeSeCb$eFcAeJeTeKcCeLcDfNfZfOeVfPeWfTeXfUeYfVeZfWe6fXe7fYe8fZe9f9e@f@e$f$fAgAfBgFfCgGfDDc8BIc9BcPBBc@CdTf8dVf99GBIc@BOKBPMBTNBUOBVQBYRB6SB7TB8$Bb7bABb8bBBb9bCBb@bDBb$bEBcAbFBcBc$Bc" ++
  "PbHBcQbIBcSbJBcWbKBcXbLBcYbMBcZbNBc6bOBc7bPBc8bQBc9BBc@9dZgAd6gBd7bZd9b6d@b7d$b8eAb9eBb@eCb$eFcAeJcBeKcCeLcDfNgCfOc8fPc9fTc@fUc$fVdAfWdBfXdCfYdDfZdEf9dFf@dGf$dHgAdIgFdJgGdKCdABWBBc@BeDgEMdBBIdCBOdDBPdEBTNBUOBVQBYRB6SB7dFB8dGBcPBBc@NdZgLd6gMd7gNd9b6d@gOeAgPeBgQeCb$eFcAeJgReKcCeLcDgAgSbODBCGBIHBKIBNc@BOKBPLBSMBTNBUOBVPBWdHBXQBYRB6SB7TB8UBbMVBbNWBbOXBbPYBbQZBbR6BbS7BbT8BbV9BbX@Bb6$Bb7bABb8bBBb9bCBb@bDBb$bEBcAbFBcBdIBcPbHBcQbIBcSbJBcWbKBcXbLBcYbMBcZbNBc6bOBc7bPBc8bQBc9BBc@b7dGbTdHbTdJbTdUbTdXbWdZbXd6bYd7bZd9b6d@b7d$b8eAb9eBb@eCb$eFcAeJcBeKcCeLcDeMcEeNgVeOgWePcGeQcHeRcIeScJeUcKeVcLeWcMeXcNeYcOeZgXe6cPe7cQe8cRe9cSe@cTe$cUfAcVfBcWfCcXfFcYfIcZfLc6fNc7fOc8fPc9fTc@fUc$fVdAfWdBfXdCfYdDfZdEf9dFf@dGf$dHgAdIgFdJgGdKCdJBWBBc@ACdKBPBBc@AMdBBIdCBOdDBPdEBTNBUOBVQBYRB6SB7dLB8dGBcPBBc@NdZg7d6g8d7gNd9b6d@gOeAgPeBgQeCb$eFcAeJgReKcCeLcDgAgS9GBIc@BOKBPMBTNBUOBVQBYRB6dMB7TB8$Bb7bABb8bBBb9bCBb@bDBb$bEBcAbFBcBc$BcPbHBcQbIBcSbJBcWbKBcXbLBcYbMBcZbNBc6bOBc7bPBc8bQBc9BBc@9dZbXd6bYd7bZd9b6d@b7d$b8eAb9eBb@eCb$eFcAeJcBeKcCeLcDfNg@fOc8fPc9fTc@fUc$fVdAfWdBfXdCfYdDfZdEf9dFf@dGf$dHgAdIgFdJgGdKCdNGBBBUbBBBBc@ADdOGBBBUbBBdPBcPBBc@ADdQGBBBUbBBdRBcPBBc@ACdSBcPBBc@A@dTGBBBUbBBdUBIdVBOKBPdWBTNBUOBVQBYRB6SB7dXB8dYBb7dZBb8d6Bb9d7Bb@d8Bb$d9BcAd@BcBd$BcPeABcQeBBcSeCBcWeDBcXeEBcYeFBcZeGBc6eHBc7eIBc8eJBc9BBc@@dXhYdZhZd6h6d7h7d9b6d@h8d$h9eAh@eBh$eCb$eFcAeJiAeKcCeLcDfNiBfOiCfPiDfTiEfUiFfViGfWiHfXiIfYiJfZiKf9iLf@iMf$iNgAiOgFiPgGiQ9dUBIdVBOKBPdWBTNBUOBVQBYRB6SB7dXB8dYBb7dZBb8d6Bb9d7Bb@d8Bb$d9BcAd@BcBd$BcPeABcQeBBcSeCBcWeDBcXeEBcYeFBcZeGBc6eHBc7eIBc8eJBc9BBc@9dZhZd6h6d7h7d9b6d@h8d$h9eAh@eBh$eCb$eFcAeJiAeKcCeLcDfNiRfOiCfPiDfTiEfUiFfViGfWiHfXiIfYiJfZiKf9iLf@iMf$iNgAiOgFiPgGiQ9dUBIdVBOKBPdWBTNBUOBVQBYRB6SB7dXB8dYBb7dZBb8d6Bb9d7Bb@d8Bb$d9BcAd@BcBd$BcPeABcQeBBcSeCBcWeDBcXeEBcYeFBcZeGBc6eHBc7eIBc8eJBc9BBc@9dZhZd6h6d7h7d9b6d@h8d$h9eAh@eBh$eCb$eFcAeJiAeKcCeLcDfNiSfOiCfPiDfTiEfUiFfViGfWiHfXiIfYiJfZiKf9iLf@iMf$iNgAiOgFiPgGiQ9eKBIeLBOKBPeMBTNBUOBVQBYRB6SB7eNB8eOBb7ePBb8eQBb9eRBb@eSBb$eTBcAeUBcBeVBcPeWBcQeXBcSeYBcWeZBcXe6BcYe7BcZe8Bc6e9Bc7e@Bc8e$Bc9BBc@bFdXjJdZjKd6jLd7jMd9b6d@jNd$jOeAjPeBjQeCb$eFcAeJjReKcCeLcDeQjSeRjTeSjUeUjVeVjWeWjXeXjYfNjZfOj6fPj7fTj8fUj9fVj@fWj$fXkAfYkBfZkCf9kDf@kEf$kFgAkGgFkHgGkIbAfABCeKBIeLBOKBPeMBTNBUOBVPBWQBYRB6SB7eNB8fBBbWeOBb7ePBb8eQBb9eRBb@eSBb$eTBcAeUBcBeVBcPeWBcQeXBcSeYBcWeZBcXe6BcYe7BcZe8Bc6e9Bc7e@Bc8e$Bc9BBc@bIdXkLdZjKd6jLd7jMd9b6d@jNd$jOeAjPeBjQeCb$eFcAeJjReKcCeLcDeMkMeQkNeRjTeSjUeUjVeVjWeWjXeXjYfDkOfEkPfNkQfOj6fPj7fTj8fUj9fVj@fWj$fXkAfYkBfZkCf9kDf@kEf$kFgAkGgFkHgGkI@eKBIeLBOKBPeMBTNBUOBVfCBWQBYRB6SB7eNB8eOBb7ePBb8eQBb9eRBb@eSBb$eTBcAeUBcBeVBcPeWBcQeXBcSeYBcWeZBcXe6BcYe7BcZe8Bc6e9Bc7e@Bc8e$Bc9BBc@bGdXkSdZjKd6jLd7jMd9b6d@jNd$jOeAjPeBjQeCb$eFcAeJjReKcCeLcDeQkTeRjTeSjUeUjVeVjWeWjXeXjYfJkUfNkVfOj6fPj7fTj8fUj9fVj@fWj$fXkAfYkBfZkCf9kDf@kEf$kFgAkGgFkHgGkICfDBWBBc@ADfEbMBBBDFBDEECDBBBBBBBBBBBBBBOBEBCBBBBBBBBBBBBBBfFBIBBc@BfRkYDfEbMBBBDFBDEECDBBBBBBBBBBBBBBOBEBCBBBBBBBBBBBBBBfFBIBBc@BfRkZ9GBIc@BOKBPMBTNBUOBVQBYRB6SB7TB8$Bb7bABb8bBBb9bCBb@bDBb$bEBcAbFBcBc$BcPbHBcQbIBcSbJBcWbKBcXbLBcYbMBcZbNBc6bOBc7bPBc8bQBc9BBc@9dZbXd6bYd7bZd9b6d@b7d$b8eAb9eBb@eCb$eFcAeJcBeKcCeLcDfNk6fOc8fPc9fTc@fUc$fVdAfWdBfXdCfYdDfZdEf9dFf@dGf$dHgAdIgFdJgGdK9GBIc@BOKBPMBTNBUOBVQBYRB6SB7TB8$Bb7bABb8bBBb9bCBb@bDBb$bEBcAbFBcBc$BcPbHBcQbIBcSbJBcWbKBcXbLBcYbMBcZbNBc6bOBc7bPBc8bQBc9BBc@9dZbXd6bYd7bZd9b6d@b7d$b8eAb9eBb@eCb$eFcAeJcBeKcCeLcDfNk7fOc8fPc9fTc@fUc$fVdAfWdBfXdCfYdDfZdEf9dFf@dGf$dHgAdIgFdJgGdK9GBIc@BOKBPMBTNBUOBVQBYRB6SB7TB8$Bb7bABb8bBBb9bCBb@bDBb$bEBcAbFBcBc$BcPbHBcQbIBcSbJBcWbKBcXbLBcYbMBcZbNBc6bOBc7bPBc8bQBc9BBc@9dZbXd6bYd7bZd9b6d@b7d$b8eAb9eBb@eCb$eFcAeJcBeKcCeLcDfNk8fOc8fPc9fTc@fUc$fVdAfWdBfXdCfYdDfZdEf9dFf@dGf$dHgAdIgFdJgGdK9GBIc@BOKBPMBTNBUOBVQBYRB6SB7TB8$Bb7bABb8bBBb9bCBb@bDBb$bEBcAbFBcBc$BcPbHBcQbIBcSbJBcWbKBcXbLBcYbMBcZbNBc6bOBc7bPBc8bQBc9BBc@9dZbXd6bYd7bZd9b6d@b7d$b8eAb9eBb@eCb$eFcAeJcBeKcCeLcDfNk9fOc8fPc9fTc@fUc$fVdAfWdBfXdCfYdDfZdEf9dFf@dGf$dHgAdIgFdJgGdK9GBIc@BOKBPMBTNBUOBVQBYRB6SB7TB8$Bb7bABb8bBBb9bCBb@bDBb$bEBcAbFBcBc$BcPbHBcQbIBcSbJBcWbKBcXbLBcYbMBcZbNBc6bOBc7bPBc8bQBc9BBc@9dZbXd6bYd" ++
  "7bZd9b6d@b7d$b8eAb9eBb@eCb$eFcAeJcBeKcCeLcDfNk@fOc8fPc9fTc@fUc$fVdAfWdBfXdCfYdDfZdEf9dFf@dGf$dHgAdIgFdJgGdKHfEbKBBBIBHECDBBBBBBBBBBBBBBOBEBCBBBBBBBBBBBBBBfGBGfHBIfIBPfJBWfKBbLBBc@Cd8lDf6lECfLBcRBBc@ADfMCcTCfNBcUBBc@Bg@lGCfEbNBBBDCDBDEECDBBBBBBBBBBBBBBOBEBCBBBBBBBBBBBBBBBBc@ACfEbNBBBDCDBDEECDBBBBBBBBBBBBBBOBEBCBBBBBBBBBBBBBBBBc@ACfEbNBBBDCDBDEECDBBBBBBBBBBBBBBOBEBCBBBBBBBBBBBBBBBBc@ACfEbNBBBDCDBDEECDBBBBBBBBBBBBBBOBEBCBBBBBBBBBBBBBBBBc@ACfEbNBBBDCDBDEECDBBBBBBBBBBBBBBOBEBCBBBBBBBBBBBBBBBBc@ACfEbNBBBDCDBDEECDBBBBBBBBBBBBBBOBEBCBBBBBBBBBBBBBBBBc@ACfEbNBBBDCDBDEECDBBBBBBBBBBBBBBOBEBCBBBBBBBBBBBBBBBBc@ACfEbNBBBDCDBDEECDBBBBBBBBBBBBBBOBEBCBBBBBBBBBBBBBBBBc@ACfOBABBc@AFfPBAfQBBfRBCfSBDBBc@AFfPBAfTBBfUBCfVBDBBc@ACfWGBBBUbBBBBc@AFfPBAfXBBfYBCfZBDBBc@AFfPBAf6BBf7BCf8BDBBc@AOf9BMf@B9f$BbAgABbBgBBbCgCBbDgDBbEgEBbFgFBbGgGBbHgHBbIgIBbJgJBbKBBc@ADgKBIgLBPBBc@ADgMBIgNBPBBc@ADgOCIHfJBWBBc@Bf6mFCgOJIBCBDBGDSBBc@ADgOCIHfJBWBBc@Bf6mGCfJBWBBc@Bf6mHDgOCIHfJBWBBc@Bf6mIDgOCIHfJBWBBc@Bf6mJDgOIIBCBEGDSgPBPBBc@Bd8mKCgOJIBCBDBGDSBBc@ADgOCIHfJBWBBc@Bf6mLCgOJIBCBDBGDSBBc@ACgOJIBCBDBGDSBBc@ACfWGBBBUbBBBBc@AEgQBBgRBCgSBDBBc@ACfWGBBBUbBBBBc@ACfWGBBBUbBBBBc@ACgTGBBBUbBBBBc@ACgTGBBBUbBBBBc@ACgTGBBBUbBBBBc@ACgTGBBBUbBBBBc@ACgTGBBBUbBBBBc@ACgTGBBBUbBBBBc@ACfWGBBBUbBBBBc@ACfWGBBBUbBBBBc@ACfWGBBBUbBBBBc@ACfWGBBBUbBBBBc@ACfWGBBBUbBBBBc@ACfWGBBBUbBBBBc@ACfWGBBBUbBBBBc@ACfWGBBBUbBBBBc@ACfWGBBBUbBBBBc@ACfWGBBBUbBBBBc@ACfWGBBBUbBBBBc@ACfWGBBBUbBBBBc@ACfWGBBBUbBBBBc@A9gUGBBBUbBBgVBGgWBIgXBLgYNMRDBBBBBBBBBBgZBPg6BTg7BZg8B8g9B@g@B$g$Bb9hABb@hBBcAhCBcBhDBcChEBcDhFBcEhGBcFhHBcGhIBcHhJBcIhKBcJhLBcKhMBcLhNBcMhOBcNhPBcOBBc@Dd8nJfSnKgRnLCfEbNBBBDCDBDEECDBBBBBBBBBBBBBBOBEBCBBBBBBBBBBBBBBBBc@ACfEbNBBBDCDBDEECDBBBBBBBBBBBBBBOBEBCBBBBBBBBBBBBBBBBc@ACfEbNBBBDCDBDEECDBBBBBBBBBBBBBBOBEBCBBBBBBBBBBBBBBBBc@ACfEbNBBBDCDBDEECDBBBBBBBBBBBBBBOBEBCBBBBBBBBBBBBBBBBc@ACfEbNBBBDCDBDEECDBBBBBBBBBBBBBBOBEBCBBBBBBBBBBBBBBBBc@ACfEbNBBBDCDBDEECDBBBBBBBBBBBBBBOBEBCBBBBBBBBBBBBBBBBc@ACfEbNBBBDCDBDEECDBBBBBBBBBBBBBBOBEBCBBBBBBBBBBBBBBBBc@ACfEbNBBBDCDBDEECDBBBBBBBBBBBBBBOBEBCBBBBBBBBBBBBBBBBc@ACfEbNBBBDCDBDEECDBBBBBBBBBBBBBBOBEBCBBBBBBBBBBBBBBBBc@ACfEbNBBBDCDBDEECDBBBBBBBBBBBBBBOBEBCBBBBBBBBBBBBBBBBc@ACfEbNBBBDCDBDEECDBBBBBBBBBBBBBBOBEBCBBBBBBBBBBBBBBBBc@ACfEbNBBBDCDBDEECDBBBBBBBBBBBBBBOBEBCBBBBBBBBBBBBBBBBc@AEgOBIgPBPfJBWBBc@Cd8nMf6nNCfEbNBBBDCDBDEECDBBBBBBBBBBBBBBOBEBCBBBBBBBBBBBBBBBBc@ACfEbNBBBDCDBDEECDBBBBBBBBBBBBBBOBEBCBBBBBBBBBBBBBBBBc@AbQfPBADBCEBEFBFGBIHBKIBNJBOKBPLBSMBTNBUOBVPBWQBYRB6SB7TB8UBbMVBbNWBbOXBbPYBbQZBbR6BbS7BbT8BbV9BbX@Bb6$Bb7bABb8bBBb9bCBb@bDBb$bEBcAbFBcBbGBcPbHBcQbIBcSbJBcWbKBcXbLBcYbMBcZbNBc6bOBc7bPBc8bQBc9BBc@b@dBnOdCnPdGbTdHbTdJbTdMnQdNnRdUbTdXbWdZbXd6bYd7bZd9b6d@b7d$b8eAb9eBb@eCb$eFcAeJcBeKcCeLcDeMcEeOcFePcGeQcHeRcIeScJeUcKeVcLeWcMeXcNeYcOe6cPe7cQe8cRe9cSe@cTe$cUfAcVfBcWfCcXfFcYfIcZfLc6fNc7fOc8fPc9fTc@fUc$fVdAfWdBfXdCfYdDfZdEf9dFf@dGf$dHgAdIgFdJgGdKgHnSChQEABBBBBc@AChRCcQCBBc@ADbHBcQbIBcSBBc@CgFnTgGnUHbTBGbUBHhSBJbWBcPbHBcQbIBcSBBc@EdDnWdEdSgFdUgGdVDbHBcQbIBcSBBc@CgFnXgGnYChTEABBBBBc@ADbHBcQbIBcSBBc@CgFnZgGn6ChTEABBBBBc@AChUFABBBGBBc@AChUFABBBGBBc@A9bXBIbYBOKBPbZBTNBUOBVQBYRB6SB7b6B8b7Bb7b8Bb8b9Bb9b@Bb@b$Bb$cABcAcBBcBcCBcPcDBcQcEBcScFBcWcGBcXcHBcYcIBcZcJBc6cKBc7cLBc8cMBc9BBc@9dZeMd6eNd7eOd9b6d@ePd$eQeAeReBeSeCb$eFcAeJeTeKcCeLcDfNn7fOeVfPeWfTeXfUeYfVeZfWe6fXe7fYe8fZe9f9e@f@e$f$fAgAfBgFfCgGfDCcRBIBBc@BdQn89bXBIbYBOKBPbZBTNBUOBVQBYRB6SB7b6B8b7Bb7b8Bb8b9Bb9b@Bb@b$Bb$cABcAcBBcBcCBcPcDBcQcEBcScFBcWcGBcXcHBcYcIBcZcJBc6cKBc7cLBc8cMBc9BBc@9dZgAd6gBd7eOd9b6d@ePd$eQeAeReBeSeCb$eFcAeJeTeKcCeLcDfNn9fOeVfPeWfTeXfUeYfVeZfWe6fXe7fYe8fZe9f9e@f@e$f$fAgAfBgFfCgGfD9bXBIbYBOKBPhVBTNBUOBVQBYRB6dMB7b6B8b7Bb7b8Bb8b9Bb9b@Bb@b$Bb$cABcAcBBcBhWBcPcDBcQcEBcScFBcWcGBcXcHBcYcIBcZcJBc6cKBc7cLBc8cMBc9BBc@9dZfXd6fYd7eOd9b6d@ePd$eQeAeReBeSeCb$eFcAeJeTeKcCeLcDfNoAfOeVfPeWfTeXfUeYfVeZfWe6fXe7fYe8fZe9f9e@f@e$f$fAgAfBgFfCgGfDDfE$CEDCBDBBCDBCEOSBCBBBBBBBBBBBBBBhXBIBBc@BfRoCDfE$CEDCBDBBCDBCEOSBCBBBBBBBBBBBBBBhXBIBBc@BfRoD9bXBIbYBOKBPhVBTNBUOBVQBYRB6SB7b6B8b7Bb7b8Bb8b9Bb9b@Bb@b$Bb$cABcAcBBcBhWBcPcDBcQcEBcScFBcWcGBcXcHBc" ++
  "YcIBcZcJBc6cKBc7cLBc8cMBc9BBc@9dZfXd6fYd7eOd9b6d@ePd$eQeAeReBeSeCb$eFcAeJeTeKcCeLcDfNoEfOeVfPeWfTeXfUeYfVeZfWe6fXe7fYe8fZe9f9e@f@e$f$fAgAfBgFfCgGfD9bXBIbYBOKBPhVBTNBUOBVQBYRB6SB7b6B8b7Bb7b8Bb8b9Bb9b@Bb@b$Bb$cABcAcBBcBhWBcPcDBcQcEBcScFBcWcGBcXcHBcYcIBcZcJBc6cKBc7cLBc8cMBc9BBc@9dZfXd6fYd7eOd9b6d@ePd$eQeAeReBeSeCb$eFcAeJeTeKcCeLcDfNoFfOeVfPeWfTeXfUeYfVeZfWe6fXe7fYe8fZe9f9e@f@e$f$fAgAfBgFfCgGfD9bXBIbYBOKBPhVBTNBUOBVQBYRB6SB7b6B8b7Bb7b8Bb8b9Bb9b@Bb@b$Bb$cABcAcBBcBhWBcPcDBcQcEBcScFBcWcGBcXcHBcYcIBcZcJBc6cKBc7cLBc8cMBc9BBc@9dZfXd6fYd7eOd9b6d@ePd$eQeAeReBeSeCb$eFcAeJeTeKcCeLcDfNoGfOeVfPeWfTeXfUeYfVeZfWe6fXe7fYe8fZe9f9e@f@e$f$fAgAfBgFfCgGfD9bXBIbYBOKBPhVBTNBUOBVQBYRB6SB7b6B8b7Bb7b8Bb8b9Bb9b@Bb@b$Bb$cABcAcBBcBhWBcPcDBcQcEBcScFBcWcGBcXcHBcYcIBcZcJBc6cKBc7cLBc8cMBc9BBc@9dZfXd6fYd7eOd9b6d@ePd$eQeAeReBeSeCb$eFcAeJeTeKcCeLcDfNoHfOeVfPeWfTeXfUeYfVeZfWe6fXe7fYe8fZe9f9e@f@e$f$fAgAfBgFfCgGfD9bXBIbYBOKBPhVBTNBUOBVQBYRB6SB7b6B8b7Bb7b8Bb8b9Bb9b@Bb@b$Bb$cABcAcBBcBhWBcPcDBcQcEBcScFBcWcGBcXcHBcYcIBcZcJBc6cKBc7cLBc8cMBc9BBc@9dZfXd6fYd7eOd9b6d@ePd$eQeAeReBeSeCb$eFcAeJeTeKcCeLcDfNoIfOeVfPeWfTeXfUeYfVeZfWe6fXe7fYe8fZe9f9e@f@e$f$fAgAfBgFfCgGfDGfE6CJBEDECEOSBCBBBBBBBBBBBBBBfGBGfHCIBfIBPhYBWBBc@Cd8lDf6oKChZBcRBBc@ADh6CcTCh7BcUBBc@Bg@oMCfEbACECBCBDBBCDBCEOSBCBBBBBBBBBBBBBBBBc@ACfEbACECBCBDBBCDBCEOSBCBBBBBBBBBBBBBBBBc@ACfEbACECBCBDBBCDBCEOSBCBBBBBBBBBBBBBBBBc@ACfEbACECBCBDBBCDBCEOSBCBBBBBBBBBBBBBBBBc@ACfEbACECBCBDBBCDBCEOSBCBBBBBBBBBBBBBBBBc@ACfEbACECBCBDBBCDBCEOSBCBBBBBBBBBBBBBBBBc@ACfEbACECBCBDBBCDBCEOSBCBBBBBBBBBBBBBBBBc@ACfEbACECBCBDBBCDBCEOSBCBBBBBBBBBBBBBBBBc@AEh8BIh9BJh@BPBBc@AEh$BIiABJiBBPBBc@ADgOGIBCEBJhYBWBBc@Bf6oUDgOGIBCEBJhYBWBBc@Bf6oVChYBWBBc@Bf6oWDgOGIBCEBJhYBWBBc@Bf6oXDgOGIBCEBJhYBWBBc@Bf6oYDgOGIBCEBJhYBWBBc@Bf6oZYiCBGiDBIiEBJiFBPiGBTiHBZiIBb9iJBb@iKBcAiLBcBiMBcCiNBcDiOBcEiPBcFiQBcGiRBcHiSBcIiTBcJiUBcKiVBcLiWBcMiXBcNiYBcOBBc@Cd8pRfSpSCfEbACECBCBDBBCDBCEOSBCBBBBBBBBBBBBBBBBc@ACfEbACECBCBDBBCDBCEOSBCBBBBBBBBBBBBBBBBc@ACfEbACECBCBDBBCDBCEOSBCBBBBBBBBBBBBBBBBc@ACfEbACECBCBDBBCDBCEOSBCBBBBBBBBBBBBBBBBc@ACfEbACECBCBDBBCDBCEOSBCBBBBBBBBBBBBBBBBc@ACfEbACECBCBDBBCDBCEOSBCBBBBBBBBBBBBBBBBc@ACfEbACECBCBDBBCDBCEOSBCBBBBBBBBBBBBBBBBc@ACfEbACECBCBDBBCDBCEOSBCBBBBBBBBBBBBBBBBc@ACfEbACECBCBDBBCDBCEOSBCBBBBBBBBBBBBBBBBc@ACfEbACECBCBDBBCDBCEOSBCBBBBBBBBBBBBBBBBc@ACfEbACECBCBDBBCDBCEOSBCBBBBBBBBBBBBBBBBc@ACfEbACECBCBDBBCDBCEOSBCBBBBBBBBBBBBBBBBc@AEgOFIBCFJgPBPhYBWBBc@Cd8nMf6pTCfEbACECBCBDBBCDBCEOSBCBBBBBBBBBBBBBBBBc@ACfEbACECBCBDBBCDBCEOSBCBBBBBBBBBBBBBBBBc@ADiZBJcOBcPBBc@CdIpVgJpWPi6GBBBUbBBdBBIi7BLi8BMi9BOi@BPi$BTNBUOBVQBYjAB6jBB7jCB8jDBcPBBc@OdZqAd6qBd7gNd9b6d@gOeAgPeBgQeCqCeFcAeJgReKcCeLcDgAqDgKqECjEGBBBUbBBBBc@ADjFBJcQBcPBBc@CdKqGgMqHOjGBIjHBLjIBMjJBOjKBPjLBTjMBUjNBVjOBYjPB6jQB7jRB8jSBcPBBc@OdZqVd6qWd7qXd9qYd@qZeAq6eBq7eCq8eFq9eJq@eKq$eLrAgArBgLrCCjTGBBBUbBBBBc@ACjTGBBBUbBBBBc@APdBBIjUBJjVBLi9BOi@BPjWBRi$BTNBUOBVQBYjAB6jBB7jCB8jXBcPBBc@PdRrHdSrIdZrJd6rKd7gNd9b6d@gOeAgPeBgQeCqCeFcAeJgReKcCeLcDgAqDDjYBIjZBPBBc@CdOrNdQrONcRBIdCBOdDBPdEBTNBUOBVPBWQBYRB6SB7dFB8j6BcPBBc@OdQrQd6rRd7gNd9b6d@gOeAgPeBgQeCb$eFcAeJgReKcCeLcDeMrSgAgSMdBBIdCBOdDBPdEBTNBUOBVQBYRB6SB7dFB8dGBcPBBc@NdZrTd6rUd7gNd9b6d@gOeAgPeBgQeCb$eFcAeJgReKcCeLcDgAgSCj7BQBBc@A9bXBIbYBOKBPcVBTNBUOBVQBYRB6SB7cWB8b7Bb7b8Bb8cXBb9cYBb@cZBb$c6BcAc7BcBcCBcPcDBcQcEBcScFBcWcGBcXcHBcYcIBcZcJBc6cKBc7cLBc8cMBc9BBc@9dZgAd6gBd7eOd9b6d@ePd$eQeAeReBeSeCb$eFcAeJeTeKcCeLcDfNn9fOeVfPeWfTeXfUeYfVeZfWe6fXe7fYe8fZe9f9e@f@e$f$fAgAfBgFfCgGfD9bXBIbYBOKBPcVBTNBUOBVQBYRB6dMB7cWB8b7Bb7b8Bb8cXBb9cYBb@cZBb$c6BcAc7BcBcCBcPcDBcQcEBcScFBcWcGBcXcHBcYcIBcZcJBc6cKBc7cLBc8cMBc9BBc@9dZfXd6fYd7eOd9b6d@ePd$eQeAeReBeSeCb$eFcAeJeTeKcCeLcDfNoAfOeVfPeWfTeXfUeYfVeZfWe6fXe7fYe8fZe9f9e@f@e$f$fAgAfBgFfCgGfD9bXBIbYBOKBPcVBTNBUOBVQBYRB6SB7cWB8b7Bb7b8Bb8cXBb9cYBb@cZBb$c6BcAc7BcBcCBcPcDBcQcEBcScFBcWcGBcXcHBcYcIBcZcJBc6cKBc7cLBc8cMBc9BBc@9dZfXd6fYd7eOd9b6d@ePd$eQeAeReBeSeCb$eFcAeJeTeKcCeLcDfNoEfOeVfPeWfTeXfUeYfVeZfWe6fXe7fYe8fZe9f9e@f@e$f$fAgAfBgFfCgGfD9bXBIbYBOKBPcVBTNBUOBVQBYRB6SB7cWB8b7Bb7b8Bb8cXBb9cYBb@cZBb$c6BcAc7BcBcCBcPcDBcQcEBcScFBcWcGBcXcHBcYcIBcZcJBc6" ++
  "cKBc7cLBc8cMBc9BBc@9dZfXd6fYd7eOd9b6d@ePd$eQeAeReBeSeCb$eFcAeJeTeKcCeLcDfNoFfOeVfPeWfTeXfUeYfVeZfWe6fXe7fYe8fZe9f9e@f@e$f$fAgAfBgFfCgGfD9bXBIbYBOKBPcVBTNBUOBVQBYRB6SB7cWB8b7Bb7b8Bb8cXBb9cYBb@cZBb$c6BcAc7BcBcCBcPcDBcQcEBcScFBcWcGBcXcHBcYcIBcZcJBc6cKBc7cLBc8cMBc9BBc@9dZfXd6fYd7eOd9b6d@ePd$eQeAeReBeSeCb$eFcAeJeTeKcCeLcDfNoGfOeVfPeWfTeXfUeYfVeZfWe6fXe7fYe8fZe9f9e@f@e$f$fAgAfBgFfCgGfD9bXBIbYBOKBPcVBTNBUOBVQBYRB6SB7cWB8b7Bb7b8Bb8cXBb9cYBb@cZBb$c6BcAc7BcBcCBcPcDBcQcEBcScFBcWcGBcXcHBcYcIBcZcJBc6cKBc7cLBc8cMBc9BBc@9dZfXd6fYd7eOd9b6d@ePd$eQeAeReBeSeCb$eFcAeJeTeKcCeLcDfNoHfOeVfPeWfTeXfUeYfVeZfWe6fXe7fYe8fZe9f9e@f@e$f$fAgAfBgFfCgGfD9bXBIbYBOKBPcVBTNBUOBVQBYRB6SB7cWB8b7Bb7b8Bb8cXBb9cYBb@cZBb$c6BcAc7BcBcCBcPcDBcQcEBcScFBcWcGBcXcHBcYcIBcZcJBc6cKBc7cLBc8cMBc9BBc@9dZfXd6fYd7eOd9b6d@ePd$eQeAeReBeSeCb$eFcAeJeTeKcCeLcDfNoIfOeVfPeWfTeXfUeYfVeZfWe6fXe7fYe8fZe9f9e@f@e$f$fAgAfBgFfCgGfDDh8BIh@BPBBc@ADh$BIiBBPBBc@AYiCBGiDBIiFBPj8BQj9BTj@BZj$Bb9kABb@kBBcAkCBcBkDBcCkEBcDkFBcEkGBcFkHBcGkIBcHkJBcIkKBcJkLBcKkMBcLkNBcMkOBcNkPBcOBBc@Cd8pRfSpSDkQBJc9BcPBBc@DdTsLdVsMgPsNNjGBIkRBMjJBOkSBPjLBTjMBUjNBVjOBYjPB6jQB7jRB8jSBcPBBc@OdOsQdZsRd6sSd7qXd9qYd@qZeAq6eBq7eCq8eFq9eJq@eKq$eLrAgArBCkTGBBBUbBBBBc@ACkTGBBBUbBBBBc@ACcRBIBBc@BdQsTGfEbKBBBIBHECDBBBBBBBBBBBBBBOBEBCBBBBBBBBBBBBBBfGBGfHBIfIBPfJBWBBc@Cd8lDf6lECkUGIBCEBJBBc@ACkUGIBCEBJBBc@AFkVbKBBBIBHECDBBBBBBBBBBBBBBOBEBCBBBBBBBBBBBBBBgVBGgWBIgZBPBBc@Cd8nJfSnKFkWBTOBVkXBXkYBcPBBc@Ed7sXeCsYeEsZgAs6CkZJIBCBDBGDSBBc@AMdBBIi9BOi@BPi$BTNBUOBVQBYjAB6jBB7jCB8jDBcPBBc@NdZs7d6s8d7gNd9b6d@gOeAgPeBgQeCqCeFcAeJgReKcCeLcDgAqDCcRBIBBc@BdQs9@bXBIbYBOKBPcTBQcVBTNBUOBVQBYRB6SB7cWB8b7Bb7b8Bb8cXBb9cYBb@cZBb$c6BcAc7BcBcCBcPcDBcQcEBcScFBcWcGBcXcHBcYcIBcZcJBc6cKBc7cLBc8cMBc9BBc@9dZfXd6fYd7eOd9b6d@ePd$eQeAeReBeSeCb$eFcAeJeTeKcCeLcDfNfZfOeVfPeWfTeXfUeYfVeZfWe6fXe7fYe8fZe9f9e@f@e$f$fAgAfBgFfCgGfDMdBBIdCBOdDBPdEBTNBUOBVQBYRB6SB7dFB8dGBcPBBc@NdZs@d6s$d7gNd9b6d@gOeAgPeBgQeCb$eFcAeJgReKcCeLcDgAgSCk6B7BBc@AEk7BGk8IIBCBEGDSk9BPBBc@Bd8lDCk@JIBCBDBGDSBBc@ACk@JIBCBDBGDSBBc@ACgOJIBCBDBGDSBBc@ACgOJIBCBDBGDSBBc@ACgOJIBCBDBGDSBBc@ACgOJIBCBDBGDSBBc@ACgOJIBCBDBGDSBBc@ADgOIIBCBEGDSgPBPBBc@Bd8nMCk$bPABBBDCDBDEECDBBBBBBBBBBBBBBKEBEBCBBBBBBBBBBBBBBBBc@AHfEbKBBBIBHECDBBBBBBBBBBBBBBOBEBCBBBBBBBBBBBBBBfGBGfHBIfIBPfJBWlABbLBBc@Cd8lDf6lEClBBXBBc@AFlCBBlDBClEBDlFDXbBBBBc@BgXtGClFDXbBBBBc@ANjGBIjJBOjKBPjLBTjMBUjNBVlGBXjOBYjPB6jQB7jRB8lHBcPBBc@PdZtJd6tKd7qXd9qYd@qZeAq6eBq7eCq8eFq9eHtLeItMeJq@eKq$eLrAgArBMdBBIi9BOi@BPi$BTNBUOBVQBYjAB6jBB7jCB8jDBcPBBc@NdZtNd6tOd7gNd9b6d@gOeAgPeBgQeCqCeFcAeJgReKcCeLcDgAqDMdBBIdCBOdDBPdEBTNBUOBVQBYRB6dMB7dFB8dGBcPBBc@NdZtPd6tQd7gNd9b6d@gOeAgPeBgQeCb$eFcAeJgReKcCeLcDgAgSClIJIBCBDBGDSBBc@AClIJIBCBDBGDSBBc@AMdBBIdCBOdDBPdEBTNBUOBVQBYRB6SB7dLB8dGBcPBBc@NdZtRd6tSd7gNd9b6d@gOeAgPeBgQeCb$eFcAeJgReKcCeLcDgAgSFkVbKBBBIBHECDBBBBBBBBBBBBBBOBEBCBBBBBBBBBBBBBBgVBGgWBIgZBPBBc@Cd8nJfSnKClJGBBBUbBBBBc@AClKGBBBUbBBBBc@AClLGBBBUbBBBBc@A9bXBIbYBOKBPbZBTNBUOBVQBYRB6SB7b6B8b7Bb7b8Bb8b9Bb9b@Bb@b$Bb$cABcAcBBcBcCBcPcDBcQcEBcScFBcWcGBcXcHBcYcIBcZcJBc6cKBc7cLBc8cMBc9BBc@9dZeMd6eNd7eOd9b6d@ePd$eQeAeReBeSeCb$eFcAeJeTeKcCeLcDfNtTfOeVfPeWfTeXfUeYfVeZfWe6fXe7fYe8fZe9f9e@f@e$f$fAgAfBgFfCgGfDCcRBIBBc@BdQtU9dUBIdVBOKBPdWBTNBUOBVQBYRB6SB7dXB8dYBb7dZBb8d6Bb9d7Bb@d8Bb$d9BcAd@BcBd$BcPeABcQeBBcSeCBcWeDBcXeEBcYeFBcZeGBc6eHBc7eIBc8eJBc9BBc@9dZgAd6gBd7h7d9b6d@h8d$h9eAh@eBh$eCb$eFcAeJiAeKcCeLcDfNtVfOiCfPiDfTiEfUiFfViGfWiHfXiIfYiJfZiKf9iLf@iMf$iNgAiOgFiPgGiQ9dUBIdVBOKBPdWBTNBUOBVQBYRB6dMB7dXB8dYBb7dZBb8d6Bb9d7Bb@d8Bb$d9BcAd@BcBd$BcPeABcQeBBcSeCBcWeDBcXeEBcYeFBcZeGBc6eHBc7eIBc8eJBc9BBc@9dZhZd6h6d7h7d9b6d@h8d$h9eAh@eBh$eCb$eFcAeJiAeKcCeLcDfNtWfOiCfPiDfTiEfUiFfViGfWiHfXiIfYiJfZiKf9iLf@iMf$iNgAiOgFiPgGiQDfE8BBBDFEEEC$BEBCBBBBBBBBBBBBBBlMBIBBc@BfRtYDfE8BBBDFEEEC$BEBCBBBBBBBBBBBBBBlMBIBBc@BfRtZ9dUBIdVBOKBPdWBTNBUOBVQBYRB6SB7dXB8dYBb7dZBb8d6Bb9d7Bb@d8Bb$d9BcAd@BcBd$BcPeABcQeBBcSeCBcWeDBcXeEBcYeFBcZeGBc6eHBc7eIBc8eJBc9BBc@9dZhZd6h6d7h7d9b6d@h8d$h9eAh@eBh$eCb$eFcAeJiAeKcCeLcDfNt6fOiCfPiDfTiEfUiFfViGfWiHfXiIfYiJfZiKf9iLf@iMf$iNgAiOgFiPgGiQ9dUBIdVBOKBPdWBTNBUOBVQBYRB6SB7dXB8dYBb7dZBb8d6Bb9d7Bb@d8B" ++
  "b$d9BcAd@BcBd$BcPeABcQeBBcSeCBcWeDBcXeEBcYeFBcZeGBc6eHBc7eIBc8eJBc9BBc@9dZhZd6h6d7h7d9b6d@h8d$h9eAh@eBh$eCb$eFcAeJiAeKcCeLcDfNt7fOiCfPiDfTiEfUiFfViGfWiHfXiIfYiJfZiKf9iLf@iMf$iNgAiOgFiPgGiQ9dUBIdVBOKBPdWBTNBUOBVQBYRB6SB7dXB8dYBb7dZBb8d6Bb9d7Bb@d8Bb$d9BcAd@BcBd$BcPeABcQeBBcSeCBcWeDBcXeEBcYeFBcZeGBc6eHBc7eIBc8eJBc9BBc@9dZhZd6h6d7h7d9b6d@h8d$h9eAh@eBh$eCb$eFcAeJiAeKcCeLcDfNt8fOiCfPiDfTiEfUiFfViGfWiHfXiIfYiJfZiKf9iLf@iMf$iNgAiOgFiPgGiQ9dUBIdVBOKBPdWBTNBUOBVQBYRB6SB7dXB8dYBb7dZBb8d6Bb9d7Bb@d8Bb$d9BcAd@BcBd$BcPeABcQeBBcSeCBcWeDBcXeEBcYeFBcZeGBc6eHBc7eIBc8eJBc9BBc@9dZhZd6h6d7h7d9b6d@h8d$h9eAh@eBh$eCb$eFcAeJiAeKcCeLcDfNt9fOiCfPiDfTiEfUiFfViGfWiHfXiIfYiJfZiKf9iLf@iMf$iNgAiOgFiPgGiQ9dUBIdVBOKBPdWBTNBUOBVQBYRB6SB7dXB8dYBb7dZBb8d6Bb9d7Bb@d8Bb$d9BcAd@BcBd$BcPeABcQeBBcSeCBcWeDBcXeEBcYeFBcZeGBc6eHBc7eIBc8eJBc9BBc@9dZhZd6h6d7h7d9b6d@h8d$h9eAh@eBh$eCb$eFcAeJiAeKcCeLcDfNt@fOiCfPiDfTiEfUiFfViGfWiHfXiIfYiJfZiKf9iLf@iMf$iNgAiOgFiPgGiQGfE6BBBIIEC$BEBCBBBBBBBBBBBBBBfGBGfHBIfIBPlNBWBBc@Cd8lDf6uAClOBcRBBc@ADlPCcTClQBcUBBc@Bg@uCCfE9BBBDCDEEEC$BEBCBBBBBBBBBBBBBBBBc@ACfE9BBBDCDEEEC$BEBCBBBBBBBBBBBBBBBBc@ACfE9BBBDCDEEEC$BEBCBBBBBBBBBBBBBBBBc@ACfE9BBBDCDEEEC$BEBCBBBBBBBBBBBBBBBBc@ACfE9BBBDCDEEEC$BEBCBBBBBBBBBBBBBBBBc@ACfE9BBBDCDEEEC$BEBCBBBBBBBBBBBBBBBBc@ACfE9BBBDCDEEEC$BEBCBBBBBBBBBBBBBBBBc@ACfE9BBBDCDEEEC$BEBCBBBBBBBBBBBBBBBBc@AClRGBBBUbBBBBc@ADlSBIlTBPBBc@ADlUBIlVBPBBc@ADgOCIHlNBWBBc@Bf6uIDgOCIHlNBWBBc@Bf6uJClNBWBBc@Bf6uKDgOCIHlNBWBBc@Bf6uLDgOCIHlNBWBBc@Bf6uMDgOCIHlNBWBBc@Bf6uNZgYGBBBUbBBlWBGlXBIlYBLlZBPl6BTl7BZl8Bb9l9Bb@l@BcAl$BcBmABcCmBBcDmCBcEmDBcFmEBcGmFBcHmGBcImHBcJmIBcKmJBcLmKBcMmLBcNmMBcOBBc@Dd8vFfSvGgRvHCfE9BBBDCDEEEC$BEBCBBBBBBBBBBBBBBBBc@ACfE9BBBDCDEEEC$BEBCBBBBBBBBBBBBBBBBc@ACfE9BBBDCDEEEC$BEBCBBBBBBBBBBBBBBBBc@ACfE9BBBDCDEEEC$BEBCBBBBBBBBBBBBBBBBc@ACfE9BBBDCDEEEC$BEBCBBBBBBBBBBBBBBBBc@ACfE9BBBDCDEEEC$BEBCBBBBBBBBBBBBBBBBc@ACfE9BBBDCDEEEC$BEBCBBBBBBBBBBBBBBBBc@ACfE9BBBDCDEEEC$BEBCBBBBBBBBBBBBBBBBc@ACfE9BBBDCDEEEC$BEBCBBBBBBBBBBBBBBBBc@ACfE9BBBDCDEEEC$BEBCBBBBBBBBBBBBBBBBc@ACfE9BBBDCDEEEC$BEBCBBBBBBBBBBBBBBBBc@ACfE9BBBDCDEEEC$BEBCBBBBBBBBBBBBBBBBc@AEgOBIgPBPlNBWBBc@Cd8nMf6vICfE9BBBDCDEEEC$BEBCBBBBBBBBBBBBBBBBc@ACfE9BBBDCDEEEC$BEBCBBBBBBBBBBBBBBBBc@AYmNGBBBUbBBlWBGlXBIlZBPl6BTl7BZl8Bb9l9Bb@l@BcAl$BcBmABcCmBBcDmCBcEmDBcFmEBcGmFBcHmGBcImHBcJmIBcKmJBcLmKBcMmLBcNmMBcOBBc@Cd8vFfSvGYmOGBBBUbBBlWBGlXBIlZBPl6BTl7BZl8Bb9l9Bb@l@BcAl$BcBmABcCmBBcDmCBcEmDBcFmEBcGmFBcHmGBcImHBcJmIBcKmJBcLmKBcMmLBcNmMBcOBBc@Cd8vFfSvG9bXBIbYBOKBPbZBTNBUOBVQBYRB6SB7b6B8b7Bb7b8Bb8b9Bb9b@Bb@b$Bb$cABcAcBBcBcCBcPcDBcQcEBcScFBcWcGBcXcHBcYcIBcZcJBc6cKBc7cLBc8cMBc9BBc@9dZeMd6eNd7eOd9b6d@ePd$eQeAeReBeSeCb$eFcAeJeTeKcCeLcDfNvJfOeVfPeWfTeXfUeYfVeZfWe6fXe7fYe8fZe9f9e@f@e$f$fAgAfBgFfCgGfDCcRBIBBc@BdQvK9eKBIeLBOKBPeMBTNBUOBVQBYRB6SB7eNB8eOBb7ePBb8eQBb9eRBb@eSBb$eTBcAeUBcBeVBcPeWBcQeXBcSeYBcWeZBcXe6BcYe7BcZe8Bc6e9Bc7e@Bc8e$Bc9BBc@9dZgAd6gBd7jMd9b6d@jNd$jOeAjPeBjQeCb$eFcAeJjReKcCeLcDfNvLfOj6fPj7fTj8fUj9fVj@fWj$fXkAfYkBfZkCf9kDf@kEf$kFgAkGgFkHgGkI9eKBIeLBOKBPeMBTNBUOBVQBYRB6dMB7eNB8eOBb7ePBb8eQBb9eRBb@eSBb$eTBcAeUBcBeVBcPeWBcQeXBcSeYBcWeZBcXe6BcYe7BcZe8Bc6e9Bc7e@Bc8e$Bc9BBc@9dZjKd6jLd7jMd9b6d@jNd$jOeAjPeBjQeCb$eFcAeJjReKcCeLcDfNvMfOj6fPj7fTj8fUj9fVj@fWj$fXkAfYkBfZkCf9kDf@kEf$kFgAkGgFkHgGkIDfEbICEFBDEDDDBBBBBBBBBBBBBBTBCBBBBBBBBBBBBBBmPBIBBc@BfRvODfEbICEFBDEDDDBBBBBBBBBBBBBBTBCBBBBBBBBBBBBBBmPBIBBc@BfRvP9eKBIeLBOKBPeMBTNBUOBVQBYRB6SB7eNB8eOBb7ePBb8eQBb9eRBb@eSBb$eTBcAeUBcBeVBcPeWBcQeXBcSeYBcWeZBcXe6BcYe7BcZe8Bc6e9Bc7e@Bc8e$Bc9BBc@9dZjKd6jLd7jMd9b6d@jNd$jOeAjPeBjQeCb$eFcAeJjReKcCeLcDfNvQfOj6fPj7fTj8fUj9fVj@fWj$fXkAfYkBfZkCf9kDf@kEf$kFgAkGgFkHgGkI9eKBIeLBOKBPeMBTNBUOBVQBYRB6SB7eNB8eOBb7ePBb8eQBb9eRBb@eSBb$eTBcAeUBcBeVBcPeWBcQeXBcSeYBcWeZBcXe6BcYe7BcZe8Bc6e9Bc7e@Bc8e$Bc9BBc@9dZjKd6jLd7jMd9b6d@jNd$jOeAjPeBjQeCb$eFcAeJjReKcCeLcDfNvRfOj6fPj7fTj8fUj9fVj@fWj$fXkAfYkBfZkCf9kDf@kEf$kFgAkGgFkHgGkI9eKBIeLBOKBPeMBTNBUOBVQBYRB6SB7eNB8eOBb7ePBb8eQBb9eRBb@eSBb$eTBcAeUBcBeVBcPeWBcQeXBcSeYBcWeZBcXe6BcYe7BcZe8Bc6e9Bc7e@Bc8e$Bc9BBc@9dZjKd6jLd7jMd9b6d@jNd$jOeAjPeBjQeCb$eFcAeJjReKcCeLcDfNvSfOj6fPj7fTj8fUj9fVj@fWj$fX" ++
  "kAfYkBfZkCf9kDf@kEf$kFgAkGgFkHgGkI9eKBIeLBOKBPeMBTNBUOBVQBYRB6SB7eNB8eOBb7ePBb8eQBb9eRBb@eSBb$eTBcAeUBcBeVBcPeWBcQeXBcSeYBcWeZBcXe6BcYe7BcZe8Bc6e9Bc7e@Bc8e$Bc9BBc@9dZjKd6jLd7jMd9b6d@jNd$jOeAjPeBjQeCb$eFcAeJjReKcCeLcDfNvTfOj6fPj7fTj8fUj9fVj@fWj$fXkAfYkBfZkCf9kDf@kEf$kFgAkGgFkHgGkI9eKBIeLBOKBPeMBTNBUOBVQBYRB6SB7eNB8eOBb7ePBb8eQBb9eRBb@eSBb$eTBcAeUBcBeVBcPeWBcQeXBcSeYBcWeZBcXe6BcYe7BcZe8Bc6e9Bc7e@Bc8e$Bc9BBc@9dZjKd6jLd7jMd9b6d@jNd$jOeAjPeBjQeCb$eFcAeJjReKcCeLcDfNvUfOj6fPj7fTj8fUj9fVj@fWj$fXkAfYkBfZkCf9kDf@kEf$kFgAkGgFkHgGkIFfEbGCJBHDDDBBBBBBBBBBBBBBTBCBBBBBBBBBBBBBBfGBGfHBIfIBPBBc@Cd8lDf6vVCmQBcRBBc@ADmRCcTCmSBcUBBc@Bg@vXCfEbJCECDBDEDDDBBBBBBBBBBBBBBTBCBBBBBBBBBBBBBBBBc@ACfEbJCECDBDEDDDBBBBBBBBBBBBBBTBCBBBBBBBBBBBBBBBBc@ACfEbJCECDBDEDDDBBBBBBBBBBBBBBTBCBBBBBBBBBBBBBBBBc@ACfEbJCECDBDEDDDBBBBBBBBBBBBBBTBCBBBBBBBBBBBBBBBBc@ACfEbJCECDBDEDDDBBBBBBBBBBBBBBTBCBBBBBBBBBBBBBBBBc@ACfEbJCECDBDEDDDBBBBBBBBBBBBBBTBCBBBBBBBBBBBBBBBBc@ACfEbJCECDBDEDDDBBBBBBBBBBBBBBTBCBBBBBBBBBBBBBBBBc@ACfEbJCECDBDEDDDBBBBBBBBBBBBBBTBCBBBBBBBBBBBBBBBBc@AOmTBMmUB9mVBbAmWBbBmXBbCmYBbDmZBbEm6BbFm7BbGm8BbHm9BbIm@BbJm$BbKBBc@ADnABInBBPBBc@ADnCBInDBPBBc@ADgOCIHnEBWBBc@Bf6wLDgOCIHnEBWBBc@Bf6wMCnEBWBBc@Bf6wNDgOCIHnEBWBBc@Bf6wODgOCIHnEBWBBc@Bf6wPDgOCIHnEBWBBc@Bf6wQCnFBCBBc@ACgTCCUBBc@ACgTCCUBBc@ACgTCCUBBc@ACgTCCUBBc@ACgTCCUBBc@ACgTCCUBBc@A@gUBCnGBGnHBIgXBLgYNMRDBBBBBBBBBBnIBPnJBTPBWnKBZnLB8nMB@nNB$nOBb9nPBb@nQBcAnRBcBnSBcCnTBcDnUBcEnVBcFnWBcGnXBcHnYBcInZBcJn6BcKn7BcLn8BcMn9BcNn@BcOBBc@Ed8xLeMxMfSxNgRnLCfEbJCECDBDEDDDBBBBBBBBBBBBBBTBCBBBBBBBBBBBBBBBBc@ACfEbJCECDBDEDDDBBBBBBBBBBBBBBTBCBBBBBBBBBBBBBBBBc@ACfEbJCECDBDEDDDBBBBBBBBBBBBBBTBCBBBBBBBBBBBBBBBBc@ACfEbJCECDBDEDDDBBBBBBBBBBBBBBTBCBBBBBBBBBBBBBBBBc@ACfEbJCECDBDEDDDBBBBBBBBBBBBBBTBCBBBBBBBBBBBBBBBBc@ACfEbJCECDBDEDDDBBBBBBBBBBBBBBTBCBBBBBBBBBBBBBBBBc@ACfEbJCECDBDEDDDBBBBBBBBBBBBBBTBCBBBBBBBBBBBBBBBBc@ACfEbJCECDBDEDDDBBBBBBBBBBBBBBTBCBBBBBBBBBBBBBBBBc@ACfEbJCECDBDEDDDBBBBBBBBBBBBBBTBCBBBBBBBBBBBBBBBBc@ACfEbJCECDBDEDDDBBBBBBBBBBBBBBTBCBBBBBBBBBBBBBBBBc@ACfEbJCECDBDEDDDBBBBBBBBBBBBBBTBCBBBBBBBBBBBBBBBBc@ACfEbJCECDBDEDDDBBBBBBBBBBBBBBTBCBBBBBBBBBBBBBBBBc@AEgOBIgPBPnEBWBBc@Cd8nMf6xOCfEbJCECDBDEDDDBBBBBBBBBBBBBBTBCBBBBBBBBBBBBBBBBc@ACfEbJCECDBDEDDDBBBBBBBBBBBBBBTBCBBBBBBBBBBBBBBBBc@A@n$BCbXBIbYBOKBPcVBTNBUOBVQBYRB6SB7cWB8b7Bb7b8Bb8cXBb9cYBb@cZBb$c6BcAc7BcBcCBcPcDBcQcEBcScFBcWcGBcXcHBcYcIBcZcJBc6cKBc7cLBc8cMBc9BBc@9dZfXd6fYd7eOd9b6d@ePd$eQeAeReBeSeCb$eFcAeJeTeKcCeLcDfNxQfOeVfPeWfTeXfUeYfVeZfWe6fXe7fYe8fZe9f9e@f@e$f$fAgAfBgFfCgGfD9bXBIbYBOKBPoABTNBUOBVQBYRB6SB7oBB8b7Bb7b8Bb8oCBb9oDBb@oEBb$oFBcAoGBcBoHBcPcDBcQcEBcScFBcWcGBcXcHBcYcIBcZcJBc6cKBc7cLBc8cMBc9BBc@9dZfXd6fYd7eOd9b6d@ePd$eQeAeReBeSeCb$eFcAeJeTeKcCeLcDfNxZfOeVfPeWfTeXfUeYfVeZfWe6fXe7fYe8fZe9f9e@f@e$f$fAgAfBgFfCgGfDOoIBMoJB9mVBbAmWBbBmXBbCmYBbDmZBbEm6BbFm7BbGm8BbHm9BbIm@BbJm$BbKBBc@ACoKGBBBUbBBBBc@ACoLBCBBc@ACPBWBBc@BeMx9CPBWBBc@BeMx@@gUBCnGBGnHBIgXBLgYNMRDBBBBBBBBBBnIBPnJBTPBWnKBZnLB8nMB@nNB$nOBb9nPBb@nQBcAnRBcBnSBcCnTBcDnUBcEnVBcFnWBcGnXBcHnYBcInZBcJn6BcKn7BcLn8BcMn9BcNn@BcOBBc@Ed8xLeMx$fSxNgRnLEoMBXoNBbYoOBbZBBc@DfGyDfHyDgYyDOmTBMoPB9mVBbAmWBbBmXBbCmYBbDmZBbEm6BbFm7BbGm8BbHm9BbIm@BbJm$BbKBBc@ACoQBCBBc@ACoRBWBBc@A@gUBCoSBGnHBIgXBLgYNMRDBBBBBBBBBBnIBPnJBToTBWnKBZnLB8nMB@nNB$nOBb9nPBb@nQBcAnRBcBnSBcCnTBcDnUBcEnVBcFnWBcGnXBcHnYBcInZBcJn6BcKn7BcLn8BcMn9BcNn@BcOBBc@Dd8xLfSxNgRnLEoUBXoVBbYoOBbZBBc@DfHyLfMyLg7yLNdBBIoWBJi9BOi@BPi$BTNBUOBVQBYjAB6jBB7jCB8jDBcPBBc@NdZyNd6yOd7gNd9b6d@gOeAgPeBgQeCqCeFcAeJgReKcCeLcDgAqDCoXbNBBBDCDBDEECDBBBBBBBBBBBBBBOBEBCBBBBBBBBBBBBBBBBc@ACoXbNBBBDCDBDEECDBBBBBBBBBBBBBBOBEBCBBBBBBBBBBBBBBBBc@AFkVbKBBBIBHECDBBBBBBBBBBBBBBOBEBCBBBBBBBBBBBBBBgVBGgWBIgZBPBBc@Cd8nJfSnKFkVbKBBBIBHECDBBBBBBBBBBBBBBOBEBCBBBBBBBBBBBBBBgVBGgWBIgZBPBBc@Cd8nJfSnKFkVbKBBBIBHECDBBBBBBBBBBBBBBOBEBCBBBBBBBBBBBBBBgVBGgWBIgZBPBBc@Cd8nJfSnKFkVbKBBBIBHECDBBBBBBBBBBBBBBOBEBCBBBBBBBBBBBBBBgVBGgWBIgZBPBBc@Cd8nJfSnKFkVbKBBBIBHECDBBBBBBBBBBBBBBOBEBCBBBBBBBBBBBBBBgVBGgWBIgZBPBBc@Cd8nJfSnKCoYBcPBBc@AMdBBIi9BOi@BPi$BTNBUOBVQBYjAB6jBB7jCB8jDBcPBBc@OdZyQd6yRd7gNd9b6d@gOeAgPeBgQeCqCeFcAeIySeJgReK" ++
  "cCeLcDgAqDbAbXBIoZBLbYBOKBPcVBTNBUOBVhYBWo6BXQBYRB6SB7cWB8b7Bb7b8Bb8cXBb9cYBb@cZBb$c6BcAc7BcBcCBcPcDBcQcEBcScFBcWcGBcXcHBcYcIBcZcJBc6cKBc7cLBc8cMBc9BBc@bAdZfXd6fYd7eOd9b6d@ePd$eQeAeReBeSeCb$eFcAeJeTeKcCeLcDfNyVfOeVfPeWfTeXfUeYfVeZfWe6fXe7fYe8fZe9f6yWf7yXf8yYf9e@f@e$f$fAgAfBgFfCgGfDbNDBCGBIHBKIBNc@BOKBPLBSMBTNBUOBVPBWQBYRB6SB7TB8UBbMVBbNWBbOXBbPYBbQZBbR6BbS7BbT8BbV9BbX@Bb6$Bb7bABb8bBBb9bCBb@bDBb$bEBcAbFBcBbGBcPbHBcQbIBcSbJBcWbKBcXbLBcYbMBcZbNBc6bOBc7bPBc8bQBc9BBc@bZdGbTdHbTdJbTdUbTdXbWdZbXd6bYd7bZd9b6d@b7d$b8eAb9eBb@eCb$eFcAeJcBeKcCeLcDeMcEeOyZePcGeQcHeRcIeScJeUcKeVcLeWcMeXcNeYcOe6cPe7cQe8cRe9cSe@cTe$cUfAcVfBcWfCcXfFcYfIcZfLc6fNc7fOc8fPc9fTc@fUc$fVdAfWdBfXdCfYdDfZdEf9dFf@dGf$dHgAdIgFdJgGdKCo7JIBCBDBGDSBBc@ACo8bNBBBDCDBDEECDBBBBBBBBBBBBBBOBEBCBBBBBBBBBBBBBBBBc@ACo9BcQBBc@ADo@CcTCo$BcUBBc@Bg@y7CpAbPABBBDCBCBDEECDBBBBBBBBBBBBBBOBEBCBBBBBBBBBBBBBBBBc@ACpBbPACCBDCDBBDBBBBCCBBQBBBBBBBCCDBBBBBBBOBCEBBBBBBBBBc@ACpBbPACCBDCDBBDBBBBCCBBQBBBBBBBCCDBBBBBBBOBCEBBBBBBBBBc@ACpBbPACCBDCDBBDBBBBCCBBQBBBBBBBCCDBBBBBBBOBCEBBBBBBBBBc@ACpBbPACCBDCDBBDBBBBCCBBQBBBBBBBCCDBBBBBBBOBCEBBBBBBBBBc@ACpBbPACCBDCDBBDBBBBCCBBQBBBBBBBCCDBBBBBBBOBCEBBBBBBBBBc@ACpBbPACCBDCDBBDBBBBCCBBQBBBBBBBCCDBBBBBBBOBCEBBBBBBBBBc@ACpBbPACCBDCDBBDBBBBCCBBQBBBBBBBCCDBBBBBBBOBCEBBBBBBBBBc@ACpBbPACCBDCDBBDBBBBCCBBQBBBBBBBCCDBBBBBBBOBCEBBBBBBBBBc@ACpBbPACCBDCDBBDBBBBCCBBQBBBBBBBCCDBBBBBBBOBCEBBBBBBBBBc@ACpBbPACCBDCDBBDBBBBCCBBQBBBBBBBCCDBBBBBBBOBCEBBBBBBBBBc@ACpBbPACCBDCDBBDBBBBCCBBQBBBBBBBCCDBBBBBBBOBCEBBBBBBBBBc@ACpBbPACCBDCDBBDBBBBCCBBQBBBBBBBCCDBBBBBBBOBCEBBBBBBBBBc@A9dUBIdVBOKBPdWBTNBUOBVQBYRB6SB7dXB8dYBb7dZBb8d6Bb9d7Bb@d8Bb$d9BcAd@BcBd$BcPeABcQeBBcSeCBcWeDBcXeEBcYeFBcZeGBc6eHBc7eIBc8eJBc9BBc@@dXy9dZhZd6h6d7h7d9b6d@h8d$h9eAh@eBh$eCb$eFcAeJiAeKcCeLcDfNiBfOiCfPiDfTiEfUiFfViGfWiHfXiIfYiJfZiKf9iLf@iMf$iNgAiOgFiPgGiQ9dUBIdVBOKBPdWBTNBUOBVQBYRB6SB7dXB8dYBb7dZBb8d6Bb9d7Bb@d8Bb$d9BcAd@BcBd$BcPeABcQeBBcSeCBcWeDBcXeEBcYeFBcZeGBc6eHBc7eIBc8eJBc9BBc@@dXy@dZhZd6h6d7h7d9b6d@h8d$h9eAh@eBh$eCb$eFcAeJiAeKcCeLcDfNiBfOiCfPiDfTiEfUiFfViGfWiHfXiIfYiJfZiKf9iLf@iMf$iNgAiOgFiPgGiQ9dUBIdVBOKBPdWBTNBUOBVQBYRB6SB7dXB8dYBb7dZBb8d6Bb9d7Bb@d8Bb$d9BcAd@BcBd$BcPeABcQeBBcSeCBcWeDBcXeEBcYeFBcZeGBc6eHBc7eIBc8eJBc9BBc@@dXy$dZhZd6h6d7h7d9b6d@h8d$h9eAh@eBh$eCb$eFcAeJiAeKcCeLcDfNiBfOiCfPiDfTiEfUiFfViGfWiHfXiIfYiJfZiKf9iLf@iMf$iNgAiOgFiPgGiQ9dUBIdVBOKBPdWBTNBUOBVQBYRB6SB7dXB8dYBb7dZBb8d6Bb9d7Bb@d8Bb$d9BcAd@BcBd$BcPeABcQeBBcSeCBcWeDBcXeEBcYeFBcZeGBc6eHBc7eIBc8eJBc9BBc@@dXzAdZhZd6h6d7h7d9b6d@h8d$h9eAh@eBh$eCb$eFcAeJiAeKcCeLcDfNiBfOiCfPiDfTiEfUiFfViGfWiHfXiIfYiJfZiKf9iLf@iMf$iNgAiOgFiPgGiQ9dUBIdVBOKBPdWBTNBUOBVQBYRB6SB7dXB8dYBb7dZBb8d6Bb9d7Bb@d8Bb$d9BcAd@BcBd$BcPeABcQeBBcSeCBcWeDBcXeEBcYeFBcZeGBc6eHBc7eIBc8eJBc9BBc@@dXzBdZhZd6h6d7h7d9b6d@h8d$h9eAh@eBh$eCb$eFcAeJiAeKcCeLcDfNiBfOiCfPiDfTiEfUiFfViGfWiHfXiIfYiJfZiKf9iLf@iMf$iNgAiOgFiPgGiQ9dUBIdVBOKBPdWBTNBUOBVQBYRB6SB7dXB8dYBb7dZBb8d6Bb9d7Bb@d8Bb$d9BcAd@BcBd$BcPeABcQeBBcSeCBcWeDBcXeEBcYeFBcZeGBc6eHBc7eIBc8eJBc9BBc@@dXzCdZhZd6h6d7h7d9b6d@h8d$h9eAh@eBh$eCb$eFcAeJiAeKcCeLcDfNiBfOiCfPiDfTiEfUiFfViGfWiHfXiIfYiJfZiKf9iLf@iMf$iNgAiOgFiPgGiQ9dUBIdVBOKBPdWBTNBUOBVQBYRB6SB7dXB8dYBb7dZBb8d6Bb9d7Bb@d8Bb$d9BcAd@BcBd$BcPeABcQeBBcSeCBcWeDBcXeEBcYeFBcZeGBc6eHBc7eIBc8eJBc9BBc@@dXzDdZhZd6h6d7h7d9b6d@h8d$h9eAh@eBh$eCb$eFcAeJiAeKcCeLcDfNiBfOiCfPiDfTiEfUiFfViGfWiHfXiIfYiJfZiKf9iLf@iMf$iNgAiOgFiPgGiQ9dUBIdVBOKBPdWBTNBUOBVQBYRB6SB7dXB8dYBb7dZBb8d6Bb9d7Bb@d8Bb$d9BcAd@BcBd$BcPeABcQeBBcSeCBcWeDBcXeEBcYeFBcZeGBc6eHBc7eIBc8eJBc9BBc@@dXzEdZhZd6h6d7h7d9b6d@h8d$h9eAh@eBh$eCb$eFcAeJiAeKcCeLcDfNiBfOiCfPiDfTiEfUiFfViGfWiHfXiIfYiJfZiKf9iLf@iMf$iNgAiOgFiPgGiQ9dUBIdVBOKBPdWBTNBUOBVQBYRB6SB7dXB8dYBb7dZBb8d6Bb9d7Bb@d8Bb$d9BcAd@BcBd$BcPeABcQeBBcSeCBcWeDBcXeEBcYeFBcZeGBc6eHBc7eIBc8eJBc9BBc@@dXzFdZhZd6h6d7h7d9b6d@h8d$h9eAh@eBh$eCb$eFcAeJiAeKcCeLcDfNiBfOiCfPiDfTiEfUiFfViGfWiHfXiIfYiJfZiKf9iLf@iMf$iNgAiOgFiPgGiQ9dUBIdVBOKBPdWBTNBUOBVQBYRB6SB7dXB8dYBb7dZBb8d6Bb9d7Bb@d8Bb$d9BcAd@BcBd$BcPeABcQeBBcSeCBcWeDBcXeEBcYeFBcZeGBc6eHBc7eIBc8eJBc9BBc@@dXzGdZhZd6h6d7h7d9b6d@h8d$h9eAh@eBh$eCb$eFcAeJiAeKcCeLcDfNiBfOiCfPiDfTiEfUiFf" ++
  "ViGfWiHfXiIfYiJfZiKf9iLf@iMf$iNgAiOgFiPgGiQ9dUBIdVBOKBPdWBTNBUOBVQBYRB6SB7dXB8dYBb7dZBb8d6Bb9d7Bb@d8Bb$d9BcAd@BcBd$BcPeABcQeBBcSeCBcWeDBcXeEBcYeFBcZeGBc6eHBc7eIBc8eJBc9BBc@@dXzHdZhZd6h6d7h7d9b6d@h8d$h9eAh@eBh$eCb$eFcAeJiAeKcCeLcDfNiBfOiCfPiDfTiEfUiFfViGfWiHfXiIfYiJfZiKf9iLf@iMf$iNgAiOgFiPgGiQ9dUBIdVBOKBPdWBTNBUOBVQBYRB6SB7dXB8dYBb7dZBb8d6Bb9d7Bb@d8Bb$d9BcAd@BcBd$BcPeABcQeBBcSeCBcWeDBcXeEBcYeFBcZeGBc6eHBc7eIBc8eJBc9BBc@@dXzIdZhZd6h6d7h7d9b6d@h8d$h9eAh@eBh$eCb$eFcAeJiAeKcCeLcDfNiBfOiCfPiDfTiEfUiFfViGfWiHfXiIfYiJfZiKf9iLf@iMf$iNgAiOgFiPgGiQ9dUBIdVBOKBPdWBTNBUOBVQBYRB6SB7dXB8dYBb7dZBb8d6Bb9d7Bb@d8Bb$d9BcAd@BcBd$BcPeABcQeBBcSeCBcWeDBcXeEBcYeFBcZeGBc6eHBc7eIBc8eJBc9BBc@@dXzJdZhZd6h6d7h7d9b6d@h8d$h9eAh@eBh$eCb$eFcAeJiAeKcCeLcDfNiBfOiCfPiDfTiEfUiFfViGfWiHfXiIfYiJfZiKf9iLf@iMf$iNgAiOgFiPgGiQ9bXBIbYBOKBPhVBTNBUOBVQBYRB6SB7b6B8b7Bb7b8Bb8b9Bb9b@Bb@b$Bb$cABcAcBBcBhWBcPcDBcQcEBcScFBcWcGBcXcHBcYcIBcZcJBc6cKBc7cLBc8cMBc9BBc@9dZfXd6fYd7eOd9b6d@ePd$eQeAeReBeSeCb$eFcAeJeTeKcCeLcDfNzKfOeVfPeWfTeXfUeYfVeZfWe6fXe7fYe8fZe9f9e@f@e$f$fAgAfBgFfCgGfDMdBBIi9BOi@BPi$BTNBUOBVQBYjAB6jBB7jCB8jDBcPBBc@NdZzLd6zMd7gNd9b6d@gOeAgPeBgQeCqCeFcAeJgReKcCeLcDgAqD9bXBIbYBOKBPhVBTNBUOBVQBYRB6SB7b6B8b7Bb7b8Bb8b9Bb9b@Bb@b$Bb$cABcAcBBcBhWBcPcDBcQcEBcScFBcWcGBcXcHBcYcIBcZcJBc6cKBc7cLBc8cMBc9BBc@9dZfXd6fYd7eOd9b6d@ePd$eQeAeReBeSeCb$eFcAeJeTeKcCeLcDfNzNfOeVfPeWfTeXfUeYfVeZfWe6fXe7fYe8fZe9f9e@f@e$f$fAgAfBgFfCgGfDMdBBIi9BOi@BPi$BTNBUOBVQBYjAB6jBB7jCB8jDBcPBBc@NdZzOd6zPd7gNd9b6d@gOeAgPeBgQeCqCeFcAeJgReKcCeLcDgAqDCpCbNBBBDCDBDEECDBBBBBBBBBBBBBBOBEBCBBBBBBBBBBBBBBBBc@ACpCbNBBBDCDBDEECDBBBBBBBBBBBBBBOBEBCBBBBBBBBBBBBBBBBc@ACpCbNBBBDCDBDEECDBBBBBBBBBBBBBBOBEBCBBBBBBBBBBBBBBBBc@ACpCbNBBBDCDBDEECDBBBBBBBBBBBBBBOBEBCBBBBBBBBBBBBBBBBc@ACpCbNBBBDCDBDEECDBBBBBBBBBBBBBBOBEBCBBBBBBBBBBBBBBBBc@ACpDJIBCBDBGDSBBc@ACpCbNBBBDCDBDEECDBBBBBBBBBBBBBBOBEBCBBBBBBBBBBBBBBBBc@ACpBbPACCBDCDBBDBBBBCCBBQBBBBBBBCCDBBBBBBBOBCEBBBBBBBBBc@ACpBbPACCBDCDBBDBBBBCCBBQBBBBBBBCCDBBBBBBBOBCEBBBBBBBBBc@ACpBbPACCBDCDBBDBBBBCCBBQBBBBBBBCCDBBBBBBBOBCEBBBBBBBBBc@ADpEBIpFBcPBBc@A@bXBIpGBJbYBOKBPhVBTNBUOBVQBYRB6SB7b6B8b7Bb7b8Bb8b9Bb9b@Bb@b$Bb$cABcAcBBcBhWBcPcDBcQcEBcScFBcWcGBcXcHBcYcIBcZcJBc6cKBc7cLBc8cMBc9BBc@@dZfXd6fYd7eOd9b6d@ePd$eQeAeReBeSeCb$eFcAeJeTeKcCeLcDfNzTfOeVfPeWfQzUfTeXfUeYfVeZfWe6fXe7fYe8fZe9f9e@f@e$f$fAgAfBgFfCgGfD9pHBIpIBOKBPpJBTNBUOBVQBYRB6SB7pKB8pLBb7pMBb8pNBb9pOBb@pPBb$pQBcApRBcBpSBcPpTBcQpUBcSpVBcWpWBcXpXBcYpYBcZpZBc6p6Bc7p7Bc8p8Bc9BBc@9dZ0Ld60Md70Nd9b6d@0Od$0PeA0QeB0ReCb$eFcAeJ0SeKcCeLcDfN0TfO0UfP0VfT0WfU0XfV0YfW0ZfX06fY07fZ08f909f@0@f$0$gA1AgF1BgG1C@bXBIbYBOKBPp9BTNBUOBVQBYRB6SB7cWB8p@BbLb7Bb7b8Bb8cXBb9cYBb@cZBb$c6BcAc7BcBp$BcPcDBcQcEBcScFBcWcGBcXcHBcYcIBcZcJBc6cKBc7cLBc8cMBc9BBc@@dZ1Gd61Hd7eOd9b6d@ePd$eQeAeReBeSeCb$eFcAeIySeJeTeKcCeLcDfN1IfOeVfPeWfTeXfUeYfVeZfWe6fXe7fYe8fZe9f9e@f@e$f$fAgAfBgFfCgGfD9GBIc@BOKBPMBTNBUOBVQBYRB6SB7TB8$Bb7bABb8bBBb9bCBb@bDBb$bEBcAbFBcBc$BcPbHBcQbIBcSbJBcWbKBcXbLBcYbMBcZbNBc6bOBc7bPBc8bQBc9BBc@9dZbXd6bYd7bZd9b6d@b7d$b8eAb9eBb@eCb$eFcAeJcBeKcCeLcDfN1JfOc8fPc9fTc@fUc$fVdAfWdBfXdCfYdDfZdEf9dFf@dGf$dHgAdIgFdJgGdK9GBIc@BOKBPMBTNBUOBVQBYRB6SB7TB8$Bb7bABb8bBBb9bCBb@bDBb$bEBcAbFBcBc$BcPbHBcQbIBcSbJBcWbKBcXbLBcYbMBcZbNBc6bOBc7bPBc8bQBc9BBc@9dZbXd6bYd7bZd9b6d@b7d$b8eAb9eBb@eCb$eFcAeJcBeKcCeLcDfN1KfOc8fPc9fTc@fUc$fVdAfWdBfXdCfYdDfZdEf9dFf@dGf$dHgAdIgFdJgGdK9dUBIdVBOKBPdWBTNBUOBVQBYRB6SB7dXB8dYBb7dZBb8d6Bb9d7Bb@d8Bb$d9BcAd@BcBd$BcPeABcQeBBcSeCBcWeDBcXeEBcYeFBcZeGBc6eHBc7eIBc8eJBc9BBc@9dZhZd6h6d7h7d9b6d@h8d$h9eAh@eBh$eCb$eFcAeJiAeKcCeLcDfN1LfOiCfPiDfTiEfUiFfViGfWiHfXiIfYiJfZiKf9iLf@iMf$iNgAiOgFiPgGiQCqAGBBBUbBBBBc@ACqBGBBBUbBBBBc@A9GBIc@BOKBPMBTNBUOBVQBYRB6SB7TB8$Bb7bABb8bBBb9bCBb@bDBb$bEBcAbFBcBc$BcPbHBcQbIBcSbJBcWbKBcXbLBcYbMBcZbNBc6bOBc7bPBc8bQBc9BBc@9dZbXd6bYd7bZd9b6d@b7d$b8eAb9eBb@eCb$eFcAeJcBeKcCeLcDfN1MfOc8fPc9fTc@fUc$fVdAfWdBfXdCfYdDfZdEf9dFf@dGf$dHgAdIgFdJgGdK9GBIc@BOKBPMBTNBUOBVQBYRB6SB7TB8$Bb7bABb8bBBb9bCBb@bDBb$bEBcAbFBcBc$BcPbHBcQbIBcSbJBcWbKBcXbLBcYbMBcZbNBc6bOBc7bPBc8bQBc9BBc@9dZbXd6bYd7bZd9b6d@b7d$b8eAb9eBb@eCb$eFcAeJcBeKcCeLcDfN1NfOc8fPc9fTc@fUc$fVdAfWdBfXdCfYdDfZdEf9dF" ++
  "f@dGf$dHgAdIgFdJgGdK9GBIc@BOKBPMBTNBUOBVQBYRB6SB7TB8$Bb7bABb8bBBb9bCBb@bDBb$bEBcAbFBcBc$BcPbHBcQbIBcSbJBcWbKBcXbLBcYbMBcZbNBc6bOBc7bPBc8bQBc9BBc@9dZbXd6bYd7bZd9b6d@b7d$b8eAb9eBb@eCb$eFcAeJcBeKcCeLcDfN1OfOc8fPc9fTc@fUc$fVdAfWdBfXdCfYdDfZdEf9dFf@dGf$dHgAdIgFdJgGdK9GBIc@BOKBPMBTNBUOBVQBYRB6SB7TB8$Bb7bABb8bBBb9bCBb@bDBb$bEBcAbFBcBc$BcPbHBcQbIBcSbJBcWbKBcXbLBcYbMBcZbNBc6bOBc7bPBc8bQBc9BBc@9dZbXd6bYd7bZd9b6d@b7d$b8eAb9eBb@eCb$eFcAeJcBeKcCeLcDfN1PfOc8fPc9fTc@fUc$fVdAfWdBfXdCfYdDfZdEf9dFf@dGf$dHgAdIgFdJgGdK9GBIc@BOKBPMBTNBUOBVQBYRB6SB7TB8$Bb7bABb8bBBb9bCBb@bDBb$bEBcAbFBcBc$BcPbHBcQbIBcSbJBcWbKBcXbLBcYbMBcZbNBc6bOBc7bPBc8bQBc9BBc@9dZbXd6bYd7bZd9b6d@b7d$b8eAb9eBb@eCb$eFcAeJcBeKcCeLcDfN1QfOc8fPc9fTc@fUc$fVdAfWdBfXdCfYdDfZdEf9dFf@dGf$dHgAdIgFdJgGdK9GBIc@BOKBPMBTNBUOBVQBYRB6SB7TB8$Bb7bABb8bBBb9bCBb@bDBb$bEBcAbFBcBc$BcPbHBcQbIBcSbJBcWbKBcXbLBcYbMBcZbNBc6bOBc7bPBc8bQBc9BBc@9dZbXd6bYd7bZd9b6d@b7d$b8eAb9eBb@eCb$eFcAeJcBeKcCeLcDfN1RfOc8fPc9fTc@fUc$fVdAfWdBfXdCfYdDfZdEf9dFf@dGf$dHgAdIgFdJgGdK9GBIc@BOKBPMBTNBUOBVQBYRB6SB7TB8$Bb7bABb8bBBb9bCBb@bDBb$bEBcAbFBcBc$BcPbHBcQbIBcSbJBcWbKBcXbLBcYbMBcZbNBc6bOBc7bPBc8bQBc9BBc@9dZbXd6bYd7bZd9b6d@b7d$b8eAb9eBb@eCb$eFcAeJcBeKcCeLcDfN1SfOc8fPc9fTc@fUc$fVdAfWdBfXdCfYdDfZdEf9dFf@dGf$dHgAdIgFdJgGdK9GBIc@BOKBPMBTNBUOBVQBYRB6SB7TB8$Bb7bABb8bBBb9bCBb@bDBb$bEBcAbFBcBc$BcPbHBcQbIBcSbJBcWbKBcXbLBcYbMBcZbNBc6bOBc7bPBc8bQBc9BBc@9dZbXd6bYd7bZd9b6d@b7d$b8eAb9eBb@eCb$eFcAeJcBeKcCeLcDfN1TfOc8fPc9fTc@fUc$fVdAfWdBfXdCfYdDfZdEf9dFf@dGf$dHgAdIgFdJgGdK9GBIc@BOKBPMBTNBUOBVQBYRB6SB7TB8$Bb7bABb8bBBb9bCBb@bDBb$bEBcAbFBcBc$BcPbHBcQbIBcSbJBcWbKBcXbLBcYbMBcZbNBc6bOBc7bPBc8bQBc9BBc@9dZbXd6bYd7bZd9b6d@b7d$b8eAb9eBb@eCb$eFcAeJcBeKcCeLcDfN1UfOc8fPc9fTc@fUc$fVdAfWdBfXdCfYdDfZdEf9dFf@dGf$dHgAdIgFdJgGdK9GBIc@BOKBPMBTNBUOBVQBYRB6SB7TB8$Bb7bABb8bBBb9bCBb@bDBb$bEBcAbFBcBc$BcPbHBcQbIBcSbJBcWbKBcXbLBcYbMBcZbNBc6bOBc7bPBc8bQBc9BBc@9dZbXd6bYd7bZd9b6d@b7d$b8eAb9eBb@eCb$eFcAeJcBeKcCeLcDfN1VfOc8fPc9fTc@fUc$fVdAfWdBfXdCfYdDfZdEf9dFf@dGf$dHgAdIgFdJgGdK9GBIc@BOKBPMBTNBUOBVQBYRB6SB7TB8$Bb7bABb8bBBb9bCBb@bDBb$bEBcAbFBcBc$BcPbHBcQbIBcSbJBcWbKBcXbLBcYbMBcZbNBc6bOBc7bPBc8bQBc9BBc@9dZbXd6bYd7bZd9b6d@b7d$b8eAb9eBb@eCb$eFcAeJcBeKcCeLcDfN1WfOc8fPc9fTc@fUc$fVdAfWdBfXdCfYdDfZdEf9dFf@dGf$dHgAdIgFdJgGdK9GBIc@BOKBPMBTNBUOBVQBYRB6SB7TB8$Bb7bABb8bBBb9bCBb@bDBb$bEBcAbFBcBc$BcPbHBcQbIBcSbJBcWbKBcXbLBcYbMBcZbNBc6bOBc7bPBc8bQBc9BBc@9dZbXd6bYd7bZd9b6d@b7d$b8eAb9eBb@eCb$eFcAeJcBeKcCeLcDfN1XfOc8fPc9fTc@fUc$fVdAfWdBfXdCfYdDfZdEf9dFf@dGf$dHgAdIgFdJgGdK9GBIc@BOKBPMBTNBUOBVQBYRB6SB7TB8$Bb7bABb8bBBb9bCBb@bDBb$bEBcAbFBcBc$BcPbHBcQbIBcSbJBcWbKBcXbLBcYbMBcZbNBc6bOBc7bPBc8bQBc9BBc@9dZbXd6bYd7bZd9b6d@b7d$b8eAb9eBb@eCb$eFcAeJcBeKcCeLcDfN1YfOc8fPc9fTc@fUc$fVdAfWdBfXdCfYdDfZdEf9dFf@dGf$dHgAdIgFdJgGdK9GBIc@BOKBPMBTNBUOBVQBYRB6SB7TB8$Bb7bABb8bBBb9bCBb@bDBb$bEBcAbFBcBc$BcPbHBcQbIBcSbJBcWbKBcXbLBcYbMBcZbNBc6bOBc7bPBc8bQBc9BBc@9dZbXd6bYd7bZd9b6d@b7d$b8eAb9eBb@eCb$eFcAeJcBeKcCeLcDfN1ZfOc8fPc9fTc@fUc$fVdAfWdBfXdCfYdDfZdEf9dFf@dGf$dHgAdIgFdJgGdK9GBIc@BOKBPMBTNBUOBVQBYRB6SB7TB8$Bb7bABb8bBBb9bCBb@bDBb$bEBcAbFBcBc$BcPbHBcQbIBcSbJBcWbKBcXbLBcYbMBcZbNBc6bOBc7bPBc8bQBc9BBc@9dZbXd6bYd7bZd9b6d@b7d$b8eAb9eBb@eCb$eFcAeJcBeKcCeLcDfN16fOc8fPc9fTc@fUc$fVdAfWdBfXdCfYdDfZdEf9dFf@dGf$dHgAdIgFdJgGdK9GBIc@BOKBPMBTNBUOBVQBYRB6SB7TB8$Bb7bABb8bBBb9bCBb@bDBb$bEBcAbFBcBc$BcPbHBcQbIBcSbJBcWbKBcXbLBcYbMBcZbNBc6bOBc7bPBc8bQBc9BBc@9dZbXd6bYd7bZd9b6d@b7d$b8eAb9eBb@eCb$eFcAeJcBeKcCeLcDfN17fOc8fPc9fTc@fUc$fVdAfWdBfXdCfYdDfZdEf9dFf@dGf$dHgAdIgFdJgGdK9GBIc@BOKBPMBTNBUOBVQBYRB6SB7TB8$Bb7bABb8bBBb9bCBb@bDBb$bEBcAbFBcBc$BcPbHBcQbIBcSbJBcWbKBcXbLBcYbMBcZbNBc6bOBc7bPBc8bQBc9BBc@9dZbXd6bYd7bZd9b6d@b7d$b8eAb9eBb@eCb$eFcAeJcBeKcCeLcDfN18fOc8fPc9fTc@fUc$fVdAfWdBfXdCfYdDfZdEf9dFf@dGf$dHgAdIgFdJgGdKCgWBIBBc@BfS19CoXbNBBBDCDBDEECDBBBBBBBBBBBBBBOBEBCBBBBBBBBBBBBBBBBc@ADgXBLqCNMRDBBBBBBBBBBBBc@BgR1@CpDJIBCBDBGDSBBc@ACpCbNBBBDCDBDEECDBBBBBBBBBBBBBBOBEBCBBBBBBBBBBBBBBBBc@AFqDBAfQBBfRBCfSBDBBc@AFqDBAfTBBfUBCfVBDBBc@AFqDBAfXBBfYBCfZBDBBc@AFqDBAf6BBf7BCf8BDBBc@AbQpBBAqEBCqFBEqGBFqHBIqIBKqJBNqKBOqLBPqMBSqNBTqOBUqPBVqQBWqRBYqSB6qTB7qUB8qVBbMqWBbNqXBbOq" ++
  "YBbPqZBbQq6BbRq7BbSq8BbTq9BbVq@BbXq$Bb6rABb7rBBb8rCBb9rDBb@rEBb$rFBcArGBcBrHBcPrIBcQrJBcSrKBcWrLBcXrMBcYrNBcZrOBc6rPBc7rQBc8rRBc9BBc@b@dB1$dC2AdGbTdHbTdJbTdM2BdN2CdUbTdXbWdZbXd6bYd7bZd9b6d@b7d$b8eAb9eBb@eCb$eFcAeJcBeKcCeLcDeMcEeOcFePcGeQcHeRcIeScJeUcKeVcLeWcMeXcNeYcOe6cPe7cQe8cRe9cSe@cTe$cUfAcVfBcWfCcXfFcYfIcZfLc6fNc7fOc8fPc9fTc@fUc$fVdAfWdBfXdCfYdDfZdEf9dFf@dGf$dHgAdIgFdJgGdKgHnSCrSFABBBGBBc@ACrSFABBBGBBc@ACrTEABBBBBc@AFrUBBrVBCrWBDrXBJBBc@BgI2HCrYFABBBGBBc@ACrYFABBBGBBc@ACrSFABBBGBBc@ACrSFABBBGBBc@AYiCBGiDBIrZBJiFBPiGBTiHBZiIBb9iJBb@iKBcAiLBcBiMBcCiNBcDiOBcEiPBcFiQBcGiRBcHiSBcIiTBcJiUBcKiVBcLiWBcMiXBcNiYBcOBBc@Cd8pRfSpSOcRBIr6EJCFJdCBOdDBPdEBTNBUOBVr7BWQBYRB6SB7dFB8dGBcPBBc@OdQ2Kd62Ld7gNd9b6d@gOeAgPeBgQeCb$eFcAeJgReKcCeLcDeM2MgAgSFkV9CHCBEBCDBCEOSBCBBBBBBBBBBBBBBiCBGiDBIiFBPBBc@Cd8pRfSpS9bXBIbYBOKBPhVBTNBUOBVQBYRB6SB7b6B8b7Bb7b8Bb8b9Bb9b@Bb@b$Bb$cABcAcBBcBhWBcPcDBcQcEBcScFBcWcGBcXcHBcYcIBcZcJBc6cKBc7cLBc8cMBc9BBc@9dZgAd6gBd7eOd9b6d@ePd$eQeAeReBeSeCb$eFcAeJeTeKcCeLcDfNn9fOeVfPeWfTeXfUeYfVeZfWe6fXe7fYe8fZe9f9e@f@e$f$fAgAfBgFfCgGfDGfGBGfHBIfEWJCGCGbEBCBBBBBBBBBBBBBBfIBPhYBWBBc@Cd8lDf6oKFkV9CHCBEBCDBCEOSBCBBBBBBBBBBBBBBiCBGiDBIiFBPBBc@Cd8pRfSpSNdBBIr8BJi9BOi@BPi$BTNBUOBVQBYjAB6jBB7jCB8jDBcPBBc@NdZ2Od62Pd7gNd9b6d@gOeAgPeBgQeCqCeFcAeJgReKcCeLcDgAqDCoXbACECBCBDBBCDBCEOSBCBBBBBBBBBBBBBBBBc@ACoXbACECBCBDBBCDBCEOSBCBBBBBBBBBBBBBBBBc@AFkV9CHCBEBCDBCEOSBCBBBBBBBBBBBBBBiCBGiDBIiFBPBBc@Cd8pRfSpSFkV9CHCBEBCDBCEOSBCBBBBBBBBBBBBBBiCBGiDBIiFBPBBc@Cd8pRfSpSFkV9CHCBEBCDBCEOSBCBBBBBBBBBBBBBBiCBGiDBIiFBPBBc@Cd8pRfSpSFkV9CHCBEBCDBCEOSBCBBBBBBBBBBBBBBiCBGiDBIiFBPBBc@Cd8pRfSpSFkV9CHCBEBCDBCEOSBCBBBBBBBBBBBBBBiCBGiDBIiFBPBBc@Cd8pRfSpSbAbXBIr9BLbYBOKBPcVBTNBUOBVhYBWr@BXQBYRB6SB7cWB8b7Bb7b8Bb8cXBb9cYBb@cZBb$c6BcAc7BcBcCBcPcDBcQcEBcScFBcWcGBcXcHBcYcIBcZcJBc6cKBc7cLBc8cMBc9BBc@bAdZfXd6fYd7eOd9b6d@ePd$eQeAeReBeSeCb$eFcAeJeTeKcCeLcDfNyVfOeVfPeWfTeXfUeYfVeZfWe6fXe7fYe8fZe9f6yWf72Sf82Tf9e@f@e$f$fAgAfBgFfCgGfDCo8bACECBCBDBBCDBCEOSBCBBBBBBBBBBBBBBBBc@ACr$BcQBBc@ADo@CcTCsABcUBBc@Bg@y7CpAbACECBCBDBBCDBCEOSBCBBBBBBBBBBBBBBBBc@A9bXBIbYBOKBPhVBTNBUOBVQBYRB6SB7b6B8b7Bb7b8Bb8b9Bb9b@Bb@b$Bb$cABcAcBBcBhWBcPcDBcQcEBcScFBcWcGBcXcHBcYcIBcZcJBc6cKBc7cLBc8cMBc9BBc@9dZfXd6fYd7eOd9b6d@ePd$eQeAeReBeSeCb$eFcAeJeTeKcCeLcDfN2WfOeVfPeWfTeXfUeYfVeZfWe6fXe7fYe8fZe9f9e@f@e$f$fAgAfBgFfCgGfDCsBJIBCBDBGDSBBc@AMdBBIi9BOi@BPi$BTNBUOBVQBYjAB6jBB7jCB8jDBcPBBc@NdZ2Xd62Yd7gNd9b6d@gOeAgPeBgQeCqCeFcAeJgReKcCeLcDgAqD9bXBIbYBOKBPhVBTNBUOBVQBYRB6SB7b6B8b7Bb7b8Bb8b9Bb9b@Bb@b$Bb$cABcAcBBcBhWBcPcDBcQcEBcScFBcWcGBcXcHBcYcIBcZcJBc6cKBc7cLBc8cMBc9BBc@9dZfXd6fYd7eOd9b6d@ePd$eQeAeReBeSeCb$eFcAeJeTeKcCeLcDfN2ZfOeVfPeWfTeXfUeYfVeZfWe6fXe7fYe8fZe9f9e@f@e$f$fAgAfBgFfCgGfDCsBJIBCBDBGDSBBc@AMdBBIi9BOi@BPi$BTNBUOBVQBYjAB6jBB7jCB8jDBcPBBc@NdZ26d627d7gNd9b6d@gOeAgPeBgQeCqCeFcAeJgReKcCeLcDgAqDCpCbACECBCBDBBCDBCEOSBCBBBBBBBBBBBBBBBBc@ACpCbACECBCBDBBCDBCEOSBCBBBBBBBBBBBBBBBBc@ACpCbACECBCBDBBCDBCEOSBCBBBBBBBBBBBBBBBBc@ACpCbACECBCBDBBCDBCEOSBCBBBBBBBBBBBBBBBBc@ACpCbACECBCBDBBCDBCEOSBCBBBBBBBBBBBBBBBBc@ACpCbACECBCBDBBCDBCEOSBCBBBBBBBBBBBBBBBBc@ADsCBIsDBcPBBc@A@bXBIsEBJbYBOKBPhVBTNBUOBVQBYRB6SB7b6B8b7Bb7b8Bb8b9Bb9b@Bb@b$Bb$cABcAcBBcBhWBcPcDBcQcEBcScFBcWcGBcXcHBcYcIBcZcJBc6cKBc7cLBc8cMBc9BBc@@dZfXd6fYd7eOd9b6d@ePd$eQeAeReBeSeCb$eFcAeJeTeKcCeLcDfN2$fOeVfPeWfQ3AfTeXfUeYfVeZfWe6fXe7fYe8fZe9f9e@f@e$f$fAgAfBgFfCgGfDCsFbNBBBDCDBDEECDBBBBBBBBBBBBBBOBEBCBBBBBBBBBBBBBBBBc@A@bXBIbYBOKBPp9BTNBUOBVQBYRB6SB7cWB8sGBbLb7Bb7b8Bb8cXBb9cYBb@cZBb$c6BcAc7BcBp$BcPcDBcQcEBcScFBcWcGBcXcHBcYcIBcZcJBc6cKBc7cLBc8cMBc9BBc@@dZ1Gd61Hd7eOd9b6d@ePd$eQeAeReBeSeCb$eFcAeIySeJeTeKcCeLcDfN3CfOeVfPeWfTeXfUeYfVeZfWe6fXe7fYe8fZe9f9e@f@e$f$fAgAfBgFfCgGfD9bXBIbYBOKBPhVBTNBUOBVQBYRB6SB7b6B8b7Bb7b8Bb8b9Bb9b@Bb@b$Bb$cABcAcBBcBhWBcPcDBcQcEBcScFBcWcGBcXcHBcYcIBcZcJBc6cKBc7cLBc8cMBc9BBc@9dZfXd6fYd7eOd9b6d@ePd$eQeAeReBeSeCb$eFcAeJeTeKcCeLcDfN3DfOeVfPeWfTeXfUeYfVeZfWe6fXe7fYe8fZe9f9e@f@e$f$fAgAfBgFfCgGfD9bXBIbYBOKBPhVBTNBUOBVQBYRB6SB7b6B8b7Bb7b8Bb8b9Bb9b@Bb@b$Bb$cABcAcBBcBhWBcPcDBcQcEBcScFBcWcGBcXcHBcYcIBcZcJBc6cKBc7cLBc8cMBc9BBc@9dZfXd6fYd7eOd9b6d@ePd$eQeAeReBeSeCb$eFc" ++
  "AeJeTeKcCeLcDfN3EfOeVfPeWfTeXfUeYfVeZfWe6fXe7fYe8fZe9f9e@f@e$f$fAgAfBgFfCgGfD9bXBIbYBOKBPhVBTNBUOBVQBYRB6SB7b6B8b7Bb7b8Bb8b9Bb9b@Bb@b$Bb$cABcAcBBcBhWBcPcDBcQcEBcScFBcWcGBcXcHBcYcIBcZcJBc6cKBc7cLBc8cMBc9BBc@9dZfXd6fYd7eOd9b6d@ePd$eQeAeReBeSeCb$eFcAeJeTeKcCeLcDfN3FfOeVfPeWfTeXfUeYfVeZfWe6fXe7fYe8fZe9f9e@f@e$f$fAgAfBgFfCgGfD9bXBIbYBOKBPhVBTNBUOBVQBYRB6SB7b6B8b7Bb7b8Bb8b9Bb9b@Bb@b$Bb$cABcAcBBcBhWBcPcDBcQcEBcScFBcWcGBcXcHBcYcIBcZcJBc6cKBc7cLBc8cMBc9BBc@9dZfXd6fYd7eOd9b6d@ePd$eQeAeReBeSeCb$eFcAeJeTeKcCeLcDfN3GfOeVfPeWfTeXfUeYfVeZfWe6fXe7fYe8fZe9f9e@f@e$f$fAgAfBgFfCgGfD9bXBIbYBOKBPhVBTNBUOBVQBYRB6SB7b6B8b7Bb7b8Bb8b9Bb9b@Bb@b$Bb$cABcAcBBcBhWBcPcDBcQcEBcScFBcWcGBcXcHBcYcIBcZcJBc6cKBc7cLBc8cMBc9BBc@9dZfXd6fYd7eOd9b6d@ePd$eQeAeReBeSeCb$eFcAeJeTeKcCeLcDfN3HfOeVfPeWfTeXfUeYfVeZfWe6fXe7fYe8fZe9f9e@f@e$f$fAgAfBgFfCgGfD9bXBIbYBOKBPhVBTNBUOBVQBYRB6SB7b6B8b7Bb7b8Bb8b9Bb9b@Bb@b$Bb$cABcAcBBcBhWBcPcDBcQcEBcScFBcWcGBcXcHBcYcIBcZcJBc6cKBc7cLBc8cMBc9BBc@9dZfXd6fYd7eOd9b6d@ePd$eQeAeReBeSeCb$eFcAeJeTeKcCeLcDfN3IfOeVfPeWfTeXfUeYfVeZfWe6fXe7fYe8fZe9f9e@f@e$f$fAgAfBgFfCgGfD9bXBIbYBOKBPhVBTNBUOBVQBYRB6SB7b6B8b7Bb7b8Bb8b9Bb9b@Bb@b$Bb$cABcAcBBcBhWBcPcDBcQcEBcScFBcWcGBcXcHBcYcIBcZcJBc6cKBc7cLBc8cMBc9BBc@9dZfXd6fYd7eOd9b6d@ePd$eQeAeReBeSeCb$eFcAeJeTeKcCeLcDfN3JfOeVfPeWfTeXfUeYfVeZfWe6fXe7fYe8fZe9f9e@f@e$f$fAgAfBgFfCgGfD9bXBIbYBOKBPhVBTNBUOBVQBYRB6SB7b6B8b7Bb7b8Bb8b9Bb9b@Bb@b$Bb$cABcAcBBcBhWBcPcDBcQcEBcScFBcWcGBcXcHBcYcIBcZcJBc6cKBc7cLBc8cMBc9BBc@9dZfXd6fYd7eOd9b6d@ePd$eQeAeReBeSeCb$eFcAeJeTeKcCeLcDfN3KfOeVfPeWfTeXfUeYfVeZfWe6fXe7fYe8fZe9f9e@f@e$f$fAgAfBgFfCgGfD9bXBIbYBOKBPhVBTNBUOBVQBYRB6SB7b6B8b7Bb7b8Bb8b9Bb9b@Bb@b$Bb$cABcAcBBcBhWBcPcDBcQcEBcScFBcWcGBcXcHBcYcIBcZcJBc6cKBc7cLBc8cMBc9BBc@9dZfXd6fYd7eOd9b6d@ePd$eQeAeReBeSeCb$eFcAeJeTeKcCeLcDfN3LfOeVfPeWfTeXfUeYfVeZfWe6fXe7fYe8fZe9f9e@f@e$f$fAgAfBgFfCgGfD9bXBIbYBOKBPhVBTNBUOBVQBYRB6SB7b6B8b7Bb7b8Bb8b9Bb9b@Bb@b$Bb$cABcAcBBcBhWBcPcDBcQcEBcScFBcWcGBcXcHBcYcIBcZcJBc6cKBc7cLBc8cMBc9BBc@9dZfXd6fYd7eOd9b6d@ePd$eQeAeReBeSeCb$eFcAeJeTeKcCeLcDfN3MfOeVfPeWfTeXfUeYfVeZfWe6fXe7fYe8fZe9f9e@f@e$f$fAgAfBgFfCgGfD9bXBIbYBOKBPhVBTNBUOBVQBYRB6SB7b6B8b7Bb7b8Bb8b9Bb9b@Bb@b$Bb$cABcAcBBcBhWBcPcDBcQcEBcScFBcWcGBcXcHBcYcIBcZcJBc6cKBc7cLBc8cMBc9BBc@9dZfXd6fYd7eOd9b6d@ePd$eQeAeReBeSeCb$eFcAeJeTeKcCeLcDfN3NfOeVfPeWfTeXfUeYfVeZfWe6fXe7fYe8fZe9f9e@f@e$f$fAgAfBgFfCgGfD9bXBIbYBOKBPhVBTNBUOBVQBYRB6SB7b6B8b7Bb7b8Bb8b9Bb9b@Bb@b$Bb$cABcAcBBcBhWBcPcDBcQcEBcScFBcWcGBcXcHBcYcIBcZcJBc6cKBc7cLBc8cMBc9BBc@9dZfXd6fYd7eOd9b6d@ePd$eQeAeReBeSeCb$eFcAeJeTeKcCeLcDfN3OfOeVfPeWfTeXfUeYfVeZfWe6fXe7fYe8fZe9f9e@f@e$f$fAgAfBgFfCgGfD9bXBIbYBOKBPhVBTNBUOBVQBYRB6SB7b6B8b7Bb7b8Bb8b9Bb9b@Bb@b$Bb$cABcAcBBcBhWBcPcDBcQcEBcScFBcWcGBcXcHBcYcIBcZcJBc6cKBc7cLBc8cMBc9BBc@9dZfXd6fYd7eOd9b6d@ePd$eQeAeReBeSeCb$eFcAeJeTeKcCeLcDfN3PfOeVfPeWfTeXfUeYfVeZfWe6fXe7fYe8fZe9f9e@f@e$f$fAgAfBgFfCgGfD9bXBIbYBOKBPhVBTNBUOBVQBYRB6SB7b6B8b7Bb7b8Bb8b9Bb9b@Bb@b$Bb$cABcAcBBcBhWBcPcDBcQcEBcScFBcWcGBcXcHBcYcIBcZcJBc6cKBc7cLBc8cMBc9BBc@9dZfXd6fYd7eOd9b6d@ePd$eQeAeReBeSeCb$eFcAeJeTeKcCeLcDfN3QfOeVfPeWfTeXfUeYfVeZfWe6fXe7fYe8fZe9f9e@f@e$f$fAgAfBgFfCgGfD9bXBIbYBOKBPhVBTNBUOBVQBYRB6SB7b6B8b7Bb7b8Bb8b9Bb9b@Bb@b$Bb$cABcAcBBcBhWBcPcDBcQcEBcScFBcWcGBcXcHBcYcIBcZcJBc6cKBc7cLBc8cMBc9BBc@9dZfXd6fYd7eOd9b6d@ePd$eQeAeReBeSeCb$eFcAeJeTeKcCeLcDfN3RfOeVfPeWfTeXfUeYfVeZfWe6fXe7fYe8fZe9f9e@f@e$f$fAgAfBgFfCgGfD9bXBIbYBOKBPhVBTNBUOBVQBYRB6SB7b6B8b7Bb7b8Bb8b9Bb9b@Bb@b$Bb$cABcAcBBcBhWBcPcDBcQcEBcScFBcWcGBcXcHBcYcIBcZcJBc6cKBc7cLBc8cMBc9BBc@9dZfXd6fYd7eOd9b6d@ePd$eQeAeReBeSeCb$eFcAeJeTeKcCeLcDfN3SfOeVfPeWfTeXfUeYfVeZfWe6fXe7fYe8fZe9f9e@f@e$f$fAgAfBgFfCgGfD9bXBIbYBOKBPhVBTNBUOBVQBYRB6SB7b6B8b7Bb7b8Bb8b9Bb9b@Bb@b$Bb$cABcAcBBcBhWBcPcDBcQcEBcScFBcWcGBcXcHBcYcIBcZcJBc6cKBc7cLBc8cMBc9BBc@9dZfXd6fYd7eOd9b6d@ePd$eQeAeReBeSeCb$eFcAeJeTeKcCeLcDfN3TfOeVfPeWfTeXfUeYfVeZfWe6fXe7fYe8fZe9f9e@f@e$f$fAgAfBgFfCgGfD9bXBIbYBOKBPhVBTNBUOBVQBYRB6SB7b6B8b7Bb7b8Bb8b9Bb9b@Bb@b$Bb$cABcAcBBcBhWBcPcDBcQcEBcScFBcWcGBcXcHBcYcIBcZcJBc6cKBc7cLBc8cMBc9BBc@9dZfXd6fYd7eOd9b6d@ePd$eQeAeReBeSeCb$eFcAeJeTeKcCeLcDfN3UfOeVfPeWfTeXfUeYfVeZfWe6fXe7fYe8fZe9f9e@f@e$f$f" ++
  "AgAfBgFfCgGfD9bXBIbYBOKBPhVBTNBUOBVQBYRB6SB7b6B8b7Bb7b8Bb8b9Bb9b@Bb@b$Bb$cABcAcBBcBhWBcPcDBcQcEBcScFBcWcGBcXcHBcYcIBcZcJBc6cKBc7cLBc8cMBc9BBc@9dZfXd6fYd7eOd9b6d@ePd$eQeAeReBeSeCb$eFcAeJeTeKcCeLcDfN3VfOeVfPeWfTeXfUeYfVeZfWe6fXe7fYe8fZe9f9e@f@e$f$fAgAfBgFfCgGfDCiDBIBBc@BfS3WCoXbACECBCBDBBCDBCEOSBCBBBBBBBBBBBBBBBBc@ACpCbACECBCBDBBCDBCEOSBCBBBBBBBBBBBBBBBBc@ACsHGBBBUbBBBBc@AEsIBBsJBCsKBDBBc@ADsLBJcOBcPBBc@CdIpVgJ37CsMBcPBBc@A9dUBIdVBOKBPdWBTNBUOBVQBYRB6SB7dXB8dYBb7dZBb8d6Bb9d7Bb@d8Bb$d9BcAd@BcBd$BcPeABcQeBBcSeCBcWeDBcXeEBcYeFBcZeGBc6eHBc7eIBc8eJBc9BBc@@dX39dZhZd6h6d7h7d9b6d@h8d$h9eAh@eBh$eCb$eFcAeJiAeKcCeLcDfNiBfOiCfPiDfTiEfUiFfViGfWiHfXiIfYiJfZiKf9iLf@iMf$iNgAiOgFiPgGiQCcRBIBBc@BdQ3@@bXBIbYBOKBPsNBQcVBTNBUOBVQBYRB6SB7cWB8b7Bb7b8Bb8cXBb9cYBb@cZBb$c6BcAc7BcBcCBcPcDBcQcEBcScFBcWcGBcXcHBcYcIBcZcJBc6cKBc7cLBc8cMBc9BBc@9dZfXd6fYd7eOd9b6d@ePd$eQeAeReBeSeCb$eFcAeJeTeKcCeLcDfN4AfOeVfPeWfTeXfUeYfVeZfWe6fXe7fYe8fZe9f9e@f@e$f$fAgAfBgFfCgGfDMdBBIi9BOi@BPi$BTNBUOBVQBYjAB6jBB7jCB8jDBcPBBc@NdZs@d6s$d7gNd9b6d@gOeAgPeBgQeCqCeFcAeJgReKcCeLcDgAqDCsOBPBBc@AMdBBIi9BOi@BPi$BTNBUOBVQBYjAB6jBB7sPB8jDBcPBBc@NdZg7d6g8d7gNd9b6d@gOeAgPeBgQeCqCeFcAeJgReKcCeLcDgAqDCsQB7BBc@AEk7BGk8HJCBEGDSsRBPBBc@Bd8lDCsSBMBBc@ACsTBMBBc@ADgOHJCBEGDSsRBPBBc@Bd8mKDgOHJCBEGDSsRBPBBc@Bd8nMPsUGBBBUbBBdBBIi7BLsVBMi9BOi@BPi$BTNBUOBVQBYjAB6jBB7jCB8jDBcPBBc@OdZ4Hd64Id7gNd9b6d@gOeAgPeBgQeCqCeFcAeJgReKcCeLcDgAqDgK4JCsWGBBBUbBBBBc@AEsXBBsYBCsZBDBBc@ADs6BJcQBcPBBc@CdKqGgM4OMdBBIi9BOi@BPi$BTNBUOBVQBYjAB6jBB7jCB8jDBcPBBc@NdZ4Pd64Qd7gNd9b6d@gOeAgPeBgQeCqCeFcAeJgReKcCeLcDgAqDCs7BcPBBc@A9dUBIdVBOKBPdWBTNBUOBVQBYRB6SB7dXB8dYBb7dZBb8d6Bb9d7Bb@d8Bb$d9BcAd@BcBd$BcPeABcQeBBcSeCBcWeDBcXeEBcYeFBcZeGBc6eHBc7eIBc8eJBc9BBc@@dX4SdZhZd6h6d7h7d9b6d@h8d$h9eAh@eBh$eCb$eFcAeJiAeKcCeLcDfNiBfOiCfPiDfTiEfUiFfViGfWiHfXiIfYiJfZiKf9iLf@iMf$iNgAiOgFiPgGiQCjYBIBBc@BdQ4T@bXBIbYBOKBPs8BQcVBTNBUOBVQBYRB6SB7cWB8b7Bb7b8Bb8cXBb9cYBb@cZBb$c6BcAc7BcBcCBcPcDBcQcEBcScFBcWcGBcXcHBcYcIBcZcJBc6cKBc7cLBc8cMBc9BBc@9dZfXd6fYd7eOd9b6d@ePd$eQeAeReBeSeCb$eFcAeJeTeKcCeLcDfN4VfOeVfPeWfTeXfUeYfVeZfWe6fXe7fYe8fZe9f9e@f@e$f$fAgAfBgFfCgGfDMjGBIjJBOjKBPjLBTjMBUjNBVjOBYjPB6jQB7jRB8jSBcPBBc@NdZ4Wd64Xd7qXd9qYd@qZeAq6eBq7eCq8eFq9eJq@eKq$eLrAgArBCs9BWBBc@BeD4ZMjGBIs@BOs$BPtABTjMBUjNBVjOBYtBB6tCB7tDB8tEBcPBBc@NdZ5Bd65Cd7qXd9qYd@qZeAq6eBq7eC5DeFq9eJq@eKq$eLrAgA5ECtFBWBBc@ACtGBPBBc@AMjGBIjJBOjKBPjLBTjMBUjNBVjOBYjPB6jQB7tHB8jSBcPBBc@NdZ5Id65Jd7qXd9qYd@qZeAq6eBq7eCq8eFq9eJq@eKq$eLrAgArBCtIB7BBc@AEk8MABBBJKBC$BXCtJBGtKBPBBc@Bd85NDtLGBBBUbBBtMBMBBc@ADtLGBBBUbBBtNBMBBc@ACgONABBBJDHBC$BXCBBc@ACgONABBBJDHBC$BXCBBc@ACgONABBBJDHBC$BXCBBc@ACgONABBBJDHBC$BXCBBc@ACgONABBBJDHBC$BXCBBc@ADgOMABBBJKBC$BXCtKBPBBc@Bd85QCgONABBBJDHBC$BXCBBc@ACgONABBBJDHBC$BXCBBc@ACgONABBBJDHBC$BXCBBc@ACgONABBBJDHBC$BXCBBc@ADgOMABBBJKBC$BXCtKBPBBc@Bd85ROjGBIjHBLtOBMjJBOjKBPjLBTjMBUjNBVjOBYjPB6jQB7jRB8jSBcPBBc@OdZ5Td65Ud7qXd9qYd@qZeAq6eBq7eCq8eFq9eJq@eKq$eLrAgArBgL5VCtPSIBCBCBBDBBBCBBBBPbEBBc@ACtQBJBBc@AMdBBIi9BOi@BPi$BTNBUOBVQBYjAB6jBB7jCB8jDBcPBBc@NdZ5Xd65Yd7gNd9b6d@gOeAgPeBgQeCqCeFcAeJgReKcCeLcDgAqDQk7BGdBBIk8BJtRBLi9BOtSBPtTBRi$BTNBUOBVQBYjAB6jBB7jCB8jDBcPBBc@PdZ57d658d7gNd8lDd9b6d@gOeAgPeBgQeCqCeFcAeJgReKcCeLcDgAqDgL59DtUBJtVBLBBc@BgObaADtWBJtXBLBBc@BgObaDCtYCJCBBc@ACtYCJCBBc@APdBBItZBJt6BLi9BOi@BPjWBRi$BTNBUOBVQBYjAB6jBB7jCB8jXBcPBBc@PdRbaGdSbaHdZrJd6rKd7gNd9b6d@gOeAgPeBgQeCqCeFcAeJgReKcCeLcDgAqDCt7BcPBBc@BdPbaJCjYBIBBc@BdQbaKOt8EABBBjYBIjJBOjKBPjLBTjMBUjNBVPBWjOBYjPB6jQB7jRB8jSBcPBBc@OdQbaLd6baMd7qXd9qYd@qZeAq6eBq7eCq8eFq9eJq@eKq$eLrAeMbaNgArBFk7BGjYBIk9BPk8BWBBc@CdQbaOd8lDDt9CIHPBWBBc@BeMbaPDt9CIHPBWBBc@BeMbaQCt@bNBBBDCDBDEECDBBBBBBBBBBBBBBOBEBCBBBBBBBBBBBBBBBBc@ACt$JIBCBDBGDSBBc@ACt$JIBCBDBGDSBBc@AMdBBIi9BOi@BPi$BTNBUOBVQBYjAB6jBB7jCB8jDBcPBBc@NdZbaRd6baSd7gNd9b6d@gOeAgPeBgQeCqCeFcAeJgReKcCeLcDgAqDMdBBIdCBOdDBPdEBTNBUOBVQBYRB6SB7dFB8dGBcPBBc@NdZbaTd6baUd7gNd9b6d@gOeAgPeBgQeCb$eFcAeJgReKcCeLcDgAgS9bXBIbYBOKBPcVBTNBUOBVQBYRB6SB7cWB8b7Bb7b8Bb8cXBb9cYBb@cZBb$c6BcAc7BcBcCBcPcDBcQcEBcScFBcWcGBcXcHBcYcIBcZcJBc6cKBc7cLBc8cMBc9BBc@9dZfXd6fYd7eOd9b6d@ePd$eQeAeReBeSeCb$eFcAeJeTeKcCeLcDfN3Df" ++
  "OeVfPeWfTeXfUeYfVeZfWe6fXe7fYe8fZe9f9e@f@e$f$fAgAfBgFfCgGfD9bXBIbYBOKBPcVBTNBUOBVQBYRB6SB7cWB8b7Bb7b8Bb8cXBb9cYBb@cZBb$c6BcAc7BcBcCBcPcDBcQcEBcScFBcWcGBcXcHBcYcIBcZcJBc6cKBc7cLBc8cMBc9BBc@9dZfXd6fYd7eOd9b6d@ePd$eQeAeReBeSeCb$eFcAeJeTeKcCeLcDfNbaVfOeVfPeWfTeXfUeYfVeZfWe6fXe7fYe8fZe9f9e@f@e$f$fAgAfBgFfCgGfD9bXBIbYBOKBPcVBTNBUOBVQBYRB6SB7cWB8b7Bb7b8Bb8cXBb9cYBb@cZBb$c6BcAc7BcBcCBcPcDBcQcEBcScFBcWcGBcXcHBcYcIBcZcJBc6cKBc7cLBc8cMBc9BBc@9dZfXd6fYd7eOd9b6d@ePd$eQeAeReBeSeCb$eFcAeJeTeKcCeLcDfNbaWfOeVfPeWfTeXfUeYfVeZfWe6fXe7fYe8fZe9f9e@f@e$f$fAgAfBgFfCgGfD9bXBIbYBOKBPcVBTNBUOBVQBYRB6SB7cWB8b7Bb7b8Bb8cXBb9cYBb@cZBb$c6BcAc7BcBcCBcPcDBcQcEBcScFBcWcGBcXcHBcYcIBcZcJBc6cKBc7cLBc8cMBc9BBc@9dZfXd6fYd7eOd9b6d@ePd$eQeAeReBeSeCb$eFcAeJeTeKcCeLcDfNbaXfOeVfPeWfTeXfUeYfVeZfWe6fXe7fYe8fZe9f9e@f@e$f$fAgAfBgFfCgGfD9bXBIbYBOKBPcVBTNBUOBVQBYRB6SB7cWB8b7Bb7b8Bb8cXBb9cYBb@cZBb$c6BcAc7BcBcCBcPcDBcQcEBcScFBcWcGBcXcHBcYcIBcZcJBc6cKBc7cLBc8cMBc9BBc@9dZfXd6fYd7eOd9b6d@ePd$eQeAeReBeSeCb$eFcAeJeTeKcCeLcDfNbaYfOeVfPeWfTeXfUeYfVeZfWe6fXe7fYe8fZe9f9e@f@e$f$fAgAfBgFfCgGfD9bXBIbYBOKBPcVBTNBUOBVQBYRB6SB7cWB8b7Bb7b8Bb8cXBb9cYBb@cZBb$c6BcAc7BcBcCBcPcDBcQcEBcScFBcWcGBcXcHBcYcIBcZcJBc6cKBc7cLBc8cMBc9BBc@9dZfXd6fYd7eOd9b6d@ePd$eQeAeReBeSeCb$eFcAeJeTeKcCeLcDfN3IfOeVfPeWfTeXfUeYfVeZfWe6fXe7fYe8fZe9f9e@f@e$f$fAgAfBgFfCgGfD9bXBIbYBOKBPcVBTNBUOBVQBYRB6SB7cWB8b7Bb7b8Bb8cXBb9cYBb@cZBb$c6BcAc7BcBcCBcPcDBcQcEBcScFBcWcGBcXcHBcYcIBcZcJBc6cKBc7cLBc8cMBc9BBc@9dZfXd6fYd7eOd9b6d@ePd$eQeAeReBeSeCb$eFcAeJeTeKcCeLcDfN3JfOeVfPeWfTeXfUeYfVeZfWe6fXe7fYe8fZe9f9e@f@e$f$fAgAfBgFfCgGfD9bXBIbYBOKBPcVBTNBUOBVQBYRB6SB7cWB8b7Bb7b8Bb8cXBb9cYBb@cZBb$c6BcAc7BcBcCBcPcDBcQcEBcScFBcWcGBcXcHBcYcIBcZcJBc6cKBc7cLBc8cMBc9BBc@9dZfXd6fYd7eOd9b6d@ePd$eQeAeReBeSeCb$eFcAeJeTeKcCeLcDfN3KfOeVfPeWfTeXfUeYfVeZfWe6fXe7fYe8fZe9f9e@f@e$f$fAgAfBgFfCgGfD9bXBIbYBOKBPcVBTNBUOBVQBYRB6SB7cWB8b7Bb7b8Bb8cXBb9cYBb@cZBb$c6BcAc7BcBcCBcPcDBcQcEBcScFBcWcGBcXcHBcYcIBcZcJBc6cKBc7cLBc8cMBc9BBc@9dZfXd6fYd7eOd9b6d@ePd$eQeAeReBeSeCb$eFcAeJeTeKcCeLcDfN3LfOeVfPeWfTeXfUeYfVeZfWe6fXe7fYe8fZe9f9e@f@e$f$fAgAfBgFfCgGfD9bXBIbYBOKBPcVBTNBUOBVQBYRB6SB7cWB8b7Bb7b8Bb8cXBb9cYBb@cZBb$c6BcAc7BcBcCBcPcDBcQcEBcScFBcWcGBcXcHBcYcIBcZcJBc6cKBc7cLBc8cMBc9BBc@9dZfXd6fYd7eOd9b6d@ePd$eQeAeReBeSeCb$eFcAeJeTeKcCeLcDfN3MfOeVfPeWfTeXfUeYfVeZfWe6fXe7fYe8fZe9f9e@f@e$f$fAgAfBgFfCgGfD9bXBIbYBOKBPcVBTNBUOBVQBYRB6SB7cWB8b7Bb7b8Bb8cXBb9cYBb@cZBb$c6BcAc7BcBcCBcPcDBcQcEBcScFBcWcGBcXcHBcYcIBcZcJBc6cKBc7cLBc8cMBc9BBc@9dZfXd6fYd7eOd9b6d@ePd$eQeAeReBeSeCb$eFcAeJeTeKcCeLcDfN3NfOeVfPeWfTeXfUeYfVeZfWe6fXe7fYe8fZe9f9e@f@e$f$fAgAfBgFfCgGfD9bXBIbYBOKBPcVBTNBUOBVQBYRB6SB7cWB8b7Bb7b8Bb8cXBb9cYBb@cZBb$c6BcAc7BcBcCBcPcDBcQcEBcScFBcWcGBcXcHBcYcIBcZcJBc6cKBc7cLBc8cMBc9BBc@9dZfXd6fYd7eOd9b6d@ePd$eQeAeReBeSeCb$eFcAeJeTeKcCeLcDfNbaZfOeVfPeWfTeXfUeYfVeZfWe6fXe7fYe8fZe9f9e@f@e$f$fAgAfBgFfCgGfD9bXBIbYBOKBPcVBTNBUOBVQBYRB6SB7cWB8b7Bb7b8Bb8cXBb9cYBb@cZBb$c6BcAc7BcBcCBcPcDBcQcEBcScFBcWcGBcXcHBcYcIBcZcJBc6cKBc7cLBc8cMBc9BBc@9dZfXd6fYd7eOd9b6d@ePd$eQeAeReBeSeCb$eFcAeJeTeKcCeLcDfNba6fOeVfPeWfTeXfUeYfVeZfWe6fXe7fYe8fZe9f9e@f@e$f$fAgAfBgFfCgGfD9bXBIbYBOKBPcVBTNBUOBVQBYRB6SB7cWB8b7Bb7b8Bb8cXBb9cYBb@cZBb$c6BcAc7BcBcCBcPcDBcQcEBcScFBcWcGBcXcHBcYcIBcZcJBc6cKBc7cLBc8cMBc9BBc@9dZfXd6fYd7eOd9b6d@ePd$eQeAeReBeSeCb$eFcAeJeTeKcCeLcDfNba7fOeVfPeWfTeXfUeYfVeZfWe6fXe7fYe8fZe9f9e@f@e$f$fAgAfBgFfCgGfD9bXBIbYBOKBPcVBTNBUOBVQBYRB6SB7cWB8b7Bb7b8Bb8cXBb9cYBb@cZBb$c6BcAc7BcBcCBcPcDBcQcEBcScFBcWcGBcXcHBcYcIBcZcJBc6cKBc7cLBc8cMBc9BBc@9dZfXd6fYd7eOd9b6d@ePd$eQeAeReBeSeCb$eFcAeJeTeKcCeLcDfNba8fOeVfPeWfTeXfUeYfVeZfWe6fXe7fYe8fZe9f9e@f@e$f$fAgAfBgFfCgGfD9bXBIbYBOKBPcVBTNBUOBVQBYRB6SB7cWB8b7Bb7b8Bb8cXBb9cYBb@cZBb$c6BcAc7BcBcCBcPcDBcQcEBcScFBcWcGBcXcHBcYcIBcZcJBc6cKBc7cLBc8cMBc9BBc@9dZfXd6fYd7eOd9b6d@ePd$eQeAeReBeSeCb$eFcAeJeTeKcCeLcDfNba9fOeVfPeWfTeXfUeYfVeZfWe6fXe7fYe8fZe9f9e@f@e$f$fAgAfBgFfCgGfD9bXBIbYBOKBPcVBTNBUOBVQBYRB6SB7cWB8b7Bb7b8Bb8cXBb9cYBb@cZBb$c6BcAc7BcBcCBcPcDBcQcEBcScFBcWcGBcXcHBcYcIBcZcJBc6cKBc7cLBc8cMBc9BBc@9dZfXd6fYd7eOd9b6d@ePd$eQeAeReBeSeCb$eFcAeJeTeKcCeLcDfNba@fOeVfPeWfTeXfUeYfVeZfWe6fXe7fYe8fZe9f9e@f@e$f$fAgAfBgFf" ++
  "CgGfD9bXBIbYBOKBPcVBTNBUOBVQBYRB6SB7cWB8b7Bb7b8Bb8cXBb9cYBb@cZBb$c6BcAc7BcBcCBcPcDBcQcEBcScFBcWcGBcXcHBcYcIBcZcJBc6cKBc7cLBc8cMBc9BBc@9dZfXd6fYd7eOd9b6d@ePd$eQeAeReBeSeCb$eFcAeJeTeKcCeLcDfNba$fOeVfPeWfTeXfUeYfVeZfWe6fXe7fYe8fZe9f9e@f@e$f$fAgAfBgFfCgGfD9bXBIbYBOKBPcVBTNBUOBVQBYRB6SB7cWB8b7Bb7b8Bb8cXBb9cYBb@cZBb$c6BcAc7BcBcCBcPcDBcQcEBcScFBcWcGBcXcHBcYcIBcZcJBc6cKBc7cLBc8cMBc9BBc@9dZfXd6fYd7eOd9b6d@ePd$eQeAeReBeSeCb$eFcAeJeTeKcCeLcDfNbbAfOeVfPeWfTeXfUeYfVeZfWe6fXe7fYe8fZe9f9e@f@e$f$fAgAfBgFfCgGfDCuAGBBBUbBBBBc@AEuBBBuCBCuDBDBBc@AEuEBBuFBCuGBDBBc@ADuHBJc9BcPBBc@DdTsLdVsMgPbbIMjGBIjJBOjKBPjLBTjMBUjNBVjOBYjPB6jQB7jRB8jSBcPBBc@NdZbbJd6bbKd7qXd9qYd@qZeAq6eBq7eCq8eFq9eJq@eKq$eLrAgArB@bXBIbYBOKBPs8BQcVBTNBUOBVQBYRB6SB7cWB8b7Bb7b8Bb8cXBb9cYBb@cZBb$c6BcAc7BcBuIBcPcDBcQcEBcScFBcWcGBcXcHBcYcIBcZcJBc6cKBc7cLBc8cMBc9BBc@@dPbaJdZfXd6fYd7eOd9b6d@ePd$eQeAeReBeSeCb$eFcAeJeTeKcCeLcDfN4VfOeVfPeWfTeXfUeYfVeZfWe6fXe7fYe8fZe9f9e@f@e$f$fAgAfBgFfCgGfDMjGBIjJBOjKBPjLBTjMBUjNBVjOBYjPB6jQB7jRB8jSBcPBBc@NdZbbMd6bbNd7qXd9qYd@qZeAq6eBq7eCq8eFq9eJq@eKq$eLrAgArBCuJGBBBUbBBBBc@ACuJGBBBUbBBBBc@ANcRBIdCBOdDBPdEBTNBUOBVPBWQBYRB6SB7dFB8dGBcPBBc@OdQrQd6rRd7gNd9b6d@gOeAgPeBgQeCb$eFcAeJgReKcCeLcDeMrSgAgSDOBVuKBcPBBc@Dd7bbPeCsYgAbbQCuLJIBCBDBGDSBBc@ARuMEBBBUtJBGjGBIuNBLjJBOuOBPjLBTjMBUjNBVjOBYjPB6jQB7jRB8jSBcPbHBcQbIBcSBBc@RdZbbTd6bbUd7qXd85Nd9qYd@qZeAq6eBq7eCq8eFq9eJq@eKq$eLrAgArBgFbbVgGbbWgUbbXEuPEBBBUbHBcQbIBcSBBc@CgFbbYgGbbZCtKBPBBc@Bd85QFuQBBuRBCuSBDuTBXBBc@BgTbb@FuPEBBBUtKBPbHBcQbIBcSBBc@Dd85RgFbb$gGbcACh9BJBBc@ACiABJBBc@ANcRBIr6HJCBEGDSdCBOdDBPdEBTNBUOBVQBYRB6SB7dFB8dGBcPBBc@NdQbcBd6bcCd7gNd9b6d@gOeAgPeBgQeCb$eFcAeJgReKcCeLcDgAgSCkUJIBCBDBGDSBBc@ACkUJIBCBDBGDSBBc@AMdBBIdCBOdDBPdEBTNBUOBVQBYRB6SB7dFB8dGBcPBBc@NdZbcDd6bcEd7gNd9b6d@gOeAgPeBgQeCb$eFcAeJgReKcCeLcDgAgSbODBCGBIHBKIBNc@BOKBPLBSMBTNBUOBVPBWuUDXbBBQBYRB6SB7TB8UBbMVBbNWBbOXBbPYBbQZBbR6BbS7BbT8BbV9BbX@Bb6$Bb7bABb8bBBb9bCBb@bDBb$bEBcAbFBcBbGBcPbHBcQbIBcSbJBcWbKBcXbLBcYbMBcZbNBc6bOBc7bPBc8bQBc9BBc@bZdGbTdHbTdJbTdUbTdXbWdZbXd6bYd7bZd9b6d@b7d$b8eAb9eBb@eCb$eFcAeJcBeKcCeLcDeMcEeOyZePcGeQcHeRcIeScJeUcKeVcLeWcMeXcNeYcOe6cPe7cQe8cRe9cSe@cTe$cUfAcVfBcWfCcXfFcYfIcZfLc6fNc7fOc8fPc9fTc@fUc$fVdAfWdBfXdCfYdDfZdEf9dFf@dGf$dHgAdIgFdJgGdKCuVbPABBBDCDBDEECDBBBBBBBBBBBBBBKEBEBCBBBBBBBBBBBBBBBBc@AbODBCGBIHBKIBNc@BOKBPLBSMBTNBUOBVPBWuWDXbBBQBYRB6SB7TB8UBbMVBbNWBbOXBbPYBbQZBbR6BbS7BbT8BbV9BbX@Bb6$Bb7bABb8bBBb9bCBb@bDBb$bEBcAbFBcBdIBcPbHBcQbIBcSbJBcWbKBcXbLBcYbMBcZbNBc6bOBc7bPBc8bQBc9BBc@b6dGbTdHbTdJbTdUbTdXbWdZbXd6bYd7bZd9b6d@b7d$b8eAb9eBb@eCb$eFcAeJcBeKcCeLcDeMcEeObcFePcGeQcHeRcIeScJeUcKeVcLeWcMeXcNeYcOeZbcGe6cPe7cQe8cRe9cSe@cTe$cUfAcVfBcWfCcXfFcYfIcZfLc6fNc7fOc8fPc9fTc@fUc$fVdAfWdBfXdCfYdDfZdEf9dFf@dGf$dHgAdIgFdJgGdKbODBCGBIHBKIBNc@BOKBPLBSMBTNBUOBVPBWuWDXbBBQBYRB6SB7TB8UBbMVBbNWBbOXBbPYBbQZBbR6BbS7BbT8BbV9BbX@Bb6$Bb7bABb8bBBb9bCBb@bDBb$bEBcAbFBcBdIBcPbHBcQbIBcSbJBcWbKBcXbLBcYbMBcZbNBc6bOBc7bPBc8bQBc9BBc@b6dGbTdHbTdJbTdUbTdXbWdZbXd6bYd7bZd9b6d@b7d$b8eAb9eBb@eCb$eFcAeJcBeKcCeLcDeMcEeObcHePcGeQcHeRcIeScJeUcKeVcLeWcMeXcNeYcOeZbcIe6cPe7cQe8cRe9cSe@cTe$cUfAcVfBcWfCcXfFcYfIcZfLc6fNc7fOc8fPc9fTc@fUc$fVdAfWdBfXdCfYdDfZdEf9dFf@dGf$dHgAdIgFdJgGdKbODBCGBIHBKIBNc@BOKBPLBSMBTNBUOBVPBWuWDXbBBQBYRB6SB7TB8UBbMVBbNWBbOXBbPYBbQZBbR6BbS7BbT8BbV9BbX@Bb6$Bb7bABb8bBBb9bCBb@bDBb$bEBcAbFBcBdIBcPbHBcQbIBcSbJBcWbKBcXbLBcYbMBcZbNBc6bOBc7bPBc8bQBc9BBc@b6dGbTdHbTdJbTdUbTdXbWdZbXd6bYd7bZd9b6d@b7d$b8eAb9eBb@eCb$eFcAeJcBeKcCeLcDeMcEeObcJePcGeQcHeRcIeScJeUcKeVcLeWcMeXcNeYcOeZbcKe6cPe7cQe8cRe9cSe@cTe$cUfAcVfBcWfCcXfFcYfIcZfLc6fNc7fOc8fPc9fTc@fUc$fVdAfWdBfXdCfYdDfZdEf9dFf@dGf$dHgAdIgFdJgGdKFuXBBuYBCuZBDuWDXbBBBBc@BgXbcOCu6JIBCBDBGDSBBc@AFk8FBBBUCtJBGjYBItKBPBBc@CdQbcPd85NDu7EBBBUu8BZBBc@BgWbcRDu7EBBBUu8BZBBc@BgWbcSFu9BBu@BCu$BDvABXBBc@BgVbcXFvBBBvCBCvDBDvEBXBBc@BgVbc8CvFBQBBc@ACvGBQBBc@ACvHJIBCBDBGDSBBc@ACvHJIBCBDBGDSBBc@ACvHJIBCBDBGDSBBc@ACvHJIBCBDBGDSBBc@AYiCBGiDBIvIBJiFBPiGBTiHBZiIBb9iJBb@iKBcAiLBcBiMBcCiNBcDiOBcEiPBcFiQBcGiRBcHiSBcIiTBcJiUBcKiVBcLiWBcMiXBcNiYBcOBBc@Cd8pRfSpSNcRBIdCBOdDBPdEBTNBUOBVvJBWQBYRB6SB7dFB8dGBcPBBc@OdQbdBd6bdCd7gNd9b6d@gOeAgPeBgQeCb$" ++
  "eFcAeJgReKcCeLcDeMbdDgAgSFkV6BBBIIEC$BEBCBBBBBBBBBBBBBBlWBGlXBIlZBPBBc@Cd8vFfSvGFkV6BBBIIEC$BEBCBBBBBBBBBBBBBBlWBGlXBIlZBPBBc@Cd8vFfSvGNdBBIvKBJi9BOi@BPi$BTNBUOBVQBYjAB6jBB7jCB8jDBcPBBc@NdZbdFd6bdGd7gNd9b6d@gOeAgPeBgQeCqCeFcAeJgReKcCeLcDgAqDCoX9BBBDCDEEEC$BEBCBBBBBBBBBBBBBBBBc@ACoX9BBBDCDEEEC$BEBCBBBBBBBBBBBBBBBBc@AFkV6BBBIIEC$BEBCBBBBBBBBBBBBBBlWBGlXBIlZBPBBc@Cd8vFfSvGFkV6BBBIIEC$BEBCBBBBBBBBBBBBBBlWBGlXBIlZBPBBc@Cd8vFfSvGFkV6BBBIIEC$BEBCBBBBBBBBBBBBBBlWBGlXBIlZBPBBc@Cd8vFfSvGFkV6BBBIIEC$BEBCBBBBBBBBBBBBBBlWBGlXBIlZBPBBc@Cd8vFfSvGFkV6BBBIIEC$BEBCBBBBBBBBBBBBBBlWBGlXBIlZBPBBc@Cd8vFfSvGbAbXBIvLBLbYBOKBPcVBTNBUOBVhYBWvMBXQBYRB6SB7cWB8b7Bb7b8Bb8cXBb9cYBb@cZBb$c6BcAc7BcBcCBcPcDBcQcEBcScFBcWcGBcXcHBcYcIBcZcJBc6cKBc7cLBc8cMBc9BBc@bAdZfXd6fYd7eOd9b6d@ePd$eQeAeReBeSeCb$eFcAeJeTeKcCeLcDfNyVfOeVfPeWfTeXfUeYfVeZfWe6fXe7fYe8fZe9f6yWf7bdJf8bdKf9e@f@e$f$fAgAfBgFfCgGfDCo89BBBDCDEEEC$BEBCBBBBBBBBBBBBBBBBc@ACvNBcQBBc@ADo@CcTCvOBcUBBc@Bg@y7CpA9BBBDCDEEEC$BEBCBBBBBBBBBBBBBBBBc@A9bXBIbYBOKBPhVBTNBUOBVQBYRB6SB7b6B8b7Bb7b8Bb8b9Bb9b@Bb@b$Bb$cABcAcBBcBhWBcPcDBcQcEBcScFBcWcGBcXcHBcYcIBcZcJBc6cKBc7cLBc8cMBc9BBc@9dZfXd6fYd7eOd9b6d@ePd$eQeAeReBeSeCb$eFcAeJeTeKcCeLcDfNbdNfOeVfPeWfTeXfUeYfVeZfWe6fXe7fYe8fZe9f9e@f@e$f$fAgAfBgFfCgGfDMdBBIi9BOi@BPi$BTNBUOBVQBYjAB6jBB7jCB8jDBcPBBc@NdZbdOd6bdPd7gNd9b6d@gOeAgPeBgQeCqCeFcAeJgReKcCeLcDgAqD9bXBIbYBOKBPhVBTNBUOBVQBYRB6SB7b6B8b7Bb7b8Bb8b9Bb9b@Bb@b$Bb$cABcAcBBcBhWBcPcDBcQcEBcScFBcWcGBcXcHBcYcIBcZcJBc6cKBc7cLBc8cMBc9BBc@9dZfXd6fYd7eOd9b6d@ePd$eQeAeReBeSeCb$eFcAeJeTeKcCeLcDfNbdQfOeVfPeWfTeXfUeYfVeZfWe6fXe7fYe8fZe9f9e@f@e$f$fAgAfBgFfCgGfDMdBBIi9BOi@BPi$BTNBUOBVQBYjAB6jBB7jCB8jDBcPBBc@NdZbdRd6bdSd7gNd9b6d@gOeAgPeBgQeCqCeFcAeJgReKcCeLcDgAqDCpC9BBBDCDEEEC$BEBCBBBBBBBBBBBBBBBBc@ACpC9BBBDCDEEEC$BEBCBBBBBBBBBBBBBBBBc@ACpC9BBBDCDEEEC$BEBCBBBBBBBBBBBBBBBBc@ACpC9BBBDCDEEEC$BEBCBBBBBBBBBBBBBBBBc@ACpC9BBBDCDEEEC$BEBCBBBBBBBBBBBBBBBBc@ACpC9BBBDCDEEEC$BEBCBBBBBBBBBBBBBBBBc@ADvPBIvQBcPBBc@A@bXBIvRBJbYBOKBPhVBTNBUOBVQBYRB6SB7b6B8b7Bb7b8Bb8b9Bb9b@Bb@b$Bb$cABcAcBBcBhWBcPcDBcQcEBcScFBcWcGBcXcHBcYcIBcZcJBc6cKBc7cLBc8cMBc9BBc@@dZfXd6fYd7eOd9b6d@ePd$eQeAeReBeSeCb$eFcAeJeTeKcCeLcDfNbdWfOeVfPeWfQbdXfTeXfUeYfVeZfWe6fXe7fYe8fZe9f9e@f@e$f$fAgAfBgFfCgGfD9dUBIdVBOKBPdWBTNBUOBVQBYRB6SB7dXB8dYBb7dZBb8d6Bb9d7Bb@d8Bb$d9BcAd@BcBd$BcPeABcQeBBcSeCBcWeDBcXeEBcYeFBcZeGBc6eHBc7eIBc8eJBc9BBc@9dZhZd6h6d7h7d9b6d@h8d$h9eAh@eBh$eCb$eFcAeJiAeKcCeLcDfNbdYfOiCfPiDfTiEfUiFfViGfWiHfXiIfYiJfZiKf9iLf@iMf$iNgAiOgFiPgGiQ@bXBIbYBOKBPp9BTNBUOBVQBYRB6SB7cWB8vSBbLb7Bb7b8Bb8cXBb9cYBb@cZBb$c6BcAc7BcBp$BcPcDBcQcEBcScFBcWcGBcXcHBcYcIBcZcJBc6cKBc7cLBc8cMBc9BBc@@dZ1Gd61Hd7eOd9b6d@ePd$eQeAeReBeSeCb$eFcAeIySeJeTeKcCeLcDfNbd6fOeVfPeWfTeXfUeYfVeZfWe6fXe7fYe8fZe9f9e@f@e$f$fAgAfBgFfCgGfD9dUBIdVBOKBPdWBTNBUOBVQBYRB6SB7dXB8dYBb7dZBb8d6Bb9d7Bb@d8Bb$d9BcAd@BcBd$BcPeABcQeBBcSeCBcWeDBcXeEBcYeFBcZeGBc6eHBc7eIBc8eJBc9BBc@9dZhZd6h6d7h7d9b6d@h8d$h9eAh@eBh$eCb$eFcAeJiAeKcCeLcDfNbd7fOiCfPiDfTiEfUiFfViGfWiHfXiIfYiJfZiKf9iLf@iMf$iNgAiOgFiPgGiQ9dUBIdVBOKBPdWBTNBUOBVQBYRB6SB7dXB8dYBb7dZBb8d6Bb9d7Bb@d8Bb$d9BcAd@BcBd$BcPeABcQeBBcSeCBcWeDBcXeEBcYeFBcZeGBc6eHBc7eIBc8eJBc9BBc@9dZhZd6h6d7h7d9b6d@h8d$h9eAh@eBh$eCb$eFcAeJiAeKcCeLcDfNbd8fOiCfPiDfTiEfUiFfViGfWiHfXiIfYiJfZiKf9iLf@iMf$iNgAiOgFiPgGiQ9dUBIdVBOKBPdWBTNBUOBVQBYRB6SB7dXB8dYBb7dZBb8d6Bb9d7Bb@d8Bb$d9BcAd@BcBd$BcPeABcQeBBcSeCBcWeDBcXeEBcYeFBcZeGBc6eHBc7eIBc8eJBc9BBc@9dZhZd6h6d7h7d9b6d@h8d$h9eAh@eBh$eCb$eFcAeJiAeKcCeLcDfNbd9fOiCfPiDfTiEfUiFfViGfWiHfXiIfYiJfZiKf9iLf@iMf$iNgAiOgFiPgGiQ9dUBIdVBOKBPdWBTNBUOBVQBYRB6SB7dXB8dYBb7dZBb8d6Bb9d7Bb@d8Bb$d9BcAd@BcBd$BcPeABcQeBBcSeCBcWeDBcXeEBcYeFBcZeGBc6eHBc7eIBc8eJBc9BBc@9dZhZd6h6d7h7d9b6d@h8d$h9eAh@eBh$eCb$eFcAeJiAeKcCeLcDfNbd@fOiCfPiDfTiEfUiFfViGfWiHfXiIfYiJfZiKf9iLf@iMf$iNgAiOgFiPgGiQ9dUBIdVBOKBPdWBTNBUOBVQBYRB6SB7dXB8dYBb7dZBb8d6Bb9d7Bb@d8Bb$d9BcAd@BcBd$BcPeABcQeBBcSeCBcWeDBcXeEBcYeFBcZeGBc6eHBc7eIBc8eJBc9BBc@9dZhZd6h6d7h7d9b6d@h8d$h9eAh@eBh$eCb$eFcAeJiAeKcCeLcDfNbd$fOiCfPiDfTiEfUiFfViGfWiHfXiIfYiJfZiKf9iLf@iMf$iNgAiOgFiPgGiQ9dUBIdVBOKBPdWBTNBUOBVQBYRB6SB7dXB8dYBb7dZBb8d6Bb9d7Bb@d8Bb$d9BcAd@BcBd$BcPeABcQeBBcSeCBcWe" ++
  "DBcXeEBcYeFBcZeGBc6eHBc7eIBc8eJBc9BBc@9dZhZd6h6d7h7d9b6d@h8d$h9eAh@eBh$eCb$eFcAeJiAeKcCeLcDfNbeAfOiCfPiDfTiEfUiFfViGfWiHfXiIfYiJfZiKf9iLf@iMf$iNgAiOgFiPgGiQ9dUBIdVBOKBPdWBTNBUOBVQBYRB6SB7dXB8dYBb7dZBb8d6Bb9d7Bb@d8Bb$d9BcAd@BcBd$BcPeABcQeBBcSeCBcWeDBcXeEBcYeFBcZeGBc6eHBc7eIBc8eJBc9BBc@9dZhZd6h6d7h7d9b6d@h8d$h9eAh@eBh$eCb$eFcAeJiAeKcCeLcDfNbeBfOiCfPiDfTiEfUiFfViGfWiHfXiIfYiJfZiKf9iLf@iMf$iNgAiOgFiPgGiQ9dUBIdVBOKBPdWBTNBUOBVQBYRB6SB7dXB8dYBb7dZBb8d6Bb9d7Bb@d8Bb$d9BcAd@BcBd$BcPeABcQeBBcSeCBcWeDBcXeEBcYeFBcZeGBc6eHBc7eIBc8eJBc9BBc@9dZhZd6h6d7h7d9b6d@h8d$h9eAh@eBh$eCb$eFcAeJiAeKcCeLcDfNbeCfOiCfPiDfTiEfUiFfViGfWiHfXiIfYiJfZiKf9iLf@iMf$iNgAiOgFiPgGiQ9dUBIdVBOKBPdWBTNBUOBVQBYRB6SB7dXB8dYBb7dZBb8d6Bb9d7Bb@d8Bb$d9BcAd@BcBd$BcPeABcQeBBcSeCBcWeDBcXeEBcYeFBcZeGBc6eHBc7eIBc8eJBc9BBc@9dZhZd6h6d7h7d9b6d@h8d$h9eAh@eBh$eCb$eFcAeJiAeKcCeLcDfNbeDfOiCfPiDfTiEfUiFfViGfWiHfXiIfYiJfZiKf9iLf@iMf$iNgAiOgFiPgGiQ9dUBIdVBOKBPdWBTNBUOBVQBYRB6SB7dXB8dYBb7dZBb8d6Bb9d7Bb@d8Bb$d9BcAd@BcBd$BcPeABcQeBBcSeCBcWeDBcXeEBcYeFBcZeGBc6eHBc7eIBc8eJBc9BBc@9dZhZd6h6d7h7d9b6d@h8d$h9eAh@eBh$eCb$eFcAeJiAeKcCeLcDfNbeEfOiCfPiDfTiEfUiFfViGfWiHfXiIfYiJfZiKf9iLf@iMf$iNgAiOgFiPgGiQ9dUBIdVBOKBPdWBTNBUOBVQBYRB6SB7dXB8dYBb7dZBb8d6Bb9d7Bb@d8Bb$d9BcAd@BcBd$BcPeABcQeBBcSeCBcWeDBcXeEBcYeFBcZeGBc6eHBc7eIBc8eJBc9BBc@9dZhZd6h6d7h7d9b6d@h8d$h9eAh@eBh$eCb$eFcAeJiAeKcCeLcDfNbeFfOiCfPiDfTiEfUiFfViGfWiHfXiIfYiJfZiKf9iLf@iMf$iNgAiOgFiPgGiQ9dUBIdVBOKBPdWBTNBUOBVQBYRB6SB7dXB8dYBb7dZBb8d6Bb9d7Bb@d8Bb$d9BcAd@BcBd$BcPeABcQeBBcSeCBcWeDBcXeEBcYeFBcZeGBc6eHBc7eIBc8eJBc9BBc@9dZhZd6h6d7h7d9b6d@h8d$h9eAh@eBh$eCb$eFcAeJiAeKcCeLcDfNbeGfOiCfPiDfTiEfUiFfViGfWiHfXiIfYiJfZiKf9iLf@iMf$iNgAiOgFiPgGiQ9dUBIdVBOKBPdWBTNBUOBVQBYRB6SB7dXB8dYBb7dZBb8d6Bb9d7Bb@d8Bb$d9BcAd@BcBd$BcPeABcQeBBcSeCBcWeDBcXeEBcYeFBcZeGBc6eHBc7eIBc8eJBc9BBc@9dZhZd6h6d7h7d9b6d@h8d$h9eAh@eBh$eCb$eFcAeJiAeKcCeLcDfNbeHfOiCfPiDfTiEfUiFfViGfWiHfXiIfYiJfZiKf9iLf@iMf$iNgAiOgFiPgGiQ9dUBIdVBOKBPdWBTNBUOBVQBYRB6SB7dXB8dYBb7dZBb8d6Bb9d7Bb@d8Bb$d9BcAd@BcBd$BcPeABcQeBBcSeCBcWeDBcXeEBcYeFBcZeGBc6eHBc7eIBc8eJBc9BBc@9dZhZd6h6d7h7d9b6d@h8d$h9eAh@eBh$eCb$eFcAeJiAeKcCeLcDfNbeIfOiCfPiDfTiEfUiFfViGfWiHfXiIfYiJfZiKf9iLf@iMf$iNgAiOgFiPgGiQ9dUBIdVBOKBPdWBTNBUOBVQBYRB6SB7dXB8dYBb7dZBb8d6Bb9d7Bb@d8Bb$d9BcAd@BcBd$BcPeABcQeBBcSeCBcWeDBcXeEBcYeFBcZeGBc6eHBc7eIBc8eJBc9BBc@9dZhZd6h6d7h7d9b6d@h8d$h9eAh@eBh$eCb$eFcAeJiAeKcCeLcDfNbeJfOiCfPiDfTiEfUiFfViGfWiHfXiIfYiJfZiKf9iLf@iMf$iNgAiOgFiPgGiQ9dUBIdVBOKBPdWBTNBUOBVQBYRB6SB7dXB8dYBb7dZBb8d6Bb9d7Bb@d8Bb$d9BcAd@BcBd$BcPeABcQeBBcSeCBcWeDBcXeEBcYeFBcZeGBc6eHBc7eIBc8eJBc9BBc@9dZhZd6h6d7h7d9b6d@h8d$h9eAh@eBh$eCb$eFcAeJiAeKcCeLcDfNbeKfOiCfPiDfTiEfUiFfViGfWiHfXiIfYiJfZiKf9iLf@iMf$iNgAiOgFiPgGiQ9dUBIdVBOKBPdWBTNBUOBVQBYRB6SB7dXB8dYBb7dZBb8d6Bb9d7Bb@d8Bb$d9BcAd@BcBd$BcPeABcQeBBcSeCBcWeDBcXeEBcYeFBcZeGBc6eHBc7eIBc8eJBc9BBc@9dZhZd6h6d7h7d9b6d@h8d$h9eAh@eBh$eCb$eFcAeJiAeKcCeLcDfNbeLfOiCfPiDfTiEfUiFfViGfWiHfXiIfYiJfZiKf9iLf@iMf$iNgAiOgFiPgGiQ9dUBIdVBOKBPdWBTNBUOBVQBYRB6SB7dXB8dYBb7dZBb8d6Bb9d7Bb@d8Bb$d9BcAd@BcBd$BcPeABcQeBBcSeCBcWeDBcXeEBcYeFBcZeGBc6eHBc7eIBc8eJBc9BBc@9dZhZd6h6d7h7d9b6d@h8d$h9eAh@eBh$eCb$eFcAeJiAeKcCeLcDfNbeMfOiCfPiDfTiEfUiFfViGfWiHfXiIfYiJfZiKf9iLf@iMf$iNgAiOgFiPgGiQ9dUBIdVBOKBPdWBTNBUOBVQBYRB6SB7dXB8dYBb7dZBb8d6Bb9d7Bb@d8Bb$d9BcAd@BcBd$BcPeABcQeBBcSeCBcWeDBcXeEBcYeFBcZeGBc6eHBc7eIBc8eJBc9BBc@9dZhZd6h6d7h7d9b6d@h8d$h9eAh@eBh$eCb$eFcAeJiAeKcCeLcDfNbeNfOiCfPiDfTiEfUiFfViGfWiHfXiIfYiJfZiKf9iLf@iMf$iNgAiOgFiPgGiQClXBIBBc@BfSbeOCoX9BBBDCDEEEC$BEBCBBBBBBBBBBBBBBBBc@ADqCGBBBUbBBlYBLBBc@BgRbePCpC9BBBDCDEEEC$BEBCBBBBBBBBBBBBBBBBc@AYiCBGiDBIvTBJiFBPiGBTiHBZiIBb9iJBb@iKBcAiLBcBiMBcCiNBcDiOBcEiPBcFiQBcGiRBcHiSBcIiTBcJiUBcKiVBcLiWBcMiXBcNiYBcOBBc@Cd8pRfSpSNcRBIdCBOdDBPdEBTNBUOBVvUBWQBYRB6SB7dFB8dGBcPBBc@OdQbeSd6beTd7gNd9b6d@gOeAgPeBgQeCb$eFcAeJgReKcCeLcDeMbeUgAgSFkVbGCJBHDDDBBBBBBBBBBBBBBTBCBBBBBBBBBBBBBBnGBGnHBInIBPBBc@Cd8xLfSxNFkVbGCJBHDDDBBBBBBBBBBBBBBTBCBBBBBBBBBBBBBBnGBGnHBInIBPBBc@Cd8xLfSxNNdBBIvVBJi9BOi@BPi$BTNBUOBVQBYjAB6jBB7jCB8jDBcPBBc@NdZbeWd6beXd7gNd9b6d@gOeAgPeBgQeCqCeFcAeJgReKcCeLcDgAqDCoXbJCECDBDEDDDBBBBBBBBBBBBBBTBCBBBBBBBBBBB" ++
  "BBBBBc@ACoXbJCECDBDEDDDBBBBBBBBBBBBBBTBCBBBBBBBBBBBBBBBBc@AFkVbGCJBHDDDBBBBBBBBBBBBBBTBCBBBBBBBBBBBBBBnGBGnHBInIBPBBc@Cd8xLfSxNFkVbGCJBHDDDBBBBBBBBBBBBBBTBCBBBBBBBBBBBBBBnGBGnHBInIBPBBc@Cd8xLfSxNFkVbGCJBHDDDBBBBBBBBBBBBBBTBCBBBBBBBBBBBBBBnGBGnHBInIBPBBc@Cd8xLfSxNFkVbGCJBHDDDBBBBBBBBBBBBBBTBCBBBBBBBBBBBBBBnGBGnHBInIBPBBc@Cd8xLfSxNFkVbGCJBHDDDBBBBBBBBBBBBBBTBCBBBBBBBBBBBBBBnGBGnHBInIBPBBc@Cd8xLfSxNCo8bJCECDBDEDDDBBBBBBBBBBBBBBTBCBBBBBBBBBBBBBBBBc@ACvWBcQBBc@ADo@CcTCvXBcUBBc@Bg@y7CpAbJCECDBDEDDDBBBBBBBBBBBBBBTBCBBBBBBBBBBBBBBBBc@A9bXBIbYBOKBPcVBTNBUOBVQBYRB6SB7cWB8b7Bb7b8Bb8cXBb9cYBb@cZBb$c6BcAc7BcBcCBcPcDBcQcEBcScFBcWcGBcXcHBcYcIBcZcJBc6cKBc7cLBc8cMBc9BBc@@dXbe6dZfXd6fYd7eOd9b6d@ePd$eQeAeReBeSeCb$eFcAeJeTeKcCeLcDfNbe7fOeVfPeWfTeXfUeYfVeZfWe6fXe7fYe8fZe9f9e@f@e$f$fAgAfBgFfCgGfD9bXBIbYBOKBPcVBTNBUOBVQBYRB6SB7cWB8b7Bb7b8Bb8cXBb9cYBb@cZBb$c6BcAc7BcBcCBcPcDBcQcEBcScFBcWcGBcXcHBcYcIBcZcJBc6cKBc7cLBc8cMBc9BBc@@dXbe8dZfXd6fYd7eOd9b6d@ePd$eQeAeReBeSeCb$eFcAeJeTeKcCeLcDfNbe7fOeVfPeWfTeXfUeYfVeZfWe6fXe7fYe8fZe9f9e@f@e$f$fAgAfBgFfCgGfD9bXBIbYBOKBPcVBTNBUOBVQBYRB6SB7cWB8b7Bb7b8Bb8cXBb9cYBb@cZBb$c6BcAc7BcBcCBcPcDBcQcEBcScFBcWcGBcXcHBcYcIBcZcJBc6cKBc7cLBc8cMBc9BBc@@dXbe9dZfXd6fYd7eOd9b6d@ePd$eQeAeReBeSeCb$eFcAeJeTeKcCeLcDfNbe7fOeVfPeWfTeXfUeYfVeZfWe6fXe7fYe8fZe9f9e@f@e$f$fAgAfBgFfCgGfD9bXBIbYBOKBPcVBTNBUOBVQBYRB6SB7cWB8b7Bb7b8Bb8cXBb9cYBb@cZBb$c6BcAc7BcBcCBcPcDBcQcEBcScFBcWcGBcXcHBcYcIBcZcJBc6cKBc7cLBc8cMBc9BBc@@dXbe@dZfXd6fYd7eOd9b6d@ePd$eQeAeReBeSeCb$eFcAeJeTeKcCeLcDfNbe7fOeVfPeWfTeXfUeYfVeZfWe6fXe7fYe8fZe9f9e@f@e$f$fAgAfBgFfCgGfD9bXBIbYBOKBPcVBTNBUOBVQBYRB6SB7cWB8b7Bb7b8Bb8cXBb9cYBb@cZBb$c6BcAc7BcBcCBcPcDBcQcEBcScFBcWcGBcXcHBcYcIBcZcJBc6cKBc7cLBc8cMBc9BBc@@dXbe$dZfXd6fYd7eOd9b6d@ePd$eQeAeReBeSeCb$eFcAeJeTeKcCeLcDfNbe7fOeVfPeWfTeXfUeYfVeZfWe6fXe7fYe8fZe9f9e@f@e$f$fAgAfBgFfCgGfD9bXBIbYBOKBPcVBTNBUOBVQBYRB6SB7cWB8b7Bb7b8Bb8cXBb9cYBb@cZBb$c6BcAc7BcBcCBcPcDBcQcEBcScFBcWcGBcXcHBcYcIBcZcJBc6cKBc7cLBc8cMBc9BBc@@dXbfAdZfXd6fYd7eOd9b6d@ePd$eQeAeReBeSeCb$eFcAeJeTeKcCeLcDfNbe7fOeVfPeWfTeXfUeYfVeZfWe6fXe7fYe8fZe9f9e@f@e$f$fAgAfBgFfCgGfD9bXBIbYBOKBPcVBTNBUOBVQBYRB6SB7cWB8b7Bb7b8Bb8cXBb9cYBb@cZBb$c6BcAc7BcBcCBcPcDBcQcEBcScFBcWcGBcXcHBcYcIBcZcJBc6cKBc7cLBc8cMBc9BBc@@dXbfBdZfXd6fYd7eOd9b6d@ePd$eQeAeReBeSeCb$eFcAeJeTeKcCeLcDfNbe7fOeVfPeWfTeXfUeYfVeZfWe6fXe7fYe8fZe9f9e@f@e$f$fAgAfBgFfCgGfD9bXBIbYBOKBPcVBTNBUOBVQBYRB6SB7cWB8b7Bb7b8Bb8cXBb9cYBb@cZBb$c6BcAc7BcBcCBcPcDBcQcEBcScFBcWcGBcXcHBcYcIBcZcJBc6cKBc7cLBc8cMBc9BBc@@dXbfCdZfXd6fYd7eOd9b6d@ePd$eQeAeReBeSeCb$eFcAeJeTeKcCeLcDfNbe7fOeVfPeWfTeXfUeYfVeZfWe6fXe7fYe8fZe9f9e@f@e$f$fAgAfBgFfCgGfD9bXBIbYBOKBPcVBTNBUOBVQBYRB6SB7cWB8b7Bb7b8Bb8cXBb9cYBb@cZBb$c6BcAc7BcBcCBcPcDBcQcEBcScFBcWcGBcXcHBcYcIBcZcJBc6cKBc7cLBc8cMBc9BBc@@dXbfDdZfXd6fYd7eOd9b6d@ePd$eQeAeReBeSeCb$eFcAeJeTeKcCeLcDfNbe7fOeVfPeWfTeXfUeYfVeZfWe6fXe7fYe8fZe9f9e@f@e$f$fAgAfBgFfCgGfD9bXBIbYBOKBPcVBTNBUOBVQBYRB6SB7cWB8b7Bb7b8Bb8cXBb9cYBb@cZBb$c6BcAc7BcBcCBcPcDBcQcEBcScFBcWcGBcXcHBcYcIBcZcJBc6cKBc7cLBc8cMBc9BBc@@dXbfEdZfXd6fYd7eOd9b6d@ePd$eQeAeReBeSeCb$eFcAeJeTeKcCeLcDfNbe7fOeVfPeWfTeXfUeYfVeZfWe6fXe7fYe8fZe9f9e@f@e$f$fAgAfBgFfCgGfD9bXBIbYBOKBPcVBTNBUOBVQBYRB6SB7cWB8b7Bb7b8Bb8cXBb9cYBb@cZBb$c6BcAc7BcBcCBcPcDBcQcEBcScFBcWcGBcXcHBcYcIBcZcJBc6cKBc7cLBc8cMBc9BBc@@dXbfFdZfXd6fYd7eOd9b6d@ePd$eQeAeReBeSeCb$eFcAeJeTeKcCeLcDfNbe7fOeVfPeWfTeXfUeYfVeZfWe6fXe7fYe8fZe9f9e@f@e$f$fAgAfBgFfCgGfD9bXBIbYBOKBPcVBTNBUOBVQBYRB6SB7cWB8b7Bb7b8Bb8cXBb9cYBb@cZBb$c6BcAc7BcBcCBcPcDBcQcEBcScFBcWcGBcXcHBcYcIBcZcJBc6cKBc7cLBc8cMBc9BBc@@dXbfGdZfXd6fYd7eOd9b6d@ePd$eQeAeReBeSeCb$eFcAeJeTeKcCeLcDfNbe7fOeVfPeWfTeXfUeYfVeZfWe6fXe7fYe8fZe9f9e@f@e$f$fAgAfBgFfCgGfD9bXBIbYBOKBPcVBTNBUOBVQBYRB6SB7cWB8b7Bb7b8Bb8cXBb9cYBb@cZBb$c6BcAc7BcBcCBcPcDBcQcEBcScFBcWcGBcXcHBcYcIBcZcJBc6cKBc7cLBc8cMBc9BBc@@dXbfHdZfXd6fYd7eOd9b6d@ePd$eQeAeReBeSeCb$eFcAeJeTeKcCeLcDfNbe7fOeVfPeWfTeXfUeYfVeZfWe6fXe7fYe8fZe9f9e@f@e$f$fAgAfBgFfCgGfD9bXBIbYBOKBPhVBTNBUOBVQBYRB6SB7b6B8b7Bb7b8Bb8b9Bb9b@Bb@b$Bb$cABcAcBBcBhWBcPcDBcQcEBcScFBcWcGBcXcHBcYcIBcZcJBc6cKBc7cLBc8cMBc9BBc@9dZfXd6fYd7eOd9b6d@ePd$eQeAeReBeSeCb$eFcAeJeTeKcCeLcDfNbfIfOeV" ++
  "fPeWfTeXfUeYfVeZfWe6fXe7fYe8fZe9f9e@f@e$f$fAgAfBgFfCgGfDMdBBIi9BOi@BPi$BTNBUOBVQBYjAB6jBB7jCB8jDBcPBBc@NdZbfJd6bfKd7gNd9b6d@gOeAgPeBgQeCqCeFcAeJgReKcCeLcDgAqD9bXBIbYBOKBPhVBTNBUOBVQBYRB6SB7b6B8b7Bb7b8Bb8b9Bb9b@Bb@b$Bb$cABcAcBBcBhWBcPcDBcQcEBcScFBcWcGBcXcHBcYcIBcZcJBc6cKBc7cLBc8cMBc9BBc@9dZfXd6fYd7eOd9b6d@ePd$eQeAeReBeSeCb$eFcAeJeTeKcCeLcDfNbfLfOeVfPeWfTeXfUeYfVeZfWe6fXe7fYe8fZe9f9e@f@e$f$fAgAfBgFfCgGfDMdBBIi9BOi@BPi$BTNBUOBVQBYjAB6jBB7jCB8jDBcPBBc@NdZbfMd6bfNd7gNd9b6d@gOeAgPeBgQeCqCeFcAeJgReKcCeLcDgAqDbAbXBIvYBLbYBOKBPcVBTNBUOBVhYBWvZBXQBYRB6SB7cWB8b7Bb7b8Bb8cXBb9cYBb@cZBb$c6BcAc7BcBcCBcPcDBcQcEBcScFBcWcGBcXcHBcYcIBcZcJBc6cKBc7cLBc8cMBc9BBc@bAdZfXd6fYd7eOd9b6d@ePd$eQeAeReBeSeCb$eFcAeJeTeKcCeLcDfNyVfOeVfPeWfTeXfUeYfVeZfWe6fXe7fYe8fZe9f6yWf7bfQf8bfRf9e@f@e$f$fAgAfBgFfCgGfDCpCbJCECDBDEDDDBBBBBBBBBBBBBBTBCBBBBBBBBBBBBBBBBc@ACpCbJCECDBDEDDDBBBBBBBBBBBBBBTBCBBBBBBBBBBBBBBBBc@ACpCbJCECDBDEDDDBBBBBBBBBBBBBBTBCBBBBBBBBBBBBBBBBc@ACpCbJCECDBDEDDDBBBBBBBBBBBBBBTBCBBBBBBBBBBBBBBBBc@ACpCbJCECDBDEDDDBBBBBBBBBBBBBBTBCBBBBBBBBBBBBBBBBc@ACpCbJCECDBDEDDDBBBBBBBBBBBBBBTBCBBBBBBBBBBBBBBBBc@A9bXBIbYBOKBPoABTNBUOBVQBYRB6SB7oBB8b7Bb7b8Bb8oCBb9oDBb@oEBb$oFBcAoGBcBoHBcPcDBcQcEBcScFBcWcGBcXcHBcYcIBcZcJBc6cKBc7cLBc8cMBc9BBc@9dZfXd6fYd7eOd9b6d@ePd$eQeAeReBeSeCb$eFcAeJeTeKcCeLcDfNbfSfOeVfPeWfTeXfUeYfVeZfWe6fXe7fYe8fZe9f9e@f@e$f$fAgAfBgFfCgGfDDv6BIv7BcPBBc@A@bXBIv8BJbYBOKBPhVBTNBUOBVQBYRB6SB7b6B8b7Bb7b8Bb8b9Bb9b@Bb@b$Bb$cABcAcBBcBhWBcPcDBcQcEBcScFBcWcGBcXcHBcYcIBcZcJBc6cKBc7cLBc8cMBc9BBc@@dZfXd6fYd7eOd9b6d@ePd$eQeAeReBeSeCb$eFcAeJeTeKcCeLcDfNbfWfOeVfPeWfQbfXfTeXfUeYfVeZfWe6fXe7fYe8fZe9f9e@f@e$f$fAgAfBgFfCgGfD@bXBIbYBOKBPp9BTNBUOBVQBYRB6SB7cWB8v9BbLb7Bb7b8Bb8cXBb9cYBb@cZBb$c6BcAc7BcBp$BcPcDBcQcEBcScFBcWcGBcXcHBcYcIBcZcJBc6cKBc7cLBc8cMBc9BBc@@dZ1Gd61Hd7eOd9b6d@ePd$eQeAeReBeSeCb$eFcAeIySeJeTeKcCeLcDfNbfZfOeVfPeWfTeXfUeYfVeZfWe6fXe7fYe8fZe9f9e@f@e$f$fAgAfBgFfCgGfD9eKBIeLBOKBPeMBTNBUOBVQBYRB6SB7eNB8eOBb7ePBb8eQBb9eRBb@eSBb$eTBcAeUBcBeVBcPeWBcQeXBcSeYBcWeZBcXe6BcYe7BcZe8Bc6e9Bc7e@Bc8e$Bc9BBc@9dZjKd6jLd7jMd9b6d@jNd$jOeAjPeBjQeCb$eFcAeJjReKcCeLcDfNbf6fOj6fPj7fTj8fUj9fVj@fWj$fXkAfYkBfZkCf9kDf@kEf$kFgAkGgFkHgGkI9eKBIeLBOKBPeMBTNBUOBVQBYRB6SB7eNB8eOBb7ePBb8eQBb9eRBb@eSBb$eTBcAeUBcBeVBcPeWBcQeXBcSeYBcWeZBcXe6BcYe7BcZe8Bc6e9Bc7e@Bc8e$Bc9BBc@9dZjKd6jLd7jMd9b6d@jNd$jOeAjPeBjQeCb$eFcAeJjReKcCeLcDfNbf7fOj6fPj7fTj8fUj9fVj@fWj$fXkAfYkBfZkCf9kDf@kEf$kFgAkGgFkHgGkI9bXBIbYBOKBPcVBTNBUOBVQBYRB6SB7cWB8b7Bb7b8Bb8cXBb9cYBb@cZBb$c6BcAc7BcBcCBcPcDBcQcEBcScFBcWcGBcXcHBcYcIBcZcJBc6cKBc7cLBc8cMBc9BBc@9dZfXd6fYd7eOd9b6d@ePd$eQeAeReBeSeCb$eFcAeJeTeKcCeLcDfNbf8fOeVfPeWfTeXfUeYfVeZfWe6fXe7fYe8fZe9f9e@f@e$f$fAgAfBgFfCgGfDCqACCUBBc@ACqBCCUBBc@A9eKBIeLBOKBPeMBTNBUOBVQBYRB6SB7eNB8eOBb7ePBb8eQBb9eRBb@eSBb$eTBcAeUBcBeVBcPeWBcQeXBcSeYBcWeZBcXe6BcYe7BcZe8Bc6e9Bc7e@Bc8e$Bc9BBc@9dZjKd6jLd7jMd9b6d@jNd$jOeAjPeBjQeCb$eFcAeJjReKcCeLcDfNbf9fOj6fPj7fTj8fUj9fVj@fWj$fXkAfYkBfZkCf9kDf@kEf$kFgAkGgFkHgGkI9eKBIeLBOKBPeMBTNBUOBVQBYRB6SB7eNB8eOBb7ePBb8eQBb9eRBb@eSBb$eTBcAeUBcBeVBcPeWBcQeXBcSeYBcWeZBcXe6BcYe7BcZe8Bc6e9Bc7e@Bc8e$Bc9BBc@9dZjKd6jLd7jMd9b6d@jNd$jOeAjPeBjQeCb$eFcAeJjReKcCeLcDfNbf@fOj6fPj7fTj8fUj9fVj@fWj$fXkAfYkBfZkCf9kDf@kEf$kFgAkGgFkHgGkI9eKBIeLBOKBPeMBTNBUOBVQBYRB6SB7eNB8eOBb7ePBb8eQBb9eRBb@eSBb$eTBcAeUBcBeVBcPeWBcQeXBcSeYBcWeZBcXe6BcYe7BcZe8Bc6e9Bc7e@Bc8e$Bc9BBc@9dZjKd6jLd7jMd9b6d@jNd$jOeAjPeBjQeCb$eFcAeJjReKcCeLcDfNbf$fOj6fPj7fTj8fUj9fVj@fWj$fXkAfYkBfZkCf9kDf@kEf$kFgAkGgFkHgGkI9eKBIeLBOKBPeMBTNBUOBVQBYRB6SB7eNB8eOBb7ePBb8eQBb9eRBb@eSBb$eTBcAeUBcBeVBcPeWBcQeXBcSeYBcWeZBcXe6BcYe7BcZe8Bc6e9Bc7e@Bc8e$Bc9BBc@9dZjKd6jLd7jMd9b6d@jNd$jOeAjPeBjQeCb$eFcAeJjReKcCeLcDfNbgAfOj6fPj7fTj8fUj9fVj@fWj$fXkAfYkBfZkCf9kDf@kEf$kFgAkGgFkHgGkI9eKBIeLBOKBPeMBTNBUOBVQBYRB6SB7eNB8eOBb7ePBb8eQBb9eRBb@eSBb$eTBcAeUBcBeVBcPeWBcQeXBcSeYBcWeZBcXe6BcYe7BcZe8Bc6e9Bc7e@Bc8e$Bc9BBc@9dZjKd6jLd7jMd9b6d@jNd$jOeAjPeBjQeCb$eFcAeJjReKcCeLcDfNbgBfOj6fPj7fTj8fUj9fVj@fWj$fXkAfYkBfZkCf9kDf@kEf$kFgAkGgFkHgGkI9eKBIeLBOKBPeMBTNBUOBVQBYRB6SB7eNB8eOBb7ePBb8eQBb9eRBb@eSBb$eTBcAeUBcBeVBcPeWBcQeXBcSeYBcWeZBcXe6BcYe7BcZe8Bc6e9Bc7e@Bc8e$Bc9BBc@9dZjKd6jLd7j" ++
  "Md9b6d@jNd$jOeAjPeBjQeCb$eFcAeJjReKcCeLcDfNbgCfOj6fPj7fTj8fUj9fVj@fWj$fXkAfYkBfZkCf9kDf@kEf$kFgAkGgFkHgGkI9eKBIeLBOKBPeMBTNBUOBVQBYRB6SB7eNB8eOBb7ePBb8eQBb9eRBb@eSBb$eTBcAeUBcBeVBcPeWBcQeXBcSeYBcWeZBcXe6BcYe7BcZe8Bc6e9Bc7e@Bc8e$Bc9BBc@9dZjKd6jLd7jMd9b6d@jNd$jOeAjPeBjQeCb$eFcAeJjReKcCeLcDfNbgDfOj6fPj7fTj8fUj9fVj@fWj$fXkAfYkBfZkCf9kDf@kEf$kFgAkGgFkHgGkI9eKBIeLBOKBPeMBTNBUOBVQBYRB6SB7eNB8eOBb7ePBb8eQBb9eRBb@eSBb$eTBcAeUBcBeVBcPeWBcQeXBcSeYBcWeZBcXe6BcYe7BcZe8Bc6e9Bc7e@Bc8e$Bc9BBc@9dZjKd6jLd7jMd9b6d@jNd$jOeAjPeBjQeCb$eFcAeJjReKcCeLcDfNbgEfOj6fPj7fTj8fUj9fVj@fWj$fXkAfYkBfZkCf9kDf@kEf$kFgAkGgFkHgGkI9eKBIeLBOKBPeMBTNBUOBVQBYRB6SB7eNB8eOBb7ePBb8eQBb9eRBb@eSBb$eTBcAeUBcBeVBcPeWBcQeXBcSeYBcWeZBcXe6BcYe7BcZe8Bc6e9Bc7e@Bc8e$Bc9BBc@9dZjKd6jLd7jMd9b6d@jNd$jOeAjPeBjQeCb$eFcAeJjReKcCeLcDfNbgFfOj6fPj7fTj8fUj9fVj@fWj$fXkAfYkBfZkCf9kDf@kEf$kFgAkGgFkHgGkI9eKBIeLBOKBPeMBTNBUOBVQBYRB6SB7eNB8eOBb7ePBb8eQBb9eRBb@eSBb$eTBcAeUBcBeVBcPeWBcQeXBcSeYBcWeZBcXe6BcYe7BcZe8Bc6e9Bc7e@Bc8e$Bc9BBc@9dZjKd6jLd7jMd9b6d@jNd$jOeAjPeBjQeCb$eFcAeJjReKcCeLcDfNbgGfOj6fPj7fTj8fUj9fVj@fWj$fXkAfYkBfZkCf9kDf@kEf$kFgAkGgFkHgGkI9eKBIeLBOKBPeMBTNBUOBVQBYRB6SB7eNB8eOBb7ePBb8eQBb9eRBb@eSBb$eTBcAeUBcBeVBcPeWBcQeXBcSeYBcWeZBcXe6BcYe7BcZe8Bc6e9Bc7e@Bc8e$Bc9BBc@9dZjKd6jLd7jMd9b6d@jNd$jOeAjPeBjQeCb$eFcAeJjReKcCeLcDfNbgHfOj6fPj7fTj8fUj9fVj@fWj$fXkAfYkBfZkCf9kDf@kEf$kFgAkGgFkHgGkI9eKBIeLBOKBPeMBTNBUOBVQBYRB6SB7eNB8eOBb7ePBb8eQBb9eRBb@eSBb$eTBcAeUBcBeVBcPeWBcQeXBcSeYBcWeZBcXe6BcYe7BcZe8Bc6e9Bc7e@Bc8e$Bc9BBc@9dZjKd6jLd7jMd9b6d@jNd$jOeAjPeBjQeCb$eFcAeJjReKcCeLcDfNbgIfOj6fPj7fTj8fUj9fVj@fWj$fXkAfYkBfZkCf9kDf@kEf$kFgAkGgFkHgGkI9eKBIeLBOKBPeMBTNBUOBVQBYRB6SB7eNB8eOBb7ePBb8eQBb9eRBb@eSBb$eTBcAeUBcBeVBcPeWBcQeXBcSeYBcWeZBcXe6BcYe7BcZe8Bc6e9Bc7e@Bc8e$Bc9BBc@9dZjKd6jLd7jMd9b6d@jNd$jOeAjPeBjQeCb$eFcAeJjReKcCeLcDfNbgJfOj6fPj7fTj8fUj9fVj@fWj$fXkAfYkBfZkCf9kDf@kEf$kFgAkGgFkHgGkI9eKBIeLBOKBPeMBTNBUOBVQBYRB6SB7eNB8eOBb7ePBb8eQBb9eRBb@eSBb$eTBcAeUBcBeVBcPeWBcQeXBcSeYBcWeZBcXe6BcYe7BcZe8Bc6e9Bc7e@Bc8e$Bc9BBc@9dZjKd6jLd7jMd9b6d@jNd$jOeAjPeBjQeCb$eFcAeJjReKcCeLcDfNbgKfOj6fPj7fTj8fUj9fVj@fWj$fXkAfYkBfZkCf9kDf@kEf$kFgAkGgFkHgGkI9eKBIeLBOKBPeMBTNBUOBVQBYRB6SB7eNB8eOBb7ePBb8eQBb9eRBb@eSBb$eTBcAeUBcBeVBcPeWBcQeXBcSeYBcWeZBcXe6BcYe7BcZe8Bc6e9Bc7e@Bc8e$Bc9BBc@9dZjKd6jLd7jMd9b6d@jNd$jOeAjPeBjQeCb$eFcAeJjReKcCeLcDfNbgLfOj6fPj7fTj8fUj9fVj@fWj$fXkAfYkBfZkCf9kDf@kEf$kFgAkGgFkHgGkI9eKBIeLBOKBPeMBTNBUOBVQBYRB6SB7eNB8eOBb7ePBb8eQBb9eRBb@eSBb$eTBcAeUBcBeVBcPeWBcQeXBcSeYBcWeZBcXe6BcYe7BcZe8Bc6e9Bc7e@Bc8e$Bc9BBc@9dZjKd6jLd7jMd9b6d@jNd$jOeAjPeBjQeCb$eFcAeJjReKcCeLcDfNbgMfOj6fPj7fTj8fUj9fVj@fWj$fXkAfYkBfZkCf9kDf@kEf$kFgAkGgFkHgGkI9eKBIeLBOKBPeMBTNBUOBVQBYRB6SB7eNB8eOBb7ePBb8eQBb9eRBb@eSBb$eTBcAeUBcBeVBcPeWBcQeXBcSeYBcWeZBcXe6BcYe7BcZe8Bc6e9Bc7e@Bc8e$Bc9BBc@9dZjKd6jLd7jMd9b6d@jNd$jOeAjPeBjQeCb$eFcAeJjReKcCeLcDfNbgNfOj6fPj7fTj8fUj9fVj@fWj$fXkAfYkBfZkCf9kDf@kEf$kFgAkGgFkHgGkICnHBIBBc@BfSbgODv@GBBBUbBBv$BbUBBc@ACoXbJCECDBDEDDDBBBBBBBBBBBBBBTBCBBBBBBBBBBBBBBBBc@ACpCbJCECDBDEDDDBBBBBBBBBBBBBBTBCBBBBBBBBBBBBBBBBc@A@eKBIeLBOKBPeMBTNBUOBVwABWQBYRB6SB7eNB8eOBb7ePBb8eQBb9eRBb@eSBb$eTBcAeUBcBeVBcPeWBcQeXBcSeYBcWeZBcXe6BcYe7BcZe8Bc6e9Bc7e@Bc8e$Bc9BBc@bFdXbgQdZjKd6jLd7jMd9b6d@jNd$jOeAjPeBjQeCb$eFcAeJjReKcCeLcDeQbgReRjTeSjUeUjVeVjWeWjXeXjYfNbgSfOj6fPj7fTj8fUj9fVj@fWj$fXkAfYkBfZkCf9kDf@kEf$kFgAkGgFkHgGkIYwBBCiCBGiDBIiFBPj9BTj@BZj$Bb9kABb@kBBcAkCBcBkDBcCkEBcDkFBcEkGBcFkHBcGkIBcHkJBcIkKBcJkLBcKkMBcLkNBcMkOBcNkPBcOBBc@Cd8pRfSpS9bXBIbYBOKBPoABTNBUOBVQBYRB6SB7oBB8b7Bb7b8Bb8oCBb9oDBb@oEBb$oFBcAoGBcBoHBcPcDBcQcEBcScFBcWcGBcXcHBcYcIBcZcJBc6cKBc7cLBc8cMBc9BBc@9dZgAd6gBd7eOd9b6d@ePd$eQeAeReBeSeCb$eFcAeJeTeKcCeLcDfNn9fOeVfPeWfTeXfUeYfVeZfWe6fXe7fYe8fZe9f9e@f@e$f$fAgAfBgFfCgGfD9bXBIbYBOKBPoABTNBUOBVQBYRB6dMB7oBB8b7Bb7b8Bb8oCBb9oDBb@oEBb$oFBcAoGBcBoHBcPcDBcQcEBcScFBcWcGBcXcHBcYcIBcZcJBc6cKBc7cLBc8cMBc9BBc@9dZfXd6fYd7eOd9b6d@ePd$eQeAeReBeSeCb$eFcAeJeTeKcCeLcDfNoAfOeVfPeWfTeXfUeYfVeZfWe6fXe7fYe8fZe9f9e@f@e$f$fAgAfBgFfCgGfD9bXBIbYBOKBPoABTNBUOBVQBYRB6SB7oBB8b7Bb7b8Bb8oCBb9oDBb@oEBb$oFBcAoGBcBoHBcPcDBcQcEBcScFBcWcGBcXcHBcYcIBcZcJBc6cKBc7cLBc8cMBc9BBc@9dZfXd6f" ++
  "Yd7eOd9b6d@ePd$eQeAeReBeSeCb$eFcAeJeTeKcCeLcDfNoEfOeVfPeWfTeXfUeYfVeZfWe6fXe7fYe8fZe9f9e@f@e$f$fAgAfBgFfCgGfD9bXBIbYBOKBPoABTNBUOBVQBYRB6SB7oBB8b7Bb7b8Bb8oCBb9oDBb@oEBb$oFBcAoGBcBoHBcPcDBcQcEBcScFBcWcGBcXcHBcYcIBcZcJBc6cKBc7cLBc8cMBc9BBc@9dZfXd6fYd7eOd9b6d@ePd$eQeAeReBeSeCb$eFcAeJeTeKcCeLcDfNoFfOeVfPeWfTeXfUeYfVeZfWe6fXe7fYe8fZe9f9e@f@e$f$fAgAfBgFfCgGfD9bXBIbYBOKBPoABTNBUOBVQBYRB6SB7oBB8b7Bb7b8Bb8oCBb9oDBb@oEBb$oFBcAoGBcBoHBcPcDBcQcEBcScFBcWcGBcXcHBcYcIBcZcJBc6cKBc7cLBc8cMBc9BBc@9dZfXd6fYd7eOd9b6d@ePd$eQeAeReBeSeCb$eFcAeJeTeKcCeLcDfNoGfOeVfPeWfTeXfUeYfVeZfWe6fXe7fYe8fZe9f9e@f@e$f$fAgAfBgFfCgGfD9bXBIbYBOKBPoABTNBUOBVQBYRB6SB7oBB8b7Bb7b8Bb8oCBb9oDBb@oEBb$oFBcAoGBcBoHBcPcDBcQcEBcScFBcWcGBcXcHBcYcIBcZcJBc6cKBc7cLBc8cMBc9BBc@9dZfXd6fYd7eOd9b6d@ePd$eQeAeReBeSeCb$eFcAeJeTeKcCeLcDfNoHfOeVfPeWfTeXfUeYfVeZfWe6fXe7fYe8fZe9f9e@f@e$f$fAgAfBgFfCgGfD9bXBIbYBOKBPoABTNBUOBVQBYRB6SB7oBB8b7Bb7b8Bb8oCBb9oDBb@oEBb$oFBcAoGBcBoHBcPcDBcQcEBcScFBcWcGBcXcHBcYcIBcZcJBc6cKBc7cLBc8cMBc9BBc@9dZfXd6fYd7eOd9b6d@ePd$eQeAeReBeSeCb$eFcAeJeTeKcCeLcDfNoIfOeVfPeWfTeXfUeYfVeZfWe6fXe7fYe8fZe9f9e@f@e$f$fAgAfBgFfCgGfDFfGBGfHBIfEWLIDDEbABCBBBBBBBBBBBBBBfIBPBBc@Cd8lDf6oKYiCBGiDBIiFBPwCBTwDBWwEBZwFBb9wGBb@wHBcAwIBcBwJBcCwKBcDwLBcEwMBcFwNBcGwOBcHwPBcIwQBcJwRBcKwSBcLwTBcMwUBcNwVBcOBBc@Cd8pRfSpS@bXBIbYBOKBPcVBTNBUOBVQBYRB6SB7cWB8wWBbWb7Bb7b8Bb8cXBb9cYBb@cZBb$c6BcAc7BcBcCBcPcDBcQcEBcScFBcWcGBcXcHBcYcIBcZcJBc6cKBc7cLBc8cMBc9BBc@@dXbe6dZfXd6fYd7eOd9b6d@ePd$eQeAeReBeSeCb$eFcAeJeTeKcCeLcDfNbe7fOeVfPeWfTeXfUeYfVeZfWe6fXe7fYe8fZe9f9e@f@e$f$fAgAfBgFfCgGfD@bXBIbYBOKBPcVBTNBUOBVQBYRB6SB7cWB8wXBbWb7Bb7b8Bb8cXBb9cYBb@cZBb$c6BcAc7BcBcCBcPcDBcQcEBcScFBcWcGBcXcHBcYcIBcZcJBc6cKBc7cLBc8cMBc9BBc@@dXbe8dZfXd6fYd7eOd9b6d@ePd$eQeAeReBeSeCb$eFcAeJeTeKcCeLcDfNbe7fOeVfPeWfTeXfUeYfVeZfWe6fXe7fYe8fZe9f9e@f@e$f$fAgAfBgFfCgGfD@wYBCbXBIbYBOKBPcVBTNBUOBVQBYRB6SB7cWB8b7Bb7b8Bb8cXBb9cYBb@cZBb$c6BcAc7BcBcCBcPcDBcQcEBcScFBcWcGBcXcHBcYcIBcZcJBc6cKBc7cLBc8cMBc9BBc@9dZfXd6fYd7eOd9b6d@ePd$eQeAeReBeSeCb$eFcAeJeTeKcCeLcDfNbhKfOeVfPeWfTeXfUeYfVeZfWe6fXe7fYe8fZe9f9e@f@e$f$fAgAfBgFfCgGfDCwZGBBBUbBBBBc@ACwZGBBBUbBBBBc@ACwZGBBBUbBBBBc@ACw6GBBBUbBBBBc@A9bXBIbYBOKBPcVBTNBUOBVQBYRB6SB7cWB8b7Bb7b8Bb8cXBb9cYBb@cZBb$c6BcAc7BcBcCBcPcDBcQcEBcScFBcWcGBcXcHBcYcIBcZcJBc6cKBc7cLBc8cMBc9BBc@@dXbhLdZfXd6fYd7eOd9b6d@ePd$eQeAeReBeSeCb$eFcAeJeTeKcCeLcDfNbe7fOeVfPeWfTeXfUeYfVeZfWe6fXe7fYe8fZe9f9e@f@e$f$fAgAfBgFfCgGfDCw7BbLBBc@AEw8BXoNBbYoOBbZBBc@DfGbhOfHbhOgYbhO9bXBIbYBOKBPcVBTNBUOBVQBYRB6SB7cWB8b7Bb7b8Bb8cXBb9cYBb@cZBb$c6BcAc7BcBcCBcPcDBcQcEBcScFBcWcGBcXcHBcYcIBcZcJBc6cKBc7cLBc8cMBc9BBc@@dXbe8dZfXd6fYd7eOd9b6d@ePd$eQeAeReBeSeCb$eFcAeJeTeKcCeLcDfNbhPfOeVfPeWfTeXfUeYfVeZfWe6fXe7fYe8fZe9f9e@f@e$f$fAgAfBgFfCgGfD@bXBIbYBOKBPoABTNBUOBVw9BWQBYRB6SB7oBB8b7Bb7b8Bb8oCBb9oDBb@oEBb$oFBcAoGBcBoHBcPcDBcQcEBcScFBcWcGBcXcHBcYcIBcZcJBc6cKBc7cLBc8cMBc9BBc@@dXbhRdZfXd6fYd7eOd9b6d@ePd$eQeAeReBeSeCb$eFcAeJeTeKcCeLcDfNbhSfOeVfPeWfTeXfUeYfVeZfWe6fXe7fYe8fZe9f9e@f@e$f$fAgAfBgFfCgGfDEw@BXw$BbYoOBbZBBc@DfHbhVfKbhVgZbhVDxABIv7BcPBBc@AExBBXoNBbYoOBbZBBc@DfGbhYfHbhYgYbhYCxCGBBBUbBBBBc@A9xDBIxEBOKBPxFBTNBUOBVQBYRB6SB7xGB8xHBb7xIBb8xJBb9xKBb@xLBb$xMBcAxNBcBxOBcPxPBcQxQBcSxRBcWxSBcXxTBcYxUBcZxVBc6xWBc7xXBc8xYBc9BBc@bAdXbiPdZbiQd6biRd7biSd9b6d@biTd$biUeAbiVeBbiWeCb$eFcAeJbiXeKcCeLcDeSbiYeTbiZfNbi6fObi7fPbi8fTbi9fUbi@fVbi$fWbjAfXbjBfYbjCfZbjDf9bjEf@bjFf$bjGgAbjHgFbjIgGbjJExZBXoVBbYoOBbZBBc@DfHbjLfMbjLg7bjLCx6bNBBBDCDBDEECDBBBBBBBBBBBBBBOBEBCBBBBBBBBBBBBBBBBc@ADx7BJx8BLBBc@BgRbjODx9BJx@BLBBc@BgRbjRCx$JIBCBDBGDSBBc@ADu7CLFyABZBBc@BgWbjTDu7CLFyABZBBc@BgWbjUDyBBLyCBQBBc@BgSbjXCyDBXBBc@ACyEbNBBBDCDBDEECDBBBBBBBBBBBBBBOBEBCBBBBBBBBBBBBBBBBc@AYiCBGiDBIyFDLMUiFBPj9BTj@BZj$Bb9kABb@kBBcAkCBcBkDBcCkEBcDkFBcEkGBcFkHBcGkIBcHkJBcIkKBcJkLBcKkMBcLkNBcMkOBcNkPBcOBBc@Cd8pRfSpSCyFDLMUBBc@AEyGBLyHBXyIBbLBBc@Bg9bj8DyJBLyKBXBBc@Bg9bj$CyLGBBBUbBBBBc@ACyMbPABBBDCBCBDEECDBBBBBBBBBBBBBBOBEBCBBBBBBBBBBBBBBBBc@ADyNCcTCyOBcUBBc@Bg@y7CyPbPABBBDCBCBDEECDBBBBBBBBBBBBBBOBEBCBBBBBBBBBBBBBBBBc@ACyQGBBBUbBBBBc@ACyRGBBBUbBBBBc@ACyQGBBBUbBBBBc@ACyQGBBBUbBBBBc@ACyQGBBBUbBBBBc@ACyQGBBBUbBBBBc@ACyQGBBBUbBBBB" ++
  "c@ACyQGBBBUbBBBBc@ACyQGBBBUbBBBBc@ACyQGBBBUbBBBBc@ACyQGBBBUbBBBBc@ACyQGBBBUbBBBBc@ACyQGBBBUbBBBBc@AZiCBGiDBIySBJyTBLiFBPiGBTiHBZiIBb9iJBb@iKBcAiLBcBiMBcCiNBcDiOBcEiPBcFiQBcGiRBcHiSBcIiTBcJiUBcKiVBcLiWBcMiXBcNiYBcOBBc@Cd8pRfSpSDyUBLyVBQBBc@Bg6bkEDyWBLyXBQBBc@Bg6bkHZiCBGiDBIyYBJyZBLiFBPiGBTiHBZiIBb9iJBb@iKBcAiLBcBiMBcCiNBcDiOBcEiPBcFiQBcGiRBcHiSBcIiTBcJiUBcKiVBcLiWBcMiXBcNiYBcOBBc@Cd8pRfSpSDy6BLy7BQBBc@Bg6bkMDy8BLy9BQBBc@Bg6bkPMdBBIi9BOi@BPi$BTNBUOBVQBYjAB6jBB7jCB8jDBcPBBc@NdZbkQd6bkRd7gNd9b6d@gOeAgPeBgQeCqCeFcAeJgReKcCeLcDgAqDCy@bNBBBDCDBDEECDBBBBBBBBBBBBBBOBEBCBBBBBBBBBBBBBBBBc@ACy$bNBBBDCDBDEECDBBBBBBBBBBBBBBOBEBCBBBBBBBBBBBBBBBBc@A6iCBGiDBIzABJzBBLiFBPzCBRiGBTiHBZiIBb9iJBb@iKBcAiLBcBiMBcCiNBcDiOBcEiPBcFiQBcGiRBcHiSBcIiTBcJiUBcKiVBcLiWBcMiXBcNiYBcOBBc@Dd8pRfSpSg8bkVDzDBJzEBLBBc@Bg8bkY9bXBIbYBOKBPbZBTNBUOBVQBYRB6SB7b6B8b7Bb7b8Bb8b9Bb9b@Bb@b$Bb$cABcAcBBcBcCBcPcDBcQcEBcScFBcWcGBcXcHBcYcIBcZcJBc6cKBc7cLBc8cMBc9BBc@9dZeMd6eNd7eOd9b6d@ePd$eQeAeReBeSeCb$eFcAeJeTeKcCeLcDfNbkZfOeVfPeWfTeXfUeYfVeZfWe6fXe7fYe8fZe9f9e@f@e$f$fAgAfBgFfCgGfDCcRBIBBc@BdQbk69pHBIpIBOKBPpJBTNBUOBVQBYRB6SB7pKB8pLBb7pMBb8pNBb9pOBb@pPBb$pQBcApRBcBpSBcPpTBcQpUBcSpVBcWpWBcXpXBcYpYBcZpZBc6p6Bc7p7Bc8p8Bc9BBc@9dZgAd6gBd70Nd9b6d@0Od$0PeA0QeB0ReCb$eFcAeJ0SeKcCeLcDfNbk7fO0UfP0VfT0WfU0XfV0YfW0ZfX06fY07fZ08f909f@0@f$0$gA1AgF1BgG1C9pHBIpIBOKBPpJBTNBUOBVQBYRB6dMB7pKB8pLBb7pMBb8pNBb9pOBb@pPBb$pQBcApRBcBpSBcPpTBcQpUBcSpVBcWpWBcXpXBcYpYBcZpZBc6p6Bc7p7Bc8p8Bc9BBc@9dZ0Ld60Md70Nd9b6d@0Od$0PeA0QeB0ReCb$eFcAeJ0SeKcCeLcDfNbk8fO0UfP0VfT0WfU0XfV0YfW0ZfX06fY07fZ08f909f@0@f$0$gA1AgF1BgG1CDfEbDGFBDEGEDBBBBBBBBBBTBCBBBBBBBBBBBBBBzFBIBBc@BfRbk@DfEbDGFBDEGEDBBBBBBBBBBTBCBBBBBBBBBBBBBBzFBIBBc@BfRbk$9pHBIpIBOKBPpJBTNBUOBVQBYRB6SB7pKB8pLBb7pMBb8pNBb9pOBb@pPBb$pQBcApRBcBpSBcPpTBcQpUBcSpVBcWpWBcXpXBcYpYBcZpZBc6p6Bc7p7Bc8p8Bc9BBc@9dZ0Ld60Md70Nd9b6d@0Od$0PeA0QeB0ReCb$eFcAeJ0SeKcCeLcDfNblAfO0UfP0VfT0WfU0XfV0YfW0ZfX06fY07fZ08f909f@0@f$0$gA1AgF1BgG1C9pHBIpIBOKBPpJBTNBUOBVQBYRB6SB7pKB8pLBb7pMBb8pNBb9pOBb@pPBb$pQBcApRBcBpSBcPpTBcQpUBcSpVBcWpWBcXpXBcYpYBcZpZBc6p6Bc7p7Bc8p8Bc9BBc@9dZ0Ld60Md70Nd9b6d@0Od$0PeA0QeB0ReCb$eFcAeJ0SeKcCeLcDfNblBfO0UfP0VfT0WfU0XfV0YfW0ZfX06fY07fZ08f909f@0@f$0$gA1AgF1BgG1C9pHBIpIBOKBPpJBTNBUOBVQBYRB6SB7pKB8pLBb7pMBb8pNBb9pOBb@pPBb$pQBcApRBcBpSBcPpTBcQpUBcSpVBcWpWBcXpXBcYpYBcZpZBc6p6Bc7p7Bc8p8Bc9BBc@9dZ0Ld60Md70Nd9b6d@0Od$0PeA0QeB0ReCb$eFcAeJ0SeKcCeLcDfNblCfO0UfP0VfT0WfU0XfV0YfW0ZfX06fY07fZ08f909f@0@f$0$gA1AgF1BgG1C9pHBIpIBOKBPpJBTNBUOBVQBYRB6SB7pKB8pLBb7pMBb8pNBb9pOBb@pPBb$pQBcApRBcBpSBcPpTBcQpUBcSpVBcWpWBcXpXBcYpYBcZpZBc6p6Bc7p7Bc8p8Bc9BBc@9dZ0Ld60Md70Nd9b6d@0Od$0PeA0QeB0ReCb$eFcAeJ0SeKcCeLcDfNblDfO0UfP0VfT0WfU0XfV0YfW0ZfX06fY07fZ08f909f@0@f$0$gA1AgF1BgG1C9pHBIpIBOKBPpJBTNBUOBVQBYRB6SB7pKB8pLBb7pMBb8pNBb9pOBb@pPBb$pQBcApRBcBpSBcPpTBcQpUBcSpVBcWpWBcXpXBcYpYBcZpZBc6p6Bc7p7Bc8p8Bc9BBc@9dZ0Ld60Md70Nd9b6d@0Od$0PeA0QeB0ReCb$eFcAeJ0SeKcCeLcDfNblEfO0UfP0VfT0WfU0XfV0YfW0ZfX06fY07fZ08f909f@0@f$0$gA1AgF1BgG1CGfGBGfHBIfEbBLBHGEDBBBBBBBBBBTBCBBBBBBBBBBBBBBfIBPzGBWBBc@Cd8lDf6blGCzHBcRBBc@ADzICcTCzJBcUBBc@Bg@blICfEbEGCDBDEGEDBBBBBBBBBBTBCBBBBBBBBBBBBBBBBc@ACfEbEGCDBDEGEDBBBBBBBBBBTBCBBBBBBBBBBBBBBBBc@ACfEbEGCDBDEGEDBBBBBBBBBBTBCBBBBBBBBBBBBBBBBc@ACfEbEGCDBDEGEDBBBBBBBBBBTBCBBBBBBBBBBBBBBBBc@ACfEbEGCDBDEGEDBBBBBBBBBBTBCBBBBBBBBBBBBBBBBc@ACfEbEGCDBDEGEDBBBBBBBBBBTBCBBBBBBBBBBBBBBBBc@ACfEbEGCDBDEGEDBBBBBBBBBBTBCBBBBBBBBBBBBBBBBc@ACfEbEGCDBDEGEDBBBBBBBBBBTBCBBBBBBBBBBBBBBBBc@ADzKBIzLBPBBc@ADzMBIzNBPBBc@ADgOCIHzGBWBBc@Bf6blODgOCIHzGBWBBc@Bf6blPCzGBWBBc@Bf6blQDgOCIHzGBWBBc@Bf6blRDgOCIHzGBWBBc@Bf6blSDgOCIHzGBWBBc@Bf6blTYzOBGzPBIzQOLBRDBBBBBBBBBBzRBPzSBTzTBZzUBb9zVBb@zWBcAzXBcBzYBcCzZBcDz6BcEz7BcFz8BcGz9BcHz@BcIz$BcJ0ABcK0BBcL0CBcM0DBcN0EBcOBBc@Cd8bmKfSbmLCfEbEGCDBDEGEDBBBBBBBBBBTBCBBBBBBBBBBBBBBBBc@ACfEbEGCDBDEGEDBBBBBBBBBBTBCBBBBBBBBBBBBBBBBc@ACfEbEGCDBDEGEDBBBBBBBBBBTBCBBBBBBBBBBBBBBBBc@ACfEbEGCDBDEGEDBBBBBBBBBBTBCBBBBBBBBBBBBBBBBc@ACfEbEGCDBDEGEDBBBBBBBBBBTBCBBBBBBBBBBBBBBBBc@ACfEbEGCDBDEGEDBBBBBBBBBBTBCBBBBBBBBBBBBBBBBc@ACfEbEGCDBDEGEDBBBBBBBBBBTBCBBBBBBBBBBBBBBBBc@ACfEbEGCDBDEGEDBBBBBBBBBBTBCBBBBB" ++
  "BBBBBBBBBBBc@ACfEbEGCDBDEGEDBBBBBBBBBBTBCBBBBBBBBBBBBBBBBc@ACfEbEGCDBDEGEDBBBBBBBBBBTBCBBBBBBBBBBBBBBBBc@ACfEbEGCDBDEGEDBBBBBBBBBBTBCBBBBBBBBBBBBBBBBc@ACfEbEGCDBDEGEDBBBBBBBBBBTBCBBBBBBBBBBBBBBBBc@AEgOBIgPBPzGBWBBc@Cd8nMf6bmMCfEbEGCDBDEGEDBBBBBBBBBBTBCBBBBBBBBBBBBBBBBc@ACfEbEGCDBDEGEDBBBBBBBBBBTBCBBBBBBBBBBBBBBBBc@A9bXBIbYBOKBPp9BTNBUOBVQBYRB6SB7cWB8b7Bb7b8Bb8cXBb9cYBb@cZBb$c6BcAc7BcBp$BcPcDBcQcEBcScFBcWcGBcXcHBcYcIBcZcJBc6cKBc7cLBc8cMBc9BBc@9dZgAd6gBd7eOd9b6d@ePd$eQeAeReBeSeCb$eFcAeJeTeKcCeLcDfNn9fOeVfPeWfTeXfUeYfVeZfWe6fXe7fYe8fZe9f9e@f@e$f$fAgAfBgFfCgGfD@bXBIbYBOKBP0FBQcVBTNBUOBVQBYRB6SB7cWB8b7Bb7b8Bb8cXBb9cYBb@cZBb$c6BcAc7BcBcCBcPcDBcQcEBcScFBcWcGBcXcHBcYcIBcZcJBc6cKBc7cLBc8cMBc9BBc@9dZfXd6fYd7eOd9b6d@ePd$eQeAeReBeSeCb$eFcAeJeTeKcCeLcDfNbmOfOeVfPeWfTeXfUeYfVeZfWe6fXe7fYe8fZe9f9e@f@e$f$fAgAfBgFfCgGfDHfGBGfHDIIJk8BLfIBPfETTYSBCBBBBBBBBBBBBBBhYBWBBc@Cd8lDf6oKFh8BIu7CLFh@BPyABZBBc@BgWbjTFh$BIu7CLFiBBPyABZBBc@BgWbjUZiCBGiDBIiFBP0GBQj9BTj@BZ0HBbLj$Bb9kABb@kBBcAkCBcBkDBcCkEBcDkFBcEkGBcFkHBcGkIBcHkJBcIkKBcJkLBcKkMBcLkNBcMkOBcNkPBcOBBc@Cd8pRfSpSF0IbKBBBIBHECDBBBBBBBBBBBBBBOBEBCBBBBBBBBBBBBBBgVBGgWBIgZBPBBc@Cd8nJfSnKM0IbDBBBIBLCDBBBBBBBBBBBBBBOBEBCHBBBBBBBgVBGgWBIgZBPg6BThCBcBhDBcChEBcDhFBcEhGBcFhHBcGBBc@Cd8nJfSnKY0JGBBBUbBBlWBGlXBIlZBPl6BTl7BZl8Bb9l9Bb@l@BcAl$BcBmABcCmBBcDmCBcEmDBcFmEBcGmFBcHmGBcImHBcJmIBcKmJBcLmKBcMmLBcNmMBcOBBc@Cd8vFfSvGM0IbDBBBIBLCDBBBBBBBBBBBBBBOBEBCHBBBBBBBgVBGgWBIgZBPg6BThCBcBhDBcChEBcDhFBcEhGBcFhHBcGBBc@Cd8nJfSnKM0IbDBBBIBLCDBBBBBBBBBBBBBBOBEBCHBBBBBBBgVBGgWBIgZBPg6BThCBcBhDBcChEBcDhFBcEhGBcFhHBcGBBc@Cd8nJfSnKM0IbDBBBIBLCDBBBBBBBBBBBBBBOBEBCHBBBBBBBgVBGgWBIgZBPg6BThCBcBhDBcChEBcDhFBcEhGBcFhHBcGBBc@Cd8nJfSnKF0IbKBBBIBHECDBBBBBBBBBBBBBBOBEBCBBBBBBBBBBBBBBgVBGgWBIgZBPBBc@Cd8nJfSnKF0IbKBBBIBHECDBBBBBBBBBBBBBBOBEBCBBBBBBBBBBBBBBgVBGgWBIgZBPBBc@Cd8nJfSnKF0IbKBBBIBHECDBBBBBBBBBBBBBBOBEBCBBBBBBBBBBBBBBgVBGgWBIgZBPBBc@Cd8nJfSnKF0IbKBBBIBHECDBBBBBBBBBBBBBBOBEBCBBBBBBBBBBBBBBgVBGgWBIgZBPBBc@Cd8nJfSnKF0IbKBBBIBHECDBBBBBBBBBBBBBBOBEBCBBBBBBBBBBBBBBgVBGgWBIgZBPBBc@Cd8nJfSnKF0IbKBBBIBHECDBBBBBBBBBBBBBBOBEBCBBBBBBBBBBBBBBgVBGgWBIgZBPBBc@Cd8nJfSnKQ0I$BBBIBLFBBBBBBBBBBBBBBOBOBBBBBBBgVBGgWBIgZBPg6BTg7BZg$Bb9hABb@hBBcAhCBcBhDBcChEBcDhFBcEhGBcFhHBcGBBc@Cd8nJfSnKQ0I$BBBIBLFBBBBBBBBBBBBBBOBOBBBBBBBgVBGgWBIgZBPg6BTg7BZg$Bb9hABb@hBBcAhCBcBhDBcChEBcDhFBcEhGBcFhHBcGBBc@Cd8nJfSnKQ0I$BBBIBLFBBBBBBBBBBBBBBOBOBBBBBBBgVBGgWBIgZBPg6BTg7BZg$Bb9hABb@hBBcAhCBcBhDBcChEBcDhFBcEhGBcFhHBcGBBc@Cd8nJfSnKQ0I$BBBIBLFBBBBBBBBBBBBBBOBOBBBBBBBgVBGgWBIgZBPg6BTg7BZg$Bb9hABb@hBBcAhCBcBhDBcChEBcDhFBcEhGBcFhHBcGBBc@Cd8nJfSnKQ0I$BBBIBLFBBBBBBBBBBBBBBOBOBBBBBBBgVBGgWBIgZBPg6BTg7BZg$Bb9hABb@hBBcAhCBcBhDBcChEBcDhFBcEhGBcFhHBcGBBc@Cd8nJfSnKQ0I$BBBIBLFBBBBBBBBBBBBBBOBOBBBBBBBgVBGgWBIgZBPg6BTg7BZg$Bb9hABb@hBBcAhCBcBhDBcChEBcDhFBcEhGBcFhHBcGBBc@Cd8nJfSnKW0IZBBBIBLFBBBBBBBBBBBBBBOBUBgVBGgWBIgZBPg6BTg7BZg$Bb9hABb@hBBcAhCBcBhDBcChEBcDhFBcEhGBcFhHBcGhIBcHhJBcIhKBcJhLBcKhMBcLhNBcMBBc@Cd8nJfSnKX0IYBBBIBLFBBBBBBBBBBBBBBOBVgVBGgWBIgZBPg6BTg7BZg$Bb9hABb@hBBcAhCBcBhDBcChEBcDhFBcEhGBcFhHBcGhIBcHhJBcIhKBcJhLBcKhMBcLhNBcMhOBcNBBc@Cd8nJfSnKC0KbNBBBDCDBDEECDBBBBBBBBBBBBBBOBEBCBBBBBBBBBBBBBBBBc@AD0LBLzQNMRDBBBBBBBBBBBBc@BgR1@EfQBBfRBCfSBDBBc@AEfTBBfUBCfVBDBBc@AEfXBBfYBCfZBDBBc@AEf6BBf7BCf8BDBBc@AHbTBGbUBH0MBJbWBcPbHBcQbIBcSBBc@EdDbmSdEdSgFdUgGdVHbTBGbUBH0NBJbWBcPbHBcQbIBcSBBc@EdDbmUdEdSgFdUgGdVHbTBGbUBH0OBJbWBcPbHBcQbIBcSBBc@EdDbmWdEdSgFdUgGdVC0PEABBBBBc@AF0QBB0RBC0SBD0TBJBBc@BgIbm7CsFbACECBCBDBBCDBCEOSBCBBBBBBBBBBBBBBBBc@AbODBCGBIHBKIBNc@BOKBPLBSMBTNBUOBVPBW0UBXQBYRB6SB7TB8UBbMVBbNWBbOXBbPYBbQZBbR6BbS7BbT8BbV9BbX@Bb6$Bb7bABb8bBBb9bCBb@bDBb$bEBcAbFBcBdIBcPbHBcQbIBcSbJBcWbKBcXbLBcYbMBcZbNBc6bOBc7bPBc8bQBc9BBc@b7dGbTdHbTdJbTdUbTdXbWdZbXd6bYd7bZd9b6d@b7d$b8eAb9eBb@eCb$eFcAeJcBeKcCeLcDeMcEeNbm9eOgWePcGeQcHeRcIeScJeUcKeVcLeWcMeXcNeYcOeZgXe6cPe7cQe8cRe9cSe@cTe$cUfAcVfBcWfCcXfFcYfIcZfLc6fNc7fOc8fPc9fTc@fUc$fVdAfWdBfXdCfYdDfZdEf9dFf@dGf$dHgAdIgFdJgGdKDt9GIBCEBJr7BWBBc@BeMbm@Dt9GIBCEBJr7BWBBc@BeMbm$Ct@bACECBCBDBBCDBCEOSBCBBBBBBBBBBBBBBBBc@ACx6bACECBCBDBBCDBCEOSBCBBBBBBBBBBBBBBBBc@AD0VBJ0WBLB" ++
  "Bc@BgRbnCD0XBJ0YBLBBc@BgRbnFC0ZBXBBc@ACyEbACECBCBDBBCDBCEOSBCBBBBBBBBBBBBBBBBc@AE06BL07BXyIBbLBBc@Bg9bnJD08BL09BXBBc@Bg9bnMCyMbACECBCBDBBCDBCEOSBCBBBBBBBBBBBBBBBBc@ACyPbACECBCBDBBCDBCEOSBCBBBBBBBBBBBBBBBBc@AZiCBGiDBI0@BJ0$BLiFBPiGBTiHBZiIBb9iJBb@iKBcAiLBcBiMBcCiNBcDiOBcEiPBcFiQBcGiRBcHiSBcIiTBcJiUBcKiVBcLiWBcMiXBcNiYBcOBBc@Cd8pRfSpSD1ABL1BBQBBc@Bg6bnRD1CBL1DBQBBc@Bg6bnUZiCBGiDBI1EBJ1FBLiFBPiGBTiHBZiIBb9iJBb@iKBcAiLBcBiMBcCiNBcDiOBcEiPBcFiQBcGiRBcHiSBcIiTBcJiUBcKiVBcLiWBcMiXBcNiYBcOBBc@Cd8pRfSpSD1GBL1HBQBBc@Bg6bnZD1IBL1JBQBBc@Bg6bn8MdBBIi9BOi@BPi$BTNBUOBVQBYjAB6jBB7jCB8jDBcPBBc@NdZbn9d6bn@d7gNd9b6d@gOeAgPeBgQeCqCeFcAeJgReKcCeLcDgAqDCy@bACECBCBDBBCDBCEOSBCBBBBBBBBBBBBBBBBc@ACy$bACECBCBDBBCDBCEOSBCBBBBBBBBBBBBBBBBc@A6iCBGiDBI1KBJ1LBLiFBPzCBRiGBTiHBZiIBb9iJBb@iKBcAiLBcBiMBcCiNBcDiOBcEiPBcFiQBcGiRBcHiSBcIiTBcJiUBcKiVBcLiWBcMiXBcNiYBcOBBc@Dd8pRfSpSg8boBD1MBJ1NBLBBc@Bg8boE@bXBIbYBOKBP1OBQcVBTNBUOBVQBYRB6SB7cWB8b7Bb7b8Bb8cXBb9cYBb@cZBb$c6BcAc7BcBcCBcPcDBcQcEBcScFBcWcGBcXcHBcYcIBcZcJBc6cKBc7cLBc8cMBc9BBc@9dZfXd6fYd7eOd9b6d@ePd$eQeAeReBeSeCb$eFcAeJeTeKcCeLcDfNboGfOeVfPeWfTeXfUeYfVeZfWe6fXe7fYe8fZe9f9e@f@e$f$fAgAfBgFfCgGfDZiCBGiDBIiFBP1PBQj9BTj@BZ1QBbLj$Bb9kABb@kBBcAkCBcBkDBcCkEBcDkFBcEkGBcFkHBcGkIBcHkJBcIkKBcJkLBcKkMBcLkNBcMkOBcNkPBcOBBc@Cd8pRfSpSF0I9CHCBEBCDBCEOSBCBBBBBBBBBBBBBBiCBGiDBIiFBPBBc@Cd8pRfSpSMiCBGiDBI0IPJCGIbEBCHBBBBBBBiFBPiGBTiLBcBiMBcCiNBcDiOBcEiPBcFiQBcGBBc@Cd8pRfSpSMiCBGiDBI0IPJCGIbEBCHBBBBBBBiFBPiGBTiLBcBiMBcCiNBcDiOBcEiPBcFiQBcGBBc@Cd8pRfSpSMiCBGiDBI0IPJCGIbEBCHBBBBBBBiFBPiGBTiLBcBiMBcCiNBcDiOBcEiPBcFiQBcGBBc@Cd8pRfSpSMiCBGiDBI0IPJCGIbEBCHBBBBBBBiFBPiGBTiLBcBiMBcCiNBcDiOBcEiPBcFiQBcGBBc@Cd8pRfSpSF0I9CHCBEBCDBCEOSBCBBBBBBBBBBBBBBiCBGiDBIiFBPBBc@Cd8pRfSpSF0I9CHCBEBCDBCEOSBCBBBBBBBBBBBBBBiCBGiDBIiFBPBBc@Cd8pRfSpSF0I9CHCBEBCDBCEOSBCBBBBBBBBBBBBBBiCBGiDBIiFBPBBc@Cd8pRfSpSF0I9CHCBEBCDBCEOSBCBBBBBBBBBBBBBBiCBGiDBIiFBPBBc@Cd8pRfSpSF0I9CHCBEBCDBCEOSBCBBBBBBBBBBBBBBiCBGiDBIiFBPBBc@Cd8pRfSpSF0I9CHCBEBCDBCEOSBCBBBBBBBBBBBBBBiCBGiDBIiFBPBBc@Cd8pRfSpSQiCBGiDBI0ILJCGbWBBBBBBBiFBPiGBTiHBZiIBb9iJBb@iKBcAiLBcBiMBcCiNBcDiOBcEiPBcFiQBcGBBc@Cd8pRfSpSQiCBGiDBI0ILJCGbWBBBBBBBiFBPiGBTiHBZiIBb9iJBb@iKBcAiLBcBiMBcCiNBcDiOBcEiPBcFiQBcGBBc@Cd8pRfSpSQiCBGiDBI0ILJCGbWBBBBBBBiFBPiGBTiHBZiIBb9iJBb@iKBcAiLBcBiMBcCiNBcDiOBcEiPBcFiQBcGBBc@Cd8pRfSpSQiCBGiDBI0ILJCGbWBBBBBBBiFBPiGBTiHBZiIBb9iJBb@iKBcAiLBcBiMBcCiNBcDiOBcEiPBcFiQBcGBBc@Cd8pRfSpSQiCBGiDBI0ILJCGbWBBBBBBBiFBPiGBTiHBZiIBb9iJBb@iKBcAiLBcBiMBcCiNBcDiOBcEiPBcFiQBcGBBc@Cd8pRfSpSQiCBGiDBI0ILJCGbWBBBBBBBiFBPiGBTiHBZiIBb9iJBb@iKBcAiLBcBiMBcCiNBcDiOBcEiPBcFiQBcGBBc@Cd8pRfSpSWiCBGiDBI0IFJCGb8BiFBPiGBTiHBZiIBb9iJBb@iKBcAiLBcBiMBcCiNBcDiOBcEiPBcFiQBcGiRBcHiSBcIiTBcJiUBcKiVBcLiWBcMBBc@Cd8pRfSpSXiCBGiDBI0IEJCGb9iFBPiGBTiHBZiIBb9iJBb@iKBcAiLBcBiMBcCiNBcDiOBcEiPBcFiQBcGiRBcHiSBcIiTBcJiUBcKiVBcLiWBcMiXBcNBBc@Cd8pRfSpSC0KbACECBCBDBBCDBCEOSBCBBBBBBBBBBBBBBBBc@AC1RCJcGBBc@AC1RCJcGBBc@AC1RCJcGBBc@AC1SGBBBUbBBBBc@AD1RBJ1TBcPBBc@CdIpVgJ37C1UTBBBFDBCBEBBCBCBB8BWBBc@AC1VGBBBUbBBBBc@ANcRBIr6HJCBEGDSi9BOi@BPi$BTNBUOBVQBYjAB6jBB7jCB8jDBcPBBc@NdQbcBd6bcCd7gNd9b6d@gOeAgPeBgQeCqCeFcAeJgReKcCeLcDgAqDMdBBIi9BOi@BPi$BTNBUOBVQBYjAB6jBB7jCB8jDBcPBBc@NdZrTd6rUd7gNd9b6d@gOeAgPeBgQeCqCeFcAeJgReKcCeLcDgAqDYiCBGiDBIiFBP1WBQj9BTj@BZj$Bb9kABb@kBBcAkCBcBkDBcCkEBcDkFBcEkGBcFkHBcGkIBcHkJBcIkKBcJkLBcKkMBcLkNBcMkOBcNkPBcOBBc@Cd8pRfSpSMdBBIi9BOi@BPi$BTNBUOBVQBYjAB6jBB7jCB8jDBcPBBc@NdZboKd6boLd7gNd9b6d@gOeAgPeBgQeCqCeFcAeJgReKcCeLcDgAqDMdBBIi9BOi@BPi$BTNBUOBVQBYjAB61XB7jCB8jDBcPBBc@NdZtPd6tQd7gNd9b6d@gOeAgPeBgQeCqCeFcAeJgReKcCeLcDgAqDMdBBIi9BOi@BPi$BTNBUOBVQBYjAB6jBB7jCB8jDBcPBBc@NdZbcDd6bcEd7gNd9b6d@gOeAgPeBgQeCqCeFcAeJgReKcCeLcDgAqD9dUBIdVBOKBPdWBTNBUOBVQBYRB6SB7dXB8dYBb7dZBb8d6Bb9d7Bb@d8Bb$d9BcAd@BcBd$BcPeABcQeBBcSeCBcWeDBcXeEBcYeFBcZeGBc6eHBc7eIBc8eJBc9BBc@@dXboNdZhZd6h6d7h7d9b6d@h8d$h9eAh@eBh$eCb$eFcAeJiAeKcCeLcDfNiBfOiCfPiDfTiEfUiFfViGfWiHfXiIfYiJfZiKf9iLf@iMf$iNgAiOgFiPgGiQ9dUBIdVBOKBPdWBTNBUOBVQBYRB6SB7dXB8dYBb7dZBb8d6Bb9d7Bb@d8Bb$d9BcAd@BcBd$BcPeABcQeBBcSeCBcWeDBcXeEBcYeFBcZeGBc6eHBc7eIBc8eJBc9BBc@@dXboOdZhZd6h6d7h7d9b6d@h8d$h9eAh@eBh" ++
  "$eCb$eFcAeJiAeKcCeLcDfNiBfOiCfPiDfTiEfUiFfViGfWiHfXiIfYiJfZiKf9iLf@iMf$iNgAiOgFiPgGiQ9dUBIdVBOKBPdWBTNBUOBVQBYRB6SB7dXB8dYBb7dZBb8d6Bb9d7Bb@d8Bb$d9BcAd@BcBd$BcPeABcQeBBcSeCBcWeDBcXeEBcYeFBcZeGBc6eHBc7eIBc8eJBc9BBc@@dXboPdZhZd6h6d7h7d9b6d@h8d$h9eAh@eBh$eCb$eFcAeJiAeKcCeLcDfNiBfOiCfPiDfTiEfUiFfViGfWiHfXiIfYiJfZiKf9iLf@iMf$iNgAiOgFiPgGiQC1YBMBBc@AC1ZBMBBc@AD1USBBBFECBEBBCBCBB8BW16BLBBc@BgK4JC17CJcGBBc@AC17CJcGBBc@AC17CJcGBBc@AC18GBBBUbBBBBc@AD17BJ19BcPBBc@CdKqGgM4OC1@BJBBc@AC1$BJBBc@AC2ANIDBCBEBBDCBBbTBBc@AC2BGBBBUbBBBBc@ANr6MABBBJKBC$BXCjYBIjJBOjKBPjLBTjMBUjNBVjOBYjPB6jQB7jRB8jSBcPBBc@NdQboUd6boVd7qXd9qYd@qZeAq6eBq7eCq8eFq9eJq@eKq$eLrAgArBMjGBIjJBOjKBPjLBTjMBUjNBVjOBYjPB6jQB7jRB8jSBcPBBc@NdZboWd6boXd7qXd9qYd@qZeAq6eBq7eCq8eFq9eJq@eKq$eLrAgArBYiCBGiDBIiFBP2CBQj9BTj@BZj$Bb9kABb@kBBcAkCBcBkDBcCkEBcDkFBcEkGBcFkHBcGkIBcHkJBcIkKBcJkLBcKkMBcLkNBcMkOBcNkPBcOBBc@Cd8pRfSpSCkUNABBBJDHBC$BXCBBc@ACkUNABBBJDHBC$BXCBBc@AFkWBTOBV2DBXkYBcPBBc@Ed7sXeCsYeEbo6gAs6CkZNABBBJDHBC$BXCBBc@ACjYBIBBc@BdQbo7@bXBIbYBOKBP2EBQcVBTNBUOBVQBYRB6SB7cWB8b7Bb7b8Bb8cXBb9cYBb@cZBb$c6BcAc7BcBcCBcPcDBcQcEBcScFBcWcGBcXcHBcYcIBcZcJBc6cKBc7cLBc8cMBc9BBc@9dZfXd6fYd7eOd9b6d@ePd$eQeAeReBeSeCb$eFcAeJeTeKcCeLcDfNbo9fOeVfPeWfTeXfUeYfVeZfWe6fXe7fYe8fZe9f9e@f@e$f$fAgAfBgFfCgGfDMjGBIs@BOs$BPtABTjMBUjNBVjOBYtBB6tCB7tDB8tEBcPBBc@NdZ4Wd64Xd7qXd9qYd@qZeAq6eBq7eC5DeFq9eJq@eKq$eLrAgA5EC2FBPBBc@AMjGBIs@BOs$BPtABTjMBUjNBVjOBYtBB6tCB72GB8tEBcPBBc@NdZ5Id65Jd7qXd9qYd@qZeAq6eBq7eC5DeFq9eJq@eKq$eLrAgA5EC2HB7BBc@AEk8MABBBJKBC$BXCtJBG2IBPBBc@Bd85NCk@NABBBJDHBC$BXCBBc@ACk@NABBBJDHBC$BXCBBc@ADgOMABBBJKBC$BXC2JBPBBc@Bd85QDgOMABBBJKBC$BXC2JBPBBc@Bd85RNjGBIjJBOjKBPjLBTjMBUjNBV2KBXjOBYjPB6jQB7jRB8lHBcPBBc@PdZtJd6tKd7qXd9qYd@qZeAq6eBq7eCq8eFq9eHbpCeIbpDeJq@eKq$eLrAgArBMdBBIi9BOi@BPi$BTNBUOBVQBYjAB6jBB7jCB8jDBcPBBc@NdZbpEd6bpFd7gNd9b6d@gOeAgPeBgQeCqCeFcAeJgReKcCeLcDgAqDMjGBIjJBOjKBPjLBTjMBUjNBVjOBYjPB62LB7jRB8jSBcPBBc@NdZbpHd6bpId7qXd9qYd@qZeAq6eBq7eCq8eFq9eJq@eKq$eLrAgArBClINABBBJDHBC$BXCBBc@AClINABBBJDHBC$BXCBBc@AMjGBIjJBOjKBPjLBTjMBUjNBVjOBYjPB6jQB7jRB8jSBcPBBc@NdZbpJd6bpKd7qXd9qYd@qZeAq6eBq7eCq8eFq9eJq@eKq$eLrAgArBC2MBcPBBc@AMdBBIi9BOi@BPi$BTNBUOBVQBYjAB6jBB7jCB8jDBcPBBc@OdZyQd6yRd7gNd9b6d@gOeAgPeBgQeCqCeFcAeIbpMeJgReKcCeLcDgAqDCo7NABBBJDHBC$BXCBBc@A9dUBIdVBOKBPdWBTNBUOBVQBYRB6SB7dXB8dYBb7dZBb8d6Bb9d7Bb@d8Bb$d9BcAd@BcBd$BcPeABcQeBBcSeCBcWeDBcXeEBcYeFBcZeGBc6eHBc7eIBc8eJBc9BBc@@dXbpNdZhZd6h6d7h7d9b6d@h8d$h9eAh@eBh$eCb$eFcAeJiAeKcCeLcDfNiBfOiCfPiDfTiEfUiFfViGfWiHfXiIfYiJfZiKf9iLf@iMf$iNgAiOgFiPgGiQ9dUBIdVBOKBPdWBTNBUOBVQBYRB6SB7dXB8dYBb7dZBb8d6Bb9d7Bb@d8Bb$d9BcAd@BcBd$BcPeABcQeBBcSeCBcWeDBcXeEBcYeFBcZeGBc6eHBc7eIBc8eJBc9BBc@@dXbpOdZhZd6h6d7h7d9b6d@h8d$h9eAh@eBh$eCb$eFcAeJiAeKcCeLcDfNiBfOiCfPiDfTiEfUiFfViGfWiHfXiIfYiJfZiKf9iLf@iMf$iNgAiOgFiPgGiQCpDNABBBJDHBC$BXCBBc@ACpDNABBBJDHBC$BXCBBc@A9dUBIdVBOKBPdWBTNBUOBVQBYRB6SB7dXB8dYBb7dZBb8d6Bb9d7Bb@d8Bb$d9BcAd@BcBd$BcPeABcQeBBcSeCBcWeDBcXeEBcYeFBcZeGBc6eHBc7eIBc8eJBc9BBc@@dXbpPdZhZd6h6d7h7d9b6d@h8d$h9eAh@eBh$eCb$eFcAeJiAeKcCeLcDfNiBfOiCfPiDfTiEfUiFfViGfWiHfXiIfYiJfZiKf9iLf@iMf$iNgAiOgFiPgGiQD2NGBBBUbBB2OBMBBc@AD2NGBBBUbBB2PBMBBc@AD2QMIECBEBBDCBBbT2RBLBBc@BgL5VC2SSIBCBCBBDBBBCBBBBPbEBBc@AC2TCJCBBc@AC2TCJCBBc@A@bXBIbYBOKBPsNBQp9BTNBUOBVQBYRB6SB7cWB8b7Bb7b8Bb8cXBb9cYBb@cZBb$c6BcAc7BcBp$BcPcDBcQcEBcScFBcWcGBcXcHBcYcIBcZcJBc6cKBc7cLBc8cMBc9BBc@@dZ1Gd61Hd7eOd9b6d@ePd$eQeAeReBeSeCb$eFcAeIySeJeTeKcCeLcDfN4AfOeVfPeWfTeXfUeYfVeZfWe6fXe7fYe8fZe9f9e@f@e$f$fAgAfBgFfCgGfDMdBBIi9BOi@BPi$BTNBUOBVQBYjAB6jBB7jCB8jDBcPBBc@NdZbpSd6bpTd7gNd9b6d@gOeAgPeBgQeCqCeFcAeJgReKcCeLcDgAqDC2UCJCBBc@AC2UCJCBBc@ANdBBIjHBLi9BOi@BPi$BTNBUOBVQBYjAB6jBB7jCB8jDBcPBBc@OdZbpUd6bpVd7gNd9b6d@gOeAgPeBgQeCqCeFcAeJgReKcCeLcDgAqDgL5VC2SSIBCBCBBDBBBCBBBBPbEBBc@AOdBBI2VBJi9BOi@BPjWBRi$BTNBUOBVQBYjAB6jBB7jCB8jXBcPBBc@PdRbpXdSbpYdZrJd6rKd7gNd9b6d@gOeAgPeBgQeCqCeFcAeJgReKcCeLcDgAqDD2WBJ2XBLBBc@BgObp7C2SSIBCBCBBDBBBCBBBBPbEBBc@AOdBBI2YBJi9BOi@BPjWBRi$BTNBUOBVQBYjAB6jBB7jCB8jXBcPBBc@PdRbpXdSbpYdZrJd6rKd7gNd9b6d@gOeAgPeBgQeCqCeFcAeJgReKcCeLcDgAqDD2ZBJ26BLBBc@BgObp7CtPXABBBFECBEBBBBBBBBB8BWBCBBc@AC27BJBBc@AD28BJ29" ++
  "BLBBc@BgObqCD2@BJ2$BLBBc@BgObqFNdBBIjHBLi9BOi@BPi$BTNBUOBVQBYjAB6jBB7jCB8jDBcPBBc@PdZyQd6yRd7gNd9b6d@gOeAgPeBgQeCqCeFcAeIbqGeJgReKcCeLcDgAqDgLbqHD3ABL3BBQBBc@BgNbqKO3CEABBBjYBIjJBOjKBPjLBTjMBUjNBVPBWjOBYjPB6jQB7jRB8jSBcPBBc@OdQbqLd6bqMd7qXd9qYd@qZeAq6eBq7eCq8eFq9eJq@eKq$eLrAeMbqNgArBD3DEABBBPBWBBc@BeMbqOD3DEABBBPBWBBc@BeMbqPC3EEABBBBBc@AO3FEABBBjYBIjJBOjKBPjLBTjMBUjNBVPBWjOBYjPB6jQB7jRB8jSBcPBBc@OdQbqQd6bqRd7qXd9qYd@qZeAq6eBq7eCq8eFq9eJq@eKq$eLrAeMbqSgArBC3GbNBBBDCDBDEECDBBBBBBBBBBBBBBOBEBCBBBBBBBBBBBBBBBBc@AC3GbNBBBDCDBDEECDBBBBBBBBBBBBBBOBEBCBBBBBBBBBBBBBBBBc@AC3HBWBBc@AC3HBWBBc@AC3IJIBCBDBGDSBBc@AC3IJIBCBDBGDSBBc@AM0ITCJBEHCEOSBCHBBBBBBBiCBGiDBIiFBPj9BTkCBcBkDBcCkEBcDkFBcEkGBcFkHBcGBBc@Cd8pRfSpSM0ITCJBEHCEOSBCHBBBBBBBiCBGiDBIiFBPj9BTkCBcBkDBcCkEBcDkFBcEkGBcFkHBcGBBc@Cd8pRfSpSM0ITCJBEHCEOSBCHBBBBBBBiCBGiDBIiFBPj9BTkCBcBkDBcCkEBcDkFBcEkGBcFkHBcGBBc@Cd8pRfSpSM0ITCJBEHCEOSBCHBBBBBBBiCBGiDBIiFBPj9BTkCBcBkDBcCkEBcDkFBcEkGBcFkHBcGBBc@Cd8pRfSpSQ0IPCJBEHGO8BBBBBBBiCBGiDBIiFBPj9BTj@BZj$Bb9kABb@kBBcAkCBcBkDBcCkEBcDkFBcEkGBcFkHBcGBBc@Cd8pRfSpSQ0IPCJBEHGO8BBBBBBBiCBGiDBIiFBPj9BTj@BZj$Bb9kABb@kBBcAkCBcBkDBcCkEBcDkFBcEkGBcFkHBcGBBc@Cd8pRfSpSQ0IPCJBEHGO8BBBBBBBiCBGiDBIiFBPj9BTj@BZj$Bb9kABb@kBBcAkCBcBkDBcCkEBcDkFBcEkGBcFkHBcGBBc@Cd8pRfSpSQ0IPCJBEHGO8BBBBBBBiCBGiDBIiFBPj9BTj@BZj$Bb9kABb@kBBcAkCBcBkDBcCkEBcDkFBcEkGBcFkHBcGBBc@Cd8pRfSpSQ0IPCJBEHGO8BBBBBBBiCBGiDBIiFBPj9BTj@BZj$Bb9kABb@kBBcAkCBcBkDBcCkEBcDkFBcEkGBcFkHBcGBBc@Cd8pRfSpSQ0IPCJBEHGO8BBBBBBBiCBGiDBIiFBPj9BTj@BZj$Bb9kABb@kBBcAkCBcBkDBcCkEBcDkFBcEkGBcFkHBcGBBc@Cd8pRfSpSW0IJCJBEHGObCBiCBGiDBIiFBPj9BTj@BZj$Bb9kABb@kBBcAkCBcBkDBcCkEBcDkFBcEkGBcFkHBcGkIBcHkJBcIkKBcJkLBcKkMBcLkNBcMBBc@Cd8pRfSpSX0IICJBEHGObDiCBGiDBIiFBPj9BTj@BZj$Bb9kABb@kBBcAkCBcBkDBcCkEBcDkFBcEkGBcFkHBcGkIBcHkJBcIkKBcJkLBcKkMBcLkNBcMkOBcNBBc@Cd8pRfSpSC3JCJcGBBc@AC3JCJcGBBc@AC3JCJcGBBc@AC3JCJcGBBc@AC3JCJcGBBc@AC3JCJcGBBc@AC3KGBBBUbBBBBc@AD3JBJ3LBcPBBc@DdTsLdVsMgPbbIC3MGBBBUbBBBBc@AC3MGBBBUbBBBBc@AQfGBG3NBIjHBLi9BO3OBPfETQJbEBCBBBBBBBBBBBBBB3PBTNBUOBVhYBWQBYjAB6jBB7jCB8jDBcPBBc@RdZyQd6yRd7gNd8lDd9b6d@gOeAgPeBgQeCqCeFcAeIbqGeJgReKcCeLcDf6oKgAqDgLbqHC3QGBBBUbBBBBc@AC3QGBBBUbBBBBc@AG3REBBBUtJBGtKBPbHBcQbIBcSBBc@Dd85NgFbqTgGbqUE3SEBBBUbHBcQbIBcSBBc@CgFbqVgGbqWF3SEBBBUtKBPbHBcQbIBcSBBc@Dd85RgFbqXgGbqYC3TBcPBBc@A@bXBIbYBOKBPs8BQp9BTNBUOBVQBYRB6SB7cWB8b7Bb7b8Bb8cXBb9cYBb@cZBb$c6BcAc7BcBp$BcPcDBcQcEBcScFBcWcGBcXcHBcYcIBcZcJBc6cKBc7cLBc8cMBc9BBc@@dZ1Gd61Hd7eOd9b6d@ePd$eQeAeReBeSeCb$eFcAeIbpMeJeTeKcCeLcDfN4VfOeVfPeWfTeXfUeYfVeZfWe6fXe7fYe8fZe9f9e@f@e$f$fAgAfBgFfCgGfDE3UEBBBUbHBcQbIBcSBBc@CgFbq6gGbq7E3UEBBBUbHBcQbIBcSBBc@CgFbq8gGbq9C3VEBBBUBBc@AC3VEBBBUBBc@ANjGBIuNBLjJBOjKBPjLBTjMBUjNBVjOBYjPB6jQB7jRB8jSBcPBBc@OdZbq@d6bq$d7qXd9qYd@qZeAq6eBq7eCq8eFq9eJq@eKq$eLrAgArBgUbrAC3WEBBBUBBc@AC3WEBBBUBBc@AFkWBTOBV3XBXkYBcPBBc@Ed7sXeCsYeEbrCgAs6FkWBTOBV3YBXkYBcPBBc@Ed7sXeCsYeEbrEgAs6FkWBTOBV3ZBXkYBcPBBc@Ed7sXeCsYeEbrGgAs6C36JIBCBDBGDSBBc@AF37BB38BC39BD3@BXBBc@BgTbrLC3WEBBBUBBc@AC3WEBBBUBBc@ACt9JIBCBDBGDSBBc@ACt9JIBCBDBGDSBBc@ACvHJIBCBDBGDSBBc@ACvHJIBCBDBGDSBBc@AC3$GBBBUbBBBBc@AC4ADXbBBBBc@AC3$GBBBUbBBBBc@AC4ADXbBBBBc@AC3$GBBBUbBBBBc@AC4ADXbBBBBc@AbODBCGBIHBKIBNc@BOKBPLBSMBTNBUOBVPBW4ADXbBBQBYRB6SB7TB8UBbMVBbNWBbOXBbPYBbQZBbR6BbS7BbT8BbV9BbX@Bb6$Bb7bABb8bBBb9bCBb@bDBb$bEBcAbFBcBdIBcPbHBcQbIBcSbJBcWbKBcXbLBcYbMBcZbNBc6bOBc7bPBc8bQBc9BBc@b6dGbTdHbTdJbTdUbTdXbWdZbXd6bYd7bZd9b6d@b7d$b8eAb9eBb@eCb$eFcAeJcBeKcCeLcDeMcEeObcFePcGeQcHeRcIeScJeUcKeVcLeWcMeXcNeYcOeZbrMe6cPe7cQe8cRe9cSe@cTe$cUfAcVfBcWfCcXfFcYfIcZfLc6fNc7fOc8fPc9fTc@fUc$fVdAfWdBfXdCfYdDfZdEf9dFf@dGf$dHgAdIgFdJgGdKbODBCGBIHBKIBNc@BOKBPLBSMBTNBUOBVPBW4ADXbBBQBYRB6SB7TB8UBbMVBbNWBbOXBbPYBbQZBbR6BbS7BbT8BbV9BbX@Bb6$Bb7bABb8bBBb9bCBb@bDBb$bEBcAbFBcBdIBcPbHBcQbIBcSbJBcWbKBcXbLBcYbMBcZbNBc6bOBc7bPBc8bQBc9BBc@b6dGbTdHbTdJbTdUbTdXbWdZbXd6bYd7bZd9b6d@b7d$b8eAb9eBb@eCb$eFcAeJcBeKcCeLcDeMcEeObcHePcGeQcHeRcIeScJeUcKeVcLeWcMeXcNeYcOeZbrNe6cPe7cQe8cRe9cSe@cTe$cUfAcVfBcWfCcXfFcYfIcZfLc6fNc7fOc8fPc9fTc@fUc$fVdAfWdBfXdCfYdDfZdEf9dFf@dGf$dHgAdIgFdJgGdKbODBCGBIHBKIBNc@BOKBPLBSMBTNBUOBVPBW4ADXbBBQBYRB6SB7TB8UBbMVBbNW" ++
  "BbOXBbPYBbQZBbR6BbS7BbT8BbV9BbX@Bb6$Bb7bABb8bBBb9bCBb@bDBb$bEBcAbFBcBdIBcPbHBcQbIBcSbJBcWbKBcXbLBcYbMBcZbNBc6bOBc7bPBc8bQBc9BBc@b6dGbTdHbTdJbTdUbTdXbWdZbXd6bYd7bZd9b6d@b7d$b8eAb9eBb@eCb$eFcAeJcBeKcCeLcDeMcEeObcJePcGeQcHeRcIeScJeUcKeVcLeWcMeXcNeYcOeZbrOe6cPe7cQe8cRe9cSe@cTe$cUfAcVfBcWfCcXfFcYfIcZfLc6fNc7fOc8fPc9fTc@fUc$fVdAfWdBfXdCfYdDfZdEf9dFf@dGf$dHgAdIgFdJgGdKF4BBB4CBC4DBD3$DXbBBBBc@BgXbcON4EEBBBUjYBIjJBOjKBPjLBTjMBUjNBVjOBYjPB6jQB7jRB8jSBcPBBc@NdQbrSd6brTd7qXd9qYd@qZeAq6eBq7eCq8eFq9eJq@eKq$eLrAgArBMjGBIjJBOjKBPjLBTjMBUjNBVjOBYjPB6jQB7jRB8jSBcPBBc@NdZbrUd6brVd7qXd9qYd@qZeAq6eBq7eCq8eFq9eJq@eKq$eLrAgArBD4FEBBBUu8BZBBc@BgWbrWD4FEBBBUu8BZBBc@BgWbrWNjGBIjJBOjKBPjLBTjMBUjNBV4GBXjOBYjPB6jQB7jRB8lHBcPBBc@PdZtJd6tKd7qXd9qYd@qZeAq6eBq7eCq8eFq9eHbrYeIbrZeJq@eKq$eLrAgArBNjGBIjJBOjKBPjLBTjMBUjNBV4HBXjOBYjPB6jQB7jRB8lHBcPBBc@PdZtJd6tKd7qXd9qYd@qZeAq6eBq7eCq8eFq9eHbr7eIbr8eJq@eKq$eLrAgArBNjGBIjJBOjKBPjLBTjMBUjNBV4IBXjOBYjPB6jQB7jRB8lHBcPBBc@PdZtJd6tKd7qXd9qYd@qZeAq6eBq7eCq8eFq9eHbr@eIbr$eJq@eKq$eLrAgArBC4JJIBCBDBGDSBBc@AF4KBB4LBC4MBD4NBXBBc@BgVbsENjGBIjJBOjKBPjLBTjMBUjNBV4OBXjOBYjPB6jQB7jRB8lHBcPBBc@PdZtJd6tKd7qXd9qYd@qZeAq6eBq7eCq8eFq9eHbrYeIbrZeJq@eKq$eLrAgArBNjGBIjJBOjKBPjLBTjMBUjNBV4PBXjOBYjPB6jQB7jRB8lHBcPBBc@PdZtJd6tKd7qXd9qYd@qZeAq6eBq7eCq8eFq9eHbr7eIbr8eJq@eKq$eLrAgArBNjGBIjJBOjKBPjLBTjMBUjNBV4QBXjOBYjPB6jQB7jRB8lHBcPBBc@PdZtJd6tKd7qXd9qYd@qZeAq6eBq7eCq8eFq9eHbr@eIbr$eJq@eKq$eLrAgArBC4JJIBCBDBGDSBBc@AF4RBB4SBC4TBD4UBXBBc@BgVbsEMdBBIdCBOdDBPdEBTNBUOBVQBYRB6SB7dFB8dGBcPBBc@NdZbsMd6bsNd7gNd9b6d@gOeAgPeBgQeCb$eFcAeJgReKcCeLcDgAgSMdBBIdCBOdDBPdEBTNBUOBVQBYRB6SB7dFB8dGBcPBBc@NdZbsOd6bsPd7gNd9b6d@gOeAgPeBgQeCb$eFcAeJgReKcCeLcDgAgSCsF9BBBDCDEEEC$BEBCBBBBBBBBBBBBBBBBc@AbODBCGBIHBKIBNc@BOKBPLBSMBTNBUOBVPBW4VBXQBYRB6SB7TB8UBbMVBbNWBbOXBbPYBbQZBbR6BbS7BbT8BbV9BbX@Bb6$Bb7bABb8bBBb9bCBb@bDBb$bEBcAbFBcBdIBcPbHBcQbIBcSbJBcWbKBcXbLBcYbMBcZbNBc6bOBc7bPBc8bQBc9BBc@b7dGbTdHbTdJbTdUbTdXbWdZbXd6bYd7bZd9b6d@b7d$b8eAb9eBb@eCb$eFcAeJcBeKcCeLcDeMcEeNbsReOgWePcGeQcHeRcIeScJeUcKeVcLeWcMeXcNeYcOeZgXe6cPe7cQe8cRe9cSe@cTe$cUfAcVfBcWfCcXfFcYfIcZfLc6fNc7fOc8fPc9fTc@fUc$fVdAfWdBfXdCfYdDfZdEf9dFf@dGf$dHgAdIgFdJgGdKDt9CIHvJBWBBc@BeMbsSDt9CIHvJBWBBc@BeMbsTCt@9BBBDCDEEEC$BEBCBBBBBBBBBBBBBBBBc@ACx69BBBDCDEEEC$BEBCBBBBBBBBBBBBBBBBc@AD4WBJ4XBLBBc@BgRbsWD4YBJ4ZBLBBc@BgRbsZC46BXBBc@ACyE9BBBDCDEEEC$BEBCBBBBBBBBBBBBBBBBc@AE47BL48BXyIBbLBBc@Bg9bs9D49BL4@BXBBc@Bg9btACyM9BBBDCDEEEC$BEBCBBBBBBBBBBBBBBBBc@ACyP9BBBDCDEEEC$BEBCBBBBBBBBBBBBBBBBc@AZiCBGiDBI4$BJ5ABLiFBPiGBTiHBZiIBb9iJBb@iKBcAiLBcBiMBcCiNBcDiOBcEiPBcFiQBcGiRBcHiSBcIiTBcJiUBcKiVBcLiWBcMiXBcNiYBcOBBc@Cd8pRfSpSD5BBL5CBQBBc@Bg6btFD5DBL5EBQBBc@Bg6btIZiCBGiDBI5FBJ5GBLiFBPiGBTiHBZiIBb9iJBb@iKBcAiLBcBiMBcCiNBcDiOBcEiPBcFiQBcGiRBcHiSBcIiTBcJiUBcKiVBcLiWBcMiXBcNiYBcOBBc@Cd8pRfSpSD5HBL5IBQBBc@Bg6btND5JBL5KBQBBc@Bg6btQMdBBIi9BOi@BPi$BTNBUOBVQBYjAB6jBB7jCB8jDBcPBBc@NdZbtRd6btSd7gNd9b6d@gOeAgPeBgQeCqCeFcAeJgReKcCeLcDgAqDCy@9BBBDCDEEEC$BEBCBBBBBBBBBBBBBBBBc@ACy$9BBBDCDEEEC$BEBCBBBBBBBBBBBBBBBBc@A6iCBGiDBI5LBJ5MBLiFBPzCBRiGBTiHBZiIBb9iJBb@iKBcAiLBcBiMBcCiNBcDiOBcEiPBcFiQBcGiRBcHiSBcIiTBcJiUBcKiVBcLiWBcMiXBcNiYBcOBBc@Dd8pRfSpSg8btVD5NBJ5OBLBBc@Bg8btYYzQHBBBIMbBBlWBGlXBIlZBPl6BTl7BZl8Bb9l9Bb@l@BcAl$BcBmABcCmBBcDmCBcEmDBcFmEBcGmFBcHmGBcImHBcJmIBcKmJBcLmKBcMmLBcNmMBcOBBc@Cd8vFfSvG@bXBIbYBOKBP5PBQcVBTNBUOBVQBYRB6SB7cWB8b7Bb7b8Bb8cXBb9cYBb@cZBb$c6BcAc7BcBcCBcPcDBcQcEBcScFBcWcGBcXcHBcYcIBcZcJBc6cKBc7cLBc8cMBc9BBc@9dZfXd6fYd7eOd9b6d@ePd$eQeAeReBeSeCb$eFcAeJeTeKcCeLcDfNbt6fOeVfPeWfTeXfUeYfVeZfWe6fXe7fYe8fZe9f9e@f@e$f$fAgAfBgFfCgGfDZiCBGiDBIiFBP5QBQj9BTj@BZ5RBbLj$Bb9kABb@kBBcAkCBcBkDBcCkEBcDkFBcEkGBcFkHBcGkIBcHkJBcIkKBcJkLBcKkMBcLkNBcMkOBcNkPBcOBBc@Cd8pRfSpSF0I6BBBIIEC$BEBCBBBBBBBBBBBBBBlWBGlXBIlZBPBBc@Cd8vFfSvGM0ITBBBIMC$BEBCHBBBBBBBlWBGlXBIlZBPl6BTl$BcBmABcCmBBcDmCBcEmDBcFmEBcGBBc@Cd8vFfSvGM0ITBBBIMC$BEBCHBBBBBBBlWBGlXBIlZBPl6BTl$BcBmABcCmBBcDmCBcEmDBcFmEBcGBBc@Cd8vFfSvGM0ITBBBIMC$BEBCHBBBBBBBlWBGlXBIlZBPl6BTl$BcBmABcCmBBcDmCBcEmDBcFmEBcGBBc@Cd8vFfSvGM0ITBBBIMC$BEBCHBBBBBBBlWBGlXBIlZBPl6BTl$BcBmABcCmBBcDmCBcEmDBcFmEBcGBBc@Cd8vFfSvGF0I6BBBIIEC" ++
  "$BEBCBBBBBBBBBBBBBBlWBGlXBIlZBPBBc@Cd8vFfSvGF0I6BBBIIEC$BEBCBBBBBBBBBBBBBBlWBGlXBIlZBPBBc@Cd8vFfSvGF0I6BBBIIEC$BEBCBBBBBBBBBBBBBBlWBGlXBIlZBPBBc@Cd8vFfSvGF0I6BBBIIEC$BEBCBBBBBBBBBBBBBBlWBGlXBIlZBPBBc@Cd8vFfSvGF0I6BBBIIEC$BEBCBBBBBBBBBBBBBBlWBGlXBIlZBPBBc@Cd8vFfSvGF0I6BBBIIEC$BEBCBBBBBBBBBBBBBBlWBGlXBIlZBPBBc@Cd8vFfSvGQ0IPBBBIMbBBOBBBBBBBlWBGlXBIlZBPl6BTl7BZl8Bb9l9Bb@l@BcAl$BcBmABcCmBBcDmCBcEmDBcFmEBcGBBc@Cd8vFfSvGQ0IPBBBIMbBBOBBBBBBBlWBGlXBIlZBPl6BTl7BZl8Bb9l9Bb@l@BcAl$BcBmABcCmBBcDmCBcEmDBcFmEBcGBBc@Cd8vFfSvGQ0IPBBBIMbBBOBBBBBBBlWBGlXBIlZBPl6BTl7BZl8Bb9l9Bb@l@BcAl$BcBmABcCmBBcDmCBcEmDBcFmEBcGBBc@Cd8vFfSvGQ0IPBBBIMbBBOBBBBBBBlWBGlXBIlZBPl6BTl7BZl8Bb9l9Bb@l@BcAl$BcBmABcCmBBcDmCBcEmDBcFmEBcGBBc@Cd8vFfSvGQ0IPBBBIMbBBOBBBBBBBlWBGlXBIlZBPl6BTl7BZl8Bb9l9Bb@l@BcAl$BcBmABcCmBBcDmCBcEmDBcFmEBcGBBc@Cd8vFfSvGQ0IPBBBIMbBBOBBBBBBBlWBGlXBIlZBPl6BTl7BZl8Bb9l9Bb@l@BcAl$BcBmABcCmBBcDmCBcEmDBcFmEBcGBBc@Cd8vFfSvGW0IJBBBIMbBBUBlWBGlXBIlZBPl6BTl7BZl8Bb9l9Bb@l@BcAl$BcBmABcCmBBcDmCBcEmDBcFmEBcGmFBcHmGBcImHBcJmIBcKmJBcLmKBcMBBc@Cd8vFfSvGX0IIBBBIMbBBVlWBGlXBIlZBPl6BTl7BZl8Bb9l9Bb@l@BcAl$BcBmABcCmBBcDmCBcEmDBcFmEBcGmFBcHmGBcImHBcJmIBcKmJBcLmKBcMmLBcNBBc@Cd8vFfSvGC0K9BBBDCDEEEC$BEBCBBBBBBBBBBBBBBBBc@ADzQGBBBUbBB5SBLBBc@BgRbePCsFbJCECDBDEDDDBBBBBBBBBBBBBBTBCBBBBBBBBBBBBBBBBc@AbODBCGBIHBKIBNc@BOKBPLBSMBTNBUOBVPBW5TBXQBYRB6SB7TB8UBbMVBbNWBbOXBbPYBbQZBbR6BbS7BbT8BbV9BbX@Bb6$Bb7bABb8bBBb9bCBb@bDBb$bEBcAbFBcBdIBcPbHBcQbIBcSbJBcWbKBcXbLBcYbMBcZbNBc6bOBc7bPBc8bQBc9BBc@b7dGbTdHbTdJbTdUbTdXbWdZbXd6bYd7bZd9b6d@b7d$b8eAb9eBb@eCb$eFcAeJcBeKcCeLcDeMcEeNbt@eOgWePcGeQcHeRcIeScJeUcKeVcLeWcMeXcNeYcOeZgXe6cPe7cQe8cRe9cSe@cTe$cUfAcVfBcWfCcXfFcYfIcZfLc6fNc7fOc8fPc9fTc@fUc$fVdAfWdBfXdCfYdDfZdEf9dFf@dGf$dHgAdIgFdJgGdKDt9CIHvUBWBBc@BeMbt$Dt9CIHvUBWBBc@BeMbuACt@bJCECDBDEDDDBBBBBBBBBBBBBBTBCBBBBBBBBBBBBBBBBc@ACx6bJCECDBDEDDDBBBBBBBBBBBBBBTBCBBBBBBBBBBBBBBBBc@AD5UBJ5VBLBBc@BgRbuDD5WBJ5XBLBBc@BgRbuGCyMbJCECDBDEDDDBBBBBBBBBBBBBBTBCBBBBBBBBBBBBBBBBc@ACyPbJCECDBDEDDDBBBBBBBBBBBBBBTBCBBBBBBBBBBBBBBBBc@ACyQCCUBBc@AZgYCCbJiCBGiDBI5YBLiFBPj9BTj@BZj$Bb9kABb@kBBcAkCBcBkDBcCkEBcDkFBcEkGBcFkHBcGkIBcHkJBcIkKBcJkLBcKkMBcLkNBcMkOBcNkPBcOBBc@Dd8pRfSpSgRbuICyRCCUBBc@ACyQCCUBBc@ACyQCCUBBc@ACyQCCUBBc@ACyQCCUBBc@ACyQCCUBBc@ACyQCCUBBc@ACyQCCUBBc@ACyQCCUBBc@ACyQCCUBBc@ACyQCCUBBc@ACyQCCUBBc@AZiCBGiDBI5ZBJ56BLiFBPiGBTiHBZiIBb9iJBb@iKBcAiLBcBiMBcCiNBcDiOBcEiPBcFiQBcGiRBcHiSBcIiTBcJiUBcKiVBcLiWBcMiXBcNiYBcOBBc@Cd8pRfSpSD57BL58BQBBc@Bg6buND59BL5@BQBBc@Bg6buQZiCBGiDBI5$BJbaABLiFBPiGBTiHBZiIBb9iJBb@iKBcAiLBcBiMBcCiNBcDiOBcEiPBcFiQBcGiRBcHiSBcIiTBcJiUBcKiVBcLiWBcMiXBcNiYBcOBBc@Cd8pRfSpSDbaBBLbaCBQBBc@Bg6buVDbaDBLbaEBQBBc@Bg6buYCbaFBXBBc@ACyEbJCECDBDEDDDBBBBBBBBBBBBBBTBCBBBBBBBBBBBBBBBBc@AEbaGBLbaHBXyIBbLBBc@Bg9bu8DbaIBLbaJBXBBc@Bg9bu$YiCBGiDBIiFBPwCBTPBWwEBZwFBb9wGBb@wHBcAwIBcBwJBcCwKBcDwLBcEwMBcFwNBcGwOBcHwPBcIwQBcJwRBcKwSBcLwTBcMwUBcNwVBcOBBc@Dd8pReMbvAfSpSMdBBIi9BOi@BPi$BTNBUOBVQBYjAB6jBB7jCB8jDBcPBBc@NdZbvBd6bvCd7gNd9b6d@gOeAgPeBgQeCqCeFcAeJgReKcCeLcDgAqDCy@bJCECDBDEDDDBBBBBBBBBBBBBBTBCBBBBBBBBBBBBBBBBc@ACy$bJCECDBDEDDDBBBBBBBBBBBBBBTBCBBBBBBBBBBBBBBBBc@A6iCBGiDBIbaKBJbaLBLiFBPzCBRiGBTiHBZiIBb9iJBb@iKBcAiLBcBiMBcCiNBcDiOBcEiPBcFiQBcGiRBcHiSBcIiTBcJiUBcKiVBcLiWBcMiXBcNiYBcOBBc@Dd8pRfSpSg8bvFDbaMBJbaNBLBBc@Bg8bvI@bXBIbYBOKBPbaOBQcVBTNBUOBVQBYRB6SB7cWB8b7Bb7b8Bb8cXBb9cYBb@cZBb$c6BcAc7BcBcCBcPcDBcQcEBcScFBcWcGBcXcHBcYcIBcZcJBc6cKBc7cLBc8cMBc9BBc@9dZfXd6fYd7eOd9b6d@ePd$eQeAeReBeSeCb$eFcAeJeTeKcCeLcDfNbvKfOeVfPeWfTeXfUeYfVeZfWe6fXe7fYe8fZe9f9e@f@e$f$fAgAfBgFfCgGfDZiCBGiDBIiFBPbaPBQj9BTj@BZbaQBbLj$Bb9kABb@kBBcAkCBcBkDBcCkEBcDkFBcEkGBcFkHBcGkIBcHkJBcIkKBcJkLBcKkMBcLkNBcMkOBcNkPBcOBBc@Cd8pRfSpSF0IbGCJBHDDDBBBBBBBBBBBBBBTBCBBBBBBBBBBBBBBnGBGnHBInIBPBBc@Cd8xLfSxNM0I$CJBKDDBBBBBBBBBBBBBBTBCHBBBBBBBnGBGnHBInIBPnJBTnRBcBnSBcCnTBcDnUBcEnVBcFnWBcGBBc@Cd8xLfSxNY0JCCbJiCBGiDBIiFBPj9BTj@BZj$Bb9kABb@kBBcAkCBcBkDBcCkEBcDkFBcEkGBcFkHBcGkIBcHkJBcIkKBcJkLBcKkMBcLkNBcMkOBcNkPBcOBBc@Cd8pRfSpSM0I$CJBKDDBBBBBBBBBBBBBBTBCHBBBBBBBnGBGnHBInIBPnJBTnRBcBnSBcCnTBcDnUBcEnVBcFnWBcGBBc@Cd8xLfSxNM0I$CJBKDDBBBBBBBBBBBBBBTBCHBBBBBBBnGBGnHBInIBP" ++
  "nJBTnRBcBnSBcCnTBcDnUBcEnVBcFnWBcGBBc@Cd8xLfSxNM0I$CJBKDDBBBBBBBBBBBBBBTBCHBBBBBBBnGBGnHBInIBPnJBTnRBcBnSBcCnTBcDnUBcEnVBcFnWBcGBBc@Cd8xLfSxNF0IbGCJBHDDDBBBBBBBBBBBBBBTBCBBBBBBBBBBBBBBnGBGnHBInIBPBBc@Cd8xLfSxNF0IbGCJBHDDDBBBBBBBBBBBBBBTBCBBBBBBBBBBBBBBnGBGnHBInIBPBBc@Cd8xLfSxNF0IbGCJBHDDDBBBBBBBBBBBBBBTBCBBBBBBBBBBBBBBnGBGnHBInIBPBBc@Cd8xLfSxNF0IbGCJBHDDDBBBBBBBBBBBBBBTBCBBBBBBBBBBBBBBnGBGnHBInIBPBBc@Cd8xLfSxNF0IbGCJBHDDDBBBBBBBBBBBBBBTBCBBBBBBBBBBBBBBnGBGnHBInIBPBBc@Cd8xLfSxNF0IbGCJBHDDDBBBBBBBBBBBBBBTBCBBBBBBBBBBBBBBnGBGnHBInIBPBBc@Cd8xLfSxNQ0I7CJBKGBBBBBBBBBBBBBB9BBBBBBBnGBGnHBInIBPnJBTnKBZnOBb9nPBb@nQBcAnRBcBnSBcCnTBcDnUBcEnVBcFnWBcGBBc@Cd8xLfSxNQ0I7CJBKGBBBBBBBBBBBBBB9BBBBBBBnGBGnHBInIBPnJBTnKBZnOBb9nPBb@nQBcAnRBcBnSBcCnTBcDnUBcEnVBcFnWBcGBBc@Cd8xLfSxNQ0I7CJBKGBBBBBBBBBBBBBB9BBBBBBBnGBGnHBInIBPnJBTnKBZnOBb9nPBb@nQBcAnRBcBnSBcCnTBcDnUBcEnVBcFnWBcGBBc@Cd8xLfSxNQ0I7CJBKGBBBBBBBBBBBBBB9BBBBBBBnGBGnHBInIBPnJBTnKBZnOBb9nPBb@nQBcAnRBcBnSBcCnTBcDnUBcEnVBcFnWBcGBBc@Cd8xLfSxNQ0I7CJBKGBBBBBBBBBBBBBB9BBBBBBBnGBGnHBInIBPnJBTnKBZnOBb9nPBb@nQBcAnRBcBnSBcCnTBcDnUBcEnVBcFnWBcGBBc@Cd8xLfSxNQ0I7CJBKGBBBBBBBBBBBBBB9BBBBBBBnGBGnHBInIBPnJBTnKBZnOBb9nPBb@nQBcAnRBcBnSBcCnTBcDnUBcEnVBcFnWBcGBBc@Cd8xLfSxNW0IVCJBKGBBBBBBBBBBBBBBbDBnGBGnHBInIBPnJBTnKBZnOBb9nPBb@nQBcAnRBcBnSBcCnTBcDnUBcEnVBcFnWBcGnXBcHnYBcInZBcJn6BcKn7BcLn8BcMBBc@Cd8xLfSxNX0IUCJBKGBBBBBBBBBBBBBBbEnGBGnHBInIBPnJBTnKBZnOBb9nPBb@nQBcAnRBcBnSBcCnTBcDnUBcEnVBcFnWBcGnXBcHnYBcInZBcJn6BcKn7BcLn8BcMn9BcNBBc@Cd8xLfSxNC0KbJCECDBDEDDDBBBBBBBBBBBBBBTBCBBBBBBBBBBBBBBBBc@ADPBW7BbTBBc@CeMbvNfBbvOObaRBMbaSB9baTBbAbaUBbBbaVBbCbaWBbDbaXBbEbaYBbFbaZBbGba6BbHba7BbIba8BbJba9BbKBBc@ACba@BWBBc@A9nGBGnHBIgXBLgYNMRDBBBBBBBBBBnIBPnJBTgUBWnKBZba$B8nMB@nNB$nOBb9nPBb@nQBcAnRBcBnSBcCnTBcDnUBcEnVBcFnWBcGnXBcHnYBcInZBcJn6BcKn7BcLn8BcMn9BcNn@BcOBBc@Dd8xLfSxNgRnL@eKBIeLBOKBPeMBTNBUOBVbbABWQBYRB6SB7eNB8eOBb7ePBb8eQBb9eRBb@eSBb$eTBcAeUBcBeVBcPeWBcQeXBcSeYBcWeZBcXe6BcYe7BcZe8Bc6e9Bc7e@Bc8e$Bc9BBc@bFdXbgQdZjKd6jLd7jMd9b6d@jNd$jOeAjPeBjQeCb$eFcAeJjReKcCeLcDeQbv9eRjTeSjUeUjVeVjWeWjXeXjYfNbgSfOj6fPj7fTj8fUj9fVj@fWj$fXkAfYkBfZkCf9kDf@kEf$kFgAkGgFkHgGkI9bXBIbYBOKBPoABTNBUOBVQBYRB6SB7oBB8b7Bb7b8Bb8oCBb9oDBb@oEBb$oFBcAoGBcBoHBcPcDBcQcEBcScFBcWcGBcXcHBcYcIBcZcJBc6cKBc7cLBc8cMBc9BBc@9dZfXd6fYd7eOd9b6d@ePd$eQeAeReBeSeCb$eFcAeJeTeKcCeLcDfN3DfOeVfPeWfTeXfUeYfVeZfWe6fXe7fYe8fZe9f9e@f@e$f$fAgAfBgFfCgGfD9bXBIbYBOKBPoABTNBUOBVQBYRB6SB7oBB8b7Bb7b8Bb8oCBb9oDBb@oEBb$oFBcAoGBcBoHBcPcDBcQcEBcScFBcWcGBcXcHBcYcIBcZcJBc6cKBc7cLBc8cMBc9BBc@9dZfXd6fYd7eOd9b6d@ePd$eQeAeReBeSeCb$eFcAeJeTeKcCeLcDfNbv@fOeVfPeWfTeXfUeYfVeZfWe6fXe7fYe8fZe9f9e@f@e$f$fAgAfBgFfCgGfD9bXBIbYBOKBPoABTNBUOBVQBYRB6SB7oBB8b7Bb7b8Bb8oCBb9oDBb@oEBb$oFBcAoGBcBoHBcPcDBcQcEBcScFBcWcGBcXcHBcYcIBcZcJBc6cKBc7cLBc8cMBc9BBc@9dZfXd6fYd7eOd9b6d@ePd$eQeAeReBeSeCb$eFcAeJeTeKcCeLcDfNbv$fOeVfPeWfTeXfUeYfVeZfWe6fXe7fYe8fZe9f9e@f@e$f$fAgAfBgFfCgGfD9bXBIbYBOKBPoABTNBUOBVQBYRB6SB7oBB8b7Bb7b8Bb8oCBb9oDBb@oEBb$oFBcAoGBcBoHBcPcDBcQcEBcScFBcWcGBcXcHBcYcIBcZcJBc6cKBc7cLBc8cMBc9BBc@9dZfXd6fYd7eOd9b6d@ePd$eQeAeReBeSeCb$eFcAeJeTeKcCeLcDfNbwAfOeVfPeWfTeXfUeYfVeZfWe6fXe7fYe8fZe9f9e@f@e$f$fAgAfBgFfCgGfD9bXBIbYBOKBPoABTNBUOBVQBYRB6SB7oBB8b7Bb7b8Bb8oCBb9oDBb@oEBb$oFBcAoGBcBoHBcPcDBcQcEBcScFBcWcGBcXcHBcYcIBcZcJBc6cKBc7cLBc8cMBc9BBc@9dZfXd6fYd7eOd9b6d@ePd$eQeAeReBeSeCb$eFcAeJeTeKcCeLcDfNbwBfOeVfPeWfTeXfUeYfVeZfWe6fXe7fYe8fZe9f9e@f@e$f$fAgAfBgFfCgGfD9bXBIbYBOKBPoABTNBUOBVQBYRB6SB7oBB8b7Bb7b8Bb8oCBb9oDBb@oEBb$oFBcAoGBcBoHBcPcDBcQcEBcScFBcWcGBcXcHBcYcIBcZcJBc6cKBc7cLBc8cMBc9BBc@9dZfXd6fYd7eOd9b6d@ePd$eQeAeReBeSeCb$eFcAeJeTeKcCeLcDfN3IfOeVfPeWfTeXfUeYfVeZfWe6fXe7fYe8fZe9f9e@f@e$f$fAgAfBgFfCgGfD9bXBIbYBOKBPoABTNBUOBVQBYRB6SB7oBB8b7Bb7b8Bb8oCBb9oDBb@oEBb$oFBcAoGBcBoHBcPcDBcQcEBcScFBcWcGBcXcHBcYcIBcZcJBc6cKBc7cLBc8cMBc9BBc@9dZfXd6fYd7eOd9b6d@ePd$eQeAeReBeSeCb$eFcAeJeTeKcCeLcDfN3JfOeVfPeWfTeXfUeYfVeZfWe6fXe7fYe8fZe9f9e@f@e$f$fAgAfBgFfCgGfD9bXBIbYBOKBPoABTNBUOBVQBYRB6SB7oBB8b7Bb7b8Bb8oCBb9oDBb@oEBb$oFBcAoGBcBoHBcPcDBcQcEBcScFBcWcGBcXcHBcYcIBcZcJBc6cKBc7cLBc8cMBc9BBc@9dZfXd6fYd7eOd9b6d@ePd$eQeAeReBeSeCb$eFcAeJeTeKcCeLcDfN3" ++
  "KfOeVfPeWfTeXfUeYfVeZfWe6fXe7fYe8fZe9f9e@f@e$f$fAgAfBgFfCgGfD9bXBIbYBOKBPoABTNBUOBVQBYRB6SB7oBB8b7Bb7b8Bb8oCBb9oDBb@oEBb$oFBcAoGBcBoHBcPcDBcQcEBcScFBcWcGBcXcHBcYcIBcZcJBc6cKBc7cLBc8cMBc9BBc@9dZfXd6fYd7eOd9b6d@ePd$eQeAeReBeSeCb$eFcAeJeTeKcCeLcDfN3LfOeVfPeWfTeXfUeYfVeZfWe6fXe7fYe8fZe9f9e@f@e$f$fAgAfBgFfCgGfD9bXBIbYBOKBPoABTNBUOBVQBYRB6SB7oBB8b7Bb7b8Bb8oCBb9oDBb@oEBb$oFBcAoGBcBoHBcPcDBcQcEBcScFBcWcGBcXcHBcYcIBcZcJBc6cKBc7cLBc8cMBc9BBc@9dZfXd6fYd7eOd9b6d@ePd$eQeAeReBeSeCb$eFcAeJeTeKcCeLcDfN3MfOeVfPeWfTeXfUeYfVeZfWe6fXe7fYe8fZe9f9e@f@e$f$fAgAfBgFfCgGfD9bXBIbYBOKBPoABTNBUOBVQBYRB6SB7oBB8b7Bb7b8Bb8oCBb9oDBb@oEBb$oFBcAoGBcBoHBcPcDBcQcEBcScFBcWcGBcXcHBcYcIBcZcJBc6cKBc7cLBc8cMBc9BBc@9dZfXd6fYd7eOd9b6d@ePd$eQeAeReBeSeCb$eFcAeJeTeKcCeLcDfN3NfOeVfPeWfTeXfUeYfVeZfWe6fXe7fYe8fZe9f9e@f@e$f$fAgAfBgFfCgGfD9bXBIbYBOKBPoABTNBUOBVQBYRB6SB7oBB8b7Bb7b8Bb8oCBb9oDBb@oEBb$oFBcAoGBcBoHBcPcDBcQcEBcScFBcWcGBcXcHBcYcIBcZcJBc6cKBc7cLBc8cMBc9BBc@9dZfXd6fYd7eOd9b6d@ePd$eQeAeReBeSeCb$eFcAeJeTeKcCeLcDfNbwCfOeVfPeWfTeXfUeYfVeZfWe6fXe7fYe8fZe9f9e@f@e$f$fAgAfBgFfCgGfD9bXBIbYBOKBPoABTNBUOBVQBYRB6SB7oBB8b7Bb7b8Bb8oCBb9oDBb@oEBb$oFBcAoGBcBoHBcPcDBcQcEBcScFBcWcGBcXcHBcYcIBcZcJBc6cKBc7cLBc8cMBc9BBc@9dZfXd6fYd7eOd9b6d@ePd$eQeAeReBeSeCb$eFcAeJeTeKcCeLcDfNbwDfOeVfPeWfTeXfUeYfVeZfWe6fXe7fYe8fZe9f9e@f@e$f$fAgAfBgFfCgGfD9bXBIbYBOKBPoABTNBUOBVQBYRB6SB7oBB8b7Bb7b8Bb8oCBb9oDBb@oEBb$oFBcAoGBcBoHBcPcDBcQcEBcScFBcWcGBcXcHBcYcIBcZcJBc6cKBc7cLBc8cMBc9BBc@9dZfXd6fYd7eOd9b6d@ePd$eQeAeReBeSeCb$eFcAeJeTeKcCeLcDfNbwEfOeVfPeWfTeXfUeYfVeZfWe6fXe7fYe8fZe9f9e@f@e$f$fAgAfBgFfCgGfD9bXBIbYBOKBPoABTNBUOBVQBYRB6SB7oBB8b7Bb7b8Bb8oCBb9oDBb@oEBb$oFBcAoGBcBoHBcPcDBcQcEBcScFBcWcGBcXcHBcYcIBcZcJBc6cKBc7cLBc8cMBc9BBc@9dZfXd6fYd7eOd9b6d@ePd$eQeAeReBeSeCb$eFcAeJeTeKcCeLcDfNbwFfOeVfPeWfTeXfUeYfVeZfWe6fXe7fYe8fZe9f9e@f@e$f$fAgAfBgFfCgGfD9bXBIbYBOKBPoABTNBUOBVQBYRB6SB7oBB8b7Bb7b8Bb8oCBb9oDBb@oEBb$oFBcAoGBcBoHBcPcDBcQcEBcScFBcWcGBcXcHBcYcIBcZcJBc6cKBc7cLBc8cMBc9BBc@9dZfXd6fYd7eOd9b6d@ePd$eQeAeReBeSeCb$eFcAeJeTeKcCeLcDfNbwGfOeVfPeWfTeXfUeYfVeZfWe6fXe7fYe8fZe9f9e@f@e$f$fAgAfBgFfCgGfD9bXBIbYBOKBPoABTNBUOBVQBYRB6SB7oBB8b7Bb7b8Bb8oCBb9oDBb@oEBb$oFBcAoGBcBoHBcPcDBcQcEBcScFBcWcGBcXcHBcYcIBcZcJBc6cKBc7cLBc8cMBc9BBc@9dZfXd6fYd7eOd9b6d@ePd$eQeAeReBeSeCb$eFcAeJeTeKcCeLcDfNbwHfOeVfPeWfTeXfUeYfVeZfWe6fXe7fYe8fZe9f9e@f@e$f$fAgAfBgFfCgGfD9bXBIbYBOKBPoABTNBUOBVQBYRB6SB7oBB8b7Bb7b8Bb8oCBb9oDBb@oEBb$oFBcAoGBcBoHBcPcDBcQcEBcScFBcWcGBcXcHBcYcIBcZcJBc6cKBc7cLBc8cMBc9BBc@9dZfXd6fYd7eOd9b6d@ePd$eQeAeReBeSeCb$eFcAeJeTeKcCeLcDfNbwIfOeVfPeWfTeXfUeYfVeZfWe6fXe7fYe8fZe9f9e@f@e$f$fAgAfBgFfCgGfD9bXBIbYBOKBPoABTNBUOBVQBYRB6SB7oBB8b7Bb7b8Bb8oCBb9oDBb@oEBb$oFBcAoGBcBoHBcPcDBcQcEBcScFBcWcGBcXcHBcYcIBcZcJBc6cKBc7cLBc8cMBc9BBc@9dZfXd6fYd7eOd9b6d@ePd$eQeAeReBeSeCb$eFcAeJeTeKcCeLcDfNbwJfOeVfPeWfTeXfUeYfVeZfWe6fXe7fYe8fZe9f9e@f@e$f$fAgAfBgFfCgGfD9bXBIbYBOKBPoABTNBUOBVQBYRB6SB7oBB8b7Bb7b8Bb8oCBb9oDBb@oEBb$oFBcAoGBcBoHBcPcDBcQcEBcScFBcWcGBcXcHBcYcIBcZcJBc6cKBc7cLBc8cMBc9BBc@9dZfXd6fYd7eOd9b6d@ePd$eQeAeReBeSeCb$eFcAeJeTeKcCeLcDfNbwKfOeVfPeWfTeXfUeYfVeZfWe6fXe7fYe8fZe9f9e@f@e$f$fAgAfBgFfCgGfD9bXBIbYBOKBPoABTNBUOBVQBYRB6SB7oBB8b7Bb7b8Bb8oCBb9oDBb@oEBb$oFBcAoGBcBoHBcPcDBcQcEBcScFBcWcGBcXcHBcYcIBcZcJBc6cKBc7cLBc8cMBc9BBc@9dZfXd6fYd7eOd9b6d@ePd$eQeAeReBeSeCb$eFcAeJeTeKcCeLcDfNbwLfOeVfPeWfTeXfUeYfVeZfWe6fXe7fYe8fZe9f9e@f@e$f$fAgAfBgFfCgGfD@eKBIeLBOKBPeMBTNBUOBVbbBBWQBYRB6SB7eNB8eOBb7ePBb8eQBb9eRBb@eSBb$eTBcAeUBcBeVBcPeWBcQeXBcSeYBcWeZBcXe6BcYe7BcZe8Bc6e9Bc7e@Bc8e$Bc9BBc@bFdXbgQdZjKd6jLd7jMd9b6d@jNd$jOeAjPeBjQeCb$eFcAeJjReKcCeLcDeQbwMeRjTeSjUeUjVeVjWeWjXeXjYfNbgSfOj6fPj7fTj8fUj9fVj@fWj$fXkAfYkBfZkCf9kDf@kEf$kFgAkGgFkHgGkIYbbCBCiCBGiDBIiFBPj9BTj@BZj$Bb9kABb@kBBcAkCBcBkDBcCkEBcDkFBcEkGBcFkHBcGkIBcHkJBcIkKBcJkLBcKkMBcLkNBcMkOBcNkPBcOBBc@Cd8pRfSpSCbbDBbLBBc@AbODBCGBIHBKIBNc@BOKBPLBSMBTNBUOBVPBWbbEDXbBBQBYRB6SB7TB8UBbMVBbNWBbOXBbPYBbQZBbR6BbS7BbT8BbV9BbX@Bb6$Bb7bABb8bBBb9bCBb@bDBb$bEBcAbFBcBdIBcPbHBcQbIBcSbJBcWbKBcXbLBcYbMBcZbNBc6bOBc7bPBc8bQBc9BBc@b7dGbTdHbTdJbTdUbTdXbWdZbXd6bYd7bZd9b6d@b7d$b8eAb9eBb@eCb$eFcAeJcBeKcCeLcDeMcEeNbwPeOgWePcGeQcHeRcIeScJeUcKeVcLeWcM" ++
  "eXcNeYcOeZgXe6cPe7cQe8cRe9cSe@cTe$cUfAcVfBcWfCcXfFcYfIcZfLc6fNc7fOc8fPc9fTc@fUc$fVdAfWdBfXdCfYdDfZdEf9dFf@dGf$dHgAdIgFdJgGdKCbbFGBBBUbBBBBc@AEbbGBXbbHBbYbbIBbZBBc@DfGbhOfHbhOgYbhOZgYBCbbJBGiDBI5YBLiFBPj9BTj@BZj$Bb9kABb@kBBcAkCBcBkDBcCkEBcDkFBcEkGBcFkHBcGkIBcHkJBcIkKBcJkLBcKkMBcLkNBcMkOBcNkPBcOBBc@Dd8pRfSpSgRbuIEbbKBXoNBbYoOBbZBBc@DfGbwSfHbwSgYbwSCbbLB9BBc@A6bbMBGiDBI5YBLiFBPwCBTbbNBWwEBZgYB9wFBb9wGBb@wHBcAwIBcBwJBcCwKBcDwLBcEwMBcFwNBcGwOBcHwPBcIwQBcJwRBcKwSBcLwTBcMwUBcNwVBcOBBc@Dd8pRfSpSgRbuICbbOGBBBUbBBBBc@AMdBBIi9BOi@BPi$BTNBUOBVQBYjAB6jBB7jCB8jDBcPBBc@NdZbwWd6bwXd7gNd9b6d@gOeAgPeBgQeCqCeFcAeJgReKcCeLcDgAqDEbbPBXw$BbYoOBbZBBc@DfHbwZfKbwZgZbwZNdBBIi9BOi@BPbbQBSi$BTNBUOBVQBYjAB6jBB7jCB8jDBcPBBc@NdZbvBd6bvCd7gNd9b6d@gOeAgPeBgQeCqCeFcAeJgReKcCeLcDgAqDCbbRGBBBUbBBBBc@AEbbSBXoNBbYoOBbZBBc@DfGbhOfHbhOgYbhO9bXBIbYBOKBPbZBTNBUOBVQBYRB6SB7b6B8b7Bb7b8Bb8b9Bb9b@Bb@b$Bb$cABcAcBBcBcCBcPcDBcQcEBcScFBcWcGBcXcHBcYcIBcZcJBc6cKBc7cLBc8cMBc9BBc@9dZeMd6eNd7eOd9b6d@ePd$eQeAeReBeSeCb$eFcAeJeTeKcCeLcDfNbw8fOeVfPeWfTeXfUeYfVeZfWe6fXe7fYe8fZe9f9e@f@e$f$fAgAfBgFfCgGfDCcRBIBBc@BdQbw99xDBIxEBOKBPxFBTNBUOBVQBYRB6SB7xGB8xHBb7xIBb8xJBb9xKBb@xLBb$xMBcAxNBcBxOBcPxPBcQxQBcSxRBcWxSBcXxTBcYxUBcZxVBc6xWBc7xXBc8xYBc9BBc@9dZgAd6gBd7biSd9b6d@biTd$biUeAbiVeBbiWeCb$eFcAeJbiXeKcCeLcDfNbw@fObi7fPbi8fTbi9fUbi@fVbi$fWbjAfXbjBfYbjCfZbjDf9bjEf@bjFf$bjGgAbjHgFbjIgGbjJ9xDBIxEBOKBPxFBTNBUOBVQBYRB6dMB7xGB8xHBb7xIBb8xJBb9xKBb@xLBb$xMBcAxNBcBxOBcPxPBcQxQBcSxRBcWxSBcXxTBcYxUBcZxVBc6xWBc7xXBc8xYBc9BBc@9dZbiQd6biRd7biSd9b6d@biTd$biUeAbiVeBbiWeCb$eFcAeJbiXeKcCeLcDfNbw$fObi7fPbi8fTbi9fUbi@fVbi$fWbjAfXbjBfYbjCfZbjDf9bjEf@bjFf$bjGgAbjHgFbjIgGbjJDfE6GFBDEGDBOSBCBBBBBBBBBBBBBBbbTBIBBc@BfRbxBDfE6GFBDEGDBOSBCBBBBBBBBBBBBBBbbTBIBBc@BfRbxC9xDBIxEBOKBPxFBTNBUOBVQBYRB6SB7xGB8xHBb7xIBb8xJBb9xKBb@xLBb$xMBcAxNBcBxOBcPxPBcQxQBcSxRBcWxSBcXxTBcYxUBcZxVBc6xWBc7xXBc8xYBc9BBc@9dZbiQd6biRd7biSd9b6d@biTd$biUeAbiVeBbiWeCb$eFcAeJbiXeKcCeLcDfNbxDfObi7fPbi8fTbi9fUbi@fVbi$fWbjAfXbjBfYbjCfZbjDf9bjEf@bjFf$bjGgAbjHgFbjIgGbjJ9xDBIxEBOKBPxFBTNBUOBVQBYRB6SB7xGB8xHBb7xIBb8xJBb9xKBb@xLBb$xMBcAxNBcBxOBcPxPBcQxQBcSxRBcWxSBcXxTBcYxUBcZxVBc6xWBc7xXBc8xYBc9BBc@9dZbiQd6biRd7biSd9b6d@biTd$biUeAbiVeBbiWeCb$eFcAeJbiXeKcCeLcDfNbxEfObi7fPbi8fTbi9fUbi@fVbi$fWbjAfXbjBfYbjCfZbjDf9bjEf@bjFf$bjGgAbjHgFbjIgGbjJ9xDBIxEBOKBPxFBTNBUOBVQBYRB6SB7xGB8xHBb7xIBb8xJBb9xKBb@xLBb$xMBcAxNBcBxOBcPxPBcQxQBcSxRBcWxSBcXxTBcYxUBcZxVBc6xWBc7xXBc8xYBc9BBc@9dZbiQd6biRd7biSd9b6d@biTd$biUeAbiVeBbiWeCb$eFcAeJbiXeKcCeLcDfNbxFfObi7fPbi8fTbi9fUbi@fVbi$fWbjAfXbjBfYbjCfZbjDf9bjEf@bjFf$bjGgAbjHgFbjIgGbjJ9xDBIxEBOKBPxFBTNBUOBVQBYRB6SB7xGB8xHBb7xIBb8xJBb9xKBb@xLBb$xMBcAxNBcBxOBcPxPBcQxQBcSxRBcWxSBcXxTBcYxUBcZxVBc6xWBc7xXBc8xYBc9BBc@9dZbiQd6biRd7biSd9b6d@biTd$biUeAbiVeBbiWeCb$eFcAeJbiXeKcCeLcDfNbxGfObi7fPbi8fTbi9fUbi@fVbi$fWbjAfXbjBfYbjCfZbjDf9bjEf@bjFf$bjGgAbjHgFbjIgGbjJ9xDBIxEBOKBPxFBTNBUOBVQBYRB6SB7xGB8xHBb7xIBb8xJBb9xKBb@xLBb$xMBcAxNBcBxOBcPxPBcQxQBcSxRBcWxSBcXxTBcYxUBcZxVBc6xWBc7xXBc8xYBc9BBc@9dZbiQd6biRd7biSd9b6d@biTd$biUeAbiVeBbiWeCb$eFcAeJbiXeKcCeLcDfNbxHfObi7fPbi8fTbi9fUbi@fVbi$fWbjAfXbjBfYbjCfZbjDf9bjEf@bjFf$bjGgAbjHgFbjIgGbjJGfGBGfHBIfEYLBHGDBOSBCBBBBBBBBBBBBBBfIBPbbUBWBBc@Cd8lDf6bxJCbbVBcRBBc@ADbbWCcTCbbXBcUBBc@Bg@bxLCfE7GCDBDEGDBOSBCBBBBBBBBBBBBBBBBc@ACfE7GCDBDEGDBOSBCBBBBBBBBBBBBBBBBc@ACfE7GCDBDEGDBOSBCBBBBBBBBBBBBBBBBc@ACfE7GCDBDEGDBOSBCBBBBBBBBBBBBBBBBc@ACfE7GCDBDEGDBOSBCBBBBBBBBBBBBBBBBc@ACfE7GCDBDEGDBOSBCBBBBBBBBBBBBBBBBc@ACfE7GCDBDEGDBOSBCBBBBBBBBBBBBBBBBc@ACfE7GCDBDEGDBOSBCBBBBBBBBBBBBBBBBc@ADbbYBMbbZB9BBc@ADbb6BIbb7BPBBc@ADbb8BIbb9BPBBc@ADgOCIHbbUBWBBc@Bf6bxTDgOCIHbbUBWBBc@Bf6bxUCbbUBWBBc@Bf6bxVDgOCIHbbUBWBBc@Bf6bxWDgOCIHbbUBWBBc@Bf6bxXDgOCIHbbUBWBBc@Bf6bxYCbb@BbLBBc@ACbb$BbLBBc@A7bcABGbcBBI5YBLgYCMRbcCBPbcDBTbcEBZnLB8bcFBbLbcGBb9bcHBb@bcIBcAbcJBcBbcKBcCbcLBcDbcMBcEbcNBcFbcOBcGbcPBcHbcQBcIbcRBcJbcSBcKbcTBcLbcUBcMbcVBcNbcWBcOBBc@Dd8byRfSbySgRbuICfE7GCDBDEGDBOSBCBBBBBBBBBBBBBBBBc@ACfE7GCDBDEGDBOSBCBBBBBBBBBBBBBBBBc@ACfE7GCDBDEGDBOSBCBBBBBBBBBBBBBBBBc@ACfE7GCDBDEGDBOSBCBBBBBBBBBBBBBBBBc@ACfE7GCDBDEGDBOSBCBBBBBBBBBBBBBBBBc@ACfE7GCDBDEGDBOSBCBBBBBBB" ++
  "BBBBBBBBBc@ACfE7GCDBDEGDBOSBCBBBBBBBBBBBBBBBBc@ACfE7GCDBDEGDBOSBCBBBBBBBBBBBBBBBBc@ACfE7GCDBDEGDBOSBCBBBBBBBBBBBBBBBBc@ACfE7GCDBDEGDBOSBCBBBBBBBBBBBBBBBBc@ACfE7GCDBDEGDBOSBCBBBBBBBBBBBBBBBBc@ACfE7GCDBDEGDBOSBCBBBBBBBBBBBBBBBBc@AEgOBIgPBPbbUBWBBc@Cd8nMf6byTCfE7GCDBDEGDBOSBCBBBBBBBBBBBBBBBBc@ACfE7GCDBDEGDBOSBCBBBBBBBBBBBBBBBBc@ACbcXGBBBUbBBBBc@AEbcYBXbcZBbYbc6BbZBBc@DfHbjLfMbjLg7bjLCbc7bNBBBDCDBDEECDBBBBBBBBBBBBBBOBEBCBBBBBBBBBBBBBBBBc@A@bXBIbc8BJbYBOKBPhVBTNBUOBVQBYRB6SB7b6B8b7Bb7b8Bb8b9Bb9b@Bb@b$Bb$cABcAcBBcBhWBcPcDBcQcEBcScFBcWcGBcXcHBcYcIBcZcJBc6cKBc7cLBc8cMBc9BBc@9dZfXd6fYd7eOd9b6d@ePd$eQeAeReBeSeCb$eFcAeJeTeKcCeLcDfNbyVfOeVfPeWfTeXfUeYfVeZfWe6fXe7fYe8fZe9f9e@f@e$f$fAgAfBgFfCgGfDDbc9BJbc@BLBBc@BgRbyYCbc7bNBBBDCDBDEECDBBBBBBBBBBBBBBOBEBCBBBBBBBBBBBBBBBBc@A@bXBIbc$BJbYBOKBPhVBTNBUOBVQBYRB6SB7b6B8b7Bb7b8Bb8b9Bb9b@Bb@b$Bb$cABcAcBBcBhWBcPcDBcQcEBcScFBcWcGBcXcHBcYcIBcZcJBc6cKBc7cLBc8cMBc9BBc@9dZfXd6fYd7eOd9b6d@ePd$eQeAeReBeSeCb$eFcAeJeTeKcCeLcDfNbyVfOeVfPeWfTeXfUeYfVeZfWe6fXe7fYe8fZe9f9e@f@e$f$fAgAfBgFfCgGfDDbdABJbdBBLBBc@BgRbyYMdBBIi9BOi@BPi$BTNBUOBVQBYjAB6jBB7jCB8jDBcPBBc@NdZby8d6by9d7gNd9b6d@gOeAgPeBgQeCqCeFcAeJgReKcCeLcDgAqDD4FCLFyABZBBc@BgWby@D4FCLFyABZBBc@BgWby@NdBBIi9BOi@BPbdCBQi$BTNBUOBVQBYjAB6jBB7jCB8jDBcPBBc@OdZyQd6yRd7gNd9b6d@gOeAgPeBgQeCqCeFcAeIbzAeJgReKcCeLcDgAqDCbdDJIBCBDBGDSBBc@ADbdEBLbdFBQBBc@BgSbzDCbdGbNBBBDCDBDEECDBBBBBBBBBBBBBBOBEBCBBBBBBBBBBBBBBBBc@A$bXBIbYBOKBPcVBTNBUOBVhYBWbdHBXQBYRB6SB7cWB8b7Bb7b8Bb8cXBb9cYBb@cZBb$c6BcAc7BcBcCBcPcDBcQcEBcScFBcWcGBcXcHBcYcIBcZcJBc6cKBc7cLBc8cMBc9BBc@bAdZfXd6fYd7eOd9b6d@ePd$eQeAeReBeSeCb$eFcAeJeTeKcCeLcDfNyVfOeVfPeWfTeXfUeYfVeZfWe6fXe7fYe8fZe9f6yWf7bzFf8bzGf9e@f@e$f$fAgAfBgFfCgGfDCbdGbNBBBDCDBDEECDBBBBBBBBBBBBBBOBEBCBBBBBBBBBBBBBBBBc@A@bXBIbYBOKBPcVBTNBUOBVhYBWQBYRB6SB7cWB8b7Bb7b8Bb8cXBb9cYBb@cZBb$c6BcAc7BcBcCBcPcDBcQcEBcScFBcWcGBcXcHBcYcIBcZcJBc6cKBc7cLBc8cMBc9BBc@$dZfXd6fYd7eOd9b6d@ePd$eQeAeReBeSeCb$eFcAeJeTeKcCeLcDfNyVfOeVfPeWfTeXfUeYfVeZfWe6fXe7fYe8fZe9f6yWf7bzHf9e@f@e$f$fAgAfBgFfCgGfDDbdIBLbdJBXBBc@Bg9bzK$bXBIbYBOKBPcVBTNBUOBVhYBWbdKBXQBYRB6SB7cWB8b7Bb7b8Bb8cXBb9cYBb@cZBb$c6BcAc7BcBcCBcPcDBcQcEBcScFBcWcGBcXcHBcYcIBcZcJBc6cKBc7cLBc8cMBc9BBc@bAdZfXd6fYd7eOd9b6d@ePd$eQeAeReBeSeCb$eFcAeJeTeKcCeLcDfNyVfOeVfPeWfTeXfUeYfVeZfWe6fXe7fYe8fZe9f6yWf7bzFf8bzGf9e@f@e$f$fAgAfBgFfCgGfDCbdGbNBBBDCDBDEECDBBBBBBBBBBBBBBOBEBCBBBBBBBBBBBBBBBBc@ADbdLBLbdMBXBBc@Bg9bzKCbdNbNBBBDCDBDEECDBBBBBBBBBBBBBBOBEBCBBBBBBBBBBBBBBBBc@ACbdOBJBBc@ANdBBIi9BOi@BPbdPBQi$BTNBUOBVQBYjAB6jBB7jCB8jDBcPBBc@NdZbzQd6bzRd7gNd9b6d@gOeAgPeBgQeCqCeFcAeJgReKcCeLcDgAqDCbdQbNBBBDCDBDEECDBBBBBBBBBBBBBBOBEBCBBBBBBBBBBBBBBBBc@ADbdRBLbdSBQBBc@Bg6bzUNdBBIi9BOi@BPbdTBQi$BTNBUOBVQBYjAB6jBB7jCB8jDBcPBBc@NdZbzQd6bzRd7gNd9b6d@gOeAgPeBgQeCqCeFcAeJgReKcCeLcDgAqDCbdQbNBBBDCDBDEECDBBBBBBBBBBBBBBOBEBCBBBBBBBBBBBBBBBBc@ADbdUBLbdVBQBBc@Bg6bzUCbdNbNBBBDCDBDEECDBBBBBBBBBBBBBBOBEBCBBBBBBBBBBBBBBBBc@ACbdWBJBBc@ANdBBIi9BOi@BPbdXBQi$BTNBUOBVQBYjAB6jBB7jCB8jDBcPBBc@NdZbzQd6bzRd7gNd9b6d@gOeAgPeBgQeCqCeFcAeJgReKcCeLcDgAqDCbdQbNBBBDCDBDEECDBBBBBBBBBBBBBBOBEBCBBBBBBBBBBBBBBBBc@ADbdYBLbdZBQBBc@Bg6bzUNdBBIi9BOi@BPbd6BQi$BTNBUOBVQBYjAB6jBB7jCB8jDBcPBBc@NdZbzQd6bzRd7gNd9b6d@gOeAgPeBgQeCqCeFcAeJgReKcCeLcDgAqDCbdQbNBBBDCDBDEECDBBBBBBBBBBBBBBOBEBCBBBBBBBBBBBBBBBBc@ADbd7BLbd8BQBBc@Bg6bzUCbd9BJBBc@ACbd@BJBBc@ACbd$bNBBBDCDBDEECDBBBBBBBBBBBBBBOBEBCBBBBBBBBBBBBBBBBc@A@bXBIbeABJbYBOKBPhVBTNBUOBVQBYRB6SB7b6B8b7Bb7b8Bb8b9Bb9b@Bb@b$Bb$cABcAcBBcBhWBcPcDBcQcEBcScFBcWcGBcXcHBcYcIBcZcJBc6cKBc7cLBc8cMBc9BBc@@dZfXd6fYd7eOd9b6d@ePd$eQeAeReBeSeCb$eFcAeJeTeKcCeLcDfNb0CfOeVfPeWfQb0DfTeXfUeYfVeZfWe6fXe7fYe8fZe9f9e@f@e$f$fAgAfBgFfCgGfDCbeBCJCBBc@ADbeCBJbeDBLBBc@Bg8b0GCbd$bNBBBDCDBDEECDBBBBBBBBBBBBBBOBEBCBBBBBBBBBBBBBBBBc@A@bXBIbeEBJbYBOKBPhVBTNBUOBVQBYRB6SB7b6B8b7Bb7b8Bb8b9Bb9b@Bb@b$Bb$cABcAcBBcBhWBcPcDBcQcEBcScFBcWcGBcXcHBcYcIBcZcJBc6cKBc7cLBc8cMBc9BBc@@dZfXd6fYd7eOd9b6d@ePd$eQeAeReBeSeCb$eFcAeJeTeKcCeLcDfNb0CfOeVfPeWfQb0DfTeXfUeYfVeZfWe6fXe7fYe8fZe9f9e@f@e$f$fAgAfBgFfCgGfDDbeFBJbeGBLBBc@Bg8b0GYiCBGiDBIbeHBJiFBPiGBTiHBZiIBb9iJBb@iKBcAiLBcBiMBcCiNBcDiOBcEiPBcFiQBcGiRBcHiSBcIiTBcJ" ++
  "iUBcKiVBcLiWBcMiXBcNiYBcOBBc@Cd8pRfSpSNcRBIdCBOdDBPdEBTNBUOBVbeIBWQBYRB6SB7dFB8dGBcPBBc@OdQb0Md6b0Nd7gNd9b6d@gOeAgPeBgQeCb$eFcAeJgReKcCeLcDeMb0OgAgSFzOBGzPBIkVbBLBHGEDBBBBBBBBBBTBCBBBBBBBBBBBBBBzRBPBBc@Cd8bmKfSbmLFzOBGzPBIkVbBLBHGEDBBBBBBBBBBTBCBBBBBBBBBBBBBBzRBPBBc@Cd8bmKfSbmLNdBBIbeJBJi9BOi@BPi$BTNBUOBVQBYjAB6jBB7jCB8jDBcPBBc@NdZb0Qd6b0Rd7gNd9b6d@gOeAgPeBgQeCqCeFcAeJgReKcCeLcDgAqDCoXbEGCDBDEGEDBBBBBBBBBBTBCBBBBBBBBBBBBBBBBc@ACoXbEGCDBDEGEDBBBBBBBBBBTBCBBBBBBBBBBBBBBBBc@AFzOBGzPBIkVbBLBHGEDBBBBBBBBBBTBCBBBBBBBBBBBBBBzRBPBBc@Cd8bmKfSbmLFzOBGzPBIkVbBLBHGEDBBBBBBBBBBTBCBBBBBBBBBBBBBBzRBPBBc@Cd8bmKfSbmLFzOBGzPBIkVbBLBHGEDBBBBBBBBBBTBCBBBBBBBBBBBBBBzRBPBBc@Cd8bmKfSbmLFzOBGzPBIkVbBLBHGEDBBBBBBBBBBTBCBBBBBBBBBBBBBBzRBPBBc@Cd8bmKfSbmLFzOBGzPBIkVbBLBHGEDBBBBBBBBBBTBCBBBBBBBBBBBBBBzRBPBBc@Cd8bmKfSbmLbAbXBIbeKBLbYBOKBPcVBTNBUOBVhYBWbeLBXQBYRB6SB7cWB8b7Bb7b8Bb8cXBb9cYBb@cZBb$c6BcAc7BcBcCBcPcDBcQcEBcScFBcWcGBcXcHBcYcIBcZcJBc6cKBc7cLBc8cMBc9BBc@bAdZfXd6fYd7eOd9b6d@ePd$eQeAeReBeSeCb$eFcAeJeTeKcCeLcDfNyVfOeVfPeWfTeXfUeYfVeZfWe6fXe7fYe8fZe9f6yWf7b0Uf8b0Vf9e@f@e$f$fAgAfBgFfCgGfDCo8bEGCDBDEGEDBBBBBBBBBBTBCBBBBBBBBBBBBBBBBc@ACbeMBcQBBc@ADo@CcTCbeNBcUBBc@Bg@y7CpAbEGCDBDEGEDBBBBBBBBBBTBCBBBBBBBBBBBBBBBBc@A9bXBIbYBOKBPhVBTNBUOBVQBYRB6SB7b6B8b7Bb7b8Bb8b9Bb9b@Bb@b$Bb$cABcAcBBcBhWBcPcDBcQcEBcScFBcWcGBcXcHBcYcIBcZcJBc6cKBc7cLBc8cMBc9BBc@9dZfXd6fYd7eOd9b6d@ePd$eQeAeReBeSeCb$eFcAeJeTeKcCeLcDfNb0YfOeVfPeWfTeXfUeYfVeZfWe6fXe7fYe8fZe9f9e@f@e$f$fAgAfBgFfCgGfDMdBBIi9BOi@BPi$BTNBUOBVQBYjAB6jBB7jCB8jDBcPBBc@NdZb0Zd6b06d7gNd9b6d@gOeAgPeBgQeCqCeFcAeJgReKcCeLcDgAqD9bXBIbYBOKBPhVBTNBUOBVQBYRB6SB7b6B8b7Bb7b8Bb8b9Bb9b@Bb@b$Bb$cABcAcBBcBhWBcPcDBcQcEBcScFBcWcGBcXcHBcYcIBcZcJBc6cKBc7cLBc8cMBc9BBc@9dZfXd6fYd7eOd9b6d@ePd$eQeAeReBeSeCb$eFcAeJeTeKcCeLcDfNb07fOeVfPeWfTeXfUeYfVeZfWe6fXe7fYe8fZe9f9e@f@e$f$fAgAfBgFfCgGfDMdBBIi9BOi@BPi$BTNBUOBVQBYjAB6jBB7jCB8jDBcPBBc@NdZb08d6b09d7gNd9b6d@gOeAgPeBgQeCqCeFcAeJgReKcCeLcDgAqDCpCbEGCDBDEGEDBBBBBBBBBBTBCBBBBBBBBBBBBBBBBc@ACpCbEGCDBDEGEDBBBBBBBBBBTBCBBBBBBBBBBBBBBBBc@ACpCbEGCDBDEGEDBBBBBBBBBBTBCBBBBBBBBBBBBBBBBc@ACpCbEGCDBDEGEDBBBBBBBBBBTBCBBBBBBBBBBBBBBBBc@ACpCbEGCDBDEGEDBBBBBBBBBBTBCBBBBBBBBBBBBBBBBc@ACpCbEGCDBDEGEDBBBBBBBBBBTBCBBBBBBBBBBBBBBBBc@ADbeOBIbePBcPBBc@A@bXBIbeQBJbYBOKBPhVBTNBUOBVQBYRB6SB7b6B8b7Bb7b8Bb8b9Bb9b@Bb@b$Bb$cABcAcBBcBhWBcPcDBcQcEBcScFBcWcGBcXcHBcYcIBcZcJBc6cKBc7cLBc8cMBc9BBc@@dZfXd6fYd7eOd9b6d@ePd$eQeAeReBeSeCb$eFcAeJeTeKcCeLcDfNb1BfOeVfPeWfQb1CfTeXfUeYfVeZfWe6fXe7fYe8fZe9f9e@f@e$f$fAgAfBgFfCgGfD@bXBIbYBOKBPp9BTNBUOBVQBYRB6SB7cWB8beRBbLb7Bb7b8Bb8cXBb9cYBb@cZBb$c6BcAc7BcBp$BcPcDBcQcEBcScFBcWcGBcXcHBcYcIBcZcJBc6cKBc7cLBc8cMBc9BBc@@dZ1Gd61Hd7eOd9b6d@ePd$eQeAeReBeSeCb$eFcAeIySeJeTeKcCeLcDfNb1EfOeVfPeWfTeXfUeYfVeZfWe6fXe7fYe8fZe9f9e@f@e$f$fAgAfBgFfCgGfD9pHBIpIBOKBPpJBTNBUOBVQBYRB6SB7pKB8pLBb7pMBb8pNBb9pOBb@pPBb$pQBcApRBcBpSBcPpTBcQpUBcSpVBcWpWBcXpXBcYpYBcZpZBc6p6Bc7p7Bc8p8Bc9BBc@9dZ0Ld60Md70Nd9b6d@0Od$0PeA0QeB0ReCb$eFcAeJ0SeKcCeLcDfNb1FfO0UfP0VfT0WfU0XfV0YfW0ZfX06fY07fZ08f909f@0@f$0$gA1AgF1BgG1C9pHBIpIBOKBPpJBTNBUOBVQBYRB6SB7pKB8pLBb7pMBb8pNBb9pOBb@pPBb$pQBcApRBcBpSBcPpTBcQpUBcSpVBcWpWBcXpXBcYpYBcZpZBc6p6Bc7p7Bc8p8Bc9BBc@9dZ0Ld60Md70Nd9b6d@0Od$0PeA0QeB0ReCb$eFcAeJ0SeKcCeLcDfNb1GfO0UfP0VfT0WfU0XfV0YfW0ZfX06fY07fZ08f909f@0@f$0$gA1AgF1BgG1C9pHBIpIBOKBPpJBTNBUOBVQBYRB6SB7pKB8pLBb7pMBb8pNBb9pOBb@pPBb$pQBcApRBcBpSBcPpTBcQpUBcSpVBcWpWBcXpXBcYpYBcZpZBc6p6Bc7p7Bc8p8Bc9BBc@9dZ0Ld60Md70Nd9b6d@0Od$0PeA0QeB0ReCb$eFcAeJ0SeKcCeLcDfNb1HfO0UfP0VfT0WfU0XfV0YfW0ZfX06fY07fZ08f909f@0@f$0$gA1AgF1BgG1C9pHBIpIBOKBPpJBTNBUOBVQBYRB6SB7pKB8pLBb7pMBb8pNBb9pOBb@pPBb$pQBcApRBcBpSBcPpTBcQpUBcSpVBcWpWBcXpXBcYpYBcZpZBc6p6Bc7p7Bc8p8Bc9BBc@9dZ0Ld60Md70Nd9b6d@0Od$0PeA0QeB0ReCb$eFcAeJ0SeKcCeLcDfNb1IfO0UfP0VfT0WfU0XfV0YfW0ZfX06fY07fZ08f909f@0@f$0$gA1AgF1BgG1C9pHBIpIBOKBPpJBTNBUOBVQBYRB6SB7pKB8pLBb7pMBb8pNBb9pOBb@pPBb$pQBcApRBcBpSBcPpTBcQpUBcSpVBcWpWBcXpXBcYpYBcZpZBc6p6Bc7p7Bc8p8Bc9BBc@9dZ0Ld60Md70Nd9b6d@0Od$0PeA0QeB0ReCb$eFcAeJ0SeKcCeLcDfNb1JfO0UfP0VfT0WfU0XfV0YfW0ZfX06fY07fZ08f909f@0@f$0$gA1AgF1BgG1C9pHBIpIBOKBPpJBTNBUOBVQBYRB6SB7pKB8pLBb7pMBb8pNBb9pOBb@p" ++
  "PBb$pQBcApRBcBpSBcPpTBcQpUBcSpVBcWpWBcXpXBcYpYBcZpZBc6p6Bc7p7Bc8p8Bc9BBc@9dZ0Ld60Md70Nd9b6d@0Od$0PeA0QeB0ReCb$eFcAeJ0SeKcCeLcDfNb1KfO0UfP0VfT0WfU0XfV0YfW0ZfX06fY07fZ08f909f@0@f$0$gA1AgF1BgG1C9pHBIpIBOKBPpJBTNBUOBVQBYRB6SB7pKB8pLBb7pMBb8pNBb9pOBb@pPBb$pQBcApRBcBpSBcPpTBcQpUBcSpVBcWpWBcXpXBcYpYBcZpZBc6p6Bc7p7Bc8p8Bc9BBc@9dZ0Ld60Md70Nd9b6d@0Od$0PeA0QeB0ReCb$eFcAeJ0SeKcCeLcDfNb1LfO0UfP0VfT0WfU0XfV0YfW0ZfX06fY07fZ08f909f@0@f$0$gA1AgF1BgG1C9pHBIpIBOKBPpJBTNBUOBVQBYRB6SB7pKB8pLBb7pMBb8pNBb9pOBb@pPBb$pQBcApRBcBpSBcPpTBcQpUBcSpVBcWpWBcXpXBcYpYBcZpZBc6p6Bc7p7Bc8p8Bc9BBc@9dZ0Ld60Md70Nd9b6d@0Od$0PeA0QeB0ReCb$eFcAeJ0SeKcCeLcDfNb1MfO0UfP0VfT0WfU0XfV0YfW0ZfX06fY07fZ08f909f@0@f$0$gA1AgF1BgG1C9pHBIpIBOKBPpJBTNBUOBVQBYRB6SB7pKB8pLBb7pMBb8pNBb9pOBb@pPBb$pQBcApRBcBpSBcPpTBcQpUBcSpVBcWpWBcXpXBcYpYBcZpZBc6p6Bc7p7Bc8p8Bc9BBc@9dZ0Ld60Md70Nd9b6d@0Od$0PeA0QeB0ReCb$eFcAeJ0SeKcCeLcDfNb1NfO0UfP0VfT0WfU0XfV0YfW0ZfX06fY07fZ08f909f@0@f$0$gA1AgF1BgG1C9pHBIpIBOKBPpJBTNBUOBVQBYRB6SB7pKB8pLBb7pMBb8pNBb9pOBb@pPBb$pQBcApRBcBpSBcPpTBcQpUBcSpVBcWpWBcXpXBcYpYBcZpZBc6p6Bc7p7Bc8p8Bc9BBc@9dZ0Ld60Md70Nd9b6d@0Od$0PeA0QeB0ReCb$eFcAeJ0SeKcCeLcDfNb1OfO0UfP0VfT0WfU0XfV0YfW0ZfX06fY07fZ08f909f@0@f$0$gA1AgF1BgG1C9pHBIpIBOKBPpJBTNBUOBVQBYRB6SB7pKB8pLBb7pMBb8pNBb9pOBb@pPBb$pQBcApRBcBpSBcPpTBcQpUBcSpVBcWpWBcXpXBcYpYBcZpZBc6p6Bc7p7Bc8p8Bc9BBc@9dZ0Ld60Md70Nd9b6d@0Od$0PeA0QeB0ReCb$eFcAeJ0SeKcCeLcDfNb1PfO0UfP0VfT0WfU0XfV0YfW0ZfX06fY07fZ08f909f@0@f$0$gA1AgF1BgG1C9pHBIpIBOKBPpJBTNBUOBVQBYRB6SB7pKB8pLBb7pMBb8pNBb9pOBb@pPBb$pQBcApRBcBpSBcPpTBcQpUBcSpVBcWpWBcXpXBcYpYBcZpZBc6p6Bc7p7Bc8p8Bc9BBc@9dZ0Ld60Md70Nd9b6d@0Od$0PeA0QeB0ReCb$eFcAeJ0SeKcCeLcDfNb1QfO0UfP0VfT0WfU0XfV0YfW0ZfX06fY07fZ08f909f@0@f$0$gA1AgF1BgG1C9pHBIpIBOKBPpJBTNBUOBVQBYRB6SB7pKB8pLBb7pMBb8pNBb9pOBb@pPBb$pQBcApRBcBpSBcPpTBcQpUBcSpVBcWpWBcXpXBcYpYBcZpZBc6p6Bc7p7Bc8p8Bc9BBc@9dZ0Ld60Md70Nd9b6d@0Od$0PeA0QeB0ReCb$eFcAeJ0SeKcCeLcDfNb1RfO0UfP0VfT0WfU0XfV0YfW0ZfX06fY07fZ08f909f@0@f$0$gA1AgF1BgG1C9pHBIpIBOKBPpJBTNBUOBVQBYRB6SB7pKB8pLBb7pMBb8pNBb9pOBb@pPBb$pQBcApRBcBpSBcPpTBcQpUBcSpVBcWpWBcXpXBcYpYBcZpZBc6p6Bc7p7Bc8p8Bc9BBc@9dZ0Ld60Md70Nd9b6d@0Od$0PeA0QeB0ReCb$eFcAeJ0SeKcCeLcDfNb1SfO0UfP0VfT0WfU0XfV0YfW0ZfX06fY07fZ08f909f@0@f$0$gA1AgF1BgG1C9pHBIpIBOKBPpJBTNBUOBVQBYRB6SB7pKB8pLBb7pMBb8pNBb9pOBb@pPBb$pQBcApRBcBpSBcPpTBcQpUBcSpVBcWpWBcXpXBcYpYBcZpZBc6p6Bc7p7Bc8p8Bc9BBc@9dZ0Ld60Md70Nd9b6d@0Od$0PeA0QeB0ReCb$eFcAeJ0SeKcCeLcDfNb1TfO0UfP0VfT0WfU0XfV0YfW0ZfX06fY07fZ08f909f@0@f$0$gA1AgF1BgG1C9pHBIpIBOKBPpJBTNBUOBVQBYRB6SB7pKB8pLBb7pMBb8pNBb9pOBb@pPBb$pQBcApRBcBpSBcPpTBcQpUBcSpVBcWpWBcXpXBcYpYBcZpZBc6p6Bc7p7Bc8p8Bc9BBc@9dZ0Ld60Md70Nd9b6d@0Od$0PeA0QeB0ReCb$eFcAeJ0SeKcCeLcDfNb1UfO0UfP0VfT0WfU0XfV0YfW0ZfX06fY07fZ08f909f@0@f$0$gA1AgF1BgG1C9pHBIpIBOKBPpJBTNBUOBVQBYRB6SB7pKB8pLBb7pMBb8pNBb9pOBb@pPBb$pQBcApRBcBpSBcPpTBcQpUBcSpVBcWpWBcXpXBcYpYBcZpZBc6p6Bc7p7Bc8p8Bc9BBc@9dZ0Ld60Md70Nd9b6d@0Od$0PeA0QeB0ReCb$eFcAeJ0SeKcCeLcDfNb1VfO0UfP0VfT0WfU0XfV0YfW0ZfX06fY07fZ08f909f@0@f$0$gA1AgF1BgG1C9pHBIpIBOKBPpJBTNBUOBVQBYRB6SB7pKB8pLBb7pMBb8pNBb9pOBb@pPBb$pQBcApRBcBpSBcPpTBcQpUBcSpVBcWpWBcXpXBcYpYBcZpZBc6p6Bc7p7Bc8p8Bc9BBc@9dZ0Ld60Md70Nd9b6d@0Od$0PeA0QeB0ReCb$eFcAeJ0SeKcCeLcDfNb1WfO0UfP0VfT0WfU0XfV0YfW0ZfX06fY07fZ08f909f@0@f$0$gA1AgF1BgG1C9pHBIpIBOKBPpJBTNBUOBVQBYRB6SB7pKB8pLBb7pMBb8pNBb9pOBb@pPBb$pQBcApRBcBpSBcPpTBcQpUBcSpVBcWpWBcXpXBcYpYBcZpZBc6p6Bc7p7Bc8p8Bc9BBc@9dZ0Ld60Md70Nd9b6d@0Od$0PeA0QeB0ReCb$eFcAeJ0SeKcCeLcDfNb1XfO0UfP0VfT0WfU0XfV0YfW0ZfX06fY07fZ08f909f@0@f$0$gA1AgF1BgG1CCzPBIBBc@BfSb1YCoXbEGCDBDEGEDBBBBBBBBBBTBCBBBBBBBBBBBBBBBBc@ACpCbEGCDBDEGEDBBBBBBBBBBTBCBBBBBBBBBBBBBBBBc@ACbeSbNBBBDCDBDEECDBBBBBBBBBBBBBBOBEBCBBBBBBBBBBBBBBBBc@AZiCBGiDBIiFBPbeTBQj9BTj@BZbeUBbLj$Bb9kABb@kBBcAkCBcBkDBcCkEBcDkFBcEkGBcFkHBcGkIBcHkJBcIkKBcJkLBcKkMBcLkNBcMkOBcNkPBcOBBc@Cd8pRfSpSCbeVbNBBBDCDBDEECDBBBBBBBBBBBBBBOBEBCBBBBBBBBBBBBBBBBc@A@bXBIbYBOKBPbeWBQcVBTNBUOBVQBYRB6SB7cWB8b7Bb7b8Bb8cXBb9cYBb@cZBb$c6BcAc7BcBcCBcPcDBcQcEBcScFBcWcGBcXcHBcYcIBcZcJBc6cKBc7cLBc8cMBc9BBc@9dZfXd6fYd7eOd9b6d@ePd$eQeAeReBeSeCb$eFcAeJeTeKcCeLcDfNb18fOeVfPeWfTeXfUeYfVeZfWe6fXe7fYe8fZe9f9e@f@e$f$fAgAfBgFfCg" ++
  "GfDCbeXEABBBBBc@ACbeYEBBBGBBc@ACbeXEABBBBBc@ACbeYEBBBGBBc@ACbeXEABBBBBc@ACbeYEBBBGBBc@AHbTBGbUBHbeZBJbWBcPbHBcQbIBcSBBc@EdDbmSdEdSgFdUgGdVHbTBGbUBHbe6BJbWBcPbHBcQbIBcSBBc@EdDbmUdEdSgFdUgGdVHbTBGbUBHbe7BJbWBcPbHBcQbIBcSBBc@EdDbmWdEdSgFdUgGdVCbeXEABBBBBc@AFbe8BBbe9BCbe@BDbeYBJBBc@BgIbm7Ck$bACECBCBDBBCDBCEOSBCBBBBBBBBBBBBBBBBc@ACbe$BXBBc@AC3GbACECBCBDBBCDBCEOSBCBBBBBBBBBBBBBBBBc@AC3GbACECBCBDBBCDBCEOSBCBBBBBBBBBBBBBBBBc@ACbc7bACECBCBDBBCDBCEOSBCBBBBBBBBBBBBBBBBc@A@bXBIbfABJbYBOKBPhVBTNBUOBVQBYRB6SB7b6B8b7Bb7b8Bb8b9Bb9b@Bb@b$Bb$cABcAcBBcBhWBcPcDBcQcEBcScFBcWcGBcXcHBcYcIBcZcJBc6cKBc7cLBc8cMBc9BBc@9dZfXd6fYd7eOd9b6d@ePd$eQeAeReBeSeCb$eFcAeJeTeKcCeLcDfNbyVfOeVfPeWfTeXfUeYfVeZfWe6fXe7fYe8fZe9f9e@f@e$f$fAgAfBgFfCgGfDDbfBBJbfCBLBBc@BgRbyYCbc7bACECBCBDBBCDBCEOSBCBBBBBBBBBBBBBBBBc@A@bXBIbfDBJbYBOKBPhVBTNBUOBVQBYRB6SB7b6B8b7Bb7b8Bb8b9Bb9b@Bb@b$Bb$cABcAcBBcBhWBcPcDBcQcEBcScFBcWcGBcXcHBcYcIBcZcJBc6cKBc7cLBc8cMBc9BBc@9dZfXd6fYd7eOd9b6d@ePd$eQeAeReBeSeCb$eFcAeJeTeKcCeLcDfNbyVfOeVfPeWfTeXfUeYfVeZfWe6fXe7fYe8fZe9f9e@f@e$f$fAgAfBgFfCgGfDDbfEBJbfFBLBBc@BgRbyYCbdGbACECBCBDBBCDBCEOSBCBBBBBBBBBBBBBBBBc@A$bXBIbYBOKBPcVBTNBUOBVhYBWbfGBXQBYRB6SB7cWB8b7Bb7b8Bb8cXBb9cYBb@cZBb$c6BcAc7BcBcCBcPcDBcQcEBcScFBcWcGBcXcHBcYcIBcZcJBc6cKBc7cLBc8cMBc9BBc@bAdZfXd6fYd7eOd9b6d@ePd$eQeAeReBeSeCb$eFcAeJeTeKcCeLcDfNyVfOeVfPeWfTeXfUeYfVeZfWe6fXe7fYe8fZe9f6yWf7bzFf8bzGf9e@f@e$f$fAgAfBgFfCgGfDCbdGbACECBCBDBBCDBCEOSBCBBBBBBBBBBBBBBBBc@ADbfHBLbfIBXBBc@Bg9bzK$bXBIbYBOKBPcVBTNBUOBVhYBWbfJBXQBYRB6SB7cWB8b7Bb7b8Bb8cXBb9cYBb@cZBb$c6BcAc7BcBcCBcPcDBcQcEBcScFBcWcGBcXcHBcYcIBcZcJBc6cKBc7cLBc8cMBc9BBc@bAdZfXd6fYd7eOd9b6d@ePd$eQeAeReBeSeCb$eFcAeJeTeKcCeLcDfNyVfOeVfPeWfTeXfUeYfVeZfWe6fXe7fYe8fZe9f6yWf7bzFf8bzGf9e@f@e$f$fAgAfBgFfCgGfDCbdGbACECBCBDBBCDBCEOSBCBBBBBBBBBBBBBBBBc@ADbfKBLbfLBXBBc@Bg9bzKCbdNbACECBCBDBBCDBCEOSBCBBBBBBBBBBBBBBBBc@ACbfMBJBBc@ANdBBIi9BOi@BPbfNBQi$BTNBUOBVQBYjAB6jBB7jCB8jDBcPBBc@NdZbzQd6bzRd7gNd9b6d@gOeAgPeBgQeCqCeFcAeJgReKcCeLcDgAqDCbdQbACECBCBDBBCDBCEOSBCBBBBBBBBBBBBBBBBc@ADbfOBLbfPBQBBc@Bg6bzUNdBBIi9BOi@BPbfQBQi$BTNBUOBVQBYjAB6jBB7jCB8jDBcPBBc@NdZbzQd6bzRd7gNd9b6d@gOeAgPeBgQeCqCeFcAeJgReKcCeLcDgAqDCbdQbACECBCBDBBCDBCEOSBCBBBBBBBBBBBBBBBBc@ADbfRBLbfSBQBBc@Bg6bzUCbdNbACECBCBDBBCDBCEOSBCBBBBBBBBBBBBBBBBc@ACbfTBJBBc@ANdBBIi9BOi@BPbfUBQi$BTNBUOBVQBYjAB6jBB7jCB8jDBcPBBc@NdZbzQd6bzRd7gNd9b6d@gOeAgPeBgQeCqCeFcAeJgReKcCeLcDgAqDCbdQbACECBCBDBBCDBCEOSBCBBBBBBBBBBBBBBBBc@ADbfVBLbfWBQBBc@Bg6bzUNdBBIi9BOi@BPbfXBQi$BTNBUOBVQBYjAB6jBB7jCB8jDBcPBBc@NdZbzQd6bzRd7gNd9b6d@gOeAgPeBgQeCqCeFcAeJgReKcCeLcDgAqDCbdQbACECBCBDBBCDBCEOSBCBBBBBBBBBBBBBBBBc@ADbfYBLbfZBQBBc@Bg6bzUCbf6BJBBc@ACbf7BJBBc@ACbd$bACECBCBDBBCDBCEOSBCBBBBBBBBBBBBBBBBc@A@bXBIbf8BJbYBOKBPhVBTNBUOBVQBYRB6SB7b6B8b7Bb7b8Bb8b9Bb9b@Bb@b$Bb$cABcAcBBcBhWBcPcDBcQcEBcScFBcWcGBcXcHBcYcIBcZcJBc6cKBc7cLBc8cMBc9BBc@@dZfXd6fYd7eOd9b6d@ePd$eQeAeReBeSeCb$eFcAeJeTeKcCeLcDfNb0CfOeVfPeWfQb0DfTeXfUeYfVeZfWe6fXe7fYe8fZe9f9e@f@e$f$fAgAfBgFfCgGfDDbf9BJbf@BLBBc@Bg8b0GCbd$bACECBCBDBBCDBCEOSBCBBBBBBBBBBBBBBBBc@A@bXBIbf$BJbYBOKBPhVBTNBUOBVQBYRB6SB7b6B8b7Bb7b8Bb8b9Bb9b@Bb@b$Bb$cABcAcBBcBhWBcPcDBcQcEBcScFBcWcGBcXcHBcYcIBcZcJBc6cKBc7cLBc8cMBc9BBc@@dZfXd6fYd7eOd9b6d@ePd$eQeAeReBeSeCb$eFcAeJeTeKcCeLcDfNb0CfOeVfPeWfQb0DfTeXfUeYfVeZfWe6fXe7fYe8fZe9f9e@f@e$f$fAgAfBgFfCgGfDDbgABJbgBBLBBc@Bg8b0GCbeSbACECBCBDBBCDBCEOSBCBBBBBBBBBBBBBBBBc@AZiCBGiDBIiFBPbgCBQj9BTj@BZbgDBbLj$Bb9kABb@kBBcAkCBcBkDBcCkEBcDkFBcEkGBcFkHBcGkIBcHkJBcIkKBcJkLBcKkMBcLkNBcMkOBcNkPBcOBBc@Cd8pRfSpSCbeVbACECBCBDBBCDBCEOSBCBBBBBBBBBBBBBBBBc@A@bXBIbYBOKBPbgEBQcVBTNBUOBVQBYRB6SB7cWB8b7Bb7b8Bb8cXBb9cYBb@cZBb$c6BcAc7BcBcCBcPcDBcQcEBcScFBcWcGBcXcHBcYcIBcZcJBc6cKBc7cLBc8cMBc9BBc@9dZfXd6fYd7eOd9b6d@ePd$eQeAeReBeSeCb$eFcAeJeTeKcCeLcDfNb3JfOeVfPeWfTeXfUeYfVeZfWe6fXe7fYe8fZe9f9e@f@e$f$fAgAfBgFfCgGfDMdBBIi9BOi@BPi$BTNBUOBVQBYjAB6jBB7jCB8jDBcPBBc@NdZbaTd6baUd7gNd9b6d@gOeAgPeBgQeCqCeFcAeJgReKcCeLcDgAqDCbgFBQBBc@ACbgGBQBBc@AMdBBIi9BOi@BPi$BTNBUOBVQBYjAB6jBB7sPB8jDBcPBBc@NdZtRd6tSd7gNd9b6d@gOeAgPeBgQeCqCeFcAeJgReKcCeLcDgAqDCbgHGBBBUbBBBBc@ACbgHGBBBUbBBBBc@ACbgIGBBBUbBBBBc@A9dUBIdVBOKBPdWBTNBUOBVQBYRB6SB7dXB8d" ++
  "YBb7dZBb8d6Bb9d7Bb@d8Bb$d9BcAd@BcBd$BcPeABcQeBBcSeCBcWeDBcXeEBcYeFBcZeGBc6eHBc7eIBc8eJBc9BBc@@dXb3MdZhZd6h6d7h7d9b6d@h8d$h9eAh@eBh$eCb$eFcAeJiAeKcCeLcDfNiBfOiCfPiDfTiEfUiFfViGfWiHfXiIfYiJfZiKf9iLf@iMf$iNgAiOgFiPgGiQ9dUBIdVBOKBPdWBTNBUOBVQBYRB6SB7dXB8dYBb7dZBb8d6Bb9d7Bb@d8Bb$d9BcAd@BcBd$BcPeABcQeBBcSeCBcWeDBcXeEBcYeFBcZeGBc6eHBc7eIBc8eJBc9BBc@@dXb3NdZhZd6h6d7h7d9b6d@h8d$h9eAh@eBh$eCb$eFcAeJiAeKcCeLcDfNiBfOiCfPiDfTiEfUiFfViGfWiHfXiIfYiJfZiKf9iLf@iMf$iNgAiOgFiPgGiQCsBNABBBJDHBC$BXCBBc@ACsBNABBBJDHBC$BXCBBc@ACt9NABBBJDHBC$BXCBBc@ACt9NABBBJDHBC$BXCBBc@ACt$NABBBJDHBC$BXCBBc@ACt$NABBBJDHBC$BXCBBc@AMjGBIjJBOjKBPjLBTjMBUjNBVjOBYjPB6jQB7jRB8jSBcPBBc@NdZb3Od6b3Pd7qXd9qYd@qZeAq6eBq7eCq8eFq9eJq@eKq$eLrAgArBCuLNABBBJDHBC$BXCBBc@AFbgJBBbgKBCbgLBDbgMBXBBc@BgTb3UNr6MABBBJKBC$BXCjYBIs@BOs$BPtABTjMBUjNBVjOBYtBB6tCB7tDB8tEBcPBBc@NdQboUd6boVd7qXd9qYd@qZeAq6eBq7eC5DeFq9eJq@eKq$eLrAgA5EMjGBIs@BOs$BPtABTjMBUjNBVjOBYtBB6tCB7tDB8tEBcPBBc@NdZboWd6boXd7qXd9qYd@qZeAq6eBq7eC5DeFq9eJq@eKq$eLrAgA5EYiCBGiDBIiFBPbgNBQj9BTj@BZj$Bb9kABb@kBBcAkCBcBkDBcCkEBcDkFBcEkGBcFkHBcGkIBcHkJBcIkKBcJkLBcKkMBcLkNBcMkOBcNkPBcOBBc@Cd8pRfSpSMdBBIi9BOi@BPi$BTNBUOBVQBYjAB6jBB7jCB8jDBcPBBc@NdZb3Wd6b3Xd7gNd9b6d@gOeAgPeBgQeCqCeFcAeJgReKcCeLcDgAqDMjGBIs@BOs$BPtABTjMBUjNBVjOBYtBB6bgOB7tDB8tEBcPBBc@NdZbpHd6bpId7qXd9qYd@qZeAq6eBq7eC5DeFq9eJq@eKq$eLrAgA5EMjGBIs@BOs$BPtABTjMBUjNBVjOBYtBB6tCB7tDB8tEBcPBBc@NdZbpJd6bpKd7qXd9qYd@qZeAq6eBq7eC5DeFq9eJq@eKq$eLrAgA5ECu6NABBBJDHBC$BXCBBc@AFbgPBBbgQBCbgRBDbgSBXBBc@BgVb39FbgTBBbgUBCbgVBDbgWBXBBc@BgVb4CCbgXBQBBc@ACbgYBQBBc@AMjGBIjJBOjKBPjLBTjMBUjNBVjOBYjPB6jQB7tHB8jSBcPBBc@NdZb4Fd6b4Gd7qXd9qYd@qZeAq6eBq7eCq8eFq9eJq@eKq$eLrAgArBCvHNABBBJDHBC$BXCBBc@ACvHNABBBJDHBC$BXCBBc@ACvHNABBBJDHBC$BXCBBc@ACvHNABBBJDHBC$BXCBBc@ACx$NABBBJDHBC$BXCBBc@ADbgZBLbg6BQBBc@BgSb4JCbg7GBBBUbBBBBc@ACbg7GBBBUbBBBBc@ACbg8GBBBUbBBBBc@A9dUBIdVBOKBPdWBTNBUOBVQBYRB6SB7dXB8dYBb7dZBb8d6Bb9d7Bb@d8Bb$d9BcAd@BcBd$BcPeABcQeBBcSeCBcWeDBcXeEBcYeFBcZeGBc6eHBc7eIBc8eJBc9BBc@@dXb4KdZhZd6h6d7h7d9b6d@h8d$h9eAh@eBh$eCb$eFcAeJiAeKcCeLcDfNiBfOiCfPiDfTiEfUiFfViGfWiHfXiIfYiJfZiKf9iLf@iMf$iNgAiOgFiPgGiQ9dUBIdVBOKBPdWBTNBUOBVQBYRB6SB7dXB8dYBb7dZBb8d6Bb9d7Bb@d8Bb$d9BcAd@BcBd$BcPeABcQeBBcSeCBcWeDBcXeEBcYeFBcZeGBc6eHBc7eIBc8eJBc9BBc@@dXb4LdZhZd6h6d7h7d9b6d@h8d$h9eAh@eBh$eCb$eFcAeJiAeKcCeLcDfNiBfOiCfPiDfTiEfUiFfViGfWiHfXiIfYiJfZiKf9iLf@iMf$iNgAiOgFiPgGiQCbg9CJCBBc@ACbg9CJCBBc@ACbg@CJCBBc@ACbg@CJCBBc@ACbg$SIBCBCBBDBBBCBBBBPbEBBc@ACbhACJCBBc@ACbhACJCBBc@ACbg$SIBCBCBBDBBBCBBBBPbEBBc@AOdBBIbhBBJi9BOi@BPjWBRi$BTNBUOBVQBYjAB6jBB7jCB8jXBcPBBc@PdRbpXdSbpYdZrJd6rKd7gNd9b6d@gOeAgPeBgQeCqCeFcAeJgReKcCeLcDgAqDDbhABJbhCBLBBc@BgObp7Cbg$SIBCBCBBDBBBCBBBBPbEBBc@ACbg$SIBCBCBBDBBBCBBBBPbEBBc@AOdBBIbhDBJi9BOi@BPjWBRi$BTNBUOBVQBYjAB6jBB7jCB8jXBcPBBc@PdRbpXdSbpYdZrJd6rKd7gNd9b6d@gOeAgPeBgQeCqCeFcAeJgReKcCeLcDgAqDC2SXABBBFECBEBBBBBBBBB8BWBCBBc@AC2SXABBBFECBEBBBBBBBBB8BWBCBBc@AOdBBIbhEBJi9BOi@BPjWBRi$BTNBUOBVQBYjAB6jBB7jCB8jXBcPBBc@PdRbpXdSbpYdZrJd6rKd7gNd9b6d@gOeAgPeBgQeCqCeFcAeJgReKcCeLcDgAqDDbhFBJbhGBLBBc@BgObp7C2SXABBBFECBEBBBBBBBBB8BWBCBBc@AOdBBIbhHBJi9BOi@BPjWBRi$BTNBUOBVQBYjAB6jBB7jCB8jXBcPBBc@PdRbpXdSbpYdZrJd6rKd7gNd9b6d@gOeAgPeBgQeCqCeFcAeJgReKcCeLcDgAqDDbhIBJbhJBLBBc@BgObp7CbhKCLFBBc@ANdBBIjHBLi9BOi@BPi$BTNBUOBVQBYjAB6jBB7jCB8jDBcPBBc@PdZyQd6yRd7gNd9b6d@gOeAgPeBgQeCqCeFcAeIb4VeJgReKcCeLcDgAqDgL5VDbhLBQt7BcPBBc@BdPb4XCbhMLIGBEBBDCBBbTBBc@ADbhNBLbhOBQBBc@BgNb46DbhPEABBBPBWBBc@BeMb47DbhPEABBBPBWBBc@BeMb48CbhQEABBBBBc@ACbhREABBBBBc@ACbhREABBBBBc@ADbhSEABBBPBWBBc@BeMb49DbhSEABBBPBWBBc@BeMb4@CbhTEABBBBBc@ACbhUEBBBUBBc@ACbhUEBBBUBBc@ACbhVEBBBUBBc@ACbhVEBBBUBBc@ACbhVEBBBUBBc@ACbhVEBBBUBBc@ACbhWMIDDBEBBDCBBbTBBc@ACbhXEBBBUBBc@ACbhXEBBBUBBc@ACbhXEBBBUBBc@ACbhXEBBBUBBc@AEbhYEBBBUbHBcQbIBcSBBc@CgFb4$gGb5AEbhYEBBBUbHBcQbIBcSBBc@CgFb5BgGb5CDbhZLIGBEBBDCBBbTbh6BLBBc@BgUbrACbh7JIBCBDBGDSBBc@ACbh8EBBBUBBc@ACbh7JIBCBDBGDSBBc@ACbh8EBBBUBBc@ACbh7JIBCBDBGDSBBc@ACbh8EBBBUBBc@AFkWBTOBVbh9BXkYBcPBBc@Ed7sXeCsYeEbrCgAs6FkWBTOBVbh@BXkYBcPBBc@Ed7sXeCsYeEbrEgAs6FkWBTOBVbh$BXkYBcPBBc@Ed7sXeCsYeEbrGgAs6Cbh7JIBCBDBGDSBBc@AFbiABBbiBBCbiCBDbh8BXBBc@BgTbr" ++
  "LCbiDDXbBBBBc@ACbiDDXbBBBBc@ACbiDDXbBBBBc@AbNDBCGBIHBKIBNc@BOKBPLBSMBTNBUOBVPBWQBYRB6SB7TB8UBbMVBbNWBbOXBbPYBbQZBbR6BbS7BbT8BbV9BbX@Bb6$Bb7bABb8bBBb9bCBb@bDBb$bEBcAbFBcBbGBcPbHBcQbIBcSbJBcWbKBcXbLBcYbMBcZbNBc6bOBc7bPBc8bQBc9BBc@bZdGbTdHbTdJbTdUbTdXbWdZbXd6bYd7bZd9b6d@b7d$b8eAb9eBb@eCb$eFcAeJcBeKcCeLcDeMcEeObcFePcGeQcHeRcIeScJeUcKeVcLeWcMeXcNeYcOe6cPe7cQe8cRe9cSe@cTe$cUfAcVfBcWfCcXfFcYfIcZfLc6fNc7fOc8fPc9fTc@fUc$fVdAfWdBfXdCfYdDfZdEf9dFf@dGf$dHgAdIgFdJgGdKbNDBCGBIHBKIBNc@BOKBPLBSMBTNBUOBVPBWQBYRB6SB7TB8UBbMVBbNWBbOXBbPYBbQZBbR6BbS7BbT8BbV9BbX@Bb6$Bb7bABb8bBBb9bCBb@bDBb$bEBcAbFBcBbGBcPbHBcQbIBcSbJBcWbKBcXbLBcYbMBcZbNBc6bOBc7bPBc8bQBc9BBc@bZdGbTdHbTdJbTdUbTdXbWdZbXd6bYd7bZd9b6d@b7d$b8eAb9eBb@eCb$eFcAeJcBeKcCeLcDeMcEeObcHePcGeQcHeRcIeScJeUcKeVcLeWcMeXcNeYcOe6cPe7cQe8cRe9cSe@cTe$cUfAcVfBcWfCcXfFcYfIcZfLc6fNc7fOc8fPc9fTc@fUc$fVdAfWdBfXdCfYdDfZdEf9dFf@dGf$dHgAdIgFdJgGdKbNDBCGBIHBKIBNc@BOKBPLBSMBTNBUOBVPBWQBYRB6SB7TB8UBbMVBbNWBbOXBbPYBbQZBbR6BbS7BbT8BbV9BbX@Bb6$Bb7bABb8bBBb9bCBb@bDBb$bEBcAbFBcBbGBcPbHBcQbIBcSbJBcWbKBcXbLBcYbMBcZbNBc6bOBc7bPBc8bQBc9BBc@bZdGbTdHbTdJbTdUbTdXbWdZbXd6bYd7bZd9b6d@b7d$b8eAb9eBb@eCb$eFcAeJcBeKcCeLcDeMcEeObcJePcGeQcHeRcIeScJeUcKeVcLeWcMeXcNeYcOe6cPe7cQe8cRe9cSe@cTe$cUfAcVfBcWfCcXfFcYfIcZfLc6fNc7fOc8fPc9fTc@fUc$fVdAfWdBfXdCfYdDfZdEf9dFf@dGf$dHgAdIgFdJgGdKCbiEEBBBUBBc@ACbiEEBBBUBBc@ACbiFFBBBUCBBc@ACbiFFBBBUCBBc@ADbiFEBBBUbiGBZBBc@BgWbrWCbiHJIBCBDBGDSBBc@ACbiIEBBBUBBc@ACbiIEBBBUBBc@ACbiHJIBCBDBGDSBBc@ACbiIEBBBUBBc@ACbiIEBBBUBBc@ACbiHJIBCBDBGDSBBc@ACbiIEBBBUBBc@ACbiIEBBBUBBc@ANjGBIjJBOjKBPjLBTjMBUjNBVbiJBXjOBYjPB6jQB7jRB8lHBcPBBc@PdZtJd6tKd7qXd9qYd@qZeAq6eBq7eCq8eFq9eHbrYeIbrZeJq@eKq$eLrAgArBNjGBIjJBOjKBPjLBTjMBUjNBVbiKBXjOBYjPB6jQB7jRB8lHBcPBBc@PdZtJd6tKd7qXd9qYd@qZeAq6eBq7eCq8eFq9eHbr7eIbr8eJq@eKq$eLrAgArBNjGBIjJBOjKBPjLBTjMBUjNBVbiLBXjOBYjPB6jQB7jRB8lHBcPBBc@PdZtJd6tKd7qXd9qYd@qZeAq6eBq7eCq8eFq9eHbr@eIbr$eJq@eKq$eLrAgArBCbiHJIBCBDBGDSBBc@AFbiMBBbiNBCbiOBDbiIBXBBc@BgVbsECbiHJIBCBDBGDSBBc@ACbiHJIBCBDBGDSBBc@ACbiHJIBCBDBGDSBBc@ANjGBIjJBOjKBPjLBTjMBUjNBVbiPBXjOBYjPB6jQB7jRB8lHBcPBBc@PdZtJd6tKd7qXd9qYd@qZeAq6eBq7eCq8eFq9eHbrYeIbrZeJq@eKq$eLrAgArBNjGBIjJBOjKBPjLBTjMBUjNBVbiQBXjOBYjPB6jQB7jRB8lHBcPBBc@PdZtJd6tKd7qXd9qYd@qZeAq6eBq7eCq8eFq9eHbr7eIbr8eJq@eKq$eLrAgArBNjGBIjJBOjKBPjLBTjMBUjNBVbiRBXjOBYjPB6jQB7jRB8lHBcPBBc@PdZtJd6tKd7qXd9qYd@qZeAq6eBq7eCq8eFq9eHbr@eIbr$eJq@eKq$eLrAgArBCbiHJIBCBDBGDSBBc@ACbiSJIBCBDBGDSBBc@ACbiSJIBCBDBGDSBBc@ACbiSJIBCBDBGDSBBc@ACbiSJIBCBDBGDSBBc@ACk$9BBBDCDEEEC$BEBCBBBBBBBBBBBBBBBBc@ACbiTBXBBc@AC3G9BBBDCDEEEC$BEBCBBBBBBBBBBBBBBBBc@AC3G9BBBDCDEEEC$BEBCBBBBBBBBBBBBBBBBc@ACbc79BBBDCDEEEC$BEBCBBBBBBBBBBBBBBBBc@A@bXBIbiUBJbYBOKBPhVBTNBUOBVQBYRB6SB7b6B8b7Bb7b8Bb8b9Bb9b@Bb@b$Bb$cABcAcBBcBhWBcPcDBcQcEBcScFBcWcGBcXcHBcYcIBcZcJBc6cKBc7cLBc8cMBc9BBc@9dZfXd6fYd7eOd9b6d@ePd$eQeAeReBeSeCb$eFcAeJeTeKcCeLcDfNbyVfOeVfPeWfTeXfUeYfVeZfWe6fXe7fYe8fZe9f9e@f@e$f$fAgAfBgFfCgGfDDbiVBJbiWBLBBc@BgRbyYCbc79BBBDCDEEEC$BEBCBBBBBBBBBBBBBBBBc@A@bXBIbiXBJbYBOKBPhVBTNBUOBVQBYRB6SB7b6B8b7Bb7b8Bb8b9Bb9b@Bb@b$Bb$cABcAcBBcBhWBcPcDBcQcEBcScFBcWcGBcXcHBcYcIBcZcJBc6cKBc7cLBc8cMBc9BBc@9dZfXd6fYd7eOd9b6d@ePd$eQeAeReBeSeCb$eFcAeJeTeKcCeLcDfNbyVfOeVfPeWfTeXfUeYfVeZfWe6fXe7fYe8fZe9f9e@f@e$f$fAgAfBgFfCgGfDDbiYBJbiZBLBBc@BgRbyYCbdG9BBBDCDEEEC$BEBCBBBBBBBBBBBBBBBBc@A$bXBIbYBOKBPcVBTNBUOBVhYBWbi6BXQBYRB6SB7cWB8b7Bb7b8Bb8cXBb9cYBb@cZBb$c6BcAc7BcBcCBcPcDBcQcEBcScFBcWcGBcXcHBcYcIBcZcJBc6cKBc7cLBc8cMBc9BBc@bAdZfXd6fYd7eOd9b6d@ePd$eQeAeReBeSeCb$eFcAeJeTeKcCeLcDfNyVfOeVfPeWfTeXfUeYfVeZfWe6fXe7fYe8fZe9f6yWf7bzFf8bzGf9e@f@e$f$fAgAfBgFfCgGfDCbdG9BBBDCDEEEC$BEBCBBBBBBBBBBBBBBBBc@ADbi7BLbi8BXBBc@Bg9bzK$bXBIbYBOKBPcVBTNBUOBVhYBWbi9BXQBYRB6SB7cWB8b7Bb7b8Bb8cXBb9cYBb@cZBb$c6BcAc7BcBcCBcPcDBcQcEBcScFBcWcGBcXcHBcYcIBcZcJBc6cKBc7cLBc8cMBc9BBc@bAdZfXd6fYd7eOd9b6d@ePd$eQeAeReBeSeCb$eFcAeJeTeKcCeLcDfNyVfOeVfPeWfTeXfUeYfVeZfWe6fXe7fYe8fZe9f6yWf7bzFf8bzGf9e@f@e$f$fAgAfBgFfCgGfDCbdG9BBBDCDEEEC$BEBCBBBBBBBBBBBBBBBBc@ADbi@BLbi$BXBBc@Bg9bzKCbdN9BBBDCDEEEC$BEBCBBBBBBBBBBBBBBBBc@ACbjABJBBc@ANdBBIi9BOi@BPbjBBQi$BTNBUOBVQBYjAB6jBB7jCB8jDBcPBBc@NdZbzQd6bzRd7gNd9b6d@gOeAg" ++
  "PeBgQeCqCeFcAeJgReKcCeLcDgAqDCbdQ9BBBDCDEEEC$BEBCBBBBBBBBBBBBBBBBc@ADbjCBLbjDBQBBc@Bg6bzUNdBBIi9BOi@BPbjEBQi$BTNBUOBVQBYjAB6jBB7jCB8jDBcPBBc@NdZbzQd6bzRd7gNd9b6d@gOeAgPeBgQeCqCeFcAeJgReKcCeLcDgAqDCbdQ9BBBDCDEEEC$BEBCBBBBBBBBBBBBBBBBc@ADbjFBLbjGBQBBc@Bg6bzUCbdN9BBBDCDEEEC$BEBCBBBBBBBBBBBBBBBBc@ACbjHBJBBc@ANdBBIi9BOi@BPbjIBQi$BTNBUOBVQBYjAB6jBB7jCB8jDBcPBBc@NdZbzQd6bzRd7gNd9b6d@gOeAgPeBgQeCqCeFcAeJgReKcCeLcDgAqDCbdQ9BBBDCDEEEC$BEBCBBBBBBBBBBBBBBBBc@ADbjJBLbjKBQBBc@Bg6bzUNdBBIi9BOi@BPbjLBQi$BTNBUOBVQBYjAB6jBB7jCB8jDBcPBBc@NdZbzQd6bzRd7gNd9b6d@gOeAgPeBgQeCqCeFcAeJgReKcCeLcDgAqDCbdQ9BBBDCDEEEC$BEBCBBBBBBBBBBBBBBBBc@ADbjMBLbjNBQBBc@Bg6bzUCbjOBJBBc@ACbjPBJBBc@ACbd$9BBBDCDEEEC$BEBCBBBBBBBBBBBBBBBBc@A@bXBIbjQBJbYBOKBPhVBTNBUOBVQBYRB6SB7b6B8b7Bb7b8Bb8b9Bb9b@Bb@b$Bb$cABcAcBBcBhWBcPcDBcQcEBcScFBcWcGBcXcHBcYcIBcZcJBc6cKBc7cLBc8cMBc9BBc@@dZfXd6fYd7eOd9b6d@ePd$eQeAeReBeSeCb$eFcAeJeTeKcCeLcDfNb0CfOeVfPeWfQb0DfTeXfUeYfVeZfWe6fXe7fYe8fZe9f9e@f@e$f$fAgAfBgFfCgGfDDbjRBJbjSBLBBc@Bg8b0GCbd$9BBBDCDEEEC$BEBCBBBBBBBBBBBBBBBBc@A@bXBIbjTBJbYBOKBPhVBTNBUOBVQBYRB6SB7b6B8b7Bb7b8Bb8b9Bb9b@Bb@b$Bb$cABcAcBBcBhWBcPcDBcQcEBcScFBcWcGBcXcHBcYcIBcZcJBc6cKBc7cLBc8cMBc9BBc@@dZfXd6fYd7eOd9b6d@ePd$eQeAeReBeSeCb$eFcAeJeTeKcCeLcDfNb0CfOeVfPeWfQb0DfTeXfUeYfVeZfWe6fXe7fYe8fZe9f9e@f@e$f$fAgAfBgFfCgGfDDbjUBJbjVBLBBc@Bg8b0GCbeS9BBBDCDEEEC$BEBCBBBBBBBBBBBBBBBBc@AZiCBGiDBIiFBPbjWBQj9BTj@BZbjXBbLj$Bb9kABb@kBBcAkCBcBkDBcCkEBcDkFBcEkGBcFkHBcGkIBcHkJBcIkKBcJkLBcKkMBcLkNBcMkOBcNkPBcOBBc@Cd8pRfSpSCbeV9BBBDCDEEEC$BEBCBBBBBBBBBBBBBBBBc@A@bXBIbYBOKBPbjYBQcVBTNBUOBVQBYRB6SB7cWB8b7Bb7b8Bb8cXBb9cYBb@cZBb$c6BcAc7BcBcCBcPcDBcQcEBcScFBcWcGBcXcHBcYcIBcZcJBc6cKBc7cLBc8cMBc9BBc@9dZfXd6fYd7eOd9b6d@ePd$eQeAeReBeSeCb$eFcAeJeTeKcCeLcDfNcaYfOeVfPeWfTeXfUeYfVeZfWe6fXe7fYe8fZe9f9e@f@e$f$fAgAfBgFfCgGfDCk$bJCECDBDEDDDBBBBBBBBBBBBBBTBCBBBBBBBBBBBBBBBBc@ACbjZBXBBc@AC3GbJCECDBDEDDDBBBBBBBBBBBBBBTBCBBBBBBBBBBBBBBBBc@AC3GbJCECDBDEDDDBBBBBBBBBBBBBBTBCBBBBBBBBBBBBBBBBc@ACbc7bJCECDBDEDDDBBBBBBBBBBBBBBTBCBBBBBBBBBBBBBBBBc@A@bXBIbj6BJbYBOKBPhVBTNBUOBVQBYRB6SB7b6B8b7Bb7b8Bb8b9Bb9b@Bb@b$Bb$cABcAcBBcBhWBcPcDBcQcEBcScFBcWcGBcXcHBcYcIBcZcJBc6cKBc7cLBc8cMBc9BBc@9dZfXd6fYd7eOd9b6d@ePd$eQeAeReBeSeCb$eFcAeJeTeKcCeLcDfNbyVfOeVfPeWfTeXfUeYfVeZfWe6fXe7fYe8fZe9f9e@f@e$f$fAgAfBgFfCgGfDDbj7BJbj8BLBBc@BgRbyYCbc7bJCECDBDEDDDBBBBBBBBBBBBBBTBCBBBBBBBBBBBBBBBBc@A@bXBIbj9BJbYBOKBPhVBTNBUOBVQBYRB6SB7b6B8b7Bb7b8Bb8b9Bb9b@Bb@b$Bb$cABcAcBBcBhWBcPcDBcQcEBcScFBcWcGBcXcHBcYcIBcZcJBc6cKBc7cLBc8cMBc9BBc@9dZfXd6fYd7eOd9b6d@ePd$eQeAeReBeSeCb$eFcAeJeTeKcCeLcDfNbyVfOeVfPeWfTeXfUeYfVeZfWe6fXe7fYe8fZe9f9e@f@e$f$fAgAfBgFfCgGfDDbj@BJbj$BLBBc@BgRbyY9bXBIbYBOKBPcVBTNBUOBVQBYRB6SB7cWB8b7Bb7b8Bb8cXBb9cYBb@cZBb$c6BcAc7BcBcCBcPcDBcQcEBcScFBcWcGBcXcHBcYcIBcZcJBc6cKBc7cLBc8cMBc9BBc@9dZfXd6fYd7eOd9b6d@ePd$eQeAeReBeSeCb$eFcAeJeTeKcCeLcDfNcbAfOeVfPeWfTeXfUeYfVeZfWe6fXe7fYe8fZe9f9e@f@e$f$fAgAfBgFfCgGfDDqCECKRO5YBLBBc@BgRcbBCbdNbJCECDBDEDDDBBBBBBBBBBBBBBTBCBBBBBBBBBBBBBBBBc@ACbkABJBBc@ANdBBIi9BOi@BPbkBBQi$BTNBUOBVQBYjAB6jBB7jCB8jDBcPBBc@NdZbzQd6bzRd7gNd9b6d@gOeAgPeBgQeCqCeFcAeJgReKcCeLcDgAqDCbdQbJCECDBDEDDDBBBBBBBBBBBBBBTBCBBBBBBBBBBBBBBBBc@ADbkCBLbkDBQBBc@Bg6bzUNdBBIi9BOi@BPbkEBQi$BTNBUOBVQBYjAB6jBB7jCB8jDBcPBBc@NdZbzQd6bzRd7gNd9b6d@gOeAgPeBgQeCqCeFcAeJgReKcCeLcDgAqDCbdQbJCECDBDEDDDBBBBBBBBBBBBBBTBCBBBBBBBBBBBBBBBBc@ADbkFBLbkGBQBBc@Bg6bzUCbdNbJCECDBDEDDDBBBBBBBBBBBBBBTBCBBBBBBBBBBBBBBBBc@ACbkHBJBBc@ANdBBIi9BOi@BPbkIBQi$BTNBUOBVQBYjAB6jBB7jCB8jDBcPBBc@NdZbzQd6bzRd7gNd9b6d@gOeAgPeBgQeCqCeFcAeJgReKcCeLcDgAqDCbdQbJCECDBDEDDDBBBBBBBBBBBBBBTBCBBBBBBBBBBBBBBBBc@ADbkJBLbkKBQBBc@Bg6bzUNdBBIi9BOi@BPbkLBQi$BTNBUOBVQBYjAB6jBB7jCB8jDBcPBBc@NdZbzQd6bzRd7gNd9b6d@gOeAgPeBgQeCqCeFcAeJgReKcCeLcDgAqDCbdQbJCECDBDEDDDBBBBBBBBBBBBBBTBCBBBBBBBBBBBBBBBBc@ADbkMBLbkNBQBBc@Bg6bzUCbdGbJCECDBDEDDDBBBBBBBBBBBBBBTBCBBBBBBBBBBBBBBBBc@A$bXBIbYBOKBPcVBTNBUOBVhYBWbkOBXQBYRB6SB7cWB8b7Bb7b8Bb8cXBb9cYBb@cZBb$c6BcAc7BcBcCBcPcDBcQcEBcScFBcWcGBcXcHBcYcIBcZcJBc6cKBc7cLBc8cMBc9BBc@bAdZfXd6fYd7eOd9b6d@ePd$eQeAeReBeSeCb$eFcAeJeTeKcCeLcDfNyVfOeVfPeWfTeXfUeYfVeZfWe6fXe7fYe8fZe9f6yWf7bzFf8bzGf9e@f@e$f$fAgAfBg" ++
  "FfCgGfDCbdGbJCECDBDEDDDBBBBBBBBBBBBBBTBCBBBBBBBBBBBBBBBBc@ADbkPBLbkQBXBBc@Bg9bzK$bXBIbYBOKBPcVBTNBUOBVhYBWbkRBXQBYRB6SB7cWB8b7Bb7b8Bb8cXBb9cYBb@cZBb$c6BcAc7BcBcCBcPcDBcQcEBcScFBcWcGBcXcHBcYcIBcZcJBc6cKBc7cLBc8cMBc9BBc@bAdZfXd6fYd7eOd9b6d@ePd$eQeAeReBeSeCb$eFcAeJeTeKcCeLcDfNyVfOeVfPeWfTeXfUeYfVeZfWe6fXe7fYe8fZe9f6yWf7bzFf8bzGf9e@f@e$f$fAgAfBgFfCgGfDCbdGbJCECDBDEDDDBBBBBBBBBBBBBBTBCBBBBBBBBBBBBBBBBc@ADbkSBLbkTBXBBc@Bg9bzKDbkUGBBBUbBBbkVBbUBBc@ACbkWBJBBc@ACbkXBJBBc@ACbd$bJCECDBDEDDDBBBBBBBBBBBBBBTBCBBBBBBBBBBBBBBBBc@A@bXBIbkYBJbYBOKBPhVBTNBUOBVQBYRB6SB7b6B8b7Bb7b8Bb8b9Bb9b@Bb@b$Bb$cABcAcBBcBhWBcPcDBcQcEBcScFBcWcGBcXcHBcYcIBcZcJBc6cKBc7cLBc8cMBc9BBc@@dZfXd6fYd7eOd9b6d@ePd$eQeAeReBeSeCb$eFcAeJeTeKcCeLcDfNb0CfOeVfPeWfQb0DfTeXfUeYfVeZfWe6fXe7fYe8fZe9f9e@f@e$f$fAgAfBgFfCgGfDDbkZBJbk6BLBBc@Bg8b0GCbd$bJCECDBDEDDDBBBBBBBBBBBBBBTBCBBBBBBBBBBBBBBBBc@A@bXBIbk7BJbYBOKBPhVBTNBUOBVQBYRB6SB7b6B8b7Bb7b8Bb8b9Bb9b@Bb@b$Bb$cABcAcBBcBhWBcPcDBcQcEBcScFBcWcGBcXcHBcYcIBcZcJBc6cKBc7cLBc8cMBc9BBc@@dZfXd6fYd7eOd9b6d@ePd$eQeAeReBeSeCb$eFcAeJeTeKcCeLcDfNb0CfOeVfPeWfQb0DfTeXfUeYfVeZfWe6fXe7fYe8fZe9f9e@f@e$f$fAgAfBgFfCgGfDDbk8BJbk9BLBBc@Bg8b0GCbeSbJCECDBDEDDDBBBBBBBBBBBBBBTBCBBBBBBBBBBBBBBBBc@AZiCBGiDBIiFBPbk@BQj9BTj@BZbk$BbLj$Bb9kABb@kBBcAkCBcBkDBcCkEBcDkFBcEkGBcFkHBcGkIBcHkJBcIkKBcJkLBcKkMBcLkNBcMkOBcNkPBcOBBc@Cd8pRfSpSCbeVbJCECDBDEDDDBBBBBBBBBBBBBBTBCBBBBBBBBBBBBBBBBc@A@bXBIbYBOKBPblABQcVBTNBUOBVQBYRB6SB7cWB8b7Bb7b8Bb8cXBb9cYBb@cZBb$c6BcAc7BcBcCBcPcDBcQcEBcScFBcWcGBcXcHBcYcIBcZcJBc6cKBc7cLBc8cMBc9BBc@9dZfXd6fYd7eOd9b6d@ePd$eQeAeReBeSeCb$eFcAeJeTeKcCeLcDfNccCfOeVfPeWfTeXfUeYfVeZfWe6fXe7fYe8fZe9f9e@f@e$f$fAgAfBgFfCgGfDCblBGBBBUbBBBBc@ACblBGBBBUbBBBBc@A9bXBIbYBOKBPoABTNBUOBVQBYRB6SB7oBB8b7Bb7b8Bb8oCBb9oDBb@oEBb$oFBcAoGBcBoHBcPcDBcQcEBcScFBcWcGBcXcHBcYcIBcZcJBc6cKBc7cLBc8cMBc9BBc@@dXbe6dZfXd6fYd7eOd9b6d@ePd$eQeAeReBeSeCb$eFcAeJeTeKcCeLcDfNccDfOeVfPeWfTeXfUeYfVeZfWe6fXe7fYe8fZe9f9e@f@e$f$fAgAfBgFfCgGfD9bXBIbYBOKBPoABTNBUOBVQBYRB6SB7oBB8b7Bb7b8Bb8oCBb9oDBb@oEBb$oFBcAoGBcBoHBcPcDBcQcEBcScFBcWcGBcXcHBcYcIBcZcJBc6cKBc7cLBc8cMBc9BBc@@dXbe8dZfXd6fYd7eOd9b6d@ePd$eQeAeReBeSeCb$eFcAeJeTeKcCeLcDfNccDfOeVfPeWfTeXfUeYfVeZfWe6fXe7fYe8fZe9f9e@f@e$f$fAgAfBgFfCgGfD9bXBIbYBOKBPoABTNBUOBVQBYRB6SB7oBB8b7Bb7b8Bb8oCBb9oDBb@oEBb$oFBcAoGBcBoHBcPcDBcQcEBcScFBcWcGBcXcHBcYcIBcZcJBc6cKBc7cLBc8cMBc9BBc@@dXbe9dZfXd6fYd7eOd9b6d@ePd$eQeAeReBeSeCb$eFcAeJeTeKcCeLcDfNccDfOeVfPeWfTeXfUeYfVeZfWe6fXe7fYe8fZe9f9e@f@e$f$fAgAfBgFfCgGfD9bXBIbYBOKBPoABTNBUOBVQBYRB6SB7oBB8b7Bb7b8Bb8oCBb9oDBb@oEBb$oFBcAoGBcBoHBcPcDBcQcEBcScFBcWcGBcXcHBcYcIBcZcJBc6cKBc7cLBc8cMBc9BBc@@dXbe@dZfXd6fYd7eOd9b6d@ePd$eQeAeReBeSeCb$eFcAeJeTeKcCeLcDfNccDfOeVfPeWfTeXfUeYfVeZfWe6fXe7fYe8fZe9f9e@f@e$f$fAgAfBgFfCgGfD9bXBIbYBOKBPoABTNBUOBVQBYRB6SB7oBB8b7Bb7b8Bb8oCBb9oDBb@oEBb$oFBcAoGBcBoHBcPcDBcQcEBcScFBcWcGBcXcHBcYcIBcZcJBc6cKBc7cLBc8cMBc9BBc@@dXbe$dZfXd6fYd7eOd9b6d@ePd$eQeAeReBeSeCb$eFcAeJeTeKcCeLcDfNccDfOeVfPeWfTeXfUeYfVeZfWe6fXe7fYe8fZe9f9e@f@e$f$fAgAfBgFfCgGfD9bXBIbYBOKBPoABTNBUOBVQBYRB6SB7oBB8b7Bb7b8Bb8oCBb9oDBb@oEBb$oFBcAoGBcBoHBcPcDBcQcEBcScFBcWcGBcXcHBcYcIBcZcJBc6cKBc7cLBc8cMBc9BBc@@dXbfAdZfXd6fYd7eOd9b6d@ePd$eQeAeReBeSeCb$eFcAeJeTeKcCeLcDfNccDfOeVfPeWfTeXfUeYfVeZfWe6fXe7fYe8fZe9f9e@f@e$f$fAgAfBgFfCgGfD9bXBIbYBOKBPoABTNBUOBVQBYRB6SB7oBB8b7Bb7b8Bb8oCBb9oDBb@oEBb$oFBcAoGBcBoHBcPcDBcQcEBcScFBcWcGBcXcHBcYcIBcZcJBc6cKBc7cLBc8cMBc9BBc@@dXbfBdZfXd6fYd7eOd9b6d@ePd$eQeAeReBeSeCb$eFcAeJeTeKcCeLcDfNccDfOeVfPeWfTeXfUeYfVeZfWe6fXe7fYe8fZe9f9e@f@e$f$fAgAfBgFfCgGfD9bXBIbYBOKBPoABTNBUOBVQBYRB6SB7oBB8b7Bb7b8Bb8oCBb9oDBb@oEBb$oFBcAoGBcBoHBcPcDBcQcEBcScFBcWcGBcXcHBcYcIBcZcJBc6cKBc7cLBc8cMBc9BBc@@dXbfCdZfXd6fYd7eOd9b6d@ePd$eQeAeReBeSeCb$eFcAeJeTeKcCeLcDfNccDfOeVfPeWfTeXfUeYfVeZfWe6fXe7fYe8fZe9f9e@f@e$f$fAgAfBgFfCgGfD9bXBIbYBOKBPoABTNBUOBVQBYRB6SB7oBB8b7Bb7b8Bb8oCBb9oDBb@oEBb$oFBcAoGBcBoHBcPcDBcQcEBcScFBcWcGBcXcHBcYcIBcZcJBc6cKBc7cLBc8cMBc9BBc@@dXbfDdZfXd6fYd7eOd9b6d@ePd$eQeAeReBeSeCb$eFcAeJeTeKcCeLcDfNccDfOeVfPeWfTeXfUeYfVeZfWe6fXe7fYe8fZe9f9e@f@e$f$fAgAfBgFfCgGfD9bXBIbYBOKBPoABTNBUOBVQBYRB6SB7oBB8b7Bb7b8Bb8oCBb9oDBb@oEBb$oFBcAoGBcBoHBcPcDBcQcEBc" ++
  "ScFBcWcGBcXcHBcYcIBcZcJBc6cKBc7cLBc8cMBc9BBc@@dXbfEdZfXd6fYd7eOd9b6d@ePd$eQeAeReBeSeCb$eFcAeJeTeKcCeLcDfNccDfOeVfPeWfTeXfUeYfVeZfWe6fXe7fYe8fZe9f9e@f@e$f$fAgAfBgFfCgGfD9bXBIbYBOKBPoABTNBUOBVQBYRB6SB7oBB8b7Bb7b8Bb8oCBb9oDBb@oEBb$oFBcAoGBcBoHBcPcDBcQcEBcScFBcWcGBcXcHBcYcIBcZcJBc6cKBc7cLBc8cMBc9BBc@@dXbfFdZfXd6fYd7eOd9b6d@ePd$eQeAeReBeSeCb$eFcAeJeTeKcCeLcDfNccDfOeVfPeWfTeXfUeYfVeZfWe6fXe7fYe8fZe9f9e@f@e$f$fAgAfBgFfCgGfD9bXBIbYBOKBPoABTNBUOBVQBYRB6SB7oBB8b7Bb7b8Bb8oCBb9oDBb@oEBb$oFBcAoGBcBoHBcPcDBcQcEBcScFBcWcGBcXcHBcYcIBcZcJBc6cKBc7cLBc8cMBc9BBc@@dXbfGdZfXd6fYd7eOd9b6d@ePd$eQeAeReBeSeCb$eFcAeJeTeKcCeLcDfNccDfOeVfPeWfTeXfUeYfVeZfWe6fXe7fYe8fZe9f9e@f@e$f$fAgAfBgFfCgGfD9bXBIbYBOKBPoABTNBUOBVQBYRB6SB7oBB8b7Bb7b8Bb8oCBb9oDBb@oEBb$oFBcAoGBcBoHBcPcDBcQcEBcScFBcWcGBcXcHBcYcIBcZcJBc6cKBc7cLBc8cMBc9BBc@@dXbfHdZfXd6fYd7eOd9b6d@ePd$eQeAeReBeSeCb$eFcAeJeTeKcCeLcDfNccDfOeVfPeWfTeXfUeYfVeZfWe6fXe7fYe8fZe9f9e@f@e$f$fAgAfBgFfCgGfD9bXBIbYBOKBPoABTNBUOBVQBYRB6SB7oBB8b7Bb7b8Bb8oCBb9oDBb@oEBb$oFBcAoGBcBoHBcPcDBcQcEBcScFBcWcGBcXcHBcYcIBcZcJBc6cKBc7cLBc8cMBc9BBc@9dZfXd6fYd7eOd9b6d@ePd$eQeAeReBeSeCb$eFcAeJeTeKcCeLcDfNccEfOeVfPeWfTeXfUeYfVeZfWe6fXe7fYe8fZe9f9e@f@e$f$fAgAfBgFfCgGfDCblCBWBBc@AMiCBGiDBI0IPLLDEbABCHBBBBBBBiFBPwCBTwIBcBwJBcCwKBcDwLBcEwMBcFwNBcGBBc@Cd8pRfSpSMiCBGiDBI0IPLLDEbABCHBBBBBBBiFBPwCBTwIBcBwJBcCwKBcDwLBcEwMBcFwNBcGBBc@Cd8pRfSpSMiCBGiDBI0IPLLDEbABCHBBBBBBBiFBPwCBTwIBcBwJBcCwKBcDwLBcEwMBcFwNBcGBBc@Cd8pRfSpSMiCBGiDBI0IPLLDEbABCHBBBBBBBiFBPwCBTwIBcBwJBcCwKBcDwLBcEwMBcFwNBcGBBc@Cd8pRfSpSQiCBGiDBI0ILLLHbKBBBBBBBiFBPwCBTwEBZwFBb9wGBb@wHBcAwIBcBwJBcCwKBcDwLBcEwMBcFwNBcGBBc@Cd8pRfSpSQiCBGiDBI0ILLLHbKBBBBBBBiFBPwCBTwEBZwFBb9wGBb@wHBcAwIBcBwJBcCwKBcDwLBcEwMBcFwNBcGBBc@Cd8pRfSpSQiCBGiDBI0ILLLHbKBBBBBBBiFBPwCBTwEBZwFBb9wGBb@wHBcAwIBcBwJBcCwKBcDwLBcEwMBcFwNBcGBBc@Cd8pRfSpSQiCBGiDBI0ILLLHbKBBBBBBBiFBPwCBTwEBZwFBb9wGBb@wHBcAwIBcBwJBcCwKBcDwLBcEwMBcFwNBcGBBc@Cd8pRfSpSQiCBGiDBI0ILLLHbKBBBBBBBiFBPwCBTwEBZwFBb9wGBb@wHBcAwIBcBwJBcCwKBcDwLBcEwMBcFwNBcGBBc@Cd8pRfSpSQiCBGiDBI0ILLLHbKBBBBBBBiFBPwCBTwEBZwFBb9wGBb@wHBcAwIBcBwJBcCwKBcDwLBcEwMBcFwNBcGBBc@Cd8pRfSpSWiCBGiDBI0IFLLHbQBiFBPwCBTwEBZwFBb9wGBb@wHBcAwIBcBwJBcCwKBcDwLBcEwMBcFwNBcGwOBcHwPBcIwQBcJwRBcKwSBcLwTBcMBBc@Cd8pRfSpSXiCBGiDBI0IELLHbRiFBPwCBTwEBZwFBb9wGBb@wHBcAwIBcBwJBcCwKBcDwLBcEwMBcFwNBcGwOBcHwPBcIwQBcJwRBcKwSBcLwTBcMwUBcNBBc@Cd8pRfSpSYiCBGiDBIiFBPwCBTblDBWwEBZwFBb9wGBb@wHBcAwIBcBwJBcCwKBcDwLBcEwMBcFwNBcGwOBcHwPBcIwQBcJwRBcKwSBcLwTBcMwUBcNwVBcOBBc@Cd8pRfSpSYiCBGiDBIiFBPwCBTblDBWwEBZwFBb9wGBb@wHBcAwIBcBwJBcCwKBcDwLBcEwMBcFwNBcGwOBcHwPBcIwQBcJwRBcKwSBcLwTBcMwUBcNwVBcOBBc@Cd8pRfSpSCblEBWBBc@A@eKBIeLBOKBPeMBTNBUOBVblFBWQBYRB6SB7eNB8eOBb7ePBb8eQBb9eRBb@eSBb$eTBcAeUBcBeVBcPeWBcQeXBcSeYBcWeZBcXe6BcYe7BcZe8Bc6e9Bc7e@Bc8e$Bc9BBc@bFdXbgQdZjKd6jLd7jMd9b6d@jNd$jOeAjPeBjQeCb$eFcAeJjReKcCeLcDeQccFeRjTeSjUeUjVeVjWeWjXeXjYfNbgSfOj6fPj7fTj8fUj9fVj@fWj$fXkAfYkBfZkCf9kDf@kEf$kFgAkGgFkHgGkIbODBCGBIHBKIBNc@BOKBPLBSMBTNBUOBVPBWblGDXbBBQBYRB6SB7TB8UBbMVBbNWBbOXBbPYBbQZBbR6BbS7BbT8BbV9BbX@Bb6$Bb7bABb8bBBb9bCBb@bDBb$bEBcAbFBcBdIBcPbHBcQbIBcSbJBcWbKBcXbLBcYbMBcZbNBc6bOBc7bPBc8bQBc9BBc@b7dGbTdHbTdJbTdUbTdXbWdZbXd6bYd7bZd9b6d@b7d$b8eAb9eBb@eCb$eFcAeJcBeKcCeLcDeMcEeNccGeOgWePcGeQcHeRcIeScJeUcKeVcLeWcMeXcNeYcOeZgXe6cPe7cQe8cRe9cSe@cTe$cUfAcVfBcWfCcXfFcYfIcZfLc6fNc7fOc8fPc9fTc@fUc$fVdAfWdBfXdCfYdDfZdEf9dFf@dGf$dHgAdIgFdJgGdKCblHDXbBBBBc@ADblIBIsDBcPBBc@ACblJGBBBUbBBBBc@AEblKBXoNBbYoOBbZBBc@DfGbhOfHbhOgYbhO9bXBIbYBOKBPcVBTNBUOBVQBYRB6SB7cWB8b7Bb7b8Bb8cXBb9cYBb@cZBb$c6BcAc7BcBcCBcPcDBcQcEBcScFBcWcGBcXcHBcYcIBcZcJBc6cKBc7cLBc8cMBc9BBc@9dZfXd6fYd7eOd9b6d@ePd$eQeAeReBeSeCb$eFcAeJeTeKcCeLcDfNccJfOeVfPeWfTeXfUeYfVeZfWe6fXe7fYe8fZe9f9e@f@e$f$fAgAfBgFfCgGfDDblLBIsDBcPBBc@AEblMBXoNBbYoOBbZBBc@DfGccMfHccMgYccMDblNBLblOBbLBBc@Bg6ccPDblNBLblPBbLBBc@Bg6ccRCblQGBBBUbBBBBc@AEblRBXblSBbYblTBbZBBc@DfHbwZfKbwZgZbwZCblUBJBBc@ACblVGBBBUbBBBBc@AYiCBGiDBIblWBJiFBPiGBTiHBZiIBb9iJBb@iKBcAiLBcBiMBcCiNBcDiOBcEiPBcFiQBcGiRBcHiSBcIiTBcJiUBcKiVBcLiWBcMiXBcNiYBcOBBc@Cd8pRfSpSNcRBIdCBOdDBPdEBTNBUOBVblXBWQBYRB6SB7dFB8dGBcPBBc@OdQccVd6ccWd7gNd9b6d@gOeAgPeBgQeCb$eF" ++
  "cAeJgReKcCeLcDeMccXgAgSFbcABGbcBBIkVYLBHGDBOSBCBBBBBBBBBBBBBBbcCBPBBc@Cd8byRfSbySFbcABGbcBBIkVYLBHGDBOSBCBBBBBBBBBBBBBBbcCBPBBc@Cd8byRfSbySNdBBIblYBJi9BOi@BPi$BTNBUOBVQBYjAB6jBB7jCB8jDBcPBBc@NdZccZd6cc6d7gNd9b6d@gOeAgPeBgQeCqCeFcAeJgReKcCeLcDgAqDCoX7GCDBDEGDBOSBCBBBBBBBBBBBBBBBBc@ACoX7GCDBDEGDBOSBCBBBBBBBBBBBBBBBBc@AFbcABGbcBBIkVYLBHGDBOSBCBBBBBBBBBBBBBBbcCBPBBc@Cd8byRfSbySFbcABGbcBBIkVYLBHGDBOSBCBBBBBBBBBBBBBBbcCBPBBc@Cd8byRfSbySFbcABGbcBBIkVYLBHGDBOSBCBBBBBBBBBBBBBBbcCBPBBc@Cd8byRfSbySFbcABGbcBBIkVYLBHGDBOSBCBBBBBBBBBBBBBBbcCBPBBc@Cd8byRfSbySFbcABGbcBBIkVYLBHGDBOSBCBBBBBBBBBBBBBBbcCBPBBc@Cd8byRfSbySbAbXBIblZBLbYBOKBPcVBTNBUOBVhYBWbl6BXQBYRB6SB7cWB8b7Bb7b8Bb8cXBb9cYBb@cZBb$c6BcAc7BcBcCBcPcDBcQcEBcScFBcWcGBcXcHBcYcIBcZcJBc6cKBc7cLBc8cMBc9BBc@bAdZfXd6fYd7eOd9b6d@ePd$eQeAeReBeSeCb$eFcAeJeTeKcCeLcDfNyVfOeVfPeWfTeXfUeYfVeZfWe6fXe7fYe8fZe9f6yWf7cc9f8cc@f9e@f@e$f$fAgAfBgFfCgGfDCo87GCDBDEGDBOSBCBBBBBBBBBBBBBBBBc@ACbl7BcQBBc@ADo@CcTCbl8BcUBBc@Bg@y7CpA7GCDBDEGDBOSBCBBBBBBBBBBBBBBBBc@A9bXBIbYBOKBPcVBTNBUOBVQBYRB6SB7cWB8b7Bb7b8Bb8cXBb9cYBb@cZBb$c6BcAc7BcBcCBcPcDBcQcEBcScFBcWcGBcXcHBcYcIBcZcJBc6cKBc7cLBc8cMBc9BBc@9dZfXd6fYd7eOd9b6d@ePd$eQeAeReBeSeCb$eFcAeJeTeKcCeLcDfNcdBfOeVfPeWfTeXfUeYfVeZfWe6fXe7fYe8fZe9f9e@f@e$f$fAgAfBgFfCgGfD9bXBIbYBOKBPcVBTNBUOBVQBYRB6SB7cWB8b7Bb7b8Bb8cXBb9cYBb@cZBb$c6BcAc7BcBcCBcPcDBcQcEBcScFBcWcGBcXcHBcYcIBcZcJBc6cKBc7cLBc8cMBc9BBc@9dZfXd6fYd7eOd9b6d@ePd$eQeAeReBeSeCb$eFcAeJeTeKcCeLcDfNcdCfOeVfPeWfTeXfUeYfVeZfWe6fXe7fYe8fZe9f9e@f@e$f$fAgAfBgFfCgGfD9bXBIbYBOKBPhVBTNBUOBVQBYRB6SB7b6B8b7Bb7b8Bb8b9Bb9b@Bb@b$Bb$cABcAcBBcBhWBcPcDBcQcEBcScFBcWcGBcXcHBcYcIBcZcJBc6cKBc7cLBc8cMBc9BBc@9dZfXd6fYd7eOd9b6d@ePd$eQeAeReBeSeCb$eFcAeJeTeKcCeLcDfNcdDfOeVfPeWfTeXfUeYfVeZfWe6fXe7fYe8fZe9f9e@f@e$f$fAgAfBgFfCgGfDMdBBIi9BOi@BPi$BTNBUOBVQBYjAB6jBB7jCB8jDBcPBBc@NdZcdEd6cdFd7gNd9b6d@gOeAgPeBgQeCqCeFcAeJgReKcCeLcDgAqD9bXBIbYBOKBPhVBTNBUOBVQBYRB6SB7b6B8b7Bb7b8Bb8b9Bb9b@Bb@b$Bb$cABcAcBBcBhWBcPcDBcQcEBcScFBcWcGBcXcHBcYcIBcZcJBc6cKBc7cLBc8cMBc9BBc@9dZfXd6fYd7eOd9b6d@ePd$eQeAeReBeSeCb$eFcAeJeTeKcCeLcDfNcdGfOeVfPeWfTeXfUeYfVeZfWe6fXe7fYe8fZe9f9e@f@e$f$fAgAfBgFfCgGfDMdBBIi9BOi@BPi$BTNBUOBVQBYjAB6jBB7jCB8jDBcPBBc@NdZcdHd6cdId7gNd9b6d@gOeAgPeBgQeCqCeFcAeJgReKcCeLcDgAqDCpC7GCDBDEGDBOSBCBBBBBBBBBBBBBBBBc@ACpC7GCDBDEGDBOSBCBBBBBBBBBBBBBBBBc@ACpC7GCDBDEGDBOSBCBBBBBBBBBBBBBBBBc@ACpC7GCDBDEGDBOSBCBBBBBBBBBBBBBBBBc@ACpC7GCDBDEGDBOSBCBBBBBBBBBBBBBBBBc@ACpC7GCDBDEGDBOSBCBBBBBBBBBBBBBBBBc@AbODBCGBIHBKIBNc@BOKBPLBSMBTNBUOBVPBWbl9DXbBBQBYRB6SB7TB8UBbMVBbNWBbOXBbPYBbQZBbR6BbS7BbT8BbV9BbX@Bb6$Bb7bABb8bBBb9bCBb@bDBb$bEBcAbFBcBdIBcPbHBcQbIBcSbJBcWbKBcXbLBcYbMBcZbNBc6bOBc7bPBc8bQBc9BBc@b7dGbTdHbTdJbTdUbTdXbWdZbXd6bYd7bZd9b6d@b7d$b8eAb9eBb@eCb$eFcAeJcBeKcCeLcDeMcEeNcdJeOgWePcGeQcHeRcIeScJeUcKeVcLeWcMeXcNeYcOeZgXe6cPe7cQe8cRe9cSe@cTe$cUfAcVfBcWfCcXfFcYfIcZfLc6fNc7fOc8fPc9fTc@fUc$fVdAfWdBfXdCfYdDfZdEf9dFf@dGf$dHgAdIgFdJgGdKbODBCGBIHBKIBNc@BOKBPLBSMBTNBUOBVPBWbl9DXbBBQBYRB6SB7TB8UBbMVBbNWBbOXBbPYBbQZBbR6BbS7BbT8BbV9BbX@Bb6$Bb7bABb8bBBb9bCBb@bDBb$bEBcAbFBcBdIBcPbHBcQbIBcSbJBcWbKBcXbLBcYbMBcZbNBc6bOBc7bPBc8bQBc9BBc@b7dGbTdHbTdJbTdUbTdXbWdZbXd6bYd7bZd9b6d@b7d$b8eAb9eBb@eCb$eFcAeJcBeKcCeLcDeMcEeNcdKeOgWePcGeQcHeRcIeScJeUcKeVcLeWcMeXcNeYcOeZgXe6cPe7cQe8cRe9cSe@cTe$cUfAcVfBcWfCcXfFcYfIcZfLc6fNc7fOc8fPc9fTc@fUc$fVdAfWdBfXdCfYdDfZdEf9dFf@dGf$dHgAdIgFdJgGdKDbl@BIbl$BcPBBc@A@bXBIbmABJbYBOKBPhVBTNBUOBVQBYRB6SB7b6B8b7Bb7b8Bb8b9Bb9b@Bb@b$Bb$cABcAcBBcBhWBcPcDBcQcEBcScFBcWcGBcXcHBcYcIBcZcJBc6cKBc7cLBc8cMBc9BBc@@dZfXd6fYd7eOd9b6d@ePd$eQeAeReBeSeCb$eFcAeJeTeKcCeLcDfNcdOfOeVfPeWfQcdPfTeXfUeYfVeZfWe6fXe7fYe8fZe9f9e@f@e$f$fAgAfBgFfCgGfD@bXBIbYBOKBPp9BTNBUOBVQBYRB6SB7cWB8bmBBbLb7Bb7b8Bb8cXBb9cYBb@cZBb$c6BcAc7BcBp$BcPcDBcQcEBcScFBcWcGBcXcHBcYcIBcZcJBc6cKBc7cLBc8cMBc9BBc@@dZ1Gd61Hd7eOd9b6d@ePd$eQeAeReBeSeCb$eFcAeIySeJeTeKcCeLcDfNcdRfOeVfPeWfTeXfUeYfVeZfWe6fXe7fYe8fZe9f9e@f@e$f$fAgAfBgFfCgGfD9xDBIxEBOKBPxFBTNBUOBVQBYRB6SB7xGB8xHBb7xIBb8xJBb9xKBb@xLBb$xMBcAxNBcBxOBcPxPBcQxQBcSxRBcWxSBcXxTBcYxUBcZxVBc6xWBc7xXBc8xYBc9BBc@9dZbiQd6biRd7biSd9b6d@biTd$biUeAbiVeBbiWeCb$eFcAeJbiXeKcCeLcDfNcdSfObi7fPbi8fT" ++
  "bi9fUbi@fVbi$fWbjAfXbjBfYbjCfZbjDf9bjEf@bjFf$bjGgAbjHgFbjIgGbjJ9xDBIxEBOKBPxFBTNBUOBVQBYRB6SB7xGB8xHBb7xIBb8xJBb9xKBb@xLBb$xMBcAxNBcBxOBcPxPBcQxQBcSxRBcWxSBcXxTBcYxUBcZxVBc6xWBc7xXBc8xYBc9BBc@9dZbiQd6biRd7biSd9b6d@biTd$biUeAbiVeBbiWeCb$eFcAeJbiXeKcCeLcDfNcdTfObi7fPbi8fTbi9fUbi@fVbi$fWbjAfXbjBfYbjCfZbjDf9bjEf@bjFf$bjGgAbjHgFbjIgGbjJ9xDBIxEBOKBPxFBTNBUOBVQBYRB6SB7xGB8xHBb7xIBb8xJBb9xKBb@xLBb$xMBcAxNBcBxOBcPxPBcQxQBcSxRBcWxSBcXxTBcYxUBcZxVBc6xWBc7xXBc8xYBc9BBc@9dZbiQd6biRd7biSd9b6d@biTd$biUeAbiVeBbiWeCb$eFcAeJbiXeKcCeLcDfNcdUfObi7fPbi8fTbi9fUbi@fVbi$fWbjAfXbjBfYbjCfZbjDf9bjEf@bjFf$bjGgAbjHgFbjIgGbjJ9xDBIxEBOKBPxFBTNBUOBVQBYRB6SB7xGB8xHBb7xIBb8xJBb9xKBb@xLBb$xMBcAxNBcBxOBcPxPBcQxQBcSxRBcWxSBcXxTBcYxUBcZxVBc6xWBc7xXBc8xYBc9BBc@9dZbiQd6biRd7biSd9b6d@biTd$biUeAbiVeBbiWeCb$eFcAeJbiXeKcCeLcDfNcdVfObi7fPbi8fTbi9fUbi@fVbi$fWbjAfXbjBfYbjCfZbjDf9bjEf@bjFf$bjGgAbjHgFbjIgGbjJ9xDBIxEBOKBPxFBTNBUOBVQBYRB6SB7xGB8xHBb7xIBb8xJBb9xKBb@xLBb$xMBcAxNBcBxOBcPxPBcQxQBcSxRBcWxSBcXxTBcYxUBcZxVBc6xWBc7xXBc8xYBc9BBc@9dZbiQd6biRd7biSd9b6d@biTd$biUeAbiVeBbiWeCb$eFcAeJbiXeKcCeLcDfNcdWfObi7fPbi8fTbi9fUbi@fVbi$fWbjAfXbjBfYbjCfZbjDf9bjEf@bjFf$bjGgAbjHgFbjIgGbjJ9xDBIxEBOKBPxFBTNBUOBVQBYRB6SB7xGB8xHBb7xIBb8xJBb9xKBb@xLBb$xMBcAxNBcBxOBcPxPBcQxQBcSxRBcWxSBcXxTBcYxUBcZxVBc6xWBc7xXBc8xYBc9BBc@9dZbiQd6biRd7biSd9b6d@biTd$biUeAbiVeBbiWeCb$eFcAeJbiXeKcCeLcDfNcdXfObi7fPbi8fTbi9fUbi@fVbi$fWbjAfXbjBfYbjCfZbjDf9bjEf@bjFf$bjGgAbjHgFbjIgGbjJ9xDBIxEBOKBPxFBTNBUOBVQBYRB6SB7xGB8xHBb7xIBb8xJBb9xKBb@xLBb$xMBcAxNBcBxOBcPxPBcQxQBcSxRBcWxSBcXxTBcYxUBcZxVBc6xWBc7xXBc8xYBc9BBc@9dZbiQd6biRd7biSd9b6d@biTd$biUeAbiVeBbiWeCb$eFcAeJbiXeKcCeLcDfNcdYfObi7fPbi8fTbi9fUbi@fVbi$fWbjAfXbjBfYbjCfZbjDf9bjEf@bjFf$bjGgAbjHgFbjIgGbjJ9xDBIxEBOKBPxFBTNBUOBVQBYRB6SB7xGB8xHBb7xIBb8xJBb9xKBb@xLBb$xMBcAxNBcBxOBcPxPBcQxQBcSxRBcWxSBcXxTBcYxUBcZxVBc6xWBc7xXBc8xYBc9BBc@9dZbiQd6biRd7biSd9b6d@biTd$biUeAbiVeBbiWeCb$eFcAeJbiXeKcCeLcDfNcdZfObi7fPbi8fTbi9fUbi@fVbi$fWbjAfXbjBfYbjCfZbjDf9bjEf@bjFf$bjGgAbjHgFbjIgGbjJ9xDBIxEBOKBPxFBTNBUOBVQBYRB6SB7xGB8xHBb7xIBb8xJBb9xKBb@xLBb$xMBcAxNBcBxOBcPxPBcQxQBcSxRBcWxSBcXxTBcYxUBcZxVBc6xWBc7xXBc8xYBc9BBc@9dZbiQd6biRd7biSd9b6d@biTd$biUeAbiVeBbiWeCb$eFcAeJbiXeKcCeLcDfNcd6fObi7fPbi8fTbi9fUbi@fVbi$fWbjAfXbjBfYbjCfZbjDf9bjEf@bjFf$bjGgAbjHgFbjIgGbjJ9xDBIxEBOKBPxFBTNBUOBVQBYRB6SB7xGB8xHBb7xIBb8xJBb9xKBb@xLBb$xMBcAxNBcBxOBcPxPBcQxQBcSxRBcWxSBcXxTBcYxUBcZxVBc6xWBc7xXBc8xYBc9BBc@9dZbiQd6biRd7biSd9b6d@biTd$biUeAbiVeBbiWeCb$eFcAeJbiXeKcCeLcDfNcd7fObi7fPbi8fTbi9fUbi@fVbi$fWbjAfXbjBfYbjCfZbjDf9bjEf@bjFf$bjGgAbjHgFbjIgGbjJ9xDBIxEBOKBPxFBTNBUOBVQBYRB6SB7xGB8xHBb7xIBb8xJBb9xKBb@xLBb$xMBcAxNBcBxOBcPxPBcQxQBcSxRBcWxSBcXxTBcYxUBcZxVBc6xWBc7xXBc8xYBc9BBc@9dZbiQd6biRd7biSd9b6d@biTd$biUeAbiVeBbiWeCb$eFcAeJbiXeKcCeLcDfNcd8fObi7fPbi8fTbi9fUbi@fVbi$fWbjAfXbjBfYbjCfZbjDf9bjEf@bjFf$bjGgAbjHgFbjIgGbjJ9xDBIxEBOKBPxFBTNBUOBVQBYRB6SB7xGB8xHBb7xIBb8xJBb9xKBb@xLBb$xMBcAxNBcBxOBcPxPBcQxQBcSxRBcWxSBcXxTBcYxUBcZxVBc6xWBc7xXBc8xYBc9BBc@9dZbiQd6biRd7biSd9b6d@biTd$biUeAbiVeBbiWeCb$eFcAeJbiXeKcCeLcDfNcd9fObi7fPbi8fTbi9fUbi@fVbi$fWbjAfXbjBfYbjCfZbjDf9bjEf@bjFf$bjGgAbjHgFbjIgGbjJ9xDBIxEBOKBPxFBTNBUOBVQBYRB6SB7xGB8xHBb7xIBb8xJBb9xKBb@xLBb$xMBcAxNBcBxOBcPxPBcQxQBcSxRBcWxSBcXxTBcYxUBcZxVBc6xWBc7xXBc8xYBc9BBc@9dZbiQd6biRd7biSd9b6d@biTd$biUeAbiVeBbiWeCb$eFcAeJbiXeKcCeLcDfNcd@fObi7fPbi8fTbi9fUbi@fVbi$fWbjAfXbjBfYbjCfZbjDf9bjEf@bjFf$bjGgAbjHgFbjIgGbjJ9xDBIxEBOKBPxFBTNBUOBVQBYRB6SB7xGB8xHBb7xIBb8xJBb9xKBb@xLBb$xMBcAxNBcBxOBcPxPBcQxQBcSxRBcWxSBcXxTBcYxUBcZxVBc6xWBc7xXBc8xYBc9BBc@9dZbiQd6biRd7biSd9b6d@biTd$biUeAbiVeBbiWeCb$eFcAeJbiXeKcCeLcDfNcd$fObi7fPbi8fTbi9fUbi@fVbi$fWbjAfXbjBfYbjCfZbjDf9bjEf@bjFf$bjGgAbjHgFbjIgGbjJ9xDBIxEBOKBPxFBTNBUOBVQBYRB6SB7xGB8xHBb7xIBb8xJBb9xKBb@xLBb$xMBcAxNBcBxOBcPxPBcQxQBcSxRBcWxSBcXxTBcYxUBcZxVBc6xWBc7xXBc8xYBc9BBc@9dZbiQd6biRd7biSd9b6d@biTd$biUeAbiVeBbiWeCb$eFcAeJbiXeKcCeLcDfNceAfObi7fPbi8fTbi9fUbi@fVbi$fWbjAfXbjBfYbjCfZbjDf9bjEf@bjFf$bjGgAbjHgFbjIgGbjJ9xDBIxEBOKBPxFBTNBUOBVQBYRB6SB7xGB8xHBb7xIBb8xJBb9xKBb@xLBb$xMBcAxNBcBxOBcPxPBcQxQBcSxRBcWxSBcXxTBcYxUBcZxVBc6xWBc7xXBc8xYBc9BBc@9dZbiQd6biRd7biSd9b6d@biTd$b" ++
  "iUeAbiVeBbiWeCb$eFcAeJbiXeKcCeLcDfNceBfObi7fPbi8fTbi9fUbi@fVbi$fWbjAfXbjBfYbjCfZbjDf9bjEf@bjFf$bjGgAbjHgFbjIgGbjJ9xDBIxEBOKBPxFBTNBUOBVQBYRB6SB7xGB8xHBb7xIBb8xJBb9xKBb@xLBb$xMBcAxNBcBxOBcPxPBcQxQBcSxRBcWxSBcXxTBcYxUBcZxVBc6xWBc7xXBc8xYBc9BBc@9dZbiQd6biRd7biSd9b6d@biTd$biUeAbiVeBbiWeCb$eFcAeJbiXeKcCeLcDfNceCfObi7fPbi8fTbi9fUbi@fVbi$fWbjAfXbjBfYbjCfZbjDf9bjEf@bjFf$bjGgAbjHgFbjIgGbjJ9xDBIxEBOKBPxFBTNBUOBVQBYRB6SB7xGB8xHBb7xIBb8xJBb9xKBb@xLBb$xMBcAxNBcBxOBcPxPBcQxQBcSxRBcWxSBcXxTBcYxUBcZxVBc6xWBc7xXBc8xYBc9BBc@9dZbiQd6biRd7biSd9b6d@biTd$biUeAbiVeBbiWeCb$eFcAeJbiXeKcCeLcDfNceDfObi7fPbi8fTbi9fUbi@fVbi$fWbjAfXbjBfYbjCfZbjDf9bjEf@bjFf$bjGgAbjHgFbjIgGbjJ9xDBIxEBOKBPxFBTNBUOBVQBYRB6SB7xGB8xHBb7xIBb8xJBb9xKBb@xLBb$xMBcAxNBcBxOBcPxPBcQxQBcSxRBcWxSBcXxTBcYxUBcZxVBc6xWBc7xXBc8xYBc9BBc@9dZbiQd6biRd7biSd9b6d@biTd$biUeAbiVeBbiWeCb$eFcAeJbiXeKcCeLcDfNceEfObi7fPbi8fTbi9fUbi@fVbi$fWbjAfXbjBfYbjCfZbjDf9bjEf@bjFf$bjGgAbjHgFbjIgGbjJCbcBBIBBc@BfSceFCoX7GCDBDEGDBOSBCBBBBBBBBBBBBBBBBc@ACpC7GCDBDEGDBOSBCBBBBBBBBBBBBBBBBc@ACbmCbNBBBDCDBDEECDBBBBBBBBBBBBBBOBEBCBBBBBBBBBBBBBBBBc@AYiCBGiDBIzQCJCiFBPiGBTiHBZiIBb9iJBb@iKBcAiLBcBiMBcCiNBcDiOBcEiPBcFiQBcGiRBcHiSBcIiTBcJiUBcKiVBcLiWBcMiXBcNiYBcOBBc@Cd8pRfSpSCbmCbNBBBDCDBDEECDBBBBBBBBBBBBBBOBEBCBBBBBBBBBBBBBBBBc@A@bXBIbmDBJbYBOKBPhVBTNBUOBVQBYRB6SB7b6B8b7Bb7b8Bb8b9Bb9b@Bb@b$Bb$cABcAcBBcBhWBcPcDBcQcEBcScFBcWcGBcXcHBcYcIBcZcJBc6cKBc7cLBc8cMBc9BBc@9dZfXd6fYd7eOd9b6d@ePd$eQeAeReBeSeCb$eFcAeJeTeKcCeLcDfNbyVfOeVfPeWfTeXfUeYfVeZfWe6fXe7fYe8fZe9f9e@f@e$f$fAgAfBgFfCgGfDDzQBJbmEBLBBc@BgRbyYCbmCbNBBBDCDBDEECDBBBBBBBBBBBBBBOBEBCBBBBBBBBBBBBBBBBc@ACbmCbNBBBDCDBDEECDBBBBBBBBBBBBBBOBEBCBBBBBBBBBBBBBBBBc@A@bXBIbmFBJbYBOKBPhVBTNBUOBVQBYRB6SB7b6B8b7Bb7b8Bb8b9Bb9b@Bb@b$Bb$cABcAcBBcBhWBcPcDBcQcEBcScFBcWcGBcXcHBcYcIBcZcJBc6cKBc7cLBc8cMBc9BBc@9dZfXd6fYd7eOd9b6d@ePd$eQeAeReBeSeCb$eFcAeJeTeKcCeLcDfNbyVfOeVfPeWfTeXfUeYfVeZfWe6fXe7fYe8fZe9f9e@f@e$f$fAgAfBgFfCgGfDCbiFDLFJBBc@ACbiFDLFJBBc@ADbiFCLFbmGBZBBc@BgWby@CbmHJIBCBDBGDSBBc@ACbmICLFBBc@ANdBBIi9BOi@BPbmJBQi$BTNBUOBVQBYjAB6jBB7jCB8jDBcPBBc@OdZyQd6yRd7gNd9b6d@gOeAgPeBgQeCqCeFcAeIbzAeJgReKcCeLcDgAqDCbmHJIBCBDBGDSBBc@ADbmKBLbmIBQBBc@BgSbzDCbmLbNBBBDCDBDEECDBBBBBBBBBBBBBBOBEBCBBBBBBBBBBBBBBBBc@ADbmMCLMyIBbLBBc@ACbmMCLMBBc@ACbmNCLMBBc@A$bXBIbYBOKBPcVBTNBUOBVhYBWbmOBXQBYRB6SB7cWB8b7Bb7b8Bb8cXBb9cYBb@cZBb$c6BcAc7BcBcCBcPcDBcQcEBcScFBcWcGBcXcHBcYcIBcZcJBc6cKBc7cLBc8cMBc9BBc@bAdZfXd6fYd7eOd9b6d@ePd$eQeAeReBeSeCb$eFcAeJeTeKcCeLcDfNyVfOeVfPeWfTeXfUeYfVeZfWe6fXe7fYe8fZe9f6yWf7bzFf8bzGf9e@f@e$f$fAgAfBgFfCgGfDCbmLbNBBBDCDBDEECDBBBBBBBBBBBBBBOBEBCBBBBBBBBBBBBBBBBc@ADbmPBLbmMBXBBc@Bg9bzKCbmLbNBBBDCDBDEECDBBBBBBBBBBBBBBOBEBCBBBBBBBBBBBBBBBBc@A$bXBIbYBOKBPcVBTNBUOBVhYBWbmQBXQBYRB6SB7cWB8b7Bb7b8Bb8cXBb9cYBb@cZBb$c6BcAc7BcBcCBcPcDBcQcEBcScFBcWcGBcXcHBcYcIBcZcJBc6cKBc7cLBc8cMBc9BBc@bAdZfXd6fYd7eOd9b6d@ePd$eQeAeReBeSeCb$eFcAeJeTeKcCeLcDfNyVfOeVfPeWfTeXfUeYfVeZfWe6fXe7fYe8fZe9f6yWf7bzFf8bzGf9e@f@e$f$fAgAfBgFfCgGfDCbmLbNBBBDCDBDEECDBBBBBBBBBBBBBBOBEBCBBBBBBBBBBBBBBBBc@ACbmRbNBBBDCDBDEECDBBBBBBBBBBBBBBOBEBCBBBBBBBBBBBBBBBBc@ACbmSbNBBBDCDBDEECDBBBBBBBBBBBBBBOBEBCBBBBBBBBBBBBBBBBc@ACbmTDLF7BBc@ACbmTDLF7BBc@ANdBBIi9BOi@BPbmUBQi$BTNBUOBVQBYjAB6jBB7jCB8jDBcPBBc@NdZbzQd6bzRd7gNd9b6d@gOeAgPeBgQeCqCeFcAeJgReKcCeLcDgAqDCbmSbNBBBDCDBDEECDBBBBBBBBBBBBBBOBEBCBBBBBBBBBBBBBBBBc@ADbmVBLbmTCQ7BBc@Bg6bzUCbmSbNBBBDCDBDEECDBBBBBBBBBBBBBBOBEBCBBBBBBBBBBBBBBBBc@ANdBBIi9BOi@BPbmWBQi$BTNBUOBVQBYjAB6jBB7jCB8jDBcPBBc@NdZbzQd6bzRd7gNd9b6d@gOeAgPeBgQeCqCeFcAeJgReKcCeLcDgAqDCbmSbNBBBDCDBDEECDBBBBBBBBBBBBBBOBEBCBBBBBBBBBBBBBBBBc@ACbmRbNBBBDCDBDEECDBBBBBBBBBBBBBBOBEBCBBBBBBBBBBBBBBBBc@ACbmSbNBBBDCDBDEECDBBBBBBBBBBBBBBOBEBCBBBBBBBBBBBBBBBBc@ANdBBIi9BOi@BPbmXBQi$BTNBUOBVQBYjAB6jBB7jCB8jDBcPBBc@NdZbzQd6bzRd7gNd9b6d@gOeAgPeBgQeCqCeFcAeJgReKcCeLcDgAqDCbmSbNBBBDCDBDEECDBBBBBBBBBBBBBBOBEBCBBBBBBBBBBBBBBBBc@ACbmSbNBBBDCDBDEECDBBBBBBBBBBBBBBOBEBCBBBBBBBBBBBBBBBBc@ANdBBIi9BOi@BPbmYBQi$BTNBUOBVQBYjAB6jBB7jCB8jDBcPBBc@NdZbzQd6bzRd7gNd9b6d@gOeAgPeBgQeCqCeFcAeJgReKcCeLcDgAqDCbmSbNBBBDCDBDEECDBBBBBBBBBBBBBBOBEBCBBBBBBBBBBBBBBBBc@ACbmZbNBBBDCDBDEECDBBBBBBBB" ++
  "BBBBBBOBEBCBBBBBBBBBBBBBBBBc@ACbmZbNBBBDCDBDEECDBBBBBBBBBBBBBBOBEBCBBBBBBBBBBBBBBBBc@ACbm6bNBBBDCDBDEECDBBBBBBBBBBBBBBOBEBCBBBBBBBBBBBBBBBBc@AZiCBGiDBIbm7CJCiFBPzCBRiGBTiHBZiIBb9iJBb@iKBcAiLBcBiMBcCiNBcDiOBcEiPBcFiQBcGiRBcHiSBcIiTBcJiUBcKiVBcLiWBcMiXBcNiYBcOBBc@Cd8pRfSpSCbm7CJCBBc@ACbm6bNBBBDCDBDEECDBBBBBBBBBBBBBBOBEBCBBBBBBBBBBBBBBBBc@A@bXBIbm8BJbYBOKBPhVBTNBUOBVQBYRB6SB7b6B8b7Bb7b8Bb8b9Bb9b@Bb@b$Bb$cABcAcBBcBhWBcPcDBcQcEBcScFBcWcGBcXcHBcYcIBcZcJBc6cKBc7cLBc8cMBc9BBc@@dZfXd6fYd7eOd9b6d@ePd$eQeAeReBeSeCb$eFcAeJeTeKcCeLcDfNb0CfOeVfPeWfQb0DfTeXfUeYfVeZfWe6fXe7fYe8fZe9f9e@f@e$f$fAgAfBgFfCgGfDDbm7BJbm9BLBBc@Bg8b0GCbm6bNBBBDCDBDEECDBBBBBBBBBBBBBBOBEBCBBBBBBBBBBBBBBBBc@ACbm6bNBBBDCDBDEECDBBBBBBBBBBBBBBOBEBCBBBBBBBBBBBBBBBBc@A@bXBIbm@BJbYBOKBPhVBTNBUOBVQBYRB6SB7b6B8b7Bb7b8Bb8b9Bb9b@Bb@b$Bb$cABcAcBBcBhWBcPcDBcQcEBcScFBcWcGBcXcHBcYcIBcZcJBc6cKBc7cLBc8cMBc9BBc@@dZfXd6fYd7eOd9b6d@ePd$eQeAeReBeSeCb$eFcAeJeTeKcCeLcDfNb0CfOeVfPeWfQb0DfTeXfUeYfVeZfWe6fXe7fYe8fZe9f9e@f@e$f$fAgAfBgFfCgGfDCsFbEGCDBDEGEDBBBBBBBBBBTBCBBBBBBBBBBBBBBBBc@AbODBCGBIHBKIBNc@BOKBPLBSMBTNBUOBVPBWbm$BXQBYRB6SB7TB8UBbMVBbNWBbOXBbPYBbQZBbR6BbS7BbT8BbV9BbX@Bb6$Bb7bABb8bBBb9bCBb@bDBb$bEBcAbFBcBdIBcPbHBcQbIBcSbJBcWbKBcXbLBcYbMBcZbNBc6bOBc7bPBc8bQBc9BBc@b7dGbTdHbTdJbTdUbTdXbWdZbXd6bYd7bZd9b6d@b7d$b8eAb9eBb@eCb$eFcAeJcBeKcCeLcDeMcEeNceWeOgWePcGeQcHeRcIeScJeUcKeVcLeWcMeXcNeYcOeZgXe6cPe7cQe8cRe9cSe@cTe$cUfAcVfBcWfCcXfFcYfIcZfLc6fNc7fOc8fPc9fTc@fUc$fVdAfWdBfXdCfYdDfZdEf9dFf@dGf$dHgAdIgFdJgGdKDt9CIHbeIBWBBc@BeMceXDt9CIHbeIBWBBc@BeMceYCt@bEGCDBDEGEDBBBBBBBBBBTBCBBBBBBBBBBBBBBBBc@ACx6bEGCDBDEGEDBBBBBBBBBBTBCBBBBBBBBBBBBBBBBc@ADbnABJbnBBLBBc@BgRce7DbnCBJbnDBLBBc@BgRce@CbnEBXBBc@ACyEbEGCDBDEGEDBBBBBBBBBBTBCBBBBBBBBBBBBBBBBc@AEbnFBLbnGBXyIBbLBBc@Bg9cfCDbnHBLbnIBXBBc@Bg9cfFCyMbEGCDBDEGEDBBBBBBBBBBTBCBBBBBBBBBBBBBBBBc@ACyPbEGCDBDEGEDBBBBBBBBBBTBCBBBBBBBBBBBBBBBBc@AZiCBGiDBIbnJBJbnKBLiFBPiGBTiHBZiIBb9iJBb@iKBcAiLBcBiMBcCiNBcDiOBcEiPBcFiQBcGiRBcHiSBcIiTBcJiUBcKiVBcLiWBcMiXBcNiYBcOBBc@Cd8pRfSpSDbnLBLbnMBQBBc@Bg6cfKDbnNBLbnOBQBBc@Bg6cfNZiCBGiDBIbnPBJbnQBLiFBPiGBTiHBZiIBb9iJBb@iKBcAiLBcBiMBcCiNBcDiOBcEiPBcFiQBcGiRBcHiSBcIiTBcJiUBcKiVBcLiWBcMiXBcNiYBcOBBc@Cd8pRfSpSDbnRBLbnSBQBBc@Bg6cfSDbnTBLbnUBQBBc@Bg6cfVMdBBIi9BOi@BPi$BTNBUOBVQBYjAB6jBB7jCB8jDBcPBBc@NdZcfWd6cfXd7gNd9b6d@gOeAgPeBgQeCqCeFcAeJgReKcCeLcDgAqDCy@bEGCDBDEGEDBBBBBBBBBBTBCBBBBBBBBBBBBBBBBc@ACy$bEGCDBDEGEDBBBBBBBBBBTBCBBBBBBBBBBBBBBBBc@A6iCBGiDBIbnVBJbnWBLiFBPzCBRiGBTiHBZiIBb9iJBb@iKBcAiLBcBiMBcCiNBcDiOBcEiPBcFiQBcGiRBcHiSBcIiTBcJiUBcKiVBcLiWBcMiXBcNiYBcOBBc@Dd8pRfSpSg8cf6DbnXBJbnYBLBBc@Bg8cf9@bXBIbYBOKBPbnZBQcVBTNBUOBVQBYRB6SB7cWB8b7Bb7b8Bb8cXBb9cYBb@cZBb$c6BcAc7BcBcCBcPcDBcQcEBcScFBcWcGBcXcHBcYcIBcZcJBc6cKBc7cLBc8cMBc9BBc@9dZfXd6fYd7eOd9b6d@ePd$eQeAeReBeSeCb$eFcAeJeTeKcCeLcDfNcf$fOeVfPeWfTeXfUeYfVeZfWe6fXe7fYe8fZe9f9e@f@e$f$fAgAfBgFfCgGfDZiCBGiDBIiFBPbn6BQj9BTj@BZbn7BbLj$Bb9kABb@kBBcAkCBcBkDBcCkEBcDkFBcEkGBcFkHBcGkIBcHkJBcIkKBcJkLBcKkMBcLkNBcMkOBcNkPBcOBBc@Cd8pRfSpSFzOBGzPBI0IbBLBHGEDBBBBBBBBBBTBCBBBBBBBBBBBBBBzRBPBBc@Cd8bmKfSbmLMzOBGzPBI0I6LBNEDBBBBBBBBBBTBCHBBBBBBBzRBPzSBTzXBcBzYBcCzZBcDz6BcEz7BcFz8BcGBBc@Cd8bmKfSbmLMzOBGzPBI0I6LBNEDBBBBBBBBBBTBCHBBBBBBBzRBPzSBTzXBcBzYBcCzZBcDz6BcEz7BcFz8BcGBBc@Cd8bmKfSbmLMzOBGzPBI0I6LBNEDBBBBBBBBBBTBCHBBBBBBBzRBPzSBTzXBcBzYBcCzZBcDz6BcEz7BcFz8BcGBBc@Cd8bmKfSbmLMzOBGzPBI0I6LBNEDBBBBBBBBBBTBCHBBBBBBBzRBPzSBTzXBcBzYBcCzZBcDz6BcEz7BcFz8BcGBBc@Cd8bmKfSbmLFzOBGzPBI0IbBLBHGEDBBBBBBBBBBTBCBBBBBBBBBBBBBBzRBPBBc@Cd8bmKfSbmLFzOBGzPBI0IbBLBHGEDBBBBBBBBBBTBCBBBBBBBBBBBBBBzRBPBBc@Cd8bmKfSbmLFzOBGzPBI0IbBLBHGEDBBBBBBBBBBTBCBBBBBBBBBBBBBBzRBPBBc@Cd8bmKfSbmLFzOBGzPBI0IbBLBHGEDBBBBBBBBBBTBCBBBBBBBBBBBBBBzRBPBBc@Cd8bmKfSbmLFzOBGzPBI0IbBLBHGEDBBBBBBBBBBTBCBBBBBBBBBBBBBBzRBPBBc@Cd8bmKfSbmLFzOBGzPBI0IbBLBHGEDBBBBBBBBBBTBCBBBBBBBBBBBBBBzRBPBBc@Cd8bmKfSbmLQzOBGzPBI0IWLBRDBBBBBBBBBB9BBBBBBBzRBPzSBTzTBZzUBb9zVBb@zWBcAzXBcBzYBcCzZBcDz6BcEz7BcFz8BcGBBc@Cd8bmKfSbmLQzOBGzPBI0IWLBRDBBBBBBBBBB9BBBBBBBzRBPzSBTzTBZzUBb9zVBb@zWBcAzXBcBzYBcCzZBcDz6BcEz7BcFz8BcGBBc@Cd8bmKfSbmLQzOBGzPBI0IWLBRDBBBBBBBBBB9BBBBBBBzRBPzSBTzTBZzUBb9zVBb@zWB" ++
  "cAzXBcBzYBcCzZBcDz6BcEz7BcFz8BcGBBc@Cd8bmKfSbmLQzOBGzPBI0IWLBRDBBBBBBBBBB9BBBBBBBzRBPzSBTzTBZzUBb9zVBb@zWBcAzXBcBzYBcCzZBcDz6BcEz7BcFz8BcGBBc@Cd8bmKfSbmLQzOBGzPBI0IWLBRDBBBBBBBBBB9BBBBBBBzRBPzSBTzTBZzUBb9zVBb@zWBcAzXBcBzYBcCzZBcDz6BcEz7BcFz8BcGBBc@Cd8bmKfSbmLQzOBGzPBI0IWLBRDBBBBBBBBBB9BBBBBBBzRBPzSBTzTBZzUBb9zVBb@zWBcAzXBcBzYBcCzZBcDz6BcEz7BcFz8BcGBBc@Cd8bmKfSbmLWzOBGzPBI0IQLBRDBBBBBBBBBBbDBzRBPzSBTzTBZzUBb9zVBb@zWBcAzXBcBzYBcCzZBcDz6BcEz7BcFz8BcGz9BcHz@BcIz$BcJ0ABcK0BBcL0CBcMBBc@Cd8bmKfSbmLXzOBGzPBI0IPLBRDBBBBBBBBBBbEzRBPzSBTzTBZzUBb9zVBb@zWBcAzXBcBzYBcCzZBcDz6BcEz7BcFz8BcGz9BcHz@BcIz$BcJ0ABcK0BBcL0CBcM0DBcNBBc@Cd8bmKfSbmLC0KbEGCDBDEGEDBBBBBBBBBBTBCBBBBBBBBBBBBBBBBc@ACbn8bNBBBDCDBDEECDBBBBBBBBBBBBBBOBEBCBBBBBBBBBBBBBBBBc@A9bXBIbYBOKBPcVBTNBUOBVQBYRB6SB7cWB8b7Bb7b8Bb8cXBb9cYBb@cZBb$c6BcAc7BcBcCBcPcDBcQcEBcScFBcWcGBcXcHBcYcIBcZcJBc6cKBc7cLBc8cMBc9BBc@9dZfXd6fYd7eOd9b6d@ePd$eQeAeReBeSeCb$eFcAeJeTeKcCeLcDfNcgCfOeVfPeWfTeXfUeYfVeZfWe6fXe7fYe8fZe9f9e@f@e$f$fAgAfBgFfCgGfDCbn9bNBBBDCDBDEECDBBBBBBBBBBBBBBOBEBCBBBBBBBBBBBBBBBBc@AZiCBGiDBIiFBPbn@BQj9BTj@BZbn$BbLj$Bb9kABb@kBBcAkCBcBkDBcCkEBcDkFBcEkGBcFkHBcGkIBcHkJBcIkKBcJkLBcKkMBcLkNBcMkOBcNkPBcOBBc@Cd8pRfSpSCboAEABBBBBc@ACboAEABBBBBc@ACboAEABBBBBc@AGbTBGbUBHbWBcPbHBcQbIBcSBBc@EdDbmSdEdSgFdUgGdVGbTBGbUBHbWBcPbHBcQbIBcSBBc@EdDbmUdEdSgFdUgGdVGbTBGbUBHbWBcPbHBcQbIBcSBBc@EdDbmWdEdSgFdUgGdVCuVbACECBCBDBBCDBCEOSBCBBBBBBBBBBBBBBBBc@ACbmCbACECBCBDBBCDBCEOSBCBBBBBBBBBBBBBBBBc@ACbmCbACECBCBDBBCDBCEOSBCBBBBBBBBBBBBBBBBc@A@bXBIboBBJbYBOKBPhVBTNBUOBVQBYRB6SB7b6B8b7Bb7b8Bb8b9Bb9b@Bb@b$Bb$cABcAcBBcBhWBcPcDBcQcEBcScFBcWcGBcXcHBcYcIBcZcJBc6cKBc7cLBc8cMBc9BBc@9dZfXd6fYd7eOd9b6d@ePd$eQeAeReBeSeCb$eFcAeJeTeKcCeLcDfNbyVfOeVfPeWfTeXfUeYfVeZfWe6fXe7fYe8fZe9f9e@f@e$f$fAgAfBgFfCgGfDCbmCbACECBCBDBBCDBCEOSBCBBBBBBBBBBBBBBBBc@ACbmCbACECBCBDBBCDBCEOSBCBBBBBBBBBBBBBBBBc@A@bXBIboCBJbYBOKBPhVBTNBUOBVQBYRB6SB7b6B8b7Bb7b8Bb8b9Bb9b@Bb@b$Bb$cABcAcBBcBhWBcPcDBcQcEBcScFBcWcGBcXcHBcYcIBcZcJBc6cKBc7cLBc8cMBc9BBc@9dZfXd6fYd7eOd9b6d@ePd$eQeAeReBeSeCb$eFcAeJeTeKcCeLcDfNbyVfOeVfPeWfTeXfUeYfVeZfWe6fXe7fYe8fZe9f9e@f@e$f$fAgAfBgFfCgGfDCbmLbACECBCBDBBCDBCEOSBCBBBBBBBBBBBBBBBBc@A$bXBIbYBOKBPcVBTNBUOBVhYBWboDBXQBYRB6SB7cWB8b7Bb7b8Bb8cXBb9cYBb@cZBb$c6BcAc7BcBcCBcPcDBcQcEBcScFBcWcGBcXcHBcYcIBcZcJBc6cKBc7cLBc8cMBc9BBc@bAdZfXd6fYd7eOd9b6d@ePd$eQeAeReBeSeCb$eFcAeJeTeKcCeLcDfNyVfOeVfPeWfTeXfUeYfVeZfWe6fXe7fYe8fZe9f6yWf7bzFf8bzGf9e@f@e$f$fAgAfBgFfCgGfDCbmLbACECBCBDBBCDBCEOSBCBBBBBBBBBBBBBBBBc@ACbmLbACECBCBDBBCDBCEOSBCBBBBBBBBBBBBBBBBc@A$bXBIbYBOKBPcVBTNBUOBVhYBWboEBXQBYRB6SB7cWB8b7Bb7b8Bb8cXBb9cYBb@cZBb$c6BcAc7BcBcCBcPcDBcQcEBcScFBcWcGBcXcHBcYcIBcZcJBc6cKBc7cLBc8cMBc9BBc@bAdZfXd6fYd7eOd9b6d@ePd$eQeAeReBeSeCb$eFcAeJeTeKcCeLcDfNyVfOeVfPeWfTeXfUeYfVeZfWe6fXe7fYe8fZe9f6yWf7bzFf8bzGf9e@f@e$f$fAgAfBgFfCgGfDCbmLbACECBCBDBBCDBCEOSBCBBBBBBBBBBBBBBBBc@ACbmRbACECBCBDBBCDBCEOSBCBBBBBBBBBBBBBBBBc@ACbmSbACECBCBDBBCDBCEOSBCBBBBBBBBBBBBBBBBc@ANdBBIi9BOi@BPboFBQi$BTNBUOBVQBYjAB6jBB7jCB8jDBcPBBc@NdZbzQd6bzRd7gNd9b6d@gOeAgPeBgQeCqCeFcAeJgReKcCeLcDgAqDCbmSbACECBCBDBBCDBCEOSBCBBBBBBBBBBBBBBBBc@ACbmSbACECBCBDBBCDBCEOSBCBBBBBBBBBBBBBBBBc@ANdBBIi9BOi@BPboGBQi$BTNBUOBVQBYjAB6jBB7jCB8jDBcPBBc@NdZbzQd6bzRd7gNd9b6d@gOeAgPeBgQeCqCeFcAeJgReKcCeLcDgAqDCbmSbACECBCBDBBCDBCEOSBCBBBBBBBBBBBBBBBBc@ACbmRbACECBCBDBBCDBCEOSBCBBBBBBBBBBBBBBBBc@ACbmSbACECBCBDBBCDBCEOSBCBBBBBBBBBBBBBBBBc@ANdBBIi9BOi@BPboHBQi$BTNBUOBVQBYjAB6jBB7jCB8jDBcPBBc@NdZbzQd6bzRd7gNd9b6d@gOeAgPeBgQeCqCeFcAeJgReKcCeLcDgAqDCbmSbACECBCBDBBCDBCEOSBCBBBBBBBBBBBBBBBBc@ACbmSbACECBCBDBBCDBCEOSBCBBBBBBBBBBBBBBBBc@ANdBBIi9BOi@BPboIBQi$BTNBUOBVQBYjAB6jBB7jCB8jDBcPBBc@NdZbzQd6bzRd7gNd9b6d@gOeAgPeBgQeCqCeFcAeJgReKcCeLcDgAqDCbmSbACECBCBDBBCDBCEOSBCBBBBBBBBBBBBBBBBc@ACbmZbACECBCBDBBCDBCEOSBCBBBBBBBBBBBBBBBBc@ACbmZbACECBCBDBBCDBCEOSBCBBBBBBBBBBBBBBBBc@ACbm6bACECBCBDBBCDBCEOSBCBBBBBBBBBBBBBBBBc@ACbm6bACECBCBDBBCDBCEOSBCBBBBBBBBBBBBBBBBc@A@bXBIboJBJbYBOKBPhVBTNBUOBVQBYRB6SB7b6B8b7Bb7b8Bb8b9Bb9b@Bb@b$Bb$cABcAcBBcBhWBcPcDBcQcEBcScFBcWcGBcXcHBcYcIBcZcJBc6cKBc7cLBc8cMBc9BBc@@dZfXd6fYd7eOd9b6d@ePd$eQeAeReBeSeCb$eFcAeJeTeKcCeLcDfNb0CfO" ++
  "eVfPeWfQb0DfTeXfUeYfVeZfWe6fXe7fYe8fZe9f9e@f@e$f$fAgAfBgFfCgGfDCbm6bACECBCBDBBCDBCEOSBCBBBBBBBBBBBBBBBBc@ACbm6bACECBCBDBBCDBCEOSBCBBBBBBBBBBBBBBBBc@A@bXBIboKBJbYBOKBPhVBTNBUOBVQBYRB6SB7b6B8b7Bb7b8Bb8b9Bb9b@Bb@b$Bb$cABcAcBBcBhWBcPcDBcQcEBcScFBcWcGBcXcHBcYcIBcZcJBc6cKBc7cLBc8cMBc9BBc@@dZfXd6fYd7eOd9b6d@ePd$eQeAeReBeSeCb$eFcAeJeTeKcCeLcDfNb0CfOeVfPeWfQb0DfTeXfUeYfVeZfWe6fXe7fYe8fZe9f9e@f@e$f$fAgAfBgFfCgGfDCbn8bACECBCBDBBCDBCEOSBCBBBBBBBBBBBBBBBBc@A9bXBIbYBOKBPcVBTNBUOBVQBYRB6SB7cWB8b7Bb7b8Bb8cXBb9cYBb@cZBb$c6BcAc7BcBcCBcPcDBcQcEBcScFBcWcGBcXcHBcYcIBcZcJBc6cKBc7cLBc8cMBc9BBc@9dZfXd6fYd7eOd9b6d@ePd$eQeAeReBeSeCb$eFcAeJeTeKcCeLcDfNcgPfOeVfPeWfTeXfUeYfVeZfWe6fXe7fYe8fZe9f9e@f@e$f$fAgAfBgFfCgGfDCbn9bACECBCBDBBCDBCEOSBCBBBBBBBBBBBBBBBBc@AZiCBGiDBIiFBPboLBQj9BTj@BZboMBbLj$Bb9kABb@kBBcAkCBcBkDBcCkEBcDkFBcEkGBcFkHBcGkIBcHkJBcIkKBcJkLBcKkMBcLkNBcMkOBcNkPBcOBBc@Cd8pRfSpSMdBBIi9BOi@BPi$BTNBUOBVQBYjAB6jBB7jCB8jDBcPBBc@NdZbsMd6bsNd7gNd9b6d@gOeAgPeBgQeCqCeFcAeJgReKcCeLcDgAqDMdBBIi9BOi@BPi$BTNBUOBVQBYjAB6jBB7jCB8jDBcPBBc@NdZbsOd6bsPd7gNd9b6d@gOeAgPeBgQeCqCeFcAeJgReKcCeLcDgAqDCboNGBBBUbBBBBc@ACboNGBBBUbBBBBc@AC3INABBBJDHBC$BXCBBc@AC3INABBBJDHBC$BXCBBc@AFkWBTOBVboOBXkYBcPBBc@Ed7sXeCsYeEbrCgAs6FkWBTOBVboPBXkYBcPBBc@Ed7sXeCsYeEbrEgAs6FkWBTOBVboQBXkYBcPBBc@Ed7sXeCsYeEbrGgAs6C36NABBBJDHBC$BXCBBc@AFboRBBboSBCboTBDboUBXBBc@BgTbrLMjGBIs@BOs$BPtABTjMBUjNBVjOBYtBB6tCB7tDB8tEBcPBBc@NdZb3Od6b3Pd7qXd9qYd@qZeAq6eBq7eC5DeFq9eJq@eKq$eLrAgA5ECboVBQBBc@ACboWBQBBc@AMjGBIs@BOs$BPtABTjMBUjNBVjOBYtBB6tCB72GB8tEBcPBBc@NdZb4Fd6b4Gd7qXd9qYd@qZeAq6eBq7eC5DeFq9eJq@eKq$eLrAgA5ENjGBIjJBOjKBPjLBTjMBUjNBVboXBXjOBYjPB6jQB7jRB8lHBcPBBc@PdZtJd6tKd7qXd9qYd@qZeAq6eBq7eCq8eFq9eHbrYeIbrZeJq@eKq$eLrAgArBNjGBIjJBOjKBPjLBTjMBUjNBVboYBXjOBYjPB6jQB7jRB8lHBcPBBc@PdZtJd6tKd7qXd9qYd@qZeAq6eBq7eCq8eFq9eHbr7eIbr8eJq@eKq$eLrAgArBNjGBIjJBOjKBPjLBTjMBUjNBVboZBXjOBYjPB6jQB7jRB8lHBcPBBc@PdZtJd6tKd7qXd9qYd@qZeAq6eBq7eCq8eFq9eHbr@eIbr$eJq@eKq$eLrAgArBC4JNABBBJDHBC$BXCBBc@AFbo6BBbo7BCbo8BDbo9BXBBc@BgVbsENjGBIjJBOjKBPjLBTjMBUjNBVbo@BXjOBYjPB6jQB7jRB8lHBcPBBc@PdZtJd6tKd7qXd9qYd@qZeAq6eBq7eCq8eFq9eHbrYeIbrZeJq@eKq$eLrAgArBNjGBIjJBOjKBPjLBTjMBUjNBVbo$BXjOBYjPB6jQB7jRB8lHBcPBBc@PdZtJd6tKd7qXd9qYd@qZeAq6eBq7eCq8eFq9eHbr7eIbr8eJq@eKq$eLrAgArBNjGBIjJBOjKBPjLBTjMBUjNBVbpABXjOBYjPB6jQB7jRB8lHBcPBBc@PdZtJd6tKd7qXd9qYd@qZeAq6eBq7eCq8eFq9eHbr@eIbr$eJq@eKq$eLrAgArBC4JNABBBJDHBC$BXCBBc@AFbpBBBbpCBCbpDBDbpEBXBBc@BgVbsEMjGBIjJBOjKBPjLBTjMBUjNBVjOBYjPB6jQB7jRB8jSBcPBBc@NdZchJd6chKd7qXd9qYd@qZeAq6eBq7eCq8eFq9eJq@eKq$eLrAgArBMjGBIjJBOjKBPjLBTjMBUjNBVjOBYjPB6jQB7jRB8jSBcPBBc@NdZchLd6chMd7qXd9qYd@qZeAq6eBq7eCq8eFq9eJq@eKq$eLrAgArBCvHNABBBJDHBC$BXCBBc@ACvHNABBBJDHBC$BXCBBc@ANdBBIi9BOi@BPbpFBQi$BTNBUOBVQBYjAB6jBB7jCB8jDBcPBBc@OdZyQd6yRd7gNd9b6d@gOeAgPeBgQeCqCeFcAeIbzAeJgReKcCeLcDgAqDCbdDNABBBJDHBC$BXCBBc@ADbpGBLbpHBQBBc@BgSbzDCbpIGBBBUbBBBBc@ACbpIGBBBUbBBBBc@ACbpJSIBCBCBBDBBBCBBBBPbEBBc@ANdBBIi9BOi@BPjWBRi$BTNBUOBVQBYjAB6jBB7jCB8jXBcPBBc@PdRbpXdSbpYdZrJd6rKd7gNd9b6d@gOeAgPeBgQeCqCeFcAeJgReKcCeLcDgAqDCbpJSIBCBCBBDBBBCBBBBPbEBBc@ACbg$XABBBFECBEBBBBBBBBB8BWBCBBc@ACbg$XABBBFECBEBBBBBBBBB8BWBCBBc@AOdBBIbpKBJi9BOi@BPjWBRi$BTNBUOBVQBYjAB6jBB7jCB8jXBcPBBc@PdRbpXdSbpYdZrJd6rKd7gNd9b6d@gOeAgPeBgQeCqCeFcAeJgReKcCeLcDgAqDCbg$XABBBFECBEBBBBBBBBB8BWBCBBc@ACbg$XABBBFECBEBBBBBBBBB8BWBCBBc@AOdBBIbpLBJi9BOi@BPjWBRi$BTNBUOBVQBYjAB6jBB7jCB8jXBcPBBc@PdRbpXdSbpYdZrJd6rKd7gNd9b6d@gOeAgPeBgQeCqCeFcAeJgReKcCeLcDgAqDCbpMCLFBBc@ACbpNLIGBEBBDCBBbTBBc@ACbpOCLFBBc@ADbpPBQt7BcPBBc@BdPb4XCbpNLIGBEBBDCBBbTBBc@ADbpQBLbpOBQBBc@BgNb46CbpREABBBBBc@ACbpREABBBBBc@ACbpSEABBBBBc@ACbpSEABBBBBc@ACbpTEBBBUBBc@ACbpTEBBBUBBc@ACbpTEBBBUBBc@ACbpTEBBBUBBc@ACbpUJIBCBDBGDSBBc@ACbpUJIBCBDBGDSBBc@ACbpUJIBCBDBGDSBBc@AEkWBTOBVkYBcPBBc@Ed7sXeCsYeEbrCgAs6EkWBTOBVkYBcPBBc@Ed7sXeCsYeEbrEgAs6EkWBTOBVkYBcPBBc@Ed7sXeCsYeEbrGgAs6CbpVJIBCBDBGDSBBc@ACbpVJIBCBDBGDSBBc@ACbpVJIBCBDBGDSBBc@AMjGBIjJBOjKBPjLBTjMBUjNBVjOBYjPB6jQB7jRB8lHBcPBBc@PdZtJd6tKd7qXd9qYd@qZeAq6eBq7eCq8eFq9eHbrYeIbrZeJq@eKq$eLrAgArBMjGBIjJBOjKBPjLBTjMBUjNBVjOBYjPB6jQB7jRB8lHBcPBBc@PdZtJd6tKd7qXd9qYd@qZeAq6eBq7eCq8eFq9eHbr7" ++
  "eIbr8eJq@eKq$eLrAgArBMjGBIjJBOjKBPjLBTjMBUjNBVjOBYjPB6jQB7jRB8lHBcPBBc@PdZtJd6tKd7qXd9qYd@qZeAq6eBq7eCq8eFq9eHbr@eIbr$eJq@eKq$eLrAgArBCbpVJIBCBDBGDSBBc@ACbpVJIBCBDBGDSBBc@ACbpVJIBCBDBGDSBBc@ACuV9BBBDCDEEEC$BEBCBBBBBBBBBBBBBBBBc@ACbmC9BBBDCDEEEC$BEBCBBBBBBBBBBBBBBBBc@ACbmC9BBBDCDEEEC$BEBCBBBBBBBBBBBBBBBBc@A@bXBIbpWBJbYBOKBPhVBTNBUOBVQBYRB6SB7b6B8b7Bb7b8Bb8b9Bb9b@Bb@b$Bb$cABcAcBBcBhWBcPcDBcQcEBcScFBcWcGBcXcHBcYcIBcZcJBc6cKBc7cLBc8cMBc9BBc@9dZfXd6fYd7eOd9b6d@ePd$eQeAeReBeSeCb$eFcAeJeTeKcCeLcDfNbyVfOeVfPeWfTeXfUeYfVeZfWe6fXe7fYe8fZe9f9e@f@e$f$fAgAfBgFfCgGfDCbmC9BBBDCDEEEC$BEBCBBBBBBBBBBBBBBBBc@ACbmC9BBBDCDEEEC$BEBCBBBBBBBBBBBBBBBBc@A@bXBIbpXBJbYBOKBPhVBTNBUOBVQBYRB6SB7b6B8b7Bb7b8Bb8b9Bb9b@Bb@b$Bb$cABcAcBBcBhWBcPcDBcQcEBcScFBcWcGBcXcHBcYcIBcZcJBc6cKBc7cLBc8cMBc9BBc@9dZfXd6fYd7eOd9b6d@ePd$eQeAeReBeSeCb$eFcAeJeTeKcCeLcDfNbyVfOeVfPeWfTeXfUeYfVeZfWe6fXe7fYe8fZe9f9e@f@e$f$fAgAfBgFfCgGfDCbmL9BBBDCDEEEC$BEBCBBBBBBBBBBBBBBBBc@A$bXBIbYBOKBPcVBTNBUOBVhYBWbpYBXQBYRB6SB7cWB8b7Bb7b8Bb8cXBb9cYBb@cZBb$c6BcAc7BcBcCBcPcDBcQcEBcScFBcWcGBcXcHBcYcIBcZcJBc6cKBc7cLBc8cMBc9BBc@bAdZfXd6fYd7eOd9b6d@ePd$eQeAeReBeSeCb$eFcAeJeTeKcCeLcDfNyVfOeVfPeWfTeXfUeYfVeZfWe6fXe7fYe8fZe9f6yWf7bzFf8bzGf9e@f@e$f$fAgAfBgFfCgGfDCbmL9BBBDCDEEEC$BEBCBBBBBBBBBBBBBBBBc@ACbmL9BBBDCDEEEC$BEBCBBBBBBBBBBBBBBBBc@A$bXBIbYBOKBPcVBTNBUOBVhYBWbpZBXQBYRB6SB7cWB8b7Bb7b8Bb8cXBb9cYBb@cZBb$c6BcAc7BcBcCBcPcDBcQcEBcScFBcWcGBcXcHBcYcIBcZcJBc6cKBc7cLBc8cMBc9BBc@bAdZfXd6fYd7eOd9b6d@ePd$eQeAeReBeSeCb$eFcAeJeTeKcCeLcDfNyVfOeVfPeWfTeXfUeYfVeZfWe6fXe7fYe8fZe9f6yWf7bzFf8bzGf9e@f@e$f$fAgAfBgFfCgGfDCbmL9BBBDCDEEEC$BEBCBBBBBBBBBBBBBBBBc@ACbmR9BBBDCDEEEC$BEBCBBBBBBBBBBBBBBBBc@ACbmS9BBBDCDEEEC$BEBCBBBBBBBBBBBBBBBBc@ANdBBIi9BOi@BPbp6BQi$BTNBUOBVQBYjAB6jBB7jCB8jDBcPBBc@NdZbzQd6bzRd7gNd9b6d@gOeAgPeBgQeCqCeFcAeJgReKcCeLcDgAqDCbmS9BBBDCDEEEC$BEBCBBBBBBBBBBBBBBBBc@ACbmS9BBBDCDEEEC$BEBCBBBBBBBBBBBBBBBBc@ANdBBIi9BOi@BPbp7BQi$BTNBUOBVQBYjAB6jBB7jCB8jDBcPBBc@NdZbzQd6bzRd7gNd9b6d@gOeAgPeBgQeCqCeFcAeJgReKcCeLcDgAqDCbmS9BBBDCDEEEC$BEBCBBBBBBBBBBBBBBBBc@ACbmR9BBBDCDEEEC$BEBCBBBBBBBBBBBBBBBBc@ACbmS9BBBDCDEEEC$BEBCBBBBBBBBBBBBBBBBc@ANdBBIi9BOi@BPbp8BQi$BTNBUOBVQBYjAB6jBB7jCB8jDBcPBBc@NdZbzQd6bzRd7gNd9b6d@gOeAgPeBgQeCqCeFcAeJgReKcCeLcDgAqDCbmS9BBBDCDEEEC$BEBCBBBBBBBBBBBBBBBBc@ACbmS9BBBDCDEEEC$BEBCBBBBBBBBBBBBBBBBc@ANdBBIi9BOi@BPbp9BQi$BTNBUOBVQBYjAB6jBB7jCB8jDBcPBBc@NdZbzQd6bzRd7gNd9b6d@gOeAgPeBgQeCqCeFcAeJgReKcCeLcDgAqDCbmS9BBBDCDEEEC$BEBCBBBBBBBBBBBBBBBBc@ACbmZ9BBBDCDEEEC$BEBCBBBBBBBBBBBBBBBBc@ACbmZ9BBBDCDEEEC$BEBCBBBBBBBBBBBBBBBBc@ACbm69BBBDCDEEEC$BEBCBBBBBBBBBBBBBBBBc@ACbm69BBBDCDEEEC$BEBCBBBBBBBBBBBBBBBBc@A@bXBIbp@BJbYBOKBPhVBTNBUOBVQBYRB6SB7b6B8b7Bb7b8Bb8b9Bb9b@Bb@b$Bb$cABcAcBBcBhWBcPcDBcQcEBcScFBcWcGBcXcHBcYcIBcZcJBc6cKBc7cLBc8cMBc9BBc@@dZfXd6fYd7eOd9b6d@ePd$eQeAeReBeSeCb$eFcAeJeTeKcCeLcDfNb0CfOeVfPeWfQb0DfTeXfUeYfVeZfWe6fXe7fYe8fZe9f9e@f@e$f$fAgAfBgFfCgGfDCbm69BBBDCDEEEC$BEBCBBBBBBBBBBBBBBBBc@ACbm69BBBDCDEEEC$BEBCBBBBBBBBBBBBBBBBc@A@bXBIbp$BJbYBOKBPhVBTNBUOBVQBYRB6SB7b6B8b7Bb7b8Bb8b9Bb9b@Bb@b$Bb$cABcAcBBcBhWBcPcDBcQcEBcScFBcWcGBcXcHBcYcIBcZcJBc6cKBc7cLBc8cMBc9BBc@@dZfXd6fYd7eOd9b6d@ePd$eQeAeReBeSeCb$eFcAeJeTeKcCeLcDfNb0CfOeVfPeWfQb0DfTeXfUeYfVeZfWe6fXe7fYe8fZe9f9e@f@e$f$fAgAfBgFfCgGfDCbn89BBBDCDEEEC$BEBCBBBBBBBBBBBBBBBBc@A9bXBIbYBOKBPcVBTNBUOBVQBYRB6SB7cWB8b7Bb7b8Bb8cXBb9cYBb@cZBb$c6BcAc7BcBcCBcPcDBcQcEBcScFBcWcGBcXcHBcYcIBcZcJBc6cKBc7cLBc8cMBc9BBc@9dZfXd6fYd7eOd9b6d@ePd$eQeAeReBeSeCb$eFcAeJeTeKcCeLcDfNch@fOeVfPeWfTeXfUeYfVeZfWe6fXe7fYe8fZe9f9e@f@e$f$fAgAfBgFfCgGfDCbn99BBBDCDEEEC$BEBCBBBBBBBBBBBBBBBBc@AZiCBGiDBIiFBPbqABQj9BTj@BZbqBBbLj$Bb9kABb@kBBcAkCBcBkDBcCkEBcDkFBcEkGBcFkHBcGkIBcHkJBcIkKBcJkLBcKkMBcLkNBcMkOBcNkPBcOBBc@Cd8pRfSpSCuVbJCECDBDEDDDBBBBBBBBBBBBBBTBCBBBBBBBBBBBBBBBBc@ACbmCbJCECDBDEDDDBBBBBBBBBBBBBBTBCBBBBBBBBBBBBBBBBc@ACbmCbJCECDBDEDDDBBBBBBBBBBBBBBTBCBBBBBBBBBBBBBBBBc@A@bXBIbqCBJbYBOKBPhVBTNBUOBVQBYRB6SB7b6B8b7Bb7b8Bb8b9Bb9b@Bb@b$Bb$cABcAcBBcBhWBcPcDBcQcEBcScFBcWcGBcXcHBcYcIBcZcJBc6cKBc7cLBc8cMBc9BBc@9dZfXd6fYd7eOd9b6d@ePd$eQeAeReBeSeCb$eFcAeJeTeKcCeLcDfNbyVfOeVfPeWfTeXfUeYfVeZfWe6fXe7fYe8fZe9f9e@f@e$f$f" ++
  "AgAfBgFfCgGfDCbmCbJCECDBDEDDDBBBBBBBBBBBBBBTBCBBBBBBBBBBBBBBBBc@ACbmCbJCECDBDEDDDBBBBBBBBBBBBBBTBCBBBBBBBBBBBBBBBBc@A@bXBIbqDBJbYBOKBPhVBTNBUOBVQBYRB6SB7b6B8b7Bb7b8Bb8b9Bb9b@Bb@b$Bb$cABcAcBBcBhWBcPcDBcQcEBcScFBcWcGBcXcHBcYcIBcZcJBc6cKBc7cLBc8cMBc9BBc@9dZfXd6fYd7eOd9b6d@ePd$eQeAeReBeSeCb$eFcAeJeTeKcCeLcDfNbyVfOeVfPeWfTeXfUeYfVeZfWe6fXe7fYe8fZe9f9e@f@e$f$fAgAfBgFfCgGfDYzQFCJBROiCBGiDBIiFBPj9BTj@BZj$Bb9kABb@kBBcAkCBcBkDBcCkEBcDkFBcEkGBcFkHBcGkIBcHkJBcIkKBcJkLBcKkMBcLkNBcMkOBcNkPBcOBBc@Cd8pRfSpSDzQECKRObqEBLBBc@BgRcbBCbmRbJCECDBDEDDDBBBBBBBBBBBBBBTBCBBBBBBBBBBBBBBBBc@ACbmSbJCECDBDEDDDBBBBBBBBBBBBBBTBCBBBBBBBBBBBBBBBBc@ANdBBIi9BOi@BPbqFBQi$BTNBUOBVQBYjAB6jBB7jCB8jDBcPBBc@NdZbzQd6bzRd7gNd9b6d@gOeAgPeBgQeCqCeFcAeJgReKcCeLcDgAqDCbmSbJCECDBDEDDDBBBBBBBBBBBBBBTBCBBBBBBBBBBBBBBBBc@ACbmSbJCECDBDEDDDBBBBBBBBBBBBBBTBCBBBBBBBBBBBBBBBBc@ANdBBIi9BOi@BPbqGBQi$BTNBUOBVQBYjAB6jBB7jCB8jDBcPBBc@NdZbzQd6bzRd7gNd9b6d@gOeAgPeBgQeCqCeFcAeJgReKcCeLcDgAqDCbmSbJCECDBDEDDDBBBBBBBBBBBBBBTBCBBBBBBBBBBBBBBBBc@ACbmRbJCECDBDEDDDBBBBBBBBBBBBBBTBCBBBBBBBBBBBBBBBBc@ACbmSbJCECDBDEDDDBBBBBBBBBBBBBBTBCBBBBBBBBBBBBBBBBc@ANdBBIi9BOi@BPbqHBQi$BTNBUOBVQBYjAB6jBB7jCB8jDBcPBBc@NdZbzQd6bzRd7gNd9b6d@gOeAgPeBgQeCqCeFcAeJgReKcCeLcDgAqDCbmSbJCECDBDEDDDBBBBBBBBBBBBBBTBCBBBBBBBBBBBBBBBBc@ACbmSbJCECDBDEDDDBBBBBBBBBBBBBBTBCBBBBBBBBBBBBBBBBc@ANdBBIi9BOi@BPbqIBQi$BTNBUOBVQBYjAB6jBB7jCB8jDBcPBBc@NdZbzQd6bzRd7gNd9b6d@gOeAgPeBgQeCqCeFcAeJgReKcCeLcDgAqDCbmSbJCECDBDEDDDBBBBBBBBBBBBBBTBCBBBBBBBBBBBBBBBBc@ACbmLbJCECDBDEDDDBBBBBBBBBBBBBBTBCBBBBBBBBBBBBBBBBc@A$bXBIbYBOKBPcVBTNBUOBVhYBWbqJBXQBYRB6SB7cWB8b7Bb7b8Bb8cXBb9cYBb@cZBb$c6BcAc7BcBcCBcPcDBcQcEBcScFBcWcGBcXcHBcYcIBcZcJBc6cKBc7cLBc8cMBc9BBc@bAdZfXd6fYd7eOd9b6d@ePd$eQeAeReBeSeCb$eFcAeJeTeKcCeLcDfNyVfOeVfPeWfTeXfUeYfVeZfWe6fXe7fYe8fZe9f6yWf7bzFf8bzGf9e@f@e$f$fAgAfBgFfCgGfDCbmLbJCECDBDEDDDBBBBBBBBBBBBBBTBCBBBBBBBBBBBBBBBBc@ACbmLbJCECDBDEDDDBBBBBBBBBBBBBBTBCBBBBBBBBBBBBBBBBc@A$bXBIbYBOKBPcVBTNBUOBVhYBWbqKBXQBYRB6SB7cWB8b7Bb7b8Bb8cXBb9cYBb@cZBb$c6BcAc7BcBcCBcPcDBcQcEBcScFBcWcGBcXcHBcYcIBcZcJBc6cKBc7cLBc8cMBc9BBc@bAdZfXd6fYd7eOd9b6d@ePd$eQeAeReBeSeCb$eFcAeJeTeKcCeLcDfNyVfOeVfPeWfTeXfUeYfVeZfWe6fXe7fYe8fZe9f6yWf7bzFf8bzGf9e@f@e$f$fAgAfBgFfCgGfDCbmLbJCECDBDEDDDBBBBBBBBBBBBBBTBCBBBBBBBBBBBBBBBBc@ADPBW7BbTBBc@CeMciJfBciKCbmZbJCECDBDEDDDBBBBBBBBBBBBBBTBCBBBBBBBBBBBBBBBBc@ACbmZbJCECDBDEDDDBBBBBBBBBBBBBBTBCBBBBBBBBBBBBBBBBc@ACbm6bJCECDBDEDDDBBBBBBBBBBBBBBTBCBBBBBBBBBBBBBBBBc@ACbm6bJCECDBDEDDDBBBBBBBBBBBBBBTBCBBBBBBBBBBBBBBBBc@A@bXBIbqLBJbYBOKBPhVBTNBUOBVQBYRB6SB7b6B8b7Bb7b8Bb8b9Bb9b@Bb@b$Bb$cABcAcBBcBhWBcPcDBcQcEBcScFBcWcGBcXcHBcYcIBcZcJBc6cKBc7cLBc8cMBc9BBc@@dZfXd6fYd7eOd9b6d@ePd$eQeAeReBeSeCb$eFcAeJeTeKcCeLcDfNb0CfOeVfPeWfQb0DfTeXfUeYfVeZfWe6fXe7fYe8fZe9f9e@f@e$f$fAgAfBgFfCgGfDCbm6bJCECDBDEDDDBBBBBBBBBBBBBBTBCBBBBBBBBBBBBBBBBc@ACbm6bJCECDBDEDDDBBBBBBBBBBBBBBTBCBBBBBBBBBBBBBBBBc@A@bXBIbqMBJbYBOKBPhVBTNBUOBVQBYRB6SB7b6B8b7Bb7b8Bb8b9Bb9b@Bb@b$Bb$cABcAcBBcBhWBcPcDBcQcEBcScFBcWcGBcXcHBcYcIBcZcJBc6cKBc7cLBc8cMBc9BBc@@dZfXd6fYd7eOd9b6d@ePd$eQeAeReBeSeCb$eFcAeJeTeKcCeLcDfNb0CfOeVfPeWfQb0DfTeXfUeYfVeZfWe6fXe7fYe8fZe9f9e@f@e$f$fAgAfBgFfCgGfDCbn8bJCECDBDEDDDBBBBBBBBBBBBBBTBCBBBBBBBBBBBBBBBBc@A9bXBIbYBOKBPcVBTNBUOBVQBYRB6SB7cWB8b7Bb7b8Bb8cXBb9cYBb@cZBb$c6BcAc7BcBcCBcPcDBcQcEBcScFBcWcGBcXcHBcYcIBcZcJBc6cKBc7cLBc8cMBc9BBc@9dZfXd6fYd7eOd9b6d@ePd$eQeAeReBeSeCb$eFcAeJeTeKcCeLcDfNciNfOeVfPeWfTeXfUeYfVeZfWe6fXe7fYe8fZe9f9e@f@e$f$fAgAfBgFfCgGfDCbn9bJCECDBDEDDDBBBBBBBBBBBBBBTBCBBBBBBBBBBBBBBBBc@AZiCBGiDBIiFBPbqNBQj9BTj@BZbqOBbLj$Bb9kABb@kBBcAkCBcBkDBcCkEBcDkFBcEkGBcFkHBcGkIBcHkJBcIkKBcJkLBcKkMBcLkNBcMkOBcNkPBcOBBc@Cd8pRfSpSZiCBGiDBIbqPBLiFBPwCBTgYBWwEBZwFBb9wGBb@wHBcAwIBcBwJBcCwKBcDwLBcEwMBcFwNBcGwOBcHwPBcIwQBcJwRBcKwSBcLwTBcMwUBcNwVBcOBBc@Dd8pRfSpSgRciRYiCBGiDBIiFBPwCBT0JBWwEBZwFBb9wGBb@wHBcAwIBcBwJBcCwKBcDwLBcEwMBcFwNBcGwOBcHwPBcIwQBcJwRBcKwSBcLwTBcMwUBcNwVBcOBBc@Cd8pRfSpSCbqQBWBBc@ACbqRDXbBBBBc@ANdBBIi9BOi@BPbqSBSi$BTNBUOBVQBYjAB6jBB7jCB8jDBcPBBc@NdZbn9d6bn@d7gNd9b6d@gOeAgPeBgQeCqCeFcAeJgReKcCeLcDgAqDCbqTGBBBUbBBBBc@AXbqUBGiDBIiFBPj9BTj@BZj$Bb9kABb@kBBcAkCBcBkDBcCkEB" ++
  "cDkFBcEkGBcFkHBcGkIBcHkJBcIkKBcJkLBcKkMBcLkNBcMkOBcNkPBcOBBc@Cd8pRfSpSNdBBIi9BOi@BPbqVBSi$BTNBUOBVQBYjAB6jBB7jCB8jDBcPBBc@NdZbn9d6bn@d7gNd9b6d@gOeAgPeBgQeCqCeFcAeJgReKcCeLcDgAqDCbqWGBBBUbBBBBc@AEbqXBXoNBbYoOBbZBBc@DfGbhOfHbhOgYbhOMdBBIi9BOi@BPi$BTNBUOBVQBYjAB6jBB7jCB8jDBcPBBc@NdZbzQd6bzRd7gNd9b6d@gOeAgPeBgQeCqCeFcAeJgReKcCeLcDgAqDbODBCGBIHBKIBNc@BOKBPLBSMBTNBUOBVPBWbqYDXbBBQBYRB6SB7TB8UBbMVBbNWBbOXBbPYBbQZBbR6BbS7BbT8BbV9BbX@Bb6$Bb7bABb8bBBb9bCBb@bDBb$bEBcAbFBcBdIBcPbHBcQbIBcSbJBcWbKBcXbLBcYbMBcZbNBc6bOBc7bPBc8bQBc9BBc@b7dGbTdHbTdJbTdUbTdXbWdZbXd6bYd7bZd9b6d@b7d$b8eAb9eBb@eCb$eFcAeJcBeKcCeLcDeMcEeNciWeOgWePcGeQcHeRcIeScJeUcKeVcLeWcMeXcNeYcOeZgXe6cPe7cQe8cRe9cSe@cTe$cUfAcVfBcWfCcXfFcYfIcZfLc6fNc7fOc8fPc9fTc@fUc$fVdAfWdBfXdCfYdDfZdEf9dFf@dGf$dHgAdIgFdJgGdKDblNBLbqZBbLBBc@Bg6bzUbODBCGBIHBKIBNc@BOKBPLBSMBTNBUOBVPBWbqYDXbBBQBYRB6SB7TB8UBbMVBbNWBbOXBbPYBbQZBbR6BbS7BbT8BbV9BbX@Bb6$Bb7bABb8bBBb9bCBb@bDBb$bEBcAbFBcBdIBcPbHBcQbIBcSbJBcWbKBcXbLBcYbMBcZbNBc6bOBc7bPBc8bQBc9BBc@b7dGbTdHbTdJbTdUbTdXbWdZbXd6bYd7bZd9b6d@b7d$b8eAb9eBb@eCb$eFcAeJcBeKcCeLcDeMcEeNciYeOgWePcGeQcHeRcIeScJeUcKeVcLeWcMeXcNeYcOeZgXe6cPe7cQe8cRe9cSe@cTe$cUfAcVfBcWfCcXfFcYfIcZfLc6fNc7fOc8fPc9fTc@fUc$fVdAfWdBfXdCfYdDfZdEf9dFf@dGf$dHgAdIgFdJgGdKDblNBLbq6BbLBBc@Bg6bzUCbq7BWBBc@ACsF7GCDBDEGDBOSBCBBBBBBBBBBBBBBBBc@AbODBCGBIHBKIBNc@BOKBPLBSMBTNBUOBVPBWbq8BXQBYRB6SB7TB8UBbMVBbNWBbOXBbPYBbQZBbR6BbS7BbT8BbV9BbX@Bb6$Bb7bABb8bBBb9bCBb@bDBb$bEBcAbFBcBdIBcPbHBcQbIBcSbJBcWbKBcXbLBcYbMBcZbNBc6bOBc7bPBc8bQBc9BBc@b7dGbTdHbTdJbTdUbTdXbWdZbXd6bYd7bZd9b6d@b7d$b8eAb9eBb@eCb$eFcAeJcBeKcCeLcDeMcEeNci7eOgWePcGeQcHeRcIeScJeUcKeVcLeWcMeXcNeYcOeZgXe6cPe7cQe8cRe9cSe@cTe$cUfAcVfBcWfCcXfFcYfIcZfLc6fNc7fOc8fPc9fTc@fUc$fVdAfWdBfXdCfYdDfZdEf9dFf@dGf$dHgAdIgFdJgGdKDt9CIHblXBWBBc@BeMci8Dt9CIHblXBWBBc@BeMci9Ct@7GCDBDEGDBOSBCBBBBBBBBBBBBBBBBc@ACx67GCDBDEGDBOSBCBBBBBBBBBBBBBBBBc@ADbq9BJbq@BLBBc@BgRcjADbq$BJbrABLBBc@BgRcjDCbrBBXBBc@ACyE7GCDBDEGDBOSBCBBBBBBBBBBBBBBBBc@AEbrCBLbrDBXyIBbLBBc@Bg9cjHDbrEBLbrFBXBBc@Bg9cjKCyM7GCDBDEGDBOSBCBBBBBBBBBBBBBBBBc@ACyP7GCDBDEGDBOSBCBBBBBBBBBBBBBBBBc@AYiCBGiDBIiFBPj9BTj@BZbrGBbLj$Bb9kABb@kBBcAkCBcBkDBcCkEBcDkFBcEkGBcFkHBcGkIBcHkJBcIkKBcJkLBcKkMBcLkNBcMkOBcNkPBcOBBc@Cd8pRfSpSYiCBGiDBIiFBPj9BTj@BZbrGBbLj$Bb9kABb@kBBcAkCBcBkDBcCkEBcDkFBcEkGBcFkHBcGkIBcHkJBcIkKBcJkLBcKkMBcLkNBcMkOBcNkPBcOBBc@Cd8pRfSpSZiCBGiDBIbrHBJbrIBLiFBPiGBTiHBZiIBb9iJBb@iKBcAiLBcBiMBcCiNBcDiOBcEiPBcFiQBcGiRBcHiSBcIiTBcJiUBcKiVBcLiWBcMiXBcNiYBcOBBc@Cd8pRfSpSDbrJBLbrKBQBBc@Bg6cjPDbrLBLbrMBQBBc@Bg6cjSZiCBGiDBIbrNBJbrOBLiFBPiGBTiHBZiIBb9iJBb@iKBcAiLBcBiMBcCiNBcDiOBcEiPBcFiQBcGiRBcHiSBcIiTBcJiUBcKiVBcLiWBcMiXBcNiYBcOBBc@Cd8pRfSpSDbrPBLbrQBQBBc@Bg6cjXDbrRBLbrSBQBBc@Bg6cj6CbrTDXbBBBBc@ACbrTDXbBBBBc@AMdBBIi9BOi@BPi$BTNBUOBVQBYjAB6jBB7jCB8jDBcPBBc@NdZcj7d6cj8d7gNd9b6d@gOeAgPeBgQeCqCeFcAeJgReKcCeLcDgAqDCy@7GCDBDEGDBOSBCBBBBBBBBBBBBBBBBc@ACy$7GCDBDEGDBOSBCBBBBBBBBBBBBBBBBc@A6iCBGiDBIbrUBJbrVBLiFBPzCBRiGBTiHBZiIBb9iJBb@iKBcAiLBcBiMBcCiNBcDiOBcEiPBcFiQBcGiRBcHiSBcIiTBcJiUBcKiVBcLiWBcMiXBcNiYBcOBBc@Dd8pRfSpSg8cj$DbrWBJbrXBLBBc@Bg8ckC@bXBIbYBOKBPbrYBQcVBTNBUOBVQBYRB6SB7cWB8b7Bb7b8Bb8cXBb9cYBb@cZBb$c6BcAc7BcBcCBcPcDBcQcEBcScFBcWcGBcXcHBcYcIBcZcJBc6cKBc7cLBc8cMBc9BBc@9dZfXd6fYd7eOd9b6d@ePd$eQeAeReBeSeCb$eFcAeJeTeKcCeLcDfNckEfOeVfPeWfTeXfUeYfVeZfWe6fXe7fYe8fZe9f9e@f@e$f$fAgAfBgFfCgGfDZiCBGiDBIiFBPbrZBQj9BTj@BZbr6BbLj$Bb9kABb@kBBcAkCBcBkDBcCkEBcDkFBcEkGBcFkHBcGkIBcHkJBcIkKBcJkLBcKkMBcLkNBcMkOBcNkPBcOBBc@Cd8pRfSpSFbcABGbcBBI0IYLBHGDBOSBCBBBBBBBBBBBBBBbcCBPBBc@Cd8byRfSbySMbcABGbcBBI0IRLBNDBOSBCHBBBBBBBbcCBPbcDBTbcJBcBbcKBcCbcLBcDbcMBcEbcNBcFbcOBcGBBc@Cd8byRfSbySMbcABGbcBBI0IRLBNDBOSBCHBBBBBBBbcCBPbcDBTbcJBcBbcKBcCbcLBcDbcMBcEbcNBcFbcOBcGBBc@Cd8byRfSbySMbcABGbcBBI0IRLBNDBOSBCHBBBBBBBbcCBPbcDBTbcJBcBbcKBcCbcLBcDbcMBcEbcNBcFbcOBcGBBc@Cd8byRfSbySMbcABGbcBBI0IRLBNDBOSBCHBBBBBBBbcCBPbcDBTbcJBcBbcKBcCbcLBcDbcMBcEbcNBcFbcOBcGBBc@Cd8byRfSbySFbcABGbcBBI0IYLBHGDBOSBCBBBBBBBBBBBBBBbcCBPBBc@Cd8byRfSbySFbcABGbcBBI0IYLBHGDBOSBCBBBBBBBBBBBBBBbcCBPBBc@Cd8byRfSbySFbcABGbcBBI0IYLBHGDBOSBCBBBBBBBBBBBBBBbcCBPBBc@Cd8byRfSbySFbcABGbcBBI0IYLBHGDBOSBCBBB" ++
  "BBBBBBBBBBBbcCBPBBc@Cd8byRfSbySFbcABGbcBBI0IYLBHGDBOSBCBBBBBBBBBBBBBBbcCBPBBc@Cd8byRfSbySFbcABGbcBBI0IYLBHGDBOSBCBBBBBBBBBBBBBBbcCBPBBc@Cd8byRfSbySQbcABGbcBBI0INLBQBO8BBBBBBBbcCBPbcDBTbcEBZbcGBb9bcHBb@bcIBcAbcJBcBbcKBcCbcLBcDbcMBcEbcNBcFbcOBcGBBc@Cd8byRfSbySQbcABGbcBBI0INLBQBO8BBBBBBBbcCBPbcDBTbcEBZbcGBb9bcHBb@bcIBcAbcJBcBbcKBcCbcLBcDbcMBcEbcNBcFbcOBcGBBc@Cd8byRfSbySQbcABGbcBBI0INLBQBO8BBBBBBBbcCBPbcDBTbcEBZbcGBb9bcHBb@bcIBcAbcJBcBbcKBcCbcLBcDbcMBcEbcNBcFbcOBcGBBc@Cd8byRfSbySQbcABGbcBBI0INLBQBO8BBBBBBBbcCBPbcDBTbcEBZbcGBb9bcHBb@bcIBcAbcJBcBbcKBcCbcLBcDbcMBcEbcNBcFbcOBcGBBc@Cd8byRfSbySQbcABGbcBBI0INLBQBO8BBBBBBBbcCBPbcDBTbcEBZbcGBb9bcHBb@bcIBcAbcJBcBbcKBcCbcLBcDbcMBcEbcNBcFbcOBcGBBc@Cd8byRfSbySQbcABGbcBBI0INLBQBO8BBBBBBBbcCBPbcDBTbcEBZbcGBb9bcHBb@bcIBcAbcJBcBbcKBcCbcLBcDbcMBcEbcNBcFbcOBcGBBc@Cd8byRfSbySWbcABGbcBBI0IHLBQBObCBbcCBPbcDBTbcEBZbcGBb9bcHBb@bcIBcAbcJBcBbcKBcCbcLBcDbcMBcEbcNBcFbcOBcGbcPBcHbcQBcIbcRBcJbcSBcKbcTBcLbcUBcMBBc@Cd8byRfSbySXbcABGbcBBI0IGLBQBObDbcCBPbcDBTbcEBZbcGBb9bcHBb@bcIBcAbcJBcBbcKBcCbcLBcDbcMBcEbcNBcFbcOBcGbcPBcHbcQBcIbcRBcJbcSBcKbcTBcLbcUBcMbcVBcNBBc@Cd8byRfSbySC0K7GCDBDEGDBOSBCBBBBBBBBBBBBBBBBc@ACbr7bNBBBDCDBDEECDBBBBBBBBBBBBBBOBEBCBBBBBBBBBBBBBBBBc@A9bXBIbYBOKBPhVBTNBUOBVQBYRB6SB7b6B8b7Bb7b8Bb8b9Bb9b@Bb@b$Bb$cABcAcBBcBhWBcPcDBcQcEBcScFBcWcGBcXcHBcYcIBcZcJBc6cKBc7cLBc8cMBc9BBc@9dZfXd6fYd7eOd9b6d@ePd$eQeAeReBeSeCb$eFcAeJeTeKcCeLcDfNbyVfOeVfPeWfTeXfUeYfVeZfWe6fXe7fYe8fZe9f9e@f@e$f$fAgAfBgFfCgGfDCbr7bNBBBDCDBDEECDBBBBBBBBBBBBBBOBEBCBBBBBBBBBBBBBBBBc@ACbr8JIBCBDBGDSBBc@AMdBBIi9BOi@BPi$BTNBUOBVQBYjAB6jBB7jCB8jDBcPBBc@OdZyQd6yRd7gNd9b6d@gOeAgPeBgQeCqCeFcAeIbzAeJgReKcCeLcDgAqDCbr9bNBBBDCDBDEECDBBBBBBBBBBBBBBOBEBCBBBBBBBBBBBBBBBBc@A@bXBIbYBOKBPcVBTNBUOBVhYBWQBYRB6SB7cWB8b7Bb7b8Bb8cXBb9cYBb@cZBb$c6BcAc7BcBcCBcPcDBcQcEBcScFBcWcGBcXcHBcYcIBcZcJBc6cKBc7cLBc8cMBc9BBc@bAdZfXd6fYd7eOd9b6d@ePd$eQeAeReBeSeCb$eFcAeJeTeKcCeLcDfNyVfOeVfPeWfTeXfUeYfVeZfWe6fXe7fYe8fZe9f6yWf7bzFf8bzGf9e@f@e$f$fAgAfBgFfCgGfDCbr9bNBBBDCDBDEECDBBBBBBBBBBBBBBOBEBCBBBBBBBBBBBBBBBBc@ACbr@bNBBBDCDBDEECDBBBBBBBBBBBBBBOBEBCBBBBBBBBBBBBBBBBc@ACbr@bNBBBDCDBDEECDBBBBBBBBBBBBBBOBEBCBBBBBBBBBBBBBBBBc@ACbr@bNBBBDCDBDEECDBBBBBBBBBBBBBBOBEBCBBBBBBBBBBBBBBBBc@ACbr@bNBBBDCDBDEECDBBBBBBBBBBBBBBOBEBCBBBBBBBBBBBBBBBBc@ACbr$bNBBBDCDBDEECDBBBBBBBBBBBBBBOBEBCBBBBBBBBBBBBBBBBc@A9bXBIbYBOKBPhVBTNBUOBVQBYRB6SB7b6B8b7Bb7b8Bb8b9Bb9b@Bb@b$Bb$cABcAcBBcBhWBcPcDBcQcEBcScFBcWcGBcXcHBcYcIBcZcJBc6cKBc7cLBc8cMBc9BBc@@dZfXd6fYd7eOd9b6d@ePd$eQeAeReBeSeCb$eFcAeJeTeKcCeLcDfNb0CfOeVfPeWfQb0DfTeXfUeYfVeZfWe6fXe7fYe8fZe9f9e@f@e$f$fAgAfBgFfCgGfDCbr$bNBBBDCDBDEECDBBBBBBBBBBBBBBOBEBCBBBBBBBBBBBBBBBBc@ACk$bEGCDBDEGEDBBBBBBBBBBTBCBBBBBBBBBBBBBBBBc@ACbsABXBBc@AC3GbEGCDBDEGEDBBBBBBBBBBTBCBBBBBBBBBBBBBBBBc@AC3GbEGCDBDEGEDBBBBBBBBBBTBCBBBBBBBBBBBBBBBBc@ACbc7bEGCDBDEGEDBBBBBBBBBBTBCBBBBBBBBBBBBBBBBc@A@bXBIbsBBJbYBOKBPhVBTNBUOBVQBYRB6SB7b6B8b7Bb7b8Bb8b9Bb9b@Bb@b$Bb$cABcAcBBcBhWBcPcDBcQcEBcScFBcWcGBcXcHBcYcIBcZcJBc6cKBc7cLBc8cMBc9BBc@9dZfXd6fYd7eOd9b6d@ePd$eQeAeReBeSeCb$eFcAeJeTeKcCeLcDfNbyVfOeVfPeWfTeXfUeYfVeZfWe6fXe7fYe8fZe9f9e@f@e$f$fAgAfBgFfCgGfDDbsCBJbsDBLBBc@BgRbyYCbc7bEGCDBDEGEDBBBBBBBBBBTBCBBBBBBBBBBBBBBBBc@A@bXBIbsEBJbYBOKBPhVBTNBUOBVQBYRB6SB7b6B8b7Bb7b8Bb8b9Bb9b@Bb@b$Bb$cABcAcBBcBhWBcPcDBcQcEBcScFBcWcGBcXcHBcYcIBcZcJBc6cKBc7cLBc8cMBc9BBc@9dZfXd6fYd7eOd9b6d@ePd$eQeAeReBeSeCb$eFcAeJeTeKcCeLcDfNbyVfOeVfPeWfTeXfUeYfVeZfWe6fXe7fYe8fZe9f9e@f@e$f$fAgAfBgFfCgGfDDbsFBJbsGBLBBc@BgRbyYCbdGbEGCDBDEGEDBBBBBBBBBBTBCBBBBBBBBBBBBBBBBc@A$bXBIbYBOKBPcVBTNBUOBVhYBWbsHBXQBYRB6SB7cWB8b7Bb7b8Bb8cXBb9cYBb@cZBb$c6BcAc7BcBcCBcPcDBcQcEBcScFBcWcGBcXcHBcYcIBcZcJBc6cKBc7cLBc8cMBc9BBc@bAdZfXd6fYd7eOd9b6d@ePd$eQeAeReBeSeCb$eFcAeJeTeKcCeLcDfNyVfOeVfPeWfTeXfUeYfVeZfWe6fXe7fYe8fZe9f6yWf7bzFf8bzGf9e@f@e$f$fAgAfBgFfCgGfDCbdGbEGCDBDEGEDBBBBBBBBBBTBCBBBBBBBBBBBBBBBBc@ADbsIBLbsJBXBBc@Bg9bzK$bXBIbYBOKBPcVBTNBUOBVhYBWbsKBXQBYRB6SB7cWB8b7Bb7b8Bb8cXBb9cYBb@cZBb$c6BcAc7BcBcCBcPcDBcQcEBcScFBcWcGBcXcHBcYcIBcZcJBc6cKBc7cLBc8cMBc9BBc@bAdZfXd6fYd7eOd9b6d@ePd$eQeAeReBeSeCb$eFcAeJeTeKcCeLcDfNyVfOeVfPeWfTeXfUeYfVeZfWe6fXe7fYe8fZe9f6yWf7bz" ++
  "Ff8bzGf9e@f@e$f$fAgAfBgFfCgGfDCbdGbEGCDBDEGEDBBBBBBBBBBTBCBBBBBBBBBBBBBBBBc@ADbsLBLbsMBXBBc@Bg9bzKCbdNbEGCDBDEGEDBBBBBBBBBBTBCBBBBBBBBBBBBBBBBc@ACbsNBJBBc@ANdBBIi9BOi@BPbsOBQi$BTNBUOBVQBYjAB6jBB7jCB8jDBcPBBc@NdZbzQd6bzRd7gNd9b6d@gOeAgPeBgQeCqCeFcAeJgReKcCeLcDgAqDCbdQbEGCDBDEGEDBBBBBBBBBBTBCBBBBBBBBBBBBBBBBc@ADbsPBLbsQBQBBc@Bg6bzUNdBBIi9BOi@BPbsRBQi$BTNBUOBVQBYjAB6jBB7jCB8jDBcPBBc@NdZbzQd6bzRd7gNd9b6d@gOeAgPeBgQeCqCeFcAeJgReKcCeLcDgAqDCbdQbEGCDBDEGEDBBBBBBBBBBTBCBBBBBBBBBBBBBBBBc@ADbsSBLbsTBQBBc@Bg6bzUCbdNbEGCDBDEGEDBBBBBBBBBBTBCBBBBBBBBBBBBBBBBc@ACbsUBJBBc@ANdBBIi9BOi@BPbsVBQi$BTNBUOBVQBYjAB6jBB7jCB8jDBcPBBc@NdZbzQd6bzRd7gNd9b6d@gOeAgPeBgQeCqCeFcAeJgReKcCeLcDgAqDCbdQbEGCDBDEGEDBBBBBBBBBBTBCBBBBBBBBBBBBBBBBc@ADbsWBLbsXBQBBc@Bg6bzUNdBBIi9BOi@BPbsYBQi$BTNBUOBVQBYjAB6jBB7jCB8jDBcPBBc@NdZbzQd6bzRd7gNd9b6d@gOeAgPeBgQeCqCeFcAeJgReKcCeLcDgAqDCbdQbEGCDBDEGEDBBBBBBBBBBTBCBBBBBBBBBBBBBBBBc@ADbsZBLbs6BQBBc@Bg6bzUCbs7BJBBc@ACbs8BJBBc@ACbd$bEGCDBDEGEDBBBBBBBBBBTBCBBBBBBBBBBBBBBBBc@A@bXBIbs9BJbYBOKBPhVBTNBUOBVQBYRB6SB7b6B8b7Bb7b8Bb8b9Bb9b@Bb@b$Bb$cABcAcBBcBhWBcPcDBcQcEBcScFBcWcGBcXcHBcYcIBcZcJBc6cKBc7cLBc8cMBc9BBc@@dZfXd6fYd7eOd9b6d@ePd$eQeAeReBeSeCb$eFcAeJeTeKcCeLcDfNb0CfOeVfPeWfQb0DfTeXfUeYfVeZfWe6fXe7fYe8fZe9f9e@f@e$f$fAgAfBgFfCgGfDDbs@BJbs$BLBBc@Bg8b0GCbd$bEGCDBDEGEDBBBBBBBBBBTBCBBBBBBBBBBBBBBBBc@A@bXBIbtABJbYBOKBPhVBTNBUOBVQBYRB6SB7b6B8b7Bb7b8Bb8b9Bb9b@Bb@b$Bb$cABcAcBBcBhWBcPcDBcQcEBcScFBcWcGBcXcHBcYcIBcZcJBc6cKBc7cLBc8cMBc9BBc@@dZfXd6fYd7eOd9b6d@ePd$eQeAeReBeSeCb$eFcAeJeTeKcCeLcDfNb0CfOeVfPeWfQb0DfTeXfUeYfVeZfWe6fXe7fYe8fZe9f9e@f@e$f$fAgAfBgFfCgGfDDbtBBJbtCBLBBc@Bg8b0GCbeSbEGCDBDEGEDBBBBBBBBBBTBCBBBBBBBBBBBBBBBBc@AZiCBGiDBIiFBPbtDBQj9BTj@BZbtEBbLj$Bb9kABb@kBBcAkCBcBkDBcCkEBcDkFBcEkGBcFkHBcGkIBcHkJBcIkKBcJkLBcKkMBcLkNBcMkOBcNkPBcOBBc@Cd8pRfSpSCbeVbEGCDBDEGEDBBBBBBBBBBTBCBBBBBBBBBBBBBBBBc@A@bXBIbYBOKBPbtFBQcVBTNBUOBVQBYRB6SB7cWB8b7Bb7b8Bb8cXBb9cYBb@cZBb$c6BcAc7BcBcCBcPcDBcQcEBcScFBcWcGBcXcHBcYcIBcZcJBc6cKBc7cLBc8cMBc9BBc@9dZfXd6fYd7eOd9b6d@ePd$eQeAeReBeSeCb$eFcAeJeTeKcCeLcDfNclNfOeVfPeWfTeXfUeYfVeZfWe6fXe7fYe8fZe9f9e@f@e$f$fAgAfBgFfCgGfDYiCBGiDBIiFBPbtGBQj9BTj@BZj$Bb9kABb@kBBcAkCBcBkDBcCkEBcDkFBcEkGBcFkHBcGkIBcHkJBcIkKBcJkLBcKkMBcLkNBcMkOBcNkPBcOBBc@Cd8pRfSpSCbtHbNBBBDCDBDEECDBBBBBBBBBBBBBBOBEBCBBBBBBBBBBBBBBBBc@A9bXBIbYBOKBPcVBTNBUOBVQBYRB6SB7cWB8b7Bb7b8Bb8cXBb9cYBb@cZBb$c6BcAc7BcBcCBcPcDBcQcEBcScFBcWcGBcXcHBcYcIBcZcJBc6cKBc7cLBc8cMBc9BBc@9dZfXd6fYd7eOd9b6d@ePd$eQeAeReBeSeCb$eFcAeJeTeKcCeLcDfNclPfOeVfPeWfTeXfUeYfVeZfWe6fXe7fYe8fZe9f9e@f@e$f$fAgAfBgFfCgGfDCbr7bACECBCBDBBCDBCEOSBCBBBBBBBBBBBBBBBBc@ACbr7bACECBCBDBBCDBCEOSBCBBBBBBBBBBBBBBBBc@ACbr9bACECBCBDBBCDBCEOSBCBBBBBBBBBBBBBBBBc@ACbr9bACECBCBDBBCDBCEOSBCBBBBBBBBBBBBBBBBc@ACbr@bACECBCBDBBCDBCEOSBCBBBBBBBBBBBBBBBBc@ACbr@bACECBCBDBBCDBCEOSBCBBBBBBBBBBBBBBBBc@ACbr@bACECBCBDBBCDBCEOSBCBBBBBBBBBBBBBBBBc@ACbr@bACECBCBDBBCDBCEOSBCBBBBBBBBBBBBBBBBc@ACbr$bACECBCBDBBCDBCEOSBCBBBBBBBBBBBBBBBBc@ACbr$bACECBCBDBBCDBCEOSBCBBBBBBBBBBBBBBBBc@AYiCBGiDBIiFBPbtIBQj9BTj@BZj$Bb9kABb@kBBcAkCBcBkDBcCkEBcDkFBcEkGBcFkHBcGkIBcHkJBcIkKBcJkLBcKkMBcLkNBcMkOBcNkPBcOBBc@Cd8pRfSpSCbtHbACECBCBDBBCDBCEOSBCBBBBBBBBBBBBBBBBc@A9bXBIbYBOKBPcVBTNBUOBVQBYRB6SB7cWB8b7Bb7b8Bb8cXBb9cYBb@cZBb$c6BcAc7BcBcCBcPcDBcQcEBcScFBcWcGBcXcHBcYcIBcZcJBc6cKBc7cLBc8cMBc9BBc@9dZfXd6fYd7eOd9b6d@ePd$eQeAeReBeSeCb$eFcAeJeTeKcCeLcDfNclRfOeVfPeWfTeXfUeYfVeZfWe6fXe7fYe8fZe9f9e@f@e$f$fAgAfBgFfCgGfDCbh7NABBBJDHBC$BXCBBc@ACbh7NABBBJDHBC$BXCBBc@ACbh7NABBBJDHBC$BXCBBc@AFkWBTOBVbtJBXkYBcPBBc@Ed7sXeCsYeEbrCgAs6FkWBTOBVbtKBXkYBcPBBc@Ed7sXeCsYeEbrEgAs6FkWBTOBVbtLBXkYBcPBBc@Ed7sXeCsYeEbrGgAs6Cbh7NABBBJDHBC$BXCBBc@AMjGBIs@BOs$BPtABTjMBUjNBVjOBYtBB6tCB7tDB8tEBcPBBc@NdZchJd6chKd7qXd9qYd@qZeAq6eBq7eC5DeFq9eJq@eKq$eLrAgA5EMjGBIs@BOs$BPtABTjMBUjNBVjOBYtBB6tCB7tDB8tEBcPBBc@NdZchLd6chMd7qXd9qYd@qZeAq6eBq7eC5DeFq9eJq@eKq$eLrAgA5ECbiHNABBBJDHBC$BXCBBc@ACbiHNABBBJDHBC$BXCBBc@ACbiHNABBBJDHBC$BXCBBc@ANjGBIjJBOjKBPjLBTjMBUjNBVbtMBXjOBYjPB6jQB7jRB8lHBcPBBc@PdZtJd6tKd7qXd9qYd@qZeAq6eBq7eCq8eFq9eHbrYeIbrZeJq@eKq$eLrAgArBNjGBIjJBOjKBPjLBTjMBUjNBVbtNBXjOBYjPB6jQB7jRB8lHBcPBBc@PdZ" ++
  "tJd6tKd7qXd9qYd@qZeAq6eBq7eCq8eFq9eHbr7eIbr8eJq@eKq$eLrAgArBNjGBIjJBOjKBPjLBTjMBUjNBVbtOBXjOBYjPB6jQB7jRB8lHBcPBBc@PdZtJd6tKd7qXd9qYd@qZeAq6eBq7eCq8eFq9eHbr@eIbr$eJq@eKq$eLrAgArBCbiHNABBBJDHBC$BXCBBc@ACbiHNABBBJDHBC$BXCBBc@ACbiHNABBBJDHBC$BXCBBc@ACbiHNABBBJDHBC$BXCBBc@ANjGBIjJBOjKBPjLBTjMBUjNBVbtPBXjOBYjPB6jQB7jRB8lHBcPBBc@PdZtJd6tKd7qXd9qYd@qZeAq6eBq7eCq8eFq9eHbrYeIbrZeJq@eKq$eLrAgArBNjGBIjJBOjKBPjLBTjMBUjNBVbtQBXjOBYjPB6jQB7jRB8lHBcPBBc@PdZtJd6tKd7qXd9qYd@qZeAq6eBq7eCq8eFq9eHbr7eIbr8eJq@eKq$eLrAgArBNjGBIjJBOjKBPjLBTjMBUjNBVbtRBXjOBYjPB6jQB7jRB8lHBcPBBc@PdZtJd6tKd7qXd9qYd@qZeAq6eBq7eCq8eFq9eHbr@eIbr$eJq@eKq$eLrAgArBCbiHNABBBJDHBC$BXCBBc@ACbiSNABBBJDHBC$BXCBBc@ACbiSNABBBJDHBC$BXCBBc@ACbiSNABBBJDHBC$BXCBBc@ACbiSNABBBJDHBC$BXCBBc@ACbmHNABBBJDHBC$BXCBBc@ANdBBIi9BOi@BPbtSBQi$BTNBUOBVQBYjAB6jBB7jCB8jDBcPBBc@OdZyQd6yRd7gNd9b6d@gOeAgPeBgQeCqCeFcAeIbzAeJgReKcCeLcDgAqDCbmHNABBBJDHBC$BXCBBc@ACbpJXABBBFECBEBBBBBBBBB8BWBCBBc@ACbpJXABBBFECBEBBBBBBBBB8BWBCBBc@ACbtTLIGBEBBDCBBbTBBc@ACt7BcPBBc@BdPb4XCbr79BBBDCDEEEC$BEBCBBBBBBBBBBBBBBBBc@ACbr79BBBDCDEEEC$BEBCBBBBBBBBBBBBBBBBc@ACbr99BBBDCDEEEC$BEBCBBBBBBBBBBBBBBBBc@ACbr99BBBDCDEEEC$BEBCBBBBBBBBBBBBBBBBc@ACbr@9BBBDCDEEEC$BEBCBBBBBBBBBBBBBBBBc@ACbr@9BBBDCDEEEC$BEBCBBBBBBBBBBBBBBBBc@ACbr@9BBBDCDEEEC$BEBCBBBBBBBBBBBBBBBBc@ACbr@9BBBDCDEEEC$BEBCBBBBBBBBBBBBBBBBc@ACbr$9BBBDCDEEEC$BEBCBBBBBBBBBBBBBBBBc@ACbr$9BBBDCDEEEC$BEBCBBBBBBBBBBBBBBBBc@AYiCBGiDBIiFBPbtUBQj9BTj@BZj$Bb9kABb@kBBcAkCBcBkDBcCkEBcDkFBcEkGBcFkHBcGkIBcHkJBcIkKBcJkLBcKkMBcLkNBcMkOBcNkPBcOBBc@Cd8pRfSpSCbtH9BBBDCDEEEC$BEBCBBBBBBBBBBBBBBBBc@A9bXBIbYBOKBPcVBTNBUOBVQBYRB6SB7cWB8b7Bb7b8Bb8cXBb9cYBb@cZBb$c6BcAc7BcBcCBcPcDBcQcEBcScFBcWcGBcXcHBcYcIBcZcJBc6cKBc7cLBc8cMBc9BBc@9dZfXd6fYd7eOd9b6d@ePd$eQeAeReBeSeCb$eFcAeJeTeKcCeLcDfNcl9fOeVfPeWfTeXfUeYfVeZfWe6fXe7fYe8fZe9f9e@f@e$f$fAgAfBgFfCgGfDCbr7bJCECDBDEDDDBBBBBBBBBBBBBBTBCBBBBBBBBBBBBBBBBc@ACbr7bJCECDBDEDDDBBBBBBBBBBBBBBTBCBBBBBBBBBBBBBBBBc@ACbr@bJCECDBDEDDDBBBBBBBBBBBBBBTBCBBBBBBBBBBBBBBBBc@ACbr@bJCECDBDEDDDBBBBBBBBBBBBBBTBCBBBBBBBBBBBBBBBBc@ACbr@bJCECDBDEDDDBBBBBBBBBBBBBBTBCBBBBBBBBBBBBBBBBc@ACbr@bJCECDBDEDDDBBBBBBBBBBBBBBTBCBBBBBBBBBBBBBBBBc@ACbr9bJCECDBDEDDDBBBBBBBBBBBBBBTBCBBBBBBBBBBBBBBBBc@ACbr9bJCECDBDEDDDBBBBBBBBBBBBBBTBCBBBBBBBBBBBBBBBBc@ACbtVGBBBUbBBBBc@ACbtVGBBBUbBBBBc@ACbr$bJCECDBDEDDDBBBBBBBBBBBBBBTBCBBBBBBBBBBBBBBBBc@ACbr$bJCECDBDEDDDBBBBBBBBBBBBBBTBCBBBBBBBBBBBBBBBBc@AYiCBGiDBIiFBPbtWBQj9BTj@BZj$Bb9kABb@kBBcAkCBcBkDBcCkEBcDkFBcEkGBcFkHBcGkIBcHkJBcIkKBcJkLBcKkMBcLkNBcMkOBcNkPBcOBBc@Cd8pRfSpSCbtHbJCECDBDEDDDBBBBBBBBBBBBBBTBCBBBBBBBBBBBBBBBBc@A9bXBIbYBOKBPcVBTNBUOBVQBYRB6SB7cWB8b7Bb7b8Bb8cXBb9cYBb@cZBb$c6BcAc7BcBcCBcPcDBcQcEBcScFBcWcGBcXcHBcYcIBcZcJBc6cKBc7cLBc8cMBc9BBc@9dZfXd6fYd7eOd9b6d@ePd$eQeAeReBeSeCb$eFcAeJeTeKcCeLcDfNcl$fOeVfPeWfTeXfUeYfVeZfWe6fXe7fYe8fZe9f9e@f@e$f$fAgAfBgFfCgGfD9bXBIbYBOKBPoABTNBUOBVQBYRB6SB7oBB8b7Bb7b8Bb8oCBb9oDBb@oEBb$oFBcAoGBcBoHBcPcDBcQcEBcScFBcWcGBcXcHBcYcIBcZcJBc6cKBc7cLBc8cMBc9BBc@9dZfXd6fYd7eOd9b6d@ePd$eQeAeReBeSeCb$eFcAeJeTeKcCeLcDfNcmAfOeVfPeWfTeXfUeYfVeZfWe6fXe7fYe8fZe9f9e@f@e$f$fAgAfBgFfCgGfDDbqPBLqCBWBBc@BgRcmBCbtXBJBBc@ADbtYBIsDBcPBBc@ACbtZBJBBc@ACbt6GBBBUbBBBBc@ACbt7DXbBBBBc@AbODBCGBIHBKIBNc@BOKBPLBSMBTNBUOBVPBWbt8DXbBBQBYRB6SB7TB8UBbMVBbNWBbOXBbPYBbQZBbR6BbS7BbT8BbV9BbX@Bb6$Bb7bABb8bBBb9bCBb@bDBb$bEBcAbFBcBdIBcPbHBcQbIBcSbJBcWbKBcXbLBcYbMBcZbNBc6bOBc7bPBc8bQBc9BBc@b7dGbTdHbTdJbTdUbTdXbWdZbXd6bYd7bZd9b6d@b7d$b8eAb9eBb@eCb$eFcAeJcBeKcCeLcDeMcEeNcmFeOgWePcGeQcHeRcIeScJeUcKeVcLeWcMeXcNeYcOeZgXe6cPe7cQe8cRe9cSe@cTe$cUfAcVfBcWfCcXfFcYfIcZfLc6fNc7fOc8fPc9fTc@fUc$fVdAfWdBfXdCfYdDfZdEf9dFf@dGf$dHgAdIgFdJgGdKCbt7DXbBBBBc@AbODBCGBIHBKIBNc@BOKBPLBSMBTNBUOBVPBWbt8DXbBBQBYRB6SB7TB8UBbMVBbNWBbOXBbPYBbQZBbR6BbS7BbT8BbV9BbX@Bb6$Bb7bABb8bBBb9bCBb@bDBb$bEBcAbFBcBdIBcPbHBcQbIBcSbJBcWbKBcXbLBcYbMBcZbNBc6bOBc7bPBc8bQBc9BBc@b7dGbTdHbTdJbTdUbTdXbWdZbXd6bYd7bZd9b6d@b7d$b8eAb9eBb@eCb$eFcAeJcBeKcCeLcDeMcEeNcmGeOgWePcGeQcHeRcIeScJeUcKeVcLeWcMeXcNeYcOeZgXe6cPe7cQe8cRe9cSe@cTe$cUfAcVfBcWfCcXfFcYfIcZfLc6fNc7fOc8fPc9fTc@fUc$fVdAfWdBfXdCfYdDfZdEf9dFf@dGf$dHgAdIgFdJgGdKCk$7GCDBDE" ++
  "GDBOSBCBBBBBBBBBBBBBBBBc@ACbt9BXBBc@AC3G7GCDBDEGDBOSBCBBBBBBBBBBBBBBBBc@AC3G7GCDBDEGDBOSBCBBBBBBBBBBBBBBBBc@ACbc77GCDBDEGDBOSBCBBBBBBBBBBBBBBBBc@A@bXBIbt@BJbYBOKBPhVBTNBUOBVQBYRB6SB7b6B8b7Bb7b8Bb8b9Bb9b@Bb@b$Bb$cABcAcBBcBhWBcPcDBcQcEBcScFBcWcGBcXcHBcYcIBcZcJBc6cKBc7cLBc8cMBc9BBc@9dZfXd6fYd7eOd9b6d@ePd$eQeAeReBeSeCb$eFcAeJeTeKcCeLcDfNbyVfOeVfPeWfTeXfUeYfVeZfWe6fXe7fYe8fZe9f9e@f@e$f$fAgAfBgFfCgGfDDbt$BJbuABLBBc@BgRbyYCbc77GCDBDEGDBOSBCBBBBBBBBBBBBBBBBc@A@bXBIbuBBJbYBOKBPhVBTNBUOBVQBYRB6SB7b6B8b7Bb7b8Bb8b9Bb9b@Bb@b$Bb$cABcAcBBcBhWBcPcDBcQcEBcScFBcWcGBcXcHBcYcIBcZcJBc6cKBc7cLBc8cMBc9BBc@9dZfXd6fYd7eOd9b6d@ePd$eQeAeReBeSeCb$eFcAeJeTeKcCeLcDfNbyVfOeVfPeWfTeXfUeYfVeZfWe6fXe7fYe8fZe9f9e@f@e$f$fAgAfBgFfCgGfDDbuCBJbuDBLBBc@BgRbyYCbdG7GCDBDEGDBOSBCBBBBBBBBBBBBBBBBc@A$bXBIbYBOKBPcVBTNBUOBVhYBWbuEBXQBYRB6SB7cWB8b7Bb7b8Bb8cXBb9cYBb@cZBb$c6BcAc7BcBcCBcPcDBcQcEBcScFBcWcGBcXcHBcYcIBcZcJBc6cKBc7cLBc8cMBc9BBc@bAdZfXd6fYd7eOd9b6d@ePd$eQeAeReBeSeCb$eFcAeJeTeKcCeLcDfNyVfOeVfPeWfTeXfUeYfVeZfWe6fXe7fYe8fZe9f6yWf7bzFf8bzGf9e@f@e$f$fAgAfBgFfCgGfDCbdG7GCDBDEGDBOSBCBBBBBBBBBBBBBBBBc@ADbuFBLbuGBXBBc@Bg9bzK$bXBIbYBOKBPcVBTNBUOBVhYBWbuHBXQBYRB6SB7cWB8b7Bb7b8Bb8cXBb9cYBb@cZBb$c6BcAc7BcBcCBcPcDBcQcEBcScFBcWcGBcXcHBcYcIBcZcJBc6cKBc7cLBc8cMBc9BBc@bAdZfXd6fYd7eOd9b6d@ePd$eQeAeReBeSeCb$eFcAeJeTeKcCeLcDfNyVfOeVfPeWfTeXfUeYfVeZfWe6fXe7fYe8fZe9f6yWf7bzFf8bzGf9e@f@e$f$fAgAfBgFfCgGfDCbdG7GCDBDEGDBOSBCBBBBBBBBBBBBBBBBc@ADbuIBLbuJBXBBc@Bg9bzKCbdN7GCDBDEGDBOSBCBBBBBBBBBBBBBBBBc@ACbuKBJBBc@ANdBBIi9BOi@BPbuLBQi$BTNBUOBVQBYjAB6jBB7jCB8jDBcPBBc@NdZbzQd6bzRd7gNd9b6d@gOeAgPeBgQeCqCeFcAeJgReKcCeLcDgAqDCbdQ7GCDBDEGDBOSBCBBBBBBBBBBBBBBBBc@ADbuMBLbuNBQBBc@Bg6bzUNdBBIi9BOi@BPbuOBQi$BTNBUOBVQBYjAB6jBB7jCB8jDBcPBBc@NdZbzQd6bzRd7gNd9b6d@gOeAgPeBgQeCqCeFcAeJgReKcCeLcDgAqDCbdQ7GCDBDEGDBOSBCBBBBBBBBBBBBBBBBc@ADbuPBLbuQBQBBc@Bg6bzUCbdN7GCDBDEGDBOSBCBBBBBBBBBBBBBBBBc@ACbuRBJBBc@ANdBBIi9BOi@BPbuSBQi$BTNBUOBVQBYjAB6jBB7jCB8jDBcPBBc@NdZbzQd6bzRd7gNd9b6d@gOeAgPeBgQeCqCeFcAeJgReKcCeLcDgAqDCbdQ7GCDBDEGDBOSBCBBBBBBBBBBBBBBBBc@ADbuTBLbuUBQBBc@Bg6bzUNdBBIi9BOi@BPbuVBQi$BTNBUOBVQBYjAB6jBB7jCB8jDBcPBBc@NdZbzQd6bzRd7gNd9b6d@gOeAgPeBgQeCqCeFcAeJgReKcCeLcDgAqDCbdQ7GCDBDEGDBOSBCBBBBBBBBBBBBBBBBc@ADbuWBLbuXBQBBc@Bg6bzUCbuYBJBBc@ACbuZBJBBc@ACbd$7GCDBDEGDBOSBCBBBBBBBBBBBBBBBBc@A@bXBIbu6BJbYBOKBPhVBTNBUOBVQBYRB6SB7b6B8b7Bb7b8Bb8b9Bb9b@Bb@b$Bb$cABcAcBBcBhWBcPcDBcQcEBcScFBcWcGBcXcHBcYcIBcZcJBc6cKBc7cLBc8cMBc9BBc@@dZfXd6fYd7eOd9b6d@ePd$eQeAeReBeSeCb$eFcAeJeTeKcCeLcDfNb0CfOeVfPeWfQb0DfTeXfUeYfVeZfWe6fXe7fYe8fZe9f9e@f@e$f$fAgAfBgFfCgGfDDbu7BJbu8BLBBc@Bg8b0GCbd$7GCDBDEGDBOSBCBBBBBBBBBBBBBBBBc@A@bXBIbu9BJbYBOKBPhVBTNBUOBVQBYRB6SB7b6B8b7Bb7b8Bb8b9Bb9b@Bb@b$Bb$cABcAcBBcBhWBcPcDBcQcEBcScFBcWcGBcXcHBcYcIBcZcJBc6cKBc7cLBc8cMBc9BBc@@dZfXd6fYd7eOd9b6d@ePd$eQeAeReBeSeCb$eFcAeJeTeKcCeLcDfNb0CfOeVfPeWfQb0DfTeXfUeYfVeZfWe6fXe7fYe8fZe9f9e@f@e$f$fAgAfBgFfCgGfDDbu@BJbu$BLBBc@Bg8b0GCbeS7GCDBDEGDBOSBCBBBBBBBBBBBBBBBBc@AZiCBGiDBIiFBPbvABQj9BTj@BZbvBBbLj$Bb9kABb@kBBcAkCBcBkDBcCkEBcDkFBcEkGBcFkHBcGkIBcHkJBcIkKBcJkLBcKkMBcLkNBcMkOBcNkPBcOBBc@Cd8pRfSpSCbeV7GCDBDEGDBOSBCBBBBBBBBBBBBBBBBc@A@bXBIbYBOKBPbvCBQcVBTNBUOBVQBYRB6SB7cWB8b7Bb7b8Bb8cXBb9cYBb@cZBb$c6BcAc7BcBcCBcPcDBcQcEBcScFBcWcGBcXcHBcYcIBcZcJBc6cKBc7cLBc8cMBc9BBc@9dZfXd6fYd7eOd9b6d@ePd$eQeAeReBeSeCb$eFcAeJeTeKcCeLcDfNcnNfOeVfPeWfTeXfUeYfVeZfWe6fXe7fYe8fZe9f9e@f@e$f$fAgAfBgFfCgGfDCuVbEGCDBDEGEDBBBBBBBBBBTBCBBBBBBBBBBBBBBBBc@ACbmCbEGCDBDEGEDBBBBBBBBBBTBCBBBBBBBBBBBBBBBBc@ACbmCbEGCDBDEGEDBBBBBBBBBBTBCBBBBBBBBBBBBBBBBc@A@bXBIbvDBJbYBOKBPhVBTNBUOBVQBYRB6SB7b6B8b7Bb7b8Bb8b9Bb9b@Bb@b$Bb$cABcAcBBcBhWBcPcDBcQcEBcScFBcWcGBcXcHBcYcIBcZcJBc6cKBc7cLBc8cMBc9BBc@9dZfXd6fYd7eOd9b6d@ePd$eQeAeReBeSeCb$eFcAeJeTeKcCeLcDfNbyVfOeVfPeWfTeXfUeYfVeZfWe6fXe7fYe8fZe9f9e@f@e$f$fAgAfBgFfCgGfDCbmCbEGCDBDEGEDBBBBBBBBBBTBCBBBBBBBBBBBBBBBBc@ACbmCbEGCDBDEGEDBBBBBBBBBBTBCBBBBBBBBBBBBBBBBc@A@bXBIbvEBJbYBOKBPhVBTNBUOBVQBYRB6SB7b6B8b7Bb7b8Bb8b9Bb9b@Bb@b$Bb$cABcAcBBcBhWBcPcDBcQcEBcScFBcWcGBcXcHBcYcIBcZcJBc6cKBc7cLBc8cMBc9BBc@9dZfXd6fYd7eOd9b6d@ePd$eQeAeReBeSeCb$eFcAeJeTeKcCeLcDfNbyVfOeVfPeWfTeXfUeYfVeZfWe6fXe7fYe8fZe9" ++
  "f9e@f@e$f$fAgAfBgFfCgGfDCbmLbEGCDBDEGEDBBBBBBBBBBTBCBBBBBBBBBBBBBBBBc@A$bXBIbYBOKBPcVBTNBUOBVhYBWbvFBXQBYRB6SB7cWB8b7Bb7b8Bb8cXBb9cYBb@cZBb$c6BcAc7BcBcCBcPcDBcQcEBcScFBcWcGBcXcHBcYcIBcZcJBc6cKBc7cLBc8cMBc9BBc@bAdZfXd6fYd7eOd9b6d@ePd$eQeAeReBeSeCb$eFcAeJeTeKcCeLcDfNyVfOeVfPeWfTeXfUeYfVeZfWe6fXe7fYe8fZe9f6yWf7bzFf8bzGf9e@f@e$f$fAgAfBgFfCgGfDCbmLbEGCDBDEGEDBBBBBBBBBBTBCBBBBBBBBBBBBBBBBc@ACbmLbEGCDBDEGEDBBBBBBBBBBTBCBBBBBBBBBBBBBBBBc@A$bXBIbYBOKBPcVBTNBUOBVhYBWbvGBXQBYRB6SB7cWB8b7Bb7b8Bb8cXBb9cYBb@cZBb$c6BcAc7BcBcCBcPcDBcQcEBcScFBcWcGBcXcHBcYcIBcZcJBc6cKBc7cLBc8cMBc9BBc@bAdZfXd6fYd7eOd9b6d@ePd$eQeAeReBeSeCb$eFcAeJeTeKcCeLcDfNyVfOeVfPeWfTeXfUeYfVeZfWe6fXe7fYe8fZe9f6yWf7bzFf8bzGf9e@f@e$f$fAgAfBgFfCgGfDCbmLbEGCDBDEGEDBBBBBBBBBBTBCBBBBBBBBBBBBBBBBc@ACbmRbEGCDBDEGEDBBBBBBBBBBTBCBBBBBBBBBBBBBBBBc@ACbmSbEGCDBDEGEDBBBBBBBBBBTBCBBBBBBBBBBBBBBBBc@ANdBBIi9BOi@BPbvHBQi$BTNBUOBVQBYjAB6jBB7jCB8jDBcPBBc@NdZbzQd6bzRd7gNd9b6d@gOeAgPeBgQeCqCeFcAeJgReKcCeLcDgAqDCbmSbEGCDBDEGEDBBBBBBBBBBTBCBBBBBBBBBBBBBBBBc@ACbmSbEGCDBDEGEDBBBBBBBBBBTBCBBBBBBBBBBBBBBBBc@ANdBBIi9BOi@BPbvIBQi$BTNBUOBVQBYjAB6jBB7jCB8jDBcPBBc@NdZbzQd6bzRd7gNd9b6d@gOeAgPeBgQeCqCeFcAeJgReKcCeLcDgAqDCbmSbEGCDBDEGEDBBBBBBBBBBTBCBBBBBBBBBBBBBBBBc@ACbmRbEGCDBDEGEDBBBBBBBBBBTBCBBBBBBBBBBBBBBBBc@ACbmSbEGCDBDEGEDBBBBBBBBBBTBCBBBBBBBBBBBBBBBBc@ANdBBIi9BOi@BPbvJBQi$BTNBUOBVQBYjAB6jBB7jCB8jDBcPBBc@NdZbzQd6bzRd7gNd9b6d@gOeAgPeBgQeCqCeFcAeJgReKcCeLcDgAqDCbmSbEGCDBDEGEDBBBBBBBBBBTBCBBBBBBBBBBBBBBBBc@ACbmSbEGCDBDEGEDBBBBBBBBBBTBCBBBBBBBBBBBBBBBBc@ANdBBIi9BOi@BPbvKBQi$BTNBUOBVQBYjAB6jBB7jCB8jDBcPBBc@NdZbzQd6bzRd7gNd9b6d@gOeAgPeBgQeCqCeFcAeJgReKcCeLcDgAqDCbmSbEGCDBDEGEDBBBBBBBBBBTBCBBBBBBBBBBBBBBBBc@ACbmZbEGCDBDEGEDBBBBBBBBBBTBCBBBBBBBBBBBBBBBBc@ACbmZbEGCDBDEGEDBBBBBBBBBBTBCBBBBBBBBBBBBBBBBc@ACbm6bEGCDBDEGEDBBBBBBBBBBTBCBBBBBBBBBBBBBBBBc@ACbm6bEGCDBDEGEDBBBBBBBBBBTBCBBBBBBBBBBBBBBBBc@A@bXBIbvLBJbYBOKBPhVBTNBUOBVQBYRB6SB7b6B8b7Bb7b8Bb8b9Bb9b@Bb@b$Bb$cABcAcBBcBhWBcPcDBcQcEBcScFBcWcGBcXcHBcYcIBcZcJBc6cKBc7cLBc8cMBc9BBc@@dZfXd6fYd7eOd9b6d@ePd$eQeAeReBeSeCb$eFcAeJeTeKcCeLcDfNb0CfOeVfPeWfQb0DfTeXfUeYfVeZfWe6fXe7fYe8fZe9f9e@f@e$f$fAgAfBgFfCgGfDCbm6bEGCDBDEGEDBBBBBBBBBBTBCBBBBBBBBBBBBBBBBc@ACbm6bEGCDBDEGEDBBBBBBBBBBTBCBBBBBBBBBBBBBBBBc@A@bXBIbvMBJbYBOKBPhVBTNBUOBVQBYRB6SB7b6B8b7Bb7b8Bb8b9Bb9b@Bb@b$Bb$cABcAcBBcBhWBcPcDBcQcEBcScFBcWcGBcXcHBcYcIBcZcJBc6cKBc7cLBc8cMBc9BBc@@dZfXd6fYd7eOd9b6d@ePd$eQeAeReBeSeCb$eFcAeJeTeKcCeLcDfNb0CfOeVfPeWfQb0DfTeXfUeYfVeZfWe6fXe7fYe8fZe9f9e@f@e$f$fAgAfBgFfCgGfDCbn8bEGCDBDEGEDBBBBBBBBBBTBCBBBBBBBBBBBBBBBBc@A9bXBIbYBOKBPcVBTNBUOBVQBYRB6SB7cWB8b7Bb7b8Bb8cXBb9cYBb@cZBb$c6BcAc7BcBcCBcPcDBcQcEBcScFBcWcGBcXcHBcYcIBcZcJBc6cKBc7cLBc8cMBc9BBc@9dZfXd6fYd7eOd9b6d@ePd$eQeAeReBeSeCb$eFcAeJeTeKcCeLcDfNcnYfOeVfPeWfTeXfUeYfVeZfWe6fXe7fYe8fZe9f9e@f@e$f$fAgAfBgFfCgGfDCbn9bEGCDBDEGEDBBBBBBBBBBTBCBBBBBBBBBBBBBBBBc@AZiCBGiDBIiFBPbvNBQj9BTj@BZbvOBbLj$Bb9kABb@kBBcAkCBcBkDBcCkEBcDkFBcEkGBcFkHBcGkIBcHkJBcIkKBcJkLBcKkMBcLkNBcMkOBcNkPBcOBBc@Cd8pRfSpSCbvPbNBBBDCDBDEECDBBBBBBBBBBBBBBOBEBCBBBBBBBBBBBBBBBBc@AYiCBGiDBIiFBPbvQBQj9BTj@BZj$Bb9kABb@kBBcAkCBcBkDBcCkEBcDkFBcEkGBcFkHBcGkIBcHkJBcIkKBcJkLBcKkMBcLkNBcMkOBcNkPBcOBBc@Cd8pRfSpSCbvPbACECBCBDBBCDBCEOSBCBBBBBBBBBBBBBBBBc@AYiCBGiDBIiFBPbvRBQj9BTj@BZj$Bb9kABb@kBBcAkCBcBkDBcCkEBcDkFBcEkGBcFkHBcGkIBcHkJBcIkKBcJkLBcKkMBcLkNBcMkOBcNkPBcOBBc@Cd8pRfSpSCbpUNABBBJDHBC$BXCBBc@ACbpUNABBBJDHBC$BXCBBc@ACbpUNABBBJDHBC$BXCBBc@ACbpVNABBBJDHBC$BXCBBc@ACbpVNABBBJDHBC$BXCBBc@ACbpVNABBBJDHBC$BXCBBc@ACbpVNABBBJDHBC$BXCBBc@ACbpVNABBBJDHBC$BXCBBc@ACbpVNABBBJDHBC$BXCBBc@ACbr8NABBBJDHBC$BXCBBc@ACbvP9BBBDCDEEEC$BEBCBBBBBBBBBBBBBBBBc@AYiCBGiDBIiFBPbvSBQj9BTj@BZj$Bb9kABb@kBBcAkCBcBkDBcCkEBcDkFBcEkGBcFkHBcGkIBcHkJBcIkKBcJkLBcKkMBcLkNBcMkOBcNkPBcOBBc@Cd8pRfSpSCbvPbJCECDBDEDDDBBBBBBBBBBBBBBTBCBBBBBBBBBBBBBBBBc@AYiCBGiDBIiFBPbvTBQj9BTj@BZj$Bb9kABb@kBBcAkCBcBkDBcCkEBcDkFBcEkGBcFkHBcGkIBcHkJBcIkKBcJkLBcKkMBcLkNBcMkOBcNkPBcOBBc@Cd8pRfSpSYiCBGiDBIzQCLLiFBPwCBTwEBZwFBb9wGBb@wHBcAwIBcBwJBcCwKBcDwLBcEwMBcFwNBcGwOBcHwPBcIwQBcJwRBcKwSBcLwTBcMwUBcNwVBcOBBc@Cd8pRfSpSDbvUBLzQBWBBc@BgRcmBCbvVBWBBc@ANdBBIi9BOi@B" ++
  "PbvWBSi$BTNBUOBVQBYjAB6jBB7jCB8jDBcPBBc@NdZbn9d6bn@d7gNd9b6d@gOeAgPeBgQeCqCeFcAeJgReKcCeLcDgAqDCbvXBWBBc@ACbvYDXbBBBBc@ACbvYDXbBBBBc@ACuV7GCDBDEGDBOSBCBBBBBBBBBBBBBBBBc@ACbmC7GCDBDEGDBOSBCBBBBBBBBBBBBBBBBc@ACbmC7GCDBDEGDBOSBCBBBBBBBBBBBBBBBBc@A@bXBIbvZBJbYBOKBPhVBTNBUOBVQBYRB6SB7b6B8b7Bb7b8Bb8b9Bb9b@Bb@b$Bb$cABcAcBBcBhWBcPcDBcQcEBcScFBcWcGBcXcHBcYcIBcZcJBc6cKBc7cLBc8cMBc9BBc@9dZfXd6fYd7eOd9b6d@ePd$eQeAeReBeSeCb$eFcAeJeTeKcCeLcDfNbyVfOeVfPeWfTeXfUeYfVeZfWe6fXe7fYe8fZe9f9e@f@e$f$fAgAfBgFfCgGfDCbmC7GCDBDEGDBOSBCBBBBBBBBBBBBBBBBc@ACbmC7GCDBDEGDBOSBCBBBBBBBBBBBBBBBBc@A@bXBIbv6BJbYBOKBPhVBTNBUOBVQBYRB6SB7b6B8b7Bb7b8Bb8b9Bb9b@Bb@b$Bb$cABcAcBBcBhWBcPcDBcQcEBcScFBcWcGBcXcHBcYcIBcZcJBc6cKBc7cLBc8cMBc9BBc@9dZfXd6fYd7eOd9b6d@ePd$eQeAeReBeSeCb$eFcAeJeTeKcCeLcDfNbyVfOeVfPeWfTeXfUeYfVeZfWe6fXe7fYe8fZe9f9e@f@e$f$fAgAfBgFfCgGfDCbmL7GCDBDEGDBOSBCBBBBBBBBBBBBBBBBc@A$bXBIbYBOKBPcVBTNBUOBVhYBWbv7BXQBYRB6SB7cWB8b7Bb7b8Bb8cXBb9cYBb@cZBb$c6BcAc7BcBcCBcPcDBcQcEBcScFBcWcGBcXcHBcYcIBcZcJBc6cKBc7cLBc8cMBc9BBc@bAdZfXd6fYd7eOd9b6d@ePd$eQeAeReBeSeCb$eFcAeJeTeKcCeLcDfNyVfOeVfPeWfTeXfUeYfVeZfWe6fXe7fYe8fZe9f6yWf7bzFf8bzGf9e@f@e$f$fAgAfBgFfCgGfDCbmL7GCDBDEGDBOSBCBBBBBBBBBBBBBBBBc@ACbmL7GCDBDEGDBOSBCBBBBBBBBBBBBBBBBc@A$bXBIbYBOKBPcVBTNBUOBVhYBWbv8BXQBYRB6SB7cWB8b7Bb7b8Bb8cXBb9cYBb@cZBb$c6BcAc7BcBcCBcPcDBcQcEBcScFBcWcGBcXcHBcYcIBcZcJBc6cKBc7cLBc8cMBc9BBc@bAdZfXd6fYd7eOd9b6d@ePd$eQeAeReBeSeCb$eFcAeJeTeKcCeLcDfNyVfOeVfPeWfTeXfUeYfVeZfWe6fXe7fYe8fZe9f6yWf7bzFf8bzGf9e@f@e$f$fAgAfBgFfCgGfDCbmL7GCDBDEGDBOSBCBBBBBBBBBBBBBBBBc@ACbmR7GCDBDEGDBOSBCBBBBBBBBBBBBBBBBc@ACbmS7GCDBDEGDBOSBCBBBBBBBBBBBBBBBBc@ANdBBIi9BOi@BPbv9BQi$BTNBUOBVQBYjAB6jBB7jCB8jDBcPBBc@NdZbzQd6bzRd7gNd9b6d@gOeAgPeBgQeCqCeFcAeJgReKcCeLcDgAqDCbmS7GCDBDEGDBOSBCBBBBBBBBBBBBBBBBc@ACbmS7GCDBDEGDBOSBCBBBBBBBBBBBBBBBBc@ANdBBIi9BOi@BPbv@BQi$BTNBUOBVQBYjAB6jBB7jCB8jDBcPBBc@NdZbzQd6bzRd7gNd9b6d@gOeAgPeBgQeCqCeFcAeJgReKcCeLcDgAqDCbmS7GCDBDEGDBOSBCBBBBBBBBBBBBBBBBc@ACbmR7GCDBDEGDBOSBCBBBBBBBBBBBBBBBBc@ACbmS7GCDBDEGDBOSBCBBBBBBBBBBBBBBBBc@ANdBBIi9BOi@BPbv$BQi$BTNBUOBVQBYjAB6jBB7jCB8jDBcPBBc@NdZbzQd6bzRd7gNd9b6d@gOeAgPeBgQeCqCeFcAeJgReKcCeLcDgAqDCbmS7GCDBDEGDBOSBCBBBBBBBBBBBBBBBBc@ACbmS7GCDBDEGDBOSBCBBBBBBBBBBBBBBBBc@ANdBBIi9BOi@BPbwABQi$BTNBUOBVQBYjAB6jBB7jCB8jDBcPBBc@NdZbzQd6bzRd7gNd9b6d@gOeAgPeBgQeCqCeFcAeJgReKcCeLcDgAqDCbmS7GCDBDEGDBOSBCBBBBBBBBBBBBBBBBc@ACbmZ7GCDBDEGDBOSBCBBBBBBBBBBBBBBBBc@ACbmZ7GCDBDEGDBOSBCBBBBBBBBBBBBBBBBc@ACbm67GCDBDEGDBOSBCBBBBBBBBBBBBBBBBc@ACbm67GCDBDEGDBOSBCBBBBBBBBBBBBBBBBc@A@bXBIbwBBJbYBOKBPhVBTNBUOBVQBYRB6SB7b6B8b7Bb7b8Bb8b9Bb9b@Bb@b$Bb$cABcAcBBcBhWBcPcDBcQcEBcScFBcWcGBcXcHBcYcIBcZcJBc6cKBc7cLBc8cMBc9BBc@@dZfXd6fYd7eOd9b6d@ePd$eQeAeReBeSeCb$eFcAeJeTeKcCeLcDfNb0CfOeVfPeWfQb0DfTeXfUeYfVeZfWe6fXe7fYe8fZe9f9e@f@e$f$fAgAfBgFfCgGfDCbm67GCDBDEGDBOSBCBBBBBBBBBBBBBBBBc@ACbm67GCDBDEGDBOSBCBBBBBBBBBBBBBBBBc@A@bXBIbwCBJbYBOKBPhVBTNBUOBVQBYRB6SB7b6B8b7Bb7b8Bb8b9Bb9b@Bb@b$Bb$cABcAcBBcBhWBcPcDBcQcEBcScFBcWcGBcXcHBcYcIBcZcJBc6cKBc7cLBc8cMBc9BBc@@dZfXd6fYd7eOd9b6d@ePd$eQeAeReBeSeCb$eFcAeJeTeKcCeLcDfNb0CfOeVfPeWfQb0DfTeXfUeYfVeZfWe6fXe7fYe8fZe9f9e@f@e$f$fAgAfBgFfCgGfDCbn87GCDBDEGDBOSBCBBBBBBBBBBBBBBBBc@A9bXBIbYBOKBPcVBTNBUOBVQBYRB6SB7cWB8b7Bb7b8Bb8cXBb9cYBb@cZBb$c6BcAc7BcBcCBcPcDBcQcEBcScFBcWcGBcXcHBcYcIBcZcJBc6cKBc7cLBc8cMBc9BBc@9dZfXd6fYd7eOd9b6d@ePd$eQeAeReBeSeCb$eFcAeJeTeKcCeLcDfNcoKfOeVfPeWfTeXfUeYfVeZfWe6fXe7fYe8fZe9f9e@f@e$f$fAgAfBgFfCgGfDCbn97GCDBDEGDBOSBCBBBBBBBBBBBBBBBBc@AZiCBGiDBIiFBPbwDBQj9BTj@BZbwEBbLj$Bb9kABb@kBBcAkCBcBkDBcCkEBcDkFBcEkGBcFkHBcGkIBcHkJBcIkKBcJkLBcKkMBcLkNBcMkOBcNkPBcOBBc@Cd8pRfSpSCbr7bEGCDBDEGEDBBBBBBBBBBTBCBBBBBBBBBBBBBBBBc@ACbr7bEGCDBDEGEDBBBBBBBBBBTBCBBBBBBBBBBBBBBBBc@ACbr9bEGCDBDEGEDBBBBBBBBBBTBCBBBBBBBBBBBBBBBBc@ACbr9bEGCDBDEGEDBBBBBBBBBBTBCBBBBBBBBBBBBBBBBc@ACbr@bEGCDBDEGEDBBBBBBBBBBTBCBBBBBBBBBBBBBBBBc@ACbr@bEGCDBDEGEDBBBBBBBBBBTBCBBBBBBBBBBBBBBBBc@ACbr@bEGCDBDEGEDBBBBBBBBBBTBCBBBBBBBBBBBBBBBBc@ACbr@bEGCDBDEGEDBBBBBBBBBBTBCBBBBBBBBBBBBBBBBc@ACbr$bEGCDBDEGEDBBBBBBBBBBTBCBBBBBBBBBBBBBBBBc@ACbr$bEGCDBDEGEDBBBBBBBBBBTBCBBBBBBBBBBBBBBBBc@AYiCBGiDBIiFBPbwFBQj9BTj@BZj$Bb9kABb" ++
  "@kBBcAkCBcBkDBcCkEBcDkFBcEkGBcFkHBcGkIBcHkJBcIkKBcJkLBcKkMBcLkNBcMkOBcNkPBcOBBc@Cd8pRfSpSCbtHbEGCDBDEGEDBBBBBBBBBBTBCBBBBBBBBBBBBBBBBc@A9bXBIbYBOKBPcVBTNBUOBVQBYRB6SB7cWB8b7Bb7b8Bb8cXBb9cYBb@cZBb$c6BcAc7BcBcCBcPcDBcQcEBcScFBcWcGBcXcHBcYcIBcZcJBc6cKBc7cLBc8cMBc9BBc@9dZfXd6fYd7eOd9b6d@ePd$eQeAeReBeSeCb$eFcAeJeTeKcCeLcDfNcoOfOeVfPeWfTeXfUeYfVeZfWe6fXe7fYe8fZe9f9e@f@e$f$fAgAfBgFfCgGfDCbwGbNBBBDCDBDEECDBBBBBBBBBBBBBBOBEBCBBBBBBBBBBBBBBBBc@ACbwGbACECBCBDBBCDBCEOSBCBBBBBBBBBBBBBBBBc@ACbwG9BBBDCDEEEC$BEBCBBBBBBBBBBBBBBBBc@ACbwGbJCECDBDEDDDBBBBBBBBBBBBBBTBCBBBBBBBBBBBBBBBBc@ACbwHBJBBc@ACbr77GCDBDEGDBOSBCBBBBBBBBBBBBBBBBc@ACbr77GCDBDEGDBOSBCBBBBBBBBBBBBBBBBc@ACbr97GCDBDEGDBOSBCBBBBBBBBBBBBBBBBc@ACbr97GCDBDEGDBOSBCBBBBBBBBBBBBBBBBc@ACbr@7GCDBDEGDBOSBCBBBBBBBBBBBBBBBBc@ACbr@7GCDBDEGDBOSBCBBBBBBBBBBBBBBBBc@ACbr@7GCDBDEGDBOSBCBBBBBBBBBBBBBBBBc@ACbr@7GCDBDEGDBOSBCBBBBBBBBBBBBBBBBc@ACbr$7GCDBDEGDBOSBCBBBBBBBBBBBBBBBBc@ACbr$7GCDBDEGDBOSBCBBBBBBBBBBBBBBBBc@AYiCBGiDBIiFBPbwIBQj9BTj@BZj$Bb9kABb@kBBcAkCBcBkDBcCkEBcDkFBcEkGBcFkHBcGkIBcHkJBcIkKBcJkLBcKkMBcLkNBcMkOBcNkPBcOBBc@Cd8pRfSpSCbtH7GCDBDEGDBOSBCBBBBBBBBBBBBBBBBc@A9bXBIbYBOKBPcVBTNBUOBVQBYRB6SB7cWB8b7Bb7b8Bb8cXBb9cYBb@cZBb$c6BcAc7BcBcCBcPcDBcQcEBcScFBcWcGBcXcHBcYcIBcZcJBc6cKBc7cLBc8cMBc9BBc@9dZfXd6fYd7eOd9b6d@ePd$eQeAeReBeSeCb$eFcAeJeTeKcCeLcDfNcoRfOeVfPeWfTeXfUeYfVeZfWe6fXe7fYe8fZe9f9e@f@e$f$fAgAfBgFfCgGfDCbvPbEGCDBDEGEDBBBBBBBBBBTBCBBBBBBBBBBBBBBBBc@AYiCBGiDBIiFBPbwJBQj9BTj@BZj$Bb9kABb@kBBcAkCBcBkDBcCkEBcDkFBcEkGBcFkHBcGkIBcHkJBcIkKBcJkLBcKkMBcLkNBcMkOBcNkPBcOBBc@Cd8pRfSpSCbwKBWBBc@ACbvP7GCDBDEGDBOSBCBBBBBBBBBBBBBBBBc@AYiCBGiDBIiFBPbwLBQj9BTj@BZj$Bb9kABb@kBBcAkCBcBkDBcCkEBcDkFBcEkGBcFkHBcGkIBcHkJBcIkKBcJkLBcKkMBcLkNBcMkOBcNkPBcOBBc@Cd8pRfSpSCbwGbEGCDBDEGEDBBBBBBBBBBTBCBBBBBBBBBBBBBBBBc@ACbwG7GCDBDEGDBOSBCBBBBBBBBBBBBBBBBc@A"

end Localize.Go.Grammar
