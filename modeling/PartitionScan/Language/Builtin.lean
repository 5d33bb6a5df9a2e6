import PartitionScan.Language

/-!
# Built-in languages

The rules that carve comments and strings out of R, Rust, C, Python and TOML.
-/
namespace PartitionScan.Language

/-- A language with those of the rules whose patterns are well formed. -/
def define (name : String) (extensions : List String) (blocks : List (Except Fault BlockRule))
    (lines : List (Except Fault LineRule)) : Language :=
  ofRules name extensions (blocks.filterMap Except.toOption) (lines.filterMap Except.toOption)

namespace Builtin

/-- Strings and quoted symbols may go on over several lines. Documentation comments begin like
comments and therefore need the higher priority. -/
def r : Language :=
  define "R" ["r", "rprofile"]
    [BlockRule.make "string_double" "\"" "\"" "__r_string" 1 (some '\\'),
      BlockRule.make "string_single" "'" "'" "__r_string" 2 (some '\\'),
      BlockRule.make "quoted_symbol" "`" "`" "__r_quoted_symbol" 3 (some '\\')]
    [LineRule.make "roxygen" "#'.*$" "__r_roxygen" 110,
      LineRule.make "comment" "#.*$" "__r_comment" 100]

/-- Block comments do not nest. Raw strings come before plain ones. A lifetime has no closing quote
and stays code. -/
def rust : Language :=
  define "Rust" ["rs"]
    [BlockRule.make "block_comment" "/\\*" "\\*/" "__rust_comment" 1 none,
      BlockRule.make "raw_string_hash" "r#\"" "\"#" "__rust_string" 2 none,
      BlockRule.make "raw_string" "\\br\"" "\"" "__rust_string" 3 none,
      BlockRule.make "string" "\"" "\"" "__rust_string" 4 (some '\\')]
    [LineRule.make "line_comment" "//.*$" "__rust_comment" 100,
      LineRule.make "char" "'(?:[^'\\\\]|\\\\.|\\\\u\\\x7b[0-9a-fA-F]+\\\x7d)'" "__rust_string" 90]

/-- Also fit for C++. -/
def c : Language :=
  define "C" ["c", "h", "cpp", "hpp", "cc", "cxx"]
    [BlockRule.make "block_comment" "/\\*" "\\*/" "__c_comment" 1 none,
      BlockRule.make "string" "\"" "\"" "__c_string" 2 (some '\\')]
    [LineRule.make "line_comment" "//.*$" "__c_comment" 100,
      LineRule.make "preprocessor" "^\\s*#\\s*\\w+" "__c_preprocessor" 95,
      LineRule.make "char" "'(?:[^'\\\\]|\\\\.)'" "__c_string" 90]

/-- Triple quotes win ties with single ones. -/
def python : Language :=
  define "Python" ["py", "pyw", "pyi"]
    [BlockRule.make "triple_double" "\"\"\"" "\"\"\"" "__python_string" 1 none,
      BlockRule.make "triple_single" "'''" "'''" "__python_string" 2 none,
      BlockRule.make "double_string" "\"" "\"" "__python_string" 3 (some '\\'),
      BlockRule.make "single_string" "'" "'" "__python_string" 4 (some '\\')]
    [LineRule.make "comment" "#.*$" "__python_comment" 100]

/-- Basic strings have escapes, literal strings have none. -/
def toml : Language :=
  define "TOML" ["toml"]
    [BlockRule.make "multiline_basic" "\"\"\"" "\"\"\"" "__toml_string" 1 (some '\\'),
      BlockRule.make "multiline_literal" "'''" "'''" "__toml_string" 2 none,
      BlockRule.make "basic_string" "\"" "\"" "__toml_string" 3 (some '\\'),
      BlockRule.make "literal_string" "'" "'" "__toml_string" 4 none]
    [LineRule.make "comment" "#.*$" "__toml_comment" 100]

end Builtin

def builtin : List Language :=
  [Builtin.r, Builtin.rust, Builtin.c, Builtin.python, Builtin.toml]

def builtin? (name : String) : Except Fault Language :=
  match builtin.find? (·.name == name) with
  | some lang => .ok lang
  | none => .error (.unknownLanguage name)

end PartitionScan.Language
