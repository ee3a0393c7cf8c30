import Guideline.Rule.Definition

/-!
# Built-in rules

The rules that a document starts from unless it asks for none, and the document that defines them.
-/

namespace Guideline.Builtin

/-- What the names of a construct must look like. -/
def naming (id description severity construct pattern : String) (examples : List Example) :
    Definition :=
  { id, category := "naming", description, severity, construct := some construct,
    pattern := some pattern, examples }

def namingRules : List Definition :=
  [naming "class_names" "Class names should use PascalCase (e.g., MyClass, UrlTable)" "warning"
      "class" "^[A-Z][a-zA-Z0-9]*$"
      [{ good := "class UrlTable \x7b\x7d;", bad := "class urlTable \x7b\x7d;" }],
    naming "function_names"
      "Function names should use PascalCase (e.g., MyExcitingFunction, AddTableEntry)" "warning"
      "function" "^[A-Z][a-zA-Z0-9]*$"
      [{ good := "void AddTableEntry();", bad := "void add_table_entry();" }],
    naming "variable_names"
      "Variable names should use camelCase starting with lowercase (e.g., tableName, priceCountReader)"
      "warning" "variable" "^[a-z][a-zA-Z0-9]*$" [],
    naming "member_variables"
      "Class member variables should be prefixed with 'm_' and use camelCase (e.g., m_tableName, m_someVar)"
      "warning" "member_variable" "^m_[a-z][a-zA-Z0-9]*$" [],
    naming "constant_names"
      "Constants should use 'k' prefix followed by PascalCase (e.g., kDaysInAWeek, kCreateDrive)"
      "warning" "constant" "^k[A-Z][a-zA-Z0-9]*$" [],
    naming "global_variables" "Global variables should be prefixed with 'g_'" "info"
      "global_variable" "^g_[a-zA-Z][a-zA-Z0-9]*$" [],
    naming "namespace_names"
      "Namespace names should start with a capital and follow camelCase (e.g., AdDelivery)" "warning"
      "namespace" "^[A-Z][a-zA-Z0-9]*$" []]

def practiceRules : List Definition :=
  [{ id := "smart_pointers", category := "best_practice"
     description := "Prefer smart pointers over raw new/delete (std::unique_ptr, std::shared_ptr)"
     severity := "info", keywords := some ["new", "delete"]
     exception := some
       "(unique_ptr|shared_ptr)\\s*<[^>]*>\\s*\\w*\\s*[(\x7b]\\s*new\\b|\\.reset\\(\\s*new\\b|=\\s*delete\\b"
     suggestion := some "Consider using std::make_unique, std::make_shared, or RAII patterns"
     examples := [{ good := "auto p = std::make_unique<int>(42);", bad := "int* p = new int(42);" }] },
    { id := "nullptr_usage", category := "best_practice"
      description := "Use nullptr instead of NULL or 0 for pointers", severity := "warning"
      pattern := some "\\bNULL\\b|\\b\\w+\\s*\\*\\s*\\w+\\s*=\\s*0\\s*[;,)]"
      suggestion := some "Use nullptr for pointer initialization" },
    { id := "namespace_std_in_headers", category := "best_practice"
      description := "Avoid 'using namespace std' in header files", severity := "warning"
      appliesTo := some "headers", pattern := some "\\busing\\s+namespace\\s+std\\s*;"
      suggestion := some "Use specific std:: prefixes instead" },
    { id := "lambda_captures", category := "best_practice"
      description := "Write all lambda captures explicitly (no default captures)"
      severity := "warning", pattern := some "\\[=\\]|\\[&\\]"
      suggestion := some "Use explicit captures instead of [=] or [&]" },
    { id := "explicit_constructors", category := "best_practice"
      description := "Single-parameter constructors should be explicit", severity := "info"
      check := some "explicit_constructors"
      suggestion := some "Mark the constructor explicit to prevent implicit conversions" }]

def structureRules : List Definition :=
  [{ id := "include_guards", category := "structure"
     description :=
       "Header files should use include guards (#ifndef PROJECT_PATH_FILE_H_) or #pragma once"
     severity := "error", appliesTo := some "headers", check := some "include_guard"
     suggestion := some "Add #pragma once at the top or use #ifndef guards" },
    { id := "function_length", category := "structure"
      description := "Functions should not exceed 50 lines to maintain readability"
      severity := "warning", check := some "function_length", max := some 50 },
    { id := "function_parameters", category := "structure"
      description := "Function parameters should be limited to 3-4 maximum", severity := "info"
      check := some "function_parameters", max := some 4 },
    { id := "function_comments", category := "structure"
      description := "All functions must have Doxygen-style comments in header files"
      severity := "warning", appliesTo := some "headers", check := some "function_comments"
      suggestion := some "Add Doxygen-style comment above function declaration" }]

def formattingRules : List Definition :=
  [{ id := "line_length", category := "formatting"
     description := "Lines should not exceed 120 characters", severity := "info"
     check := some "line_length", max := some 120 },
    { id := "trailing_whitespace", category := "formatting"
      description := "Remove trailing whitespace from lines", severity := "info"
      check := some "trailing_whitespace", suggestion := some "Remove trailing spaces and tabs" },
    { id := "indentation_tabs", category := "formatting"
      description := "Use spaces instead of tabs for indentation", severity := "warning"
      check := some "tab_indentation", suggestion := some "Replace tabs with 2 spaces" },
    { id := "space_after_keywords", category := "formatting"
      description := "Space required between keywords (if, for, while) and parentheses"
      severity := "warning", pattern := some "\\b(if|for|while|switch|catch)\\("
      suggestion := some "Add space between keyword and parenthesis: 'if (condition)'" }]

/-- The built-in rules under their headings. -/
def chapters : List (String × List Definition) :=
  [("Naming", namingRules), ("Best practices", practiceRules), ("Structure", structureRules),
    ("Formatting", formattingRules)]

def definitions : List Definition :=
  chapters.flatMap (·.2)

/-! ### The document -/

/-- A text between the given quotes; none of the built-in texts needs an escape. -/
def quoted (quote text : String) : String :=
  quote ++ text ++ quote

def textLine (name quote text : String) : String :=
  name ++ " = " ++ quoted quote text

/-- The line for a text that may be missing. -/
def textLine? (name quote : String) (text : Option String) : List String :=
  (text.map (textLine name quote)).toList

def exampleLines (e : Example) : List String :=
  ["", "[[rule.examples]]", textLine "good" "\"" e.good, textLine "bad" "\"" e.bad]

def keywordsLine (keywords : List String) : String :=
  "keywords = [" ++ ", ".intercalate (keywords.map (quoted "\"")) ++ "]"

/-- The lines that define a rule. Patterns stand between single quotes. -/
def definitionLines (d : Definition) : List String :=
  ["[[rule]]", textLine "id" "\"" d.id, textLine "category" "\"" d.category,
    textLine "description" "\"" d.description, textLine "severity" "\"" d.severity]
    ++ textLine? "applies_to" "\"" d.appliesTo ++ textLine? "construct" "\"" d.construct
    ++ textLine? "pattern" "'" d.pattern ++ (d.keywords.map keywordsLine).toList
    ++ textLine? "check" "\"" d.check ++ (d.max.map fun max => s!"max = {max}").toList
    ++ textLine? "unless" "'" d.exception ++ textLine? "suggestion" "\"" d.suggestion
    ++ d.examples.flatMap exampleLines

/-- A heading with a line drawn behind it. -/
def heading (title : String) : String :=
  let rule := String.ofList (List.replicate (52 - title.length) '─')
  s!"# ── {title} {rule}"

def chapterLines (chapter : String × List Definition) : List String :=
  "" :: heading chapter.1 :: chapter.2.flatMap fun d => "" :: definitionLines d

/-- The document that defines the built-in rules. -/
def document : String :=
  let lines := ["# Built-in guideline set.", "#",
    "# A user document starts from this set unless it declares `base = \"empty\"`.",
    "# Rules here can be replaced with `[[rule]]` or adjusted with `[rules.<id>]`."]
    ++ chapters.flatMap chapterLines
  "\n".intercalate lines ++ "\n"

end Guideline.Builtin
