/-
Module: OperationClasses.Naming.Reserved
Purpose: The names that generated identifiers must not take.
Main exports: keywords, resultNames, inputNames, expressionNames
-/

namespace OperationClasses.Naming

/-- The keywords of the generated modules. -/
def keywords : List String := [
  "False", "None", "True", "and", "as", "assert", "async", "await",
  "break", "class", "continue", "def", "del", "elif", "else", "except",
  "finally", "for", "from", "global", "if", "import", "in", "is",
  "lambda", "nonlocal", "not", "or", "pass", "raise", "return", "try",
  "while", "with", "yield"]

/-- Attributes of the result classes that accessors must not shadow. -/
def resultNames : List String := [
  "raw_result", "graphql_typename", "errors", "execute", "from_result",
  "POSSIBLE_TYPES", "OPERATION_NAME", "QUERY_TEXT", "self", "cls",
  "executor", "options"]

/-- Attributes of the input classes that their fields must not shadow. -/
def inputNames : List String := [
  "serialize", "model_config", "model_fields", "model_computed_fields",
  "model_extra", "model_fields_set", "model_construct", "model_copy",
  "model_dump", "model_dump_json", "model_json_schema", "model_post_init",
  "model_rebuild", "model_validate", "model_validate_json", "copy", "dict",
  "json", "parse_obj", "parse_raw", "parse_file", "schema", "schema_json",
  "construct", "validate", "update_forward_refs", "from_orm", "self"]

/-- Names that conversions refer to, which variables must not shadow. -/
def expressionNames : List String := [
  "bool", "cast", "date", "datetime", "enum", "float", "int", "list", "str"]

end OperationClasses.Naming
