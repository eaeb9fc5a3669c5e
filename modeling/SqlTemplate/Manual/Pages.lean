namespace SqlTemplate.Manual

def overviewPage : List String := [
  "TWOWAY DOCUMENTATION",
  "",
  "twoway renders 2-way SQL templates: SQL that runs as-is in a database tool,",
  "with directives written as block comments. Rendering replaces the comments",
  "and their test values with placeholders and produces ordered bind values.",
  "",
  "DOCUMENTATION CATEGORIES",
  "",
  "  syntax        Comments, literals, and how directives are recognised",
  "  variables     Bind variables, embedded variables, and test values",
  "  options       nullable, likePrefix, likeSuffix, likeContain, notEscape",
  "  blocks        IF / ELSE / END and BEGIN / END",
  "  loops         FOR, FIRST, LAST, and NEXT",
  "  expressions   Condition grammar used by IF",
  "  config        Engine configuration file",
  "",
  "QUICK REFERENCE",
  "",
  "  /*pmb.id*/3                 Bind variable (becomes ?)",
  "  /*$pmb.orderBy*/ID          Embedded variable (spliced as text)",
  "  /*IF cond*/.../*END*/       Conditional",
  "  /*BEGIN*/.../*END*/         Drop the block when nothing inside emits",
  "  /*FOR e : pmb.list*/...     Repeat per element",
  "",
  "Run 'twoway doc <category>' for detailed documentation."]

def syntaxPage : List String := [
  "SYNTAX",
  "",
  "DIRECTIVES",
  "  A block comment is a directive when its body starts with a keyword",
  "  (IF, ELSE, END, BEGIN, FOR, FIRST, LAST, NEXT), a '$', or a path.",
  "",
  "PLAIN COMMENTS",
  "  Comments whose body is empty or starts with whitespace, '+' or '*'",
  "  are kept in the SQL unchanged:",
  "",
  "    /* free text */         kept",
  "    /*+ INDEX(M) */         optimizer hint, kept",
  "    /** doc */              kept",
  "",
  "LITERALS AND LINE COMMENTS",
  "  Text inside '...' literals and after '--' is never scanned for",
  "  directives. '' inside a literal is an escaped quote.",
  "",
  "    SELECT '/*IF*/' FROM DUAL      plain text",
  "    -- /*pmb.id*/                  plain text",
  "",
  "  The one exception is a line comment holding only ELSE:",
  "",
  "    /*IF pmb.a*/A = 1",
  "    -- ELSE",
  "    B = 1",
  "    /*END*/",
  "",
  "ERRORS",
  "  Unclosed comments, literals and blocks, stray END or ELSE, and loop",
  "  directives outside FOR are reported with a line and column."]

def variablesPage : List String := [
  "VARIABLES",
  "",
  "BIND VARIABLES",
  "  /*path*/testValue",
  "",
  "  The marker and the test value after it become one '?'. The value at",
  "  'path' is appended to the bind list.",
  "",
  "    WHERE MEMBER_ID = /*pmb.memberId*/3",
  "      → WHERE MEMBER_ID = ?          [memberId]",
  "",
  "  A null value is an error unless the 'nullable' option is given.",
  "",
  "IN-SCOPE LISTS",
  "  When the test value is parenthesised, a list expands to one",
  "  placeholder per non-null element:",
  "",
  "    WHERE ID IN /*pmb.ids*/(1, 2)",
  "      → WHERE ID IN (?, ?, ?)        ids = [7, null, 8, 9]  → 3 binds",
  "",
  "  An empty or all-null list is an error.",
  "",
  "EMBEDDED VARIABLES",
  "  /*$path*/testValue",
  "",
  "  The value is spliced into the SQL as text. Lists become a",
  "  parenthesised, comma-separated list; strings are quoted unless every",
  "  element is numeric. A null scalar emits nothing. A value containing",
  "  '?' outside quotes is rejected.",
  "",
  "    ORDER BY /*$pmb.orderBy*/MEMBER_ID",
  "",
  "TEST VALUES",
  "  A test value is a quoted literal, a parenthesised group, or a bare",
  "  token ending at whitespace, ',', ')', ';', '/*' or '--'. Test values",
  "  must not contain '?'.",
  "",
  "  A bare '?' in the SQL text itself is also rejected: placeholders come",
  "  only from bind variables.",
  "",
  "PATHS",
  "  pmb.member.name      property access",
  "  pmb.list.0           list index",
  "  pmb.map.key          map key",
  "  e.name               loop alias (inside FOR)",
  "  #current             innermost loop element"]

def optionsPage : List String := [
  "OPTIONS",
  "",
  "Options follow the path after a colon, separated by '|':",
  "",
  "  /*pmb.name:likePrefix*/'S'",
  "  /*pmb.name:likeContain|notEscape*/'S'",
  "",
  "  nullable        Allow a null bind value",
  "  likePrefix      value%",
  "  likeSuffix      %value",
  "  likeContain     %value%",
  "  notEscape       Do not escape wildcards and omit the escape clause",
  "",
  "LIKE options apply to string bind variables. Unless 'notEscape' is",
  "given, '%', '_' and the escape character are escaped, and the",
  "placeholder is followed by \" escape '|'\":",
  "",
  "  WHERE NAME LIKE /*pmb.name:likePrefix*/'S'",
  "    → WHERE NAME LIKE ? escape '|'      [\"10|%%\"]    name = \"10%\""]

def blocksPage : List String := [
  "BLOCKS",
  "",
  "IF",
  "  /*IF condition*/ ... /*END*/",
  "  /*IF condition*/ ... /*ELSE*/ ... /*END*/",
  "",
  "  The then-branch is emitted when the condition is true, else the",
  "  else-branch (if any). A condition that is not boolean is an error.",
  "",
  "BEGIN",
  "  /*BEGIN*/ ... /*END*/",
  "",
  "  Emitted only when something inside emitted: a taken IF, a bound",
  "  value, non-empty embedded text, or a nested BEGIN. The first emitted",
  "  fragment inside loses its leading AND/OR:",
  "",
  "    /*BEGIN*/WHERE",
  "      /*IF pmb.id != null*/ID = /*pmb.id*/1/*END*/",
  "      /*IF pmb.name != null*/AND NAME = /*pmb.name*/'x'/*END*/",
  "    /*END*/",
  "",
  "    id = null, name = \"S\"   → WHERE NAME = ?",
  "    id = null, name = null  → (block removed)"]

def loopsPage : List String := [
  "LOOPS",
  "",
  "FOR",
  "  /*FOR alias : path*/ ... /*END*/",
  "  /*FOR path*/ ... /*END*/           alias is #current",
  "",
  "  Repeats its body once per list element. Inside, the alias (or",
  "  #current) refers to the element. FOR over null or a non-list is an",
  "  error; an empty list emits nothing.",
  "",
  "FIRST / LAST",
  "  /*FIRST*/ ... /*END*/      only in the first iteration",
  "  /*LAST*/ ... /*END*/       only in the last iteration",
  "",
  "NEXT",
  "  /*NEXT 'text'*/            emits 'text' in every iteration but the first",
  "",
  "EXAMPLE",
  "  WHERE /*FOR n : pmb.names*//*FIRST*/(/*END*//*NEXT 'OR '*/" ++
    "NAME LIKE /*n:likePrefix*/'S' /*LAST*/)/*END*//*END*/",
  "",
  "  names = [\"A\", \"B\"]",
  "    → WHERE (NAME LIKE ? escape '|' OR NAME LIKE ? escape '|' )"]

def expressionsPage : List String := [
  "EXPRESSIONS",
  "",
  "LITERALS",
  "  null  true  false  42  -1.5  'text'  \"text\"",
  "",
  "PATHS",
  "  pmb.member.name  e.id  #current",
  "",
  "COMPARISON",
  "  ==  !=  <  >  <=  >=",
  "",
  "  null == null is true; null compared with anything else is false.",
  "  Numbers compare by value across integer, float and decimal. Ordering",
  "  works on numbers and strings only.",
  "",
  "LOGICAL",
  "  &&  ||  !    (also: and, or)",
  "",
  "  && and || short-circuit:",
  "    pmb.name != null && pmb.name.isNotEmpty()",
  "",
  "METHODS",
  "  isEmpty()  isNotEmpty()       strings, lists, maps",
  "  isXxx()  hasXxx()             boolean bean properties",
  "",
  "GROUPING",
  "  ( ... )"]

def configPage : List String := [
  "CONFIG",
  "",
  "Pass a JSON file with --config. Every field is optional:",
  "",
  "  \x7b",
  "    \"root_name\": \"pmb\",",
  "    \"connectors\": [\"AND\", \"OR\"],",
  "    \"like_escape\": \"|\",",
  "    \"declared_types\": \x7b \"member.birthdate\": \"string\" \x7d",
  "  \x7d",
  "",
  "  root_name        Name templates use for the parameter object",
  "  connectors       Keywords removed from the first fragment of a BEGIN block",
  "  like_escape      Escape character for LIKE options",
  "  declared_types   Type reported for null values, by root-relative path",
  "",
  "Types: object, boolean, integer, float, decimal, string, list, map, bean",
  "",
  "--root-name and --type path=type override the file.",
  "",
  "LOGGING",
  "  Set RUST_LOG to control diagnostics on stderr:",
  "",
  "    RUST_LOG=twoway_sql=debug twoway render ..."]

end SqlTemplate.Manual
