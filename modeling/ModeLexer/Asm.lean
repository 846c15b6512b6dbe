import ModeLexer.Definition.Basic

/-!
# Assembly listings

The built-in language: assembly as compilers print it, in the dialects of GNU as (AT&T and Intel
syntax), of ARM (`|label|`, `#imm`) and of MSVC listings (`PROC`, `ENDP`, strings between a backtick
and a quote).

* `root` is the start of a line: labels, constants, the opcode or directive.
* `rest` holds the operands after the opcode. Its first rule rematches the next line into `root`, so
  `rest` does not outlive its line.
* `comment` is a block comment; comments nest.
* `string`, `sstring` and `msvcstring` are strings in double quotes, in single quotes, and between a
  backtick and a quote.
* `seg_dir_msvcstring` is a string of the last kind that begins before any opcode; its end hands the
  rest of the line to `seg_dir_msvc_rest`.
* `msvcstring_common` and `whitespace` hold rules that other modes include.

A mode for a string is entered only where the string is closed on its line: a string that runs off
the end of its line is one `string.invalid` token. A label without a colon is told by a directive
that follows it.
-/

namespace ModeLexer.Asm

/-- Registers of the x86 and ARM families. -/
def registers : String :=
  "%?\\b(?:r[0-9]+[dbw]?|[er]?(?:[abcd][xhl]|cs|fs|ds|ss|sp|bp|ip|sil?|dil?)" ++
    "|[xyz]mm[0-9]+|sp|fp|lr)\\b"

/-- Size keywords of Intel syntax. -/
def intelOperators : String :=
  r"\b(?:PTR|(?:D|Q|[XYZ]MM)?WORD|BYTE|OFFSET|FLAT)\b"

/-- Escapes within strings. -/
def escapes : String :=
  "\\\\(?:[abfnrtv\\\\\"'`]|x[0-9A-Fa-f]\x7b1,4\x7d|u[0-9A-Fa-f]\x7b4\x7d" ++
    "|U[0-9A-Fa-f]\x7b8\x7d|[0-7]\x7b1,3\x7d)"

/-- Directives that follow a label without a colon. -/
def directives : String :=
  "PROC|ENDP|SEGMENT|ENDS|DB|DW|DD|DQ|DF|DT|LABEL|COMM|EQU|TEXTEQU|STRUCT|RECORD|TYPEDEF"

/-- The start of a line. -/
def rootMode : List Entry := [
  -- Error documents: <Compilation failed>
  .token "^<.*>$" "annotation",
  -- Label definitions
  .token "^[.a-zA-Z0-9_$?@].*:" "type.identifier",
  .token "^\"(?:[^\"\\\\]|\\\\.)*\":" "type.identifier",
  .token r"^\s*\|[^|]*\|" "type.identifier",
  .token r"^[^\s;][^\s]*(?=\s+(?:@cl_directives)(?:\s|$))" "type.identifier",
  -- Constant definitions
  .token "^[.a-zA-Z0-9_$?@][^=]*=" "type.identifier",
  -- Strings opening a line
  .token "\"(?:[^\"\\\\]|\\\\.)*\\\\?$" "string.invalid",
  (Entry.token "\"" "string.quote").push "string",
  .token r"'(?:[^'\\]|\\.)*\\?$" "string.invalid",
  (Entry.token "'" "string.singlequote").push "sstring",
  -- Opcodes and directives
  (Entry.token "[.a-zA-Z_][.a-zA-Z_0-9]*" "keyword").push "rest",
  -- Braces at the start of a line, e.g. nvcc output
  (Entry.token "[()\x7b\x7d]" "operator").push "rest",
  .token r"`(?:[^'\\]|''|\\.)*\\?$" "string.invalid",
  (Entry.token "`" "string.backtick").push "seg_dir_msvcstring",
  .includeMode "whitespace"]

/-- The operands after an opcode. -/
def restMode : List Entry := [
  (Entry.token "^.*$" "").rematch,
  .token "@registers" "variable.predefined",
  .token "@intel_operators" "annotation",
  (Entry.token r"/\*" "comment").push "comment",
  .token "[\x7b\x7d<>()\\[\\]]" "delimiter.bracket",
  -- ARM-style label references
  .token r"\|[^|]*\|?" "type.identifier",
  .token r"\d*\.\d+(?:[eE][-+]?\d+)?" "number.float",
  .token r"(?:\$|0[xX])[0-9a-fA-F]+" "number.hex",
  .token r"[0-9][0-9a-fA-F]*[hH]\b" "number.hex",
  .token r"\d+" "number",
  -- ARM immediates, which would otherwise read as comments
  .token r"#-?\d+" "number",
  .token "//.*$" "comment",
  .token "[-+,*/!:&=^~]" "operator",
  .token "\"(?:[^\"\\\\]|\\\\.)*\\\\?$" "string.invalid",
  (Entry.token "\"" "string.quote").push "string",
  .token r"`(?:[^'\\]|''|\\.)*\\?$" "string.invalid",
  (Entry.token "`" "string.backtick").push "msvcstring",
  .token r"'[^\\']'" "string",
  .tokens "(')(@escapes)(')" ["string", "string.escape", "string"],
  .token r"'(?:[^'\\]|\\.)*\\?$" "string.invalid",
  (Entry.token "'" "string.singlequote").push "sstring",
  -- Anything else is a label reference. .NET puts backticks in identifiers.
  .token "%?[.?_$a-zA-Z@][.?_$a-zA-Z0-9@`]*" "type.identifier",
  .includeMode "whitespace"]

/-- Block comments, which nest. -/
def commentMode : List Entry := [
  .token "[^/*]+" "comment",
  (Entry.token r"/\*" "comment").pushSelf,
  (Entry.token r"\*/" "comment").pop,
  .token "[/*]" "comment"]

/-- Strings in double quotes. -/
def stringMode : List Entry := [
  .token "[^\\\\\"]+" "string",
  .token "@escapes" "string.escape",
  .token r"\\." "string.escape.invalid",
  (Entry.token "\"" "string.quote").pop]

/-- Strings in single quotes. -/
def sstringMode : List Entry := [
  .token r"[^\\']+" "string",
  .token "@escapes" "string.escape",
  .token r"\\." "string.escape.invalid",
  (Entry.token "'" "string.singlequote").pop]

/-- What can stand in a string between a backtick and a quote. -/
def msvcstringCommonMode : List Entry := [
  .token r"[^\\']+" "string",
  .token "@escapes" "string.escape",
  .token "''" "string.escape",
  .token r"\\." "string.escape.invalid"]

/-- Strings between a backtick and a quote. -/
def msvcstringMode : List Entry := [
  .includeMode "msvcstring_common",
  (Entry.token "'" "string.backtick").pop]

/-- Strings between a backtick and a quote, before any opcode. -/
def segDirMsvcstringMode : List Entry := [
  .includeMode "msvcstring_common",
  (Entry.token "'" "string.backtick").switchTo "seg_dir_msvc_rest"]

/-- What follows such a string. -/
def segDirMsvcRestMode : List Entry := [
  (Entry.token "^.*$" "").rematch,
  .token ";.*$" "comment",
  .token r"\s+" "white",
  .token r"[^;\s]+" "keyword"]

/-- Blanks and comments. -/
def whitespaceMode : List Entry := [
  .token r"[ \t\r\n]+" "white",
  (Entry.token r"/\*" "comment").push "comment",
  .token "//.*$" "comment",
  .token r"[#;\\@].*$" "comment"]

/-- Assembly listings. -/
def definition : Definition :=
  ((Definition.new "asm" "root").setDefaultToken "invalid")
    |>.addPattern "registers" registers
    |>.addPattern "intel_operators" intelOperators
    |>.addPattern "escapes" escapes
    |>.addPattern "cl_directives" directives
    |>.addMode "root" rootMode
    |>.addMode "rest" restMode
    |>.addMode "comment" commentMode
    |>.addMode "string" stringMode
    |>.addMode "sstring" sstringMode
    |>.addMode "msvcstring_common" msvcstringCommonMode
    |>.addMode "msvcstring" msvcstringMode
    |>.addMode "seg_dir_msvcstring" segDirMsvcstringMode
    |>.addMode "seg_dir_msvc_rest" segDirMsvcRestMode
    |>.addMode "whitespace" whitespaceMode

end ModeLexer.Asm
