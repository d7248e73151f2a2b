import ReviewContext.Block.Basic

/-!
# Review prompts

A prompt puts together the instructions, an additional context if there is one, the enclosing code
if any was found, and the numbered view of the diff, and closes with a request. The parts are
separated by empty rows; code and diff stand between fences.
-/

namespace ReviewContext.Prompt

open ReviewContext.Text

/-- The instructions that are used when no others are given. -/
def builtIn : String :=
  joinRows [
    "You are a senior code reviewer who is good at finding latent problems in code changes.",
    "",
    "## Responsibilities",
    "- Analyse the code change (diff) carefully and identify potential problems",
    "- Focus on correctness, security, performance and maintainability",
    "- Give clear, actionable suggestions",
    "",
    "## Diff format",
    "- Lines starting with `+` are added code",
    "- Lines starting with `-` are removed code",
    "- Lines starting with a space are unchanged context",
    "- `[n]` is the line number of an added or removed line; `[old->new]` maps a context line",
    "- Hunk headers look like `@@ -oldStart,oldCount +newStart,newCount @@`",
    "",
    "## Review focus",
    "1. Logic errors: latent bugs, mishandled edge cases",
    "2. Security: injection, XSS, leaked secrets",
    "3. Performance: needless loops, leaks, inefficient algorithms",
    "4. Code quality: readability, duplication",
    "5. Practices: naming, error handling, resource management",
    "",
    "## Output format",
    "Answer in YAML only:",
    "",
    "```yaml",
    "issues:",
    "  - type: critical|warning|info",
    "    file: \"path/to/file\"",
    "    line: 42",
    "    title: \"Short title\"",
    "    description: \"What is wrong and why\"",
    "    code: \"Relevant snippet (optional)\"",
    "    suggestion: \"How to fix it (optional)\"",
    "summary: \"Overall assessment (optional)\"",
    "```",
    "",
    "## Notes",
    "- Report real problems only; do not nitpick",
    "- Reference new-file line numbers from the diff",
    "- Classify by severity: critical, warning, info"]

def closing : String :=
  "Analyse the change above carefully and report the result in the required format."

def blockLabel (block : Block) : String :=
  match block.name with
  | some name => if name.isEmpty then block.kind else block.kind ++ " " ++ name
  | none => block.kind

/-- The heading of a block with its lines, unless one of them cannot be written. -/
def heading (block : Block) : Except NumeralFault String :=
  if isWritable block.first && isWritable block.last then
    .ok ("### " ++ blockLabel block ++ " (lines " ++ numeral block.first ++ "-" ++
      numeral block.last ++ ")")
  else .error .tooLongToWrite

/-- A block under its heading and between fences. -/
def formatBlock (block : Block) : Except NumeralFault String :=
  (heading block).map fun heading => heading ++ "\n```\n" ++ block.code ++ "\n```"

def contextPart (context : Option String) : List String :=
  match context with
  | some text => if text.isEmpty then [] else ["## Additional context\n" ++ text]
  | none => []

def codePart (blocks : List Block) : Except NumeralFault (List String) :=
  if blocks.isEmpty then .ok []
  else
    (blocks.mapM formatBlock).map fun sections =>
      ["## Enclosing code\n" ++ "\n\n".intercalate sections]

def diffPart (numbered : String) : String :=
  "## Code change\n\n```diff\n" ++ numbered ++ "\n```"

/-- The prompt around a numbered view, unless a line of a block cannot be written. -/
def assemble (numbered : String) (blocks : List Block) (context system : Option String) :
    Except NumeralFault String :=
  (codePart blocks).map fun code =>
    "\n\n".intercalate
      ([system.getD builtIn] ++ contextPart context ++ code ++ [diffPart numbered, closing])

end ReviewContext.Prompt
