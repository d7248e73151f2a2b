import ReviewContext.Grammar.Basic
import ReviewContext.Text.Lower

/-!
# Parse profiles

A profile is one way to parse a text: a grammar, the syntax it admits, and whether the common
indentation is taken off first. Each supported file extension, and each language that a script
section may declare, has an ordered list of profiles: a strict one and a lenient one to fall back
on. Component files have no profile of their own; their script sections are parsed instead.
-/

namespace ReviewContext

open ReviewContext.Text

/-- Syntax that a profile admits, listed in the order of the names. -/
inductive Capability where
  | decorators
  | dynamicImport
  | jsx
  | moduleSyntax
  | nullishCoalescing
  | optionalChaining
  | topLevelAwait
  | typing
  deriving DecidableEq, Repr

def Capability.name : Capability → String
  | .decorators => "decorators"
  | .dynamicImport => "dynamic_import"
  | .jsx => "jsx"
  | .moduleSyntax => "module"
  | .nullishCoalescing => "nullish_coalescing"
  | .optionalChaining => "optional_chaining"
  | .topLevelAwait => "top_level_await"
  | .typing => "typing"

structure Profile where
  name : String
  grammar : Grammar
  /-- In the order of the names. -/
  capabilities : List Capability
  dedents : Bool
  deriving DecidableEq, Repr

namespace Profile

def family (profile : Profile) : Family :=
  profile.grammar.family

def javascript : Profile where
  name := "javascript"
  grammar := .javascript
  capabilities :=
    [.decorators, .dynamicImport, .jsx, .moduleSyntax, .nullishCoalescing, .optionalChaining,
      .topLevelAwait]
  dedents := false

def typescript : Profile where
  name := "typescript"
  grammar := .typescript
  capabilities :=
    [.decorators, .dynamicImport, .moduleSyntax, .nullishCoalescing, .optionalChaining,
      .topLevelAwait, .typing]
  dedents := false

def tsx : Profile where
  name := "tsx"
  grammar := .tsx
  capabilities :=
    [.decorators, .dynamicImport, .jsx, .moduleSyntax, .nullishCoalescing, .optionalChaining,
      .topLevelAwait, .typing]
  dedents := false

def lenientTypescript : Profile where
  name := "typescript-lenient"
  grammar := .typescript
  capabilities := [.typing]
  dedents := false

def lenientTsx : Profile where
  name := "tsx-lenient"
  grammar := .tsx
  capabilities := [.jsx, .typing]
  dedents := false

def python : Profile where
  name := "python"
  grammar := .python
  capabilities := [.decorators, .moduleSyntax, .typing]
  dedents := false

def dedentedPython : Profile where
  name := "python-dedent"
  grammar := .python
  capabilities := [.moduleSyntax]
  dedents := true

def go : Profile where
  name := "go"
  grammar := .go
  capabilities := [.moduleSyntax, .typing]
  dedents := false

def dedentedGo : Profile where
  name := "go-dedent"
  grammar := .go
  capabilities := [.typing]
  dedents := true

/-- The profiles of a lower-case extension, none for an extension without a grammar. -/
def ofLowerExtension : String → List Profile
  | "js" | "mjs" | "cjs" | "jsx" => [javascript, lenientTsx]
  | "ts" | "mts" | "cts" => [typescript, lenientTsx]
  | "tsx" => [tsx, lenientTypescript]
  | "py" => [python, dedentedPython]
  | "go" => [go, dedentedGo]
  | _ => []

def ofExtension (extension : String) : List Profile :=
  ofLowerExtension (lower extension)

/-- The profiles of a script language; a section without one is plain JavaScript. -/
def ofScriptLanguage? : String → Option (List Profile)
  | "" | "js" | "javascript" | "jsx" => some [javascript, lenientTsx]
  | "ts" | "typescript" => some [typescript, lenientTsx]
  | "tsx" => some [tsx, lenientTypescript]
  | _ => none

end Profile

/-- Whether a lower-case extension marks a component file. -/
def isComponentExtension (extension : String) : Bool :=
  extension == "vue"

/-- Whether files with the extension can be parsed at all. -/
def hasStructure (extension : String) : Bool :=
  !(Profile.ofExtension extension).isEmpty || isComponentExtension (lower extension)

end ReviewContext
