/-!
# Grammars and their families

A grammar turns source text into a syntax tree. Grammars whose trees name their nodes alike form a
family; a text of no known family has no declarations to look for.
-/

namespace ReviewContext

inductive Family where
  | javascript
  | typescript
  | python
  | go
  | unknown
  deriving DecidableEq, Repr

def Family.ofName : String → Family
  | "javascript" => .javascript
  | "typescript" => .typescript
  | "python" => .python
  | "go" => .go
  | _ => .unknown

def Family.name : Family → String
  | .javascript => "javascript"
  | .typescript => "typescript"
  | .python => "python"
  | .go => "go"
  | .unknown => ""

inductive Grammar where
  | javascript
  | typescript
  | tsx
  | python
  | go
  deriving DecidableEq, Repr

namespace Grammar

def name : Grammar → String
  | .javascript => "javascript"
  | .typescript => "typescript"
  | .tsx => "tsx"
  | .python => "python"
  | .go => "go"

def ofName? : String → Option Grammar
  | "javascript" => some .javascript
  | "typescript" => some .typescript
  | "tsx" => some .tsx
  | "python" => some .python
  | "go" => some .go
  | _ => none

def family : Grammar → Family
  | .javascript => .javascript
  | .typescript => .typescript
  | .tsx => .typescript
  | .python => .python
  | .go => .go

end Grammar

end ReviewContext
