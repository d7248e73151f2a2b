import ReviewContext.Finding.Value
import ReviewContext.Text.Blank
import ReviewContext.Text.Lower

/-!
# Issues

An issue is a finding in normal form. The severity comes from one of two fields and is an
information unless it is one of the known words; the line is zero unless it can be read as an
integer; missing texts are empty, and blank optional texts are left out. A finding is refused for an
infinite line number, and for a value that is asked for as text and has none. An issue can be
written as a mapping again.
-/

namespace ReviewContext

open ReviewContext.Text
open ReviewContext.Number (Binary)

inductive Severity where
  | critical
  | warning
  | info
  deriving DecidableEq, Repr

def Severity.name : Severity → String
  | .critical => "critical"
  | .warning => "warning"
  | .info => "info"

/-- The severity of a word in lower case. -/
def Severity.ofName : String → Severity
  | "critical" => .critical
  | "warning" => .warning
  | _ => .info

structure Issue where
  severity : Severity
  file : String
  line : Int
  title : String
  description : String
  code : Option String
  suggestion : Option String
  deriving DecidableEq, Repr

namespace Issue

/-- A finding: its fields with their values, each name once. -/
abbrev Finding := List (String × Value)

/-- The value of a field unless it is missing, empty, zero or null. -/
def present? (finding : Finding) (field : String) : Option Value :=
  (finding.lookup field).filter Value.isPresent

/-- The text of a field, empty unless its value counts as present. -/
def textOf (room : Nat) (finding : Finding) (field : String) : Except Failure String :=
  match present? finding field with
  | some value => value.toText room
  | none => .ok ""

/-- The text of a field unless it is missing, null or blank. -/
def optionalTextOf (room : Nat) (finding : Finding) (field : String) :
    Except Failure (Option String) :=
  match finding.lookup field with
  | none | some .null => .ok none
  | some value =>
    (value.toText room).map fun text => if isBlank text then none else some text

/-- The value that the severity is read from. -/
def severityValue? (finding : Finding) : Option Value :=
  (present? finding "type").or (present? finding "severity")

def severityOf (room : Nat) (finding : Finding) : Except Failure Severity :=
  match severityValue? finding with
  | some value => (value.toText room).map fun text => Severity.ofName (lower text)
  | none => .ok .info

/-- The integer that a value stands for, zero if it stands for none. -/
def readLine : Value → Except Failure Int
  | .bool value => .ok (if value then 1 else 0)
  | .int value => .ok value
  | .float (.finite negative mantissa exponent) =>
    .ok (Binary.truncate negative mantissa exponent)
  | .float (.infinite _) => .error .infiniteLine
  | .text value => .ok ((readInteger? value).getD 0)
  | _ => .ok 0

def lineOf (finding : Finding) : Except Failure Int :=
  match present? finding "line" with
  | some value => readLine value
  | none => .ok 0

/-- Reads a finding field by field, up to the first failure. -/
def ofFinding (room : Nat) (finding : Finding) : Except Failure Issue := do
  let severity ← severityOf room finding
  let line ← lineOf finding
  let file ← textOf room finding "file"
  let title ← textOf room finding "title"
  let description ← textOf room finding "description"
  let code ← optionalTextOf room finding "code"
  let suggestion ← optionalTextOf room finding "suggestion"
  return { severity, file, line, title, description, code, suggestion }

def optionalValue : Option String → Value
  | some text => .text text
  | none => .null

def toFinding (issue : Issue) : Finding :=
  [("severity", .text issue.severity.name), ("file", .text issue.file),
    ("line", .int issue.line), ("title", .text issue.title),
    ("description", .text issue.description), ("code", optionalValue issue.code),
    ("suggestion", optionalValue issue.suggestion)]

end Issue

end ReviewContext
