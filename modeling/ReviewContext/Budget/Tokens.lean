import ReviewContext.Report.Failure
import ReviewContext.Text.Rows

/-!
# Tokens and budgets

A text is measured in tokens. An encoder of a model counts them exactly; without one they are
estimated: three tokens for two characters of wide scripts and one token for four others, rounded up
for the whole text. Encoders belong to a tokenizer, a package of its own that may fail in any way. A
budget has a ceiling of which some tokens are reserved for the answer; a prompt that leaves nothing
exceeds it.
-/

namespace ReviewContext

open ReviewContext.Text

/-- An encoder: how many tokens each text has, or the error in place of the number. -/
structure Encoder where
  count : String → Except ForeignError Nat

/-- What a tokenizer has for the name of a model. -/
inductive Mapping where
  | encoder (encoder : Encoder)
  | unknown
  | failed (error : ForeignError)

/-- A tokenizer: what it has for each model, and the encoder for models that it does not know. -/
structure Tokenizer where
  forModel : String → Mapping
  fallback : Except ForeignError Encoder

namespace Tokenizer

/-- A tokenizer that has nothing but an error. -/
def failing (error : ForeignError) : Tokenizer :=
  ⟨fun _ => .failed error, .error error⟩

/-- The encoder for a model, the one for unknown models if the model is unknown. -/
def encoderFor (tokenizer : Tokenizer) (model : String) : Except ForeignError Encoder :=
  match tokenizer.forModel model with
  | .encoder encoder => .ok encoder
  | .unknown => tokenizer.fallback
  | .failed error => .error error

def isUnknown (tokenizer : Tokenizer) (model : String) : Bool :=
  match tokenizer.forModel model with
  | .unknown => true
  | _ => false

end Tokenizer

/-- Characters of kana, of unified ideographs and of hangul syllables. -/
def isWide (c : Char) : Bool :=
  (0x3040 ≤ c.toNat && c.toNat ≤ 0x30ff) || (0x3400 ≤ c.toNat && c.toNat ≤ 0x4dbf) ||
    (0x4e00 ≤ c.toNat && c.toNat ≤ 0x9fff) || (0xac00 ≤ c.toNat && c.toNat ≤ 0xd7af) ||
    (0xf900 ≤ c.toNat && c.toNat ≤ 0xfaff)

/-- Twelfths of a token that a character is estimated at. -/
def weight (c : Char) : Nat :=
  if isWide c then 8 else 3

def weightOf (chars : List Char) : Nat :=
  chars.foldr (fun c rest => weight c + rest) 0

def estimateTokens (text : String) : Nat :=
  (weightOf text.toList + 11) / 12

structure Budget where
  ceiling : Int
  reserved : Int
  deriving DecidableEq, Repr

namespace Budget

/-- The tokens left beside a prompt. -/
def available (budget : Budget) (promptTokens : Int) : Int :=
  max 0 (budget.ceiling - promptTokens - budget.reserved)

def isExceeded (budget : Budget) (promptTokens : Int) : Bool :=
  budget.available promptTokens == 0

/-- Whether a text of estimated size fits. -/
def fits (budget : Budget) (text : String) : Bool :=
  !budget.isExceeded (estimateTokens text)

end Budget

end ReviewContext
