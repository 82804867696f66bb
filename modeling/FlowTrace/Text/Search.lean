/-
  FlowTrace.Text.Search
  ────────────────────────────────
  **FINDING A WORD IN A TEXT.**
-/
import FlowTrace.Text.CodePoint

namespace FlowTrace

/-- Does `word` stand somewhere in `ps`? -/
def occursIn (word : List CodePoint) : List CodePoint → Bool
  | [] => word.isEmpty
  | p :: ps => word.isPrefixOf (p :: ps) || occursIn word ps

/-- Does the text hold the word?  The empty word is in every text. -/
def contains (s word : String) : Bool := occursIn (CodePoint.split word) (CodePoint.split s)

end FlowTrace
