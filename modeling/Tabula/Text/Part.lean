/-!
Parts of texts.
-/

namespace Tabula.Text

def hasPart (part : List Char) : List Char → Bool
  | [] => part.isEmpty
  | c :: cs => part.isPrefixOf (c :: cs) || hasPart part cs

theorem hasPart_iff {part cs : List Char} : hasPart part cs = true ↔ part <:+: cs := by
  induction cs with
  | nil => simp [hasPart, List.isEmpty_iff]
  | cons c cs ih => simp [hasPart, ih, List.infix_cons_iff]

end Tabula.Text
