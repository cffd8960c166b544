/-! White space around texts. -/

namespace ForeignCall

def isWhiteSpace (character : Char) : Bool :=
  let code := character.toNat
  (9 ≤ code && code ≤ 13) || (0x2000 ≤ code && code ≤ 0x200a) ||
    [0x20, 0x85, 0xa0, 0x1680, 0x2028, 0x2029, 0x202f, 0x205f, 0x3000].contains code

theorem isWhiteSpace_of_isWhitespace (character : Char) (blank : character.isWhitespace = true) :
    isWhiteSpace character = true := by
  simp only [Char.isWhitespace, Bool.or_eq_true, decide_eq_true_eq] at blank
  rcases blank with ((rfl | rfl) | rfl) | rfl <;> decide

def trimmed (characters : List Char) : List Char :=
  ((characters.dropWhile isWhiteSpace).reverse.dropWhile isWhiteSpace).reverse

end ForeignCall
