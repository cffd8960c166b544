/-! Readers of text: each takes characters from the front of the input or refuses it, and a refused
alternative leaves the input as it was. -/

namespace ForeignCall

abbrev Reader := StateT (List Char) Option

namespace Reader

def satisfy (holds : Char → Bool) : Reader Char
  | [] => none
  | first :: rest => if holds first then some (first, rest) else none

def exact : List Char → Reader Unit
  | [] => return ()
  | first :: rest => do
    let _ ← satisfy (· == first)
    exact rest

def span (holds : Char → Bool) : Reader (List Char) :=
  fun input => some (input.takeWhile holds, input.dropWhile holds)

def finish : Reader Unit
  | [] => some ((), [])
  | _ => none

def upTo {α : Type} (item : Reader α) : Nat → Reader (List α)
  | 0 => return []
  | limit + 1 => (do
      let first ← item
      return first :: (← upTo item limit)) <|> return []

/-- As many items as there are. Every item takes a character, so there are no more than characters
left. -/
def many {α : Type} (item : Reader α) : Reader (List α) := do
  upTo item (← get).length

def separated {α β : Type} (item : Reader α) (separator : Reader β) : Reader (List α) := do
  let first ← item
  return first :: (← many (separator *> item))

def read? {α : Type} (reader : Reader α) (text : String) : Option α :=
  ((reader <* finish).run text.toList).map (·.1)

end Reader

end ForeignCall
