import Polystore.Text.CaseMaps
import Polystore.Text.Letters

/-!
Words in title case: their first letter in title form, the others small. A capital sigma becomes
the final small sigma at the end of a word.
-/

namespace Polystore.Text

/-- Whether the nearest character that case does not look through is a cased one. -/
def meetsLetter (cs : List Char) : Bool :=
  match cs.dropWhile isCaseIgnorable with
  | c :: _ => isCased c
  | [] => false

/-- The small form of a letter within its word; what stands before it is given in reverse. -/
def smallWithin (before : List Char) (c : Char) (behind : List Char) : List Char :=
  if c = 'Σ' then [if meetsLetter before && !meetsLetter behind then 'ς' else 'σ'] else small c

/-- Writes characters in title case; those before them are given in reverse. -/
def titledFrom (before : List Char) : List Char → List Char
  | [] => []
  | c :: behind =>
    (if before.head?.any isCased then smallWithin before c behind else title c)
      ++ titledFrom (c :: before) behind

/-- Writes words in title case. A word goes on as long as its characters are cased. -/
def titled (cs : List Char) : List Char := titledFrom [] cs

end Polystore.Text
