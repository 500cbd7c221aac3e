/-
**Order by text.**

Rows are put in order by a text that belongs to each item, code point by code point. Items with the
same text keep their order. Main statements:

* `Text.insertBy`: an item in its place of a row;
* `Text.sortBy`: a row in order.
-/

import PromptWeave.Text

namespace PromptWeave.Text

variable {α : Type}

/-- Puts an item into an ordered row, before the items with the same text. -/
def insertBy (key : α → Text) (item : α) : List α → List α
  | [] => [item]
  | other :: items =>
    if key other < key item then other :: insertBy key item items else item :: other :: items

/-- A row in the order of the texts of its items. -/
def sortBy (key : α → Text) (items : List α) : List α := items.foldr (insertBy key) []

end PromptWeave.Text
