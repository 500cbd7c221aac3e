/-
**Chains of ancestors.**

While documents are put into one another, each is met with the chain of the documents that lead to
it. A chain never repeats a path and never grows deeper than allowed; a document may still be met
again on another branch, because every branch has a chain of its own. Main statements:

* `Chain.extend`: one document more, or the failure that forbids it;
* `Chain.extend_nodup`: extending keeps the paths distinct;
* `Chain.extend_depth_le`: extending keeps the depth within the limit.
-/

import PromptWeave.Failure

namespace PromptWeave

/-- The documents that lead to the one at the end, from the root document on. -/
structure Chain where
  paths : List Path
deriving DecidableEq, Repr

namespace Chain

/-- The chain without documents. -/
def empty : Chain := ⟨[]⟩

/-- The chain of a root document. -/
def root (path : Path) : Chain := ⟨[path]⟩

/-- How deeply the last document is nested below the root document. -/
def depth (chain : Chain) : Nat := chain.paths.length - 1

/-- The last document. -/
def last? (chain : Chain) : Option Path := chain.paths.getLast?

/-- Whether a document is on the chain. -/
def contains (chain : Chain) (path : Path) : Bool := chain.paths.contains path

/-- The chain with one document more. A document that is on the chain already and a depth beyond
the limit are failures. -/
def extend (chain : Chain) (path : Path) (limit : Option Int) : Except Failure Chain :=
  if path ∈ chain.paths then .error (.circular (chain.paths ++ [path]))
  else
    let extended : Chain := ⟨chain.paths ++ [path]⟩
    match limit with
    | none => .ok extended
    | some limit =>
      if limit < extended.depth then .error (.tooDeep limit extended.paths) else .ok extended

/-- The documents with arrows between them. -/
def text (chain : Chain) : String := Path.chainText chain.paths

theorem extend_paths {chain extended : Chain} {path : Path} {limit : Option Int}
    (done : chain.extend path limit = .ok extended) :
    path ∉ chain.paths ∧ extended.paths = chain.paths ++ [path] := by
  unfold extend at done
  split at done
  · simp at done
  · rename_i fresh
    refine ⟨fresh, ?_⟩
    split at done
    · cases done; rfl
    · simp only at done
      split at done
      · simp at done
      · cases done; rfl

/-- Extending keeps the paths distinct. -/
theorem extend_nodup {chain extended : Chain} {path : Path} {limit : Option Int}
    (distinct : chain.paths.Nodup) (done : chain.extend path limit = .ok extended) :
    extended.paths.Nodup := by
  obtain ⟨fresh, paths⟩ := extend_paths done
  rw [paths, List.nodup_append]
  refine ⟨distinct, by simp, ?_⟩
  intro first inside second last equal
  rw [List.mem_singleton] at last
  exact fresh (last ▸ equal ▸ inside)

/-- Extending keeps the depth within the limit. -/
theorem extend_depth_le {chain extended : Chain} {path : Path} {limit : Int}
    (done : chain.extend path (some limit) = .ok extended) : (extended.depth : Int) ≤ limit := by
  unfold extend at done
  split at done
  · simp at done
  · simp only at done
    split at done
    · simp at done
    · rename_i shallow
      cases done
      omega

end Chain

end PromptWeave
