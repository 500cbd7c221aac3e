/-
**Nested dictionaries laid over each other.**

A path of keys leads from a nested dictionary to its parts. Laid over another one, a dictionary counts wherever
its paths lead to anything: what is no dictionary there cuts off whatever the lower one has behind it. Where the
upper one has nothing the lower one shows. Two dictionaries become one, whose keys are those of the lower one and
then the new ones. So laying the same dictionary over the result once more changes nothing. Main statements:

* `Value.IsNested`: a nested dictionary, or a value that is none;
* `Mapping.get?_merge`: what is under a key after one mapping was laid over another one;
* `Value.Overlaid` and `Value.overlaid`: what is at a path after that;
* `Value.covered_covered`: laying the same value over another one twice;
* `Mapping.merge_overlays`: both for dictionaries.
-/

import PromptWeave.Proofs.Value.Paths
import PromptWeave.Proofs.Value.Sameness

namespace PromptWeave

/-! ### One level -/

namespace Mapping

theorem get?_covered (key : Key) (base upper : Mapping) :
    get? key (covered base upper) =
      (get? key base).map fun below => ((get? key upper).map below.covered).getD below := by
  unfold get?
  induction base with
  | nil => rfl
  | cons entry base ih =>
    obtain ⟨other, below⟩ := entry
    rw [covered, Entries.get?, Entries.get?]
    split
    · rename_i here
      rw [get?, ← Entries.get?_congr here]
      cases Entries.get? Key.same key upper <;> rfl
    · exact ih

/-- **What is under a key of laid mappings**: what one of both has there, or what both have there laid over
each other. -/
theorem get?_merge (key : Key) (base upper : Mapping) :
    get? key (merge base upper) = Option.merge Value.covered (get? key base) (get? key upper) := by
  have back := get?_covered key base upper
  unfold get? at back ⊢
  rw [merge, Entries.get?_append, back, Entries.get?_without]
  cases Entries.get? Key.same key base <;> cases Entries.get? Key.same key upper <;> rfl

theorem keys_covered (base upper : Mapping) : (covered base upper).map Prod.fst = base.map Prod.fst := by
  induction base with
  | nil => rfl
  | cons entry base ih => rw [covered, List.map_cons, List.map_cons, ih]

/-- **The keys of laid mappings**: those of the lower one and behind them the new ones of the upper one. -/
theorem keys_merge (base upper : Mapping) :
    (merge base upper).map Prod.fst =
      base.map Prod.fst ++ (upper.map Prod.fst).filter fun key => (get? key base).isNone := by
  rw [merge, List.map_append, keys_covered, List.filter_map]
  rfl

/-- A mapping stays as it is if all that is laid over its values leaves them as they are. -/
theorem covered_of_fixed {base upper : Mapping}
    (fixed : ∀ entry ∈ base, ∀ value, get? entry.1 upper = some value → entry.2.covered value = entry.2) :
    covered base upper = base := by
  induction base with
  | nil => rfl
  | cons entry base ih =>
    obtain ⟨key, below⟩ := entry
    obtain ⟨here, later⟩ := List.forall_mem_cons.mp fixed
    rw [covered, ih later]
    cases found : get? key upper with
    | none => rfl
    | some value => exact congrArg (fun kept => (key, kept) :: base) (here value found)

theorem mem_covered {base upper : Mapping} {entry : Key × Value} (inside : entry ∈ covered base upper) :
    ∃ below, (entry.1, below) ∈ base ∧ entry.2 = ((get? entry.1 upper).map below.covered).getD below := by
  induction base with
  | nil => cases inside
  | cons first base ih =>
    obtain ⟨key, below⟩ := first
    rw [covered] at inside
    rcases List.mem_cons.mp inside with rfl | later
    · refine ⟨below, List.mem_cons_self, ?_⟩
      dsimp only
      cases get? key upper <;> rfl
    · obtain ⟨below, among, same⟩ := ih later
      exact ⟨below, List.mem_cons_of_mem _ among, same⟩

/-- Nothing is new among the keys that a mapping has. -/
theorem without_of_keys {base upper : Mapping} (there : ∀ entry ∈ upper, (get? entry.1 base).isSome = true) :
    Entries.without base upper = [] :=
  List.filter_eq_nil_iff.mpr fun entry inside => by
    have found := there entry inside
    unfold get? at found
    rw [Option.isNone_iff_eq_none]
    exact Option.isSome_iff_ne_none.mp found

/-- No two keys of a mapping are the same. -/
def KeysApart (entries : Mapping) : Prop :=
  entries.Pairwise fun first second => Key.same first.1 second.1 = false

/-- A mapping of keys that are apart has the value of each entry under its key. -/
theorem KeysApart.get?_of_mem {entries : Mapping} (apart : entries.KeysApart) {entry : Key × Value}
    (inside : entry ∈ entries) : get? entry.1 entries = some entry.2 := by
  unfold get?
  induction entries with
  | nil => cases inside
  | cons first entries ih =>
    obtain ⟨ahead, apart'⟩ := List.pairwise_cons.mp apart
    obtain ⟨key, value⟩ := first
    rw [Entries.get?]
    rcases List.mem_cons.mp inside with rfl | inside
    · exact if_pos (Key.same_refl key)
    · rw [if_neg fun alike => Bool.eq_false_iff.mp (ahead entry inside) (Key.same_symm alike)]
      exact ih apart' inside

end Mapping

/-! ### Nested dictionaries -/

namespace Value

/-- The entries of a dictionary; what is none has none. -/
def fields? (value : Value) : Option Mapping :=
  match value.opened with
  | .mapping false entries => some entries
  | _ => none

/-- **Nested dictionaries**, to any depth: the keys of each are apart. What is no dictionary is any value that
does not stand inside itself. -/
inductive IsNested : Value → Prop
  | leaf {value : Value} (other : ∀ entries, value ≠ .mapping false entries)
    (loopless : ∀ label inside, value ≠ .loop label inside) : IsNested value
  | dictionary {entries : Mapping} (apart : entries.KeysApart)
    (inside : ∀ entry ∈ entries, IsNested entry.2) : IsNested (.mapping false entries)

/-- Somewhere ahead of a path's end a value has something that is no dictionary. -/
def IsCutAt (path : List Key) (value : Value) : Prop :=
  ∃ front part, front <+: path ∧ front ≠ path ∧ value.at? front = some part ∧ part.fields? = none

/-- What is at one path of a lower value, of an upper one and of the upper one laid over the lower one, if it
is known whether the upper one is cut off ahead of the path's end. -/
structure Overlaid (cut : Prop) (lower upper laid : Option Value) : Prop where
  hidden : cut → laid = none
  taken : ∀ part, upper = some part → part.fields? = none ∨ lower.bind fields? = none → laid = some part
  kept : ¬ cut → upper = none → laid = lower
  joined : ∀ below above, lower.bind fields? = some below → upper.bind fields? = some above →
    ∃ entries, laid = some (.mapping false entries) ∧ entries.map Prod.fst =
      below.map Prod.fst ++ (above.map Prod.fst).filter fun key => (Mapping.get? key below).isNone

theorem fields?_eq_some_iff {value : Value} {entries : Mapping} :
    value.fields? = some entries ↔ value.opened = .mapping false entries := by
  unfold fields?
  cases value.opened with
  | mapping frozen others => cases frozen <;> simp
  | _ => simp

theorem entriesOf_eq (value : Value) : value.entriesOf = value.fields?.getD [] := by
  unfold entriesOf fields?
  cases value.opened with
  | mapping frozen entries => cases frozen <;> rfl
  | _ => rfl

theorem at?_of_no_fields {value : Value} (other : value.fields? = none) (key : Key) (path : List Key) :
    value.at? (key :: path) = none := by
  rw [at?_cons, entriesOf_eq, other]
  rfl

theorem isCutAt_cons {key : Key} {path : List Key} {value : Value} :
    value.IsCutAt (key :: path) ↔
      value.fields? = none ∨ ∃ inner, Mapping.get? key value.entriesOf = some inner ∧ inner.IsCutAt path := by
  constructor
  · rintro ⟨front, part, ahead, short, leads, other⟩
    cases front with
    | nil =>
      cases leads
      exact Or.inl other
    | cons first front =>
      obtain ⟨rfl, behind⟩ := List.cons_prefix_cons.mp ahead
      rw [at?_cons] at leads
      obtain ⟨inner, found, leads⟩ := Option.bind_eq_some_iff.mp leads
      exact Or.inr ⟨inner, found, front, part, behind, fun same => short (congrArg _ same), leads, other⟩
  · rintro (other | ⟨inner, found, front, part, ahead, short, leads, other⟩)
    · exact ⟨[], value, List.nil_prefix, nofun, rfl, other⟩
    · refine ⟨key :: front, part, List.cons_prefix_cons.mpr ⟨rfl, ahead⟩,
        fun same => short (List.cons.inj same).2, ?_, other⟩
      rw [at?_cons, found]
      exact leads

/-- A value that is cut off has nothing behind. -/
theorem IsCutAt.at?_eq_none {path : List Key} {value : Value} (cut : value.IsCutAt path) :
    value.at? path = none := by
  induction path generalizing value with
  | nil =>
    obtain ⟨front, _, ahead, short, _⟩ := cut
    exact absurd (List.prefix_nil.mp ahead) short
  | cons key path ih =>
    rcases isCutAt_cons.mp cut with other | ⟨inner, found, cut⟩
    · exact at?_of_no_fields other key path
    · rw [at?_cons, found]
      exact ih cut

section Laid

variable {below value : Value} {base upper : Mapping}

/-- Two dictionaries are laid over each other. -/
theorem covered_of_fields (fields : value.fields? = some upper) :
    covered (.mapping false base) value = .mapping false (Mapping.merge base upper) := by
  rw [covered, fields?_eq_some_iff.mp fields, Mapping.merge]

theorem covered_of_no_fields (other : value.fields? = none) :
    covered (.mapping false base) value = value := by
  have opens : ∀ entries, value.opened ≠ .mapping false entries := by
    intro entries opens
    rw [fields?_eq_some_iff.mpr opens] at other
    cases other
  rw [covered]
  split
  · rename_i here
    exact absurd here (opens _)
  · rfl

/-- Whatever is laid over a value that is no dictionary takes its place. -/
theorem covered_leaf (other : ∀ entries, below ≠ .mapping false entries)
    (loopless : ∀ label inside, below ≠ .loop label inside) (value : Value) : below.covered value = value := by
  cases below with
  | mapping frozen entries =>
    cases frozen with
    | false => exact absurd rfl (other entries)
    | true => rfl
  | loop label inside => exact absurd rfl (loopless label inside)
  | _ => rfl

theorem fields?_leaf (other : ∀ entries, below ≠ .mapping false entries)
    (loopless : ∀ label inside, below ≠ .loop label inside) : below.fields? = none := by
  cases below with
  | mapping frozen entries =>
    cases frozen with
    | false => exact absurd rfl (other entries)
    | true => rfl
  | loop label inside => exact absurd rfl (loopless label inside)
  | _ => rfl

/-- The entries of a nested dictionary hold nested ones. -/
theorem IsNested.of_get? {key : Key} {entries : Mapping} (nested : IsNested (.mapping false entries))
    {inner : Value} (found : Mapping.get? key entries = some inner) : inner.IsNested := by
  obtain ⟨other, among⟩ := Entries.exists_mem_of_get? found
  cases nested with
  | leaf other => exact absurd rfl (other entries)
  | dictionary _ inside => exact inside _ among

/-! ### What is at a path -/

theorem Overlaid.of_upper {cut : Prop} {above : Option Value} (hidden : cut → above = none) :
    Overlaid cut none above above where
  hidden := hidden
  taken _ there _ := there
  kept _ absent := absent
  joined _ _ none _ := absurd none.symm (Option.some_ne_none _)

theorem Overlaid.of_lower {cut : Prop} (uncut : ¬ cut) (lower : Option Value) : Overlaid cut lower none lower where
  hidden cut := absurd cut uncut
  taken _ none := absurd none.symm (Option.some_ne_none _)
  kept _ _ := rfl
  joined _ _ _ none := absurd none.symm (Option.some_ne_none _)

theorem Overlaid.of_cut {cut : Prop} (hides : cut) (lower : Option Value) : Overlaid cut lower none none where
  hidden _ := rfl
  taken _ none := absurd none.symm (Option.some_ne_none _)
  kept uncut := absurd hides uncut
  joined _ _ _ none := absurd none.symm (Option.some_ne_none _)

/-- Two values at one place. -/
theorem Overlaid.of_values {cut : Prop} (uncut : ¬ cut) (nested : below.IsNested) (value : Value) :
    Overlaid cut (some below) (some value) (some (below.covered value)) where
  hidden cut := absurd cut uncut
  taken part there alternative := by
    cases there
    cases nested with
    | leaf other loopless => exact congrArg some (covered_leaf other loopless value)
    | dictionary _ _ =>
      exact congrArg some (covered_of_no_fields (alternative.resolve_right (Option.some_ne_none _)))
  kept _ none := absurd none (Option.some_ne_none _)
  joined base upper lower above := by
    cases nested with
    | leaf other loopless =>
      rw [Option.bind_some, fields?_leaf other loopless] at lower
      cases lower
    | dictionary _ _ =>
      cases lower
      exact ⟨_, congrArg some (covered_of_fields above), Mapping.keys_merge _ _⟩

/-- **What is at a path** after a value was laid over a nested dictionary. -/
theorem overlaid (path : List Key) (nested : below.IsNested) (value : Value) :
    Overlaid (value.IsCutAt path) (below.at? path) (value.at? path) ((below.covered value).at? path) := by
  induction path generalizing below value with
  | nil => exact .of_values (fun cut => absurd cut.at?_eq_none (Option.some_ne_none _)) nested value
  | cons key path ih =>
    cases nested with
    | leaf other loopless =>
      rw [covered_leaf other loopless, at?_of_no_fields (fields?_leaf other loopless)]
      exact .of_upper IsCutAt.at?_eq_none
    | @dictionary base apart inside =>
      cases above : value.fields? with
      | none =>
        rw [covered_of_no_fields above, at?_of_no_fields above]
        exact .of_cut (isCutAt_cons.mpr (.inl above)) _
      | some upper =>
        have entries : value.entriesOf = upper := by rw [entriesOf_eq, above]; rfl
        have cut : value.IsCutAt (key :: path) ↔
            ∃ inner, Mapping.get? key upper = some inner ∧ inner.IsCutAt path := by
          rw [isCutAt_cons, above, entries]
          exact or_iff_right (Option.some_ne_none upper)
        rw [covered_of_fields above, cut, at?_cons, at?_cons, at?_cons, entries, entriesOf_mapping,
          entriesOf_mapping, Mapping.get?_merge]
        cases lower : Mapping.get? key base with
        | none =>
          cases Mapping.get? key upper with
          | none => exact .of_upper fun _ => rfl
          | some item =>
            refine .of_upper ?_
            rintro ⟨_, ⟨⟩, cut⟩
            exact cut.at?_eq_none
        | some inner =>
          cases Mapping.get? key upper with
          | none =>
            refine .of_lower ?_ _
            rintro ⟨_, ⟨⟩, _⟩
          | some item =>
            have there := ih ((IsNested.dictionary apart inside).of_get? lower) item
            simpa only [Option.some.injEq, exists_eq_left', Option.bind_some, Option.merge] using there

/-! ### Laying the same value over another one again -/

/-- A nested dictionary laid over itself is itself. -/
theorem IsNested.covered_self (nested : value.IsNested) : value.covered value = value := by
  induction nested with
  | leaf other loopless => exact covered_leaf other loopless _
  | @dictionary entries apart inside ih =>
    have whole : Mapping.covered entries entries = entries :=
      Mapping.covered_of_fixed fun entry among item found => by
        rw [apart.get?_of_mem among] at found
        cases found
        exact ih entry among
    have none : Entries.without entries entries = [] :=
      Mapping.without_of_keys fun entry among => by rw [apart.get?_of_mem among]; rfl
    rw [covered_of_fields rfl, Mapping.merge, whole, none, List.append_nil]

/-- **Laying a nested dictionary over the same value again** changes nothing. -/
theorem covered_covered (nested : value.IsNested) (lower : below.IsNested) :
    (below.covered value).covered value = below.covered value := by
  induction nested generalizing below with
  | @leaf value other loopless =>
    have replaced : below.covered value = value := by
      cases lower with
      | leaf other' loopless' => exact covered_leaf other' loopless' value
      | dictionary _ _ => exact covered_of_no_fields (fields?_leaf other loopless)
    rw [replaced, covered_leaf other loopless]
  | @dictionary upper apart inside ih =>
    cases lower with
    | leaf other loopless =>
      rw [covered_leaf other loopless]
      exact (IsNested.dictionary apart inside).covered_self
    | @dictionary base apart' inside' =>
      have fixed : ∀ entry ∈ Mapping.merge base upper, ∀ item,
          Mapping.get? entry.1 upper = some item → entry.2.covered item = entry.2 := by
        intro entry among item found
        rcases List.mem_append.mp among with among | among
        · obtain ⟨inner, among, same⟩ := Mapping.mem_covered among
          rw [found] at same
          obtain ⟨key, there⟩ := Entries.exists_mem_of_get? found
          rw [same]
          exact ih (key, item) there (inside' _ among)
        · have there := (List.mem_filter.mp among).1
          rw [apart.get?_of_mem there] at found
          cases found
          exact (inside entry there).covered_self
      have none : Entries.without (Mapping.merge base upper) upper = [] :=
        Mapping.without_of_keys fun entry among => by
          rw [Mapping.get?_merge, apart.get?_of_mem among]
          cases Mapping.get? entry.1 base <;> rfl
      have whole := Mapping.covered_of_fixed fixed
      rw [covered_of_fields rfl, covered_of_fields rfl, Mapping.merge, whole, none, List.append_nil]

end Laid

end Value

namespace Mapping

/-- **A nested dictionary laid over another one.** At every path it hides what the lower one has behind a value
that is no dictionary, it counts where it has a value, it lets the lower one show where it has nothing, and two
dictionaries become one with the keys of the lower one first. Laid over the result once more it changes nothing. -/
theorem merge_overlays {base upper : Mapping} (lower : Value.IsNested (.mapping false base))
    (above : Value.IsNested (.mapping false upper)) :
    (∀ path, Value.Overlaid (Value.IsCutAt path (.mapping false upper))
      (Value.at? path (.mapping false base)) (Value.at? path (.mapping false upper))
      (Value.at? path (.mapping false (merge base upper)))) ∧
    merge (merge base upper) upper = merge base upper := by
  have joined : Value.covered (.mapping false base) (.mapping false upper) = .mapping false (merge base upper) :=
    Value.covered_of_fields rfl
  constructor
  · intro path
    rw [← joined]
    exact Value.overlaid path lower _
  · have again := Value.covered_covered above lower
    rw [joined, Value.covered_of_fields rfl] at again
    exact (Value.mapping.inj again).2

/-- Settings with a dictionary against a number both ways round. -/
def plainSettings : Mapping :=
  [(Key.ofString "output", .record [("indent", .integer 2)]), (Key.ofString "limits", .integer 3)]

/-- What is laid over them. -/
def projectSettings : Mapping :=
  [(Key.ofString "limits", .record [("depth", .integer 8)]), (Key.ofString "output", .null),
    (Key.ofString "cache", .bool true)]

/-- A value in the place of a dictionary hides the part of the other one, and a dictionary takes the place of a
value. -/
theorem merge_overlays_settings :
    Value.at? [Key.ofString "output", Key.ofString "indent"]
      (.mapping false (merge plainSettings projectSettings)) = none ∧
    Value.at? [Key.ofString "limits"] (.mapping false (merge plainSettings projectSettings)) =
      some (.record [("depth", .integer 8)]) ∧
    merge (merge plainSettings projectSettings) projectSettings = merge plainSettings projectSettings := by
  have number (whole : Int) : Value.IsNested (.integer whole) := .leaf nofun nofun
  have lower : Value.IsNested (.mapping false plainSettings) := by
    refine .dictionary (by unfold KeysApart; decide) ?_
    simp only [plainSettings, List.forall_mem_cons]
    refine ⟨.dictionary (by unfold KeysApart; decide) ?_, number 3, nofun⟩
    simpa using number 2
  have above : Value.IsNested (.mapping false projectSettings) := by
    refine .dictionary (by unfold KeysApart; decide) ?_
    simp only [projectSettings, List.forall_mem_cons]
    refine ⟨.dictionary (by unfold KeysApart; decide) ?_, .leaf nofun nofun, .leaf nofun nofun, nofun⟩
    simpa using number 8
  obtain ⟨paths, again⟩ := merge_overlays lower above
  exact ⟨(paths _).hidden ⟨[Key.ofString "output"], .null, ⟨_, rfl⟩, by simp, rfl, rfl⟩,
    (paths _).taken _ rfl (Or.inr rfl), again⟩

end Mapping

end PromptWeave
