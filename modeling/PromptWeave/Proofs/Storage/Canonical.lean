/-
**Look-ups and resolved links.**

Resolving the links of a path and looking the path up go the same way, as long as the system finds the
links that a look-up follows: each of them has to be met under a spelling that is not too long. Then no
link on a way that leads somewhere leads back to itself, and the way goes on from the place that its
names resolve to. Main statements:

* `FileSystem.followed`: the links that a look-up follows, as they are spelled when they are met;
* `FileSystem.Leads`: a look-up that leads somewhere and whose links are found;
* `FileSystem.Leads.of_settled`: it goes on from where its names resolve to, or it ends there;
* `FileSystem.Leads.not_looped`: no link on it leads back to itself;
* `World.resolve_of_resolvePath`: a path that stays as it is stays so from everywhere.
-/

import PromptWeave.Proofs.Storage.Document
import PromptWeave.Proofs.Storage.Reached
import PromptWeave.Proofs.Storage.Refusal

namespace PromptWeave

open Text

/-! ### Routes -/

namespace Route

variable {current : Place}

@[simp] theorem place_enter (route : Route) (name : String) :
    (route.enter name).place current = route.place current ++ [name] := by
  rw [place, place, enter, List.append_assoc]

theorem ways_enter (route : Route) (name : String) :
    (route.enter name).ways current = route.ways current ++ [route.place current] := by
  have before : ∀ depth ∈ List.range route.names.length,
      origin current route.ups ++ (route.names ++ [name]).take depth =
        origin current route.ups ++ route.names.take depth := by
    intro depth inside
    rw [List.take_append_of_le_length (Nat.le_of_lt (List.mem_range.mp inside))]
  unfold ways enter
  dsimp only
  rw [List.length_append, List.length_singleton, List.range_succ, List.map_append,
    List.map_congr_left before, List.append_assoc, List.map_singleton, List.take_left' rfl]
  rfl

/-- One name further and one step up lead back. -/
theorem up_enter (route : Route) (name : String) : (route.enter name).up = route := by
  unfold up enter
  rw [if_neg (List.append_ne_nil_of_right_ne_nil _ (List.cons_ne_nil _ _)), List.dropLast_concat]

/-- A route has no names, or it enters the last of them. -/
theorem eq_start_or_enter (route : Route) :
    (∃ ups, route = ⟨ups, []⟩) ∨ ∃ before name, route = enter before name := by
  obtain ⟨ups, names⟩ := route
  rcases List.eq_nil_or_concat names with rfl | ⟨front, last, rfl⟩
  · exact Or.inl ⟨ups, rfl⟩
  · exact Or.inr ⟨⟨ups, front⟩, last, by rw [enter, List.concat_eq_append]⟩

/-- The start of a route one step up lies above that of the route. -/
theorem origin_succ (ups : Nat) : origin current (some (ups + 1)) =
    (origin current (some ups)).dropLast := by
  rw [origin, origin, List.dropLast_eq_take, List.take_take, List.length_take]
  congr 1
  omega

theorem place_up (route : Route) : route.up.place current = (route.place current).dropLast := by
  rcases route.eq_start_or_enter with ⟨_ | ups, rfl⟩ | ⟨before, name, rfl⟩
  · rfl
  · show origin current (some (ups + 1)) ++ [] = (origin current (some ups) ++ []).dropLast
    rw [List.append_nil, List.append_nil, origin_succ]
  · rw [up_enter, place_enter, List.dropLast_concat]

theorem mem_ways_up {route : Route} {directory : Place}
    (inside : directory ∈ route.up.ways current) :
    directory ∈ route.ways current ∨ directory = route.place current := by
  rcases route.eq_start_or_enter with ⟨_ | ups, rfl⟩ | ⟨before, name, rfl⟩
  · exact Or.inl inside
  · have listed : directory ∈ (List.range (ups + 1)).map (fun steps => origin current (some steps)) ++
        [] := inside
    rw [List.append_nil, List.range_succ, List.map_append, List.mem_append] at listed
    rcases listed with before | last
    · exact Or.inl (List.mem_append_left _ before)
    · right
      rw [List.mem_singleton.mp last, place, List.append_nil]
  · rw [up_enter] at inside
    rw [ways_enter]
    exact Or.inl (List.mem_append_left _ inside)

theorem place_along (route : Route) (target : String) :
    (route.along target).place current = FileSystem.startOf (route.place current) target := by
  unfold along FileSystem.startOf
  split <;> rfl

theorem enter_inj {route other : Route} {name again : String}
    (same : route.enter name = other.enter again) : route = other ∧ name = again := by
  obtain ⟨ups, names⟩ := route
  obtain ⟨ups', names'⟩ := other
  simp only [enter, mk.injEq] at same
  obtain ⟨rfl, last⟩ := List.append_inj' same.2 rfl
  cases last
  exact ⟨by rw [same.1], rfl⟩

end Route

namespace FileSystem

variable {files : FileSystem}

/-! ### Ways whose links are found -/

/-- The links that a look-up along names follows from the end of a route, with so many links left to
follow: the routes under which they are met. -/
def followed (files : FileSystem) (current : Place) (links : Nat) (route : Route)
    (names : List String) : List Route :=
  match names with
  | [] => []
  | name :: rest =>
    if name = "" ∨ name = "." then followed files current links route rest
    else if name = ".." then followed files current links route.up rest
    else match files.link? ((route.enter name).place current) with
      | none => followed files current links (route.enter name) rest
      | some target =>
        route.enter name ::
          match links with
          | 0 => []
          | links + 1 => followed files current links (route.along target) (pieces target ++ rest)
termination_by (links, names.length)

/-- **A look-up from the end of a route that leads somewhere**, on whose route all directories may be
searched, and the links of which are met under spellings that are not too long. -/
structure Leads (files : FileSystem) (current : Place) (links : Nat) (route : Route)
    (names : List String) (reached : Place × Entry) : Prop where
  search : ∀ directory ∈ route.ways current, files.maySearch directory = true
  short : ∀ link ∈ files.followed current links route names,
    ¬ spellingLimit < link.path.text.utf8ByteSize
  walked : files.walk links (route.place current) names = .ok reached

namespace Leads

variable {current : Place} {links : Nat} {route : Route} {name : String} {rest : List String}
  {reached : Place × Entry} {active : List Route}

theorem dot (leads : files.Leads current links route (name :: rest) reached)
    (dot : name = "" ∨ name = ".") : files.Leads current links route rest reached where
  search := leads.search
  short := by
    have short := leads.short
    rwa [followed, if_pos dot] at short
  walked := by
    have walked := leads.walked
    have free := not_bars_of_walk walked
    rwa [walk, if_neg free, if_pos dot] at walked

theorem up (leads : files.Leads current links route (".." :: rest) reached) :
    files.Leads current links route.up rest reached where
  search := by
    intro directory inside
    rcases Route.mem_ways_up inside with before | rfl
    · exact leads.search directory before
    · exact maySearch_of_walk (by decide) leads.walked
  short := by
    have short := leads.short
    rwa [followed, if_neg (by decide), if_pos rfl] at short
  walked := by
    have walked := leads.walked
    have free := not_bars_of_walk walked
    rwa [walk, if_neg free, if_neg (by decide), if_pos rfl, ← Route.place_up] at walked

/-- On such a way the system finds each link. -/
theorem readLink?_eq (leads : files.Leads current links route (name :: rest) reached)
    (plain : ¬ (name = "" ∨ name = ".")) (up : name ≠ "..") :
    files.readLink? current (route.enter name) = files.link? ((route.enter name).place current) := by
  unfold readLink?
  cases link : files.link? ((route.enter name).place current) with
  | none => simp
  | some target =>
    have short := leads.short
    rw [followed, if_neg plain, if_neg up, link] at short
    rw [if_neg (short _ List.mem_cons_self), if_pos]
    rw [Route.ways_enter, List.all_append, List.all_eq_true.mpr leads.search, List.all_cons,
      maySearch_of_walk (not_or.mp plain).1 leads.walked]
    rfl

/-- **A step along a link goes on from where the link leads**, with one link fewer left to follow. -/
theorem link {target : String} (leads : files.Leads current links route (name :: rest) reached)
    (plain : ¬ (name = "" ∨ name = ".")) (up : name ≠ "..")
    (found : files.readLink? current (route.enter name) = some target) :
    ∃ left, links = left + 1 ∧
      files.Leads current left (route.along target) (pieces target ++ rest) reached := by
  have link := (leads.readLink?_eq plain up).symm.trans found
  have stored := link?_eq_some_iff.mp link
  rw [Route.place_enter] at stored
  rcases walk_name_ok plain up leads.walked with
    ⟨other, _⟩ | ⟨again, left, rfl, other, further⟩ | ⟨_, _, other, _⟩
  · cases stored.symm.trans other
  · cases stored.symm.trans other
    refine ⟨left, rfl, ?_, ?_, ?_⟩
    · unfold Route.along
      split
      · intro directory inside
        cases inside
      · exact leads.search
    · have short := leads.short
      rw [followed, if_neg plain, if_neg up, link] at short
      exact (List.forall_mem_cons.mp short).2
    · rwa [Route.place_along]
  · cases stored.symm.trans other

/-- **A step along no link goes on below its name**, or it ends there. -/
theorem unlinked (leads : files.Leads current links route (name :: rest) reached)
    (plain : ¬ (name = "" ∨ name = ".")) (up : name ≠ "..")
    (absent : files.readLink? current (route.enter name) = none) :
    files.Leads current links (route.enter name) rest reached ∨
      rest = [] ∧ reached.1 = (route.enter name).place current := by
  have none := (leads.readLink?_eq plain up).symm.trans absent
  rcases walk_name_ok plain up leads.walked with
    ⟨_, further⟩ | ⟨target, _, _, stored, _⟩ | ⟨_, _, _, last, rfl⟩
  · refine Or.inl ⟨?_, ?_, ?_⟩
    · rw [Route.ways_enter]
      intro directory inside
      rcases List.mem_append.mp inside with before | last
      · exact leads.search directory before
      · rw [List.mem_singleton.mp last]
        exact maySearch_of_walk (not_or.mp plain).1 leads.walked
    · have short := leads.short
      rwa [followed, if_neg plain, if_neg up, none] at short
    · rwa [Route.place_enter]
  · rw [Route.place_enter, link?_eq_some_iff.mpr stored] at none
    cases none
  · exact Or.inr ⟨last, (Route.place_enter ..).symm⟩

/-- **A look-up goes on from where its names resolve to**, or it ends there. -/
theorem of_settled {names : List String} {final : Route}
    (settled : files.resolve current active route names = .settled final) {tail : List String}
    (leads : files.Leads current links route (names ++ tail) reached) :
    (∃ left ≤ links, files.Leads current left final tail reached) ∨
      tail = [] ∧ reached.1 = final.place current := by
  fun_induction FileSystem.resolve files current active route names
    generalizing links tail reached final with
  | case1 active route =>
    cases settled
    exact Or.inl ⟨links, Nat.le_refl _, leads⟩
  | case2 active route name rest dot ih => exact ih settled (leads.dot dot)
  | case3 active route rest dot ih => exact ih settled leads.up
  | case4 => cases settled
  | case5 active route name rest plain up spoken absent ih =>
    rcases leads.unlinked plain up absent with further | ⟨last, ends⟩
    · exact ih settled further
    · obtain ⟨rfl, rfl⟩ := List.append_eq_nil_iff.mp last
      rw [FileSystem.resolve] at settled
      cases settled
      exact Or.inr ⟨rfl, ends⟩
  | case6 => cases settled
  | case7 active route name rest plain up spoken target found fresh inner _ ihInner ihRest =>
    obtain ⟨left, rfl, further⟩ := leads.link plain up found
    rcases ihInner ‹_› further with ⟨more, below, inside⟩ | ⟨last, ends⟩
    · rcases ihRest settled inside with ⟨least, lower, behind⟩ | here
      · exact Or.inl ⟨least, by omega, behind⟩
      · exact Or.inr here
    · obtain ⟨rfl, rfl⟩ := List.append_eq_nil_iff.mp last
      rw [FileSystem.resolve] at settled
      cases settled
      exact Or.inr ⟨rfl, ends⟩
  | case8 => cases settled
  | case9 => cases settled

/-- If a link leads back to one of those that are being followed, then the way comes to that link
again, and with no more links left to follow. -/
theorem of_looped {names beyond : List String}
    (looped : files.resolve current active route names = .looped beyond) {tail : List String}
    (leads : files.Leads current links route (names ++ tail) reached) :
    ∃ again name, again.enter name ∈ active ∧ ∃ left ≤ links, ∃ others,
      files.Leads current left again (name :: others) reached := by
  fun_induction FileSystem.resolve files current active route names
    generalizing links tail beyond with
  | case1 => cases looped
  | case2 active route name rest dot ih => exact ih looped (leads.dot dot)
  | case3 active route rest dot ih => exact ih looped leads.up
  | case4 => cases looped
  | case5 active route name rest plain up spoken absent ih =>
    rcases leads.unlinked plain up absent with further | ⟨last, _⟩
    · exact ih looped further
    · obtain ⟨rfl, rfl⟩ := List.append_eq_nil_iff.mp last
      rw [FileSystem.resolve] at looped
      cases looped
  | case6 active route name rest plain up spoken target found known =>
    exact ⟨route, name, known, links, Nat.le_refl _, rest ++ tail, leads⟩
  | case7 active route name rest plain up spoken target found fresh inner settled ihInner ihRest =>
    obtain ⟨left, rfl, further⟩ := leads.link plain up found
    rcases further.of_settled settled with ⟨more, below, inside⟩ | ⟨last, _⟩
    · obtain ⟨again, other, known, least, lower, way⟩ := ihRest looped inside
      exact ⟨again, other, known, least, by omega, way⟩
    · obtain ⟨rfl, rfl⟩ := List.append_eq_nil_iff.mp last
      rw [FileSystem.resolve] at looped
      cases looped
  | case8 active route name rest plain up spoken target found fresh names looping ih =>
    -- The link that is met again may be the one that is being followed here. Then the way goes on from
    -- it as before, with fewer links left to follow.
    have around : ∀ (links : Nat) (others : List String),
        files.Leads current links route (name :: others) reached →
        ∃ again other, again.enter other ∈ active ∧ ∃ left ≤ links, ∃ others,
          files.Leads current left again (other :: others) reached := by
      intro links
      induction links using Nat.strongRecOn with
      | ind links fewer =>
        intro others leads
        obtain ⟨left, rfl, further⟩ := leads.link plain up found
        obtain ⟨again, other, known, last, below, more, way⟩ := ih looping further
        rcases List.mem_cons.mp known with same | known
        · obtain ⟨rfl, rfl⟩ := Route.enter_inj same
          obtain ⟨again, other, known, least, lower, way⟩ := fewer last (by omega) more way
          exact ⟨again, other, known, least, by omega, way⟩
        · exact ⟨again, other, known, last, by omega, more, way⟩
    exact around links _ leads
  | case9 => cases looped

/-- **On a way that leads somewhere no link leads back to itself.** -/
theorem not_looped {names tail : List String}
    (leads : files.Leads current links route (names ++ tail) reached) (beyond : List String) :
    files.resolve current [] route names ≠ .looped beyond := by
  intro looped
  obtain ⟨_, _, known, _⟩ := leads.of_looped looped
  cases known

end Leads

end FileSystem

namespace World

variable {world : World}

/-! ### Canonical paths -/

/-- A path that stands as it is does so as it is. -/
theorem eq_of_unlooped {path other : Path} (stands : world.unlooped path = .ok other) :
    other = path := by
  unfold unlooped at stands
  split at stands
  · cases stands
  · split at stands
    · cases stands
    · cases stands
      rfl

/-- A canonical path is absolute. -/
theorem isAbsolute_of_resolve {path canonical : Path}
    (resolved : world.resolve path = .ok canonical) : canonical.isAbsolute = true := by
  unfold World.resolve at resolved
  split at resolved
  · cases resolved
  · rw [eq_of_unlooped resolved]
    rfl
  · rw [eq_of_unlooped resolved]
    unfold FileSystem.loopPath
    split <;> rfl

/-- Only a relative path has a home directory at its beginning. -/
theorem expandHome_of_isAbsolute {path : Path} (absolute : path.isAbsolute = true) :
    world.expandHome path = .ok path := by
  obtain ⟨anchor, parts⟩ := path
  cases anchor with
  | here => cases absolute
  | root => rfl
  | doubleRoot => rfl

/-- A path that stays as it is stays so from every directory on. -/
theorem resolve_of_resolvePath {base path : Path} (settled : world.resolvePath base path = .ok path) :
    world.resolve path = .ok path ∧ (∀ other, world.resolvePath other path = .ok path) ∧
      world.resolveDirectory path = .ok path := by
  have absolute : path.isAbsolute = true := by
    rw [resolvePath_eq] at settled
    split at settled
    · cases settled
    · exact isAbsolute_of_resolve settled
  have expanded : world.expandHome path = .ok path := expandHome_of_isAbsolute absolute
  rw [resolvePath_eq, expanded] at settled
  simp only [Path.join_of_isAbsolute absolute] at settled
  refine ⟨settled, fun other => ?_, ?_⟩
  · rw [resolvePath_eq, expanded]
    simp only [Path.join_of_isAbsolute absolute, settled]
  · rw [resolveDirectory_eq, expanded]
    exact settled

end World

end PromptWeave
