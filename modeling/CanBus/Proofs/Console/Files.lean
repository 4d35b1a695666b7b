import CanBus.Console.Rehearsal

/-!
# Files — what a path leads to after it was written

A file that was created is found at its path and is empty (`Free.create`), and what is appended to a file comes behind
what it held (`Holds.append`); everything else that can be reached can still be reached (`Within`).
-/

namespace CanBus.Console

namespace FileTree

/-- A file is at the path, and it holds these characters. -/
def Holds (tree : FileTree) (path : String) (cs : List Char) : Prop :=
  ∃ place text, tree.find path = .ok place ∧ tree.devices.lookup place = none ∧ tree.files.lookup place = some text ∧
    text.toList = cs

/-- A file can be made at the path. -/
def Free (tree : FileTree) (path : String) : Prop :=
  ∃ place, tree.reserve path = .ok place ∧ tree.devices.lookup place = none

/-- All directories of a tree, and all that it contains, are in another. -/
structure Within (tree tree' : FileTree) : Prop where
  hasDirectory : ∀ {place}, tree.hasDirectory place = true → tree'.hasDirectory place = true
  contains : ∀ {place}, tree.contains place = true → tree'.contains place = true

variable {tree tree' : FileTree} {path : String} {cs : List Char} {place : Place} {text : String}

theorem Holds.read (h : tree.Holds path cs) : tree.read path = .ok cs := by
  obtain ⟨place, text, hfind, -, hlookup, rfl⟩ := h
  rw [FileTree.read, hfind]
  show Except.ok ((tree.files.lookup place).getD "").toList = _
  rw [hlookup]
  rfl

/-! ## Ways through a tree -/

theorem hasDirectory_of_enter {part : String} {next : Place} (h : tree.enter place part = .ok next) :
    tree.hasDirectory place = true := by
  cases hdirectory : tree.hasDirectory place with
  | true => rfl
  | false =>
    rw [enter, hdirectory] at h
    cases h

theorem Within.enter (h : Within tree tree') {part : String} {next : Place}
    (henter : tree.enter place part = .ok next) : tree'.enter place part = .ok next := by
  have hdirectory := hasDirectory_of_enter henter
  rw [FileTree.enter, hdirectory] at henter
  rw [FileTree.enter, h.hasDirectory hdirectory]
  exact henter

theorem follow_cons_eq_ok_iff {part : String} {rest : List String} {last : Place} :
    tree.follow place (part :: rest) = .ok last ↔
      ∃ next, tree.enter place part = .ok next ∧ tree.contains next = true ∧ tree.follow next rest = .ok last := by
  have hstep : ∀ next, (if tree.contains next then tree.follow next rest else .error .missing) = .ok last ↔
      tree.contains next = true ∧ tree.follow next rest = .ok last := by
    intro next
    cases tree.contains next <;> simp
  rw [follow, bind_eq_ok_iff]
  exact exists_congr fun next => and_congr_right fun _ => hstep next

theorem follow_append {front back : List String} {mid last : Place} (hfront : tree.follow place front = .ok mid)
    (hback : tree.follow mid back = .ok last) : tree.follow place (front ++ back) = .ok last := by
  induction front generalizing place with
  | nil =>
    cases hfront
    exact hback
  | cons part front ih =>
    obtain ⟨next, henter, hcontains, hrest⟩ := follow_cons_eq_ok_iff.1 hfront
    exact follow_cons_eq_ok_iff.2 ⟨next, henter, hcontains, ih hrest⟩

theorem Within.follow (h : Within tree tree') {parts : List String} {last : Place}
    (hfollow : tree.follow place parts = .ok last) : tree'.follow place parts = .ok last := by
  induction parts generalizing place with
  | nil => exact hfollow
  | cons part parts ih =>
    obtain ⟨next, henter, hcontains, hrest⟩ := follow_cons_eq_ok_iff.1 hfollow
    exact follow_cons_eq_ok_iff.2 ⟨next, h.enter henter, h.contains hcontains, ih hrest⟩

/-- What can be used as a file is no directory. -/
theorem usable_eq_ok_iff {last : Place} :
    tree.usable place = .ok last ↔
      tree.hasDirectory place = false ∧ tree.devices.lookup place ≠ some .unconnected ∧ place = last := by
  unfold usable
  cases tree.hasDirectory place with
  | true => exact ⟨nofun, nofun⟩
  | false =>
    by_cases hunconnected : tree.devices.lookup place = some .unconnected
    · rw [if_neg Bool.false_ne_true, if_pos hunconnected]
      exact ⟨nofun, fun h => absurd hunconnected h.2.1⟩
    · rw [if_neg Bool.false_ne_true, if_neg hunconnected]
      exact ⟨fun h => ⟨rfl, hunconnected, Except.ok.inj h⟩, fun h => congrArg Except.ok h.2.2⟩

theorem find_eq_ok_iff {last : Place} :
    tree.find path = .ok last ↔ ∃ route, Path.read path = .ok route ∧ tree.follow route.start route.parts = .ok last ∧
      route.slashed = false ∧ tree.usable last = .ok last := by
  rw [find, bind_eq_ok_iff]
  refine exists_congr fun route => and_congr_right fun _ => ?_
  rw [bind_eq_ok_iff]
  constructor
  · rintro ⟨place, hfollow, h⟩
    -- a slash at the end asks for a directory, which is no file
    cases hslashed : route.slashed with
    | true =>
      cases hdirectory : tree.hasDirectory place with
      | true => cases (usable_eq_ok_iff.1 (by simpa [hslashed, hdirectory] using h)).1.symm.trans hdirectory
      | false => simp [hslashed, hdirectory] at h
    | false =>
      have husable : tree.usable place = .ok last := by simpa [hslashed] using h
      obtain rfl := (usable_eq_ok_iff.1 husable).2.2
      exact ⟨hfollow, rfl, husable⟩
  · rintro ⟨hfollow, hslashed, husable⟩
    exact ⟨last, hfollow, by simpa [hslashed] using husable⟩

/-! ## Creating -/

/-- A place that is reserved lies in a directory that the path leads to, and is no directory itself. -/
theorem route_of_reserve (h : tree.reserve path = .ok place) :
    ∃ route front part directory, Path.read path = .ok route ∧ route.parts = front ++ [part] ∧ route.slashed = false ∧
      tree.follow route.start front = .ok directory ∧ tree.enter directory part = .ok place ∧
      tree.usable place = .ok place := by
  rw [reserve, bind_eq_ok_iff] at h
  obtain ⟨route, hroute, h⟩ := h
  cases hpart : route.parts.getLast? with
  | none =>
    rw [hpart] at h
    cases h
  | some part =>
    rw [hpart] at h
    obtain ⟨directory, hdirectory, h⟩ := bind_eq_ok_iff.1 h
    obtain ⟨next, henter, h⟩ := bind_eq_ok_iff.1 h
    have husable : tree.usable next = .ok place := by
      split at h
      · cases h
      · exact h
    obtain ⟨hplain, -, rfl⟩ := usable_eq_ok_iff.1 husable
    have hthere := hasDirectory_of_enter henter
    cases hslashed : route.slashed with
    | true =>
      -- then the place would be the directory itself
      have hself : tree.enter directory "." = .ok directory := by simp [enter, hthere]
      rw [hslashed, if_pos rfl, hself] at henter
      cases henter
      cases hplain.symm.trans hthere
    | false =>
      obtain ⟨front, hparts⟩ := List.getLast?_eq_some_iff.1 hpart
      rw [hparts, List.dropLast_concat] at hdirectory
      rw [hslashed, if_neg Bool.false_ne_true] at henter
      exact ⟨route, front, part, directory, hroute, hparts, hslashed, hdirectory, henter, husable⟩

/-- The tree with an empty file at a place. -/
def withFile (tree : FileTree) (place : Place) : FileTree :=
  { tree with files := (place, "") :: tree.files.filter fun (file, _) => file ≠ place }

theorem lookup_filter_ne {files : List (Place × String)} {other : Place} (h : other ≠ place) :
    (files.filter fun (file, _) => file ≠ place).lookup other = files.lookup other := by
  induction files with
  | nil => rfl
  | cons entry files ih =>
    obtain ⟨file, text⟩ := entry
    by_cases hfile : file = place
    · have hother : (other == file) = false := by simpa [hfile] using h
      rw [List.filter_cons_of_neg (by simpa using hfile), ih, List.lookup_cons, hother]
    · rw [List.filter_cons_of_pos (by simpa using hfile), List.lookup_cons, List.lookup_cons, ih]

theorem lookup_withFile (tree : FileTree) (place other : Place) :
    (tree.withFile place).files.lookup other = if other = place then some "" else tree.files.lookup other := by
  rw [withFile, List.lookup_cons]
  by_cases h : other = place
  · simp [h]
  · have hother : (other == place) = false := by simpa using h
    rw [if_neg h, hother]
    exact lookup_filter_ne h

theorem within_withFile (tree : FileTree) (place : Place) : Within tree (tree.withFile place) := by
  have hdirectory : ∀ {other}, tree.hasDirectory other = true → (tree.withFile place).hasDirectory other = true := by
    intro other h
    simp only [hasDirectory, Bool.or_eq_true, List.any_eq_true] at h ⊢
    rcases h with (h | ⟨⟨file, text⟩, hfile, hunder⟩) | h
    · exact .inl (.inl h)
    · refine .inl (.inr ?_)
      by_cases hplace : file = place
      · exact ⟨_, List.mem_cons_self, hplace ▸ hunder⟩
      · exact ⟨_, List.mem_cons_of_mem _ (List.mem_filter.2 ⟨hfile, by simpa using hplace⟩), hunder⟩
    · exact .inr h
  refine ⟨hdirectory, fun {other} h => ?_⟩
  simp only [contains, Bool.or_eq_true] at h ⊢
  rcases h with (h | h) | h
  · exact .inl (.inl (hdirectory h))
  · refine .inl (.inr ?_)
    rw [lookup_withFile]
    by_cases hplace : other = place
    · rw [if_pos hplace]
      rfl
    · rwa [if_neg hplace]
  · exact .inr h

/-- A file makes no directory of its own place. -/
theorem hasDirectory_withFile (h : tree.hasDirectory place = false) :
    (tree.withFile place).hasDirectory place = false := by
  simp only [hasDirectory, Bool.or_eq_false_iff, List.any_eq_false] at h ⊢
  obtain ⟨⟨hfixed, hfiles⟩, hdevices⟩ := h
  refine ⟨⟨hfixed, ?_⟩, hdevices⟩
  rintro ⟨file, text⟩ hfile
  rcases List.mem_cons.1 hfile with hnew | hold
  · cases hnew
    simp [Place.isUnder]
  · exact hfiles _ (List.mem_filter.1 hold).1

/-- **A file that was created** is found at its path, and it is empty. -/
theorem Free.create (h : tree.Free path) : ∃ tree', tree.create path = .ok tree' ∧ tree'.Holds path [] := by
  obtain ⟨place, hreserve, hdevice⟩ := h
  obtain ⟨route, front, part, directory, hroute, hparts, hslashed, hdirectory, henter, husable⟩ :=
    route_of_reserve hreserve
  have hcreate : tree.create path = .ok (tree.withFile place) := by
    rw [FileTree.create, hreserve]
    show (if (tree.devices.lookup place).isSome then _ else _) = _
    rw [hdevice]
    rfl
  have hwithin := within_withFile tree place
  have hlookup : (tree.withFile place).files.lookup place = some "" := by rw [lookup_withFile, if_pos rfl]
  have hcontains : (tree.withFile place).contains place = true := by simp [contains, hlookup]
  have hfollow : (tree.withFile place).follow route.start route.parts = .ok place := by
    have hlast : (tree.withFile place).follow directory [part] = .ok place :=
      follow_cons_eq_ok_iff.2 ⟨place, hwithin.enter henter, hcontains, rfl⟩
    rw [hparts]
    exact follow_append (hwithin.follow hdirectory) hlast
  have hfind : (tree.withFile place).find path = .ok place := by
    obtain ⟨hplain, hconnected, -⟩ := usable_eq_ok_iff.1 husable
    exact find_eq_ok_iff.2 ⟨route, hroute, hfollow, hslashed,
      usable_eq_ok_iff.2 ⟨hasDirectory_withFile hplain, hconnected, rfl⟩⟩
  exact ⟨_, hcreate, place, "", hfind, hdevice, hlookup, rfl⟩

/-! ## Appending -/

theorem hasDirectory_append (tree : FileTree) (place : Place) (text : String) :
    (tree.append place text).hasDirectory = tree.hasDirectory := by
  funext other
  simp [hasDirectory, append, List.any_map, Function.comp_def]

theorem lookup_append (tree : FileTree) (place other : Place) (text : String) :
    (tree.append place text).files.lookup other =
      (tree.files.lookup other).map fun old => if other = place then old ++ text else old := by
  unfold append
  induction tree.files with
  | nil => rfl
  | cons entry files ih =>
    obtain ⟨file, old⟩ := entry
    rw [List.map_cons, List.lookup_cons, List.lookup_cons, ih]
    by_cases hfile : other = file
    · simp [hfile]
    · have hother : (other == file) = false := by simpa using hfile
      rw [hother]

theorem within_append (tree : FileTree) (place : Place) (text : String) : Within tree (tree.append place text) := by
  have hdirectory := hasDirectory_append tree place text
  refine ⟨fun h => hdirectory ▸ h, fun {other} h => ?_⟩
  rw [contains, hdirectory, lookup_append, Option.isSome_map]
  exact h

/-- **What is appended to a file** comes behind what it held. -/
theorem Holds.append (h : tree.Holds path cs) (text : String) :
    ∃ place, tree.find path = .ok place ∧ tree.devices.lookup place = none ∧
      (tree.append place text).Holds path (cs ++ text.toList) := by
  obtain ⟨place, old, hfind, hdevice, hlookup, rfl⟩ := h
  obtain ⟨route, hroute, hfollow, hslashed, husable⟩ := find_eq_ok_iff.1 hfind
  have husable' : (tree.append place text).usable place = .ok place := by
    rw [usable_eq_ok_iff, hasDirectory_append]
    exact usable_eq_ok_iff.1 husable
  refine ⟨place, hfind, hdevice, place, old ++ text, ?_, hdevice, ?_, String.toList_append⟩
  · exact find_eq_ok_iff.2 ⟨route, hroute, (within_append tree place text).follow hfollow, hslashed, husable'⟩
  · rw [lookup_append, hlookup, Option.map_some, if_pos rfl]

end FileTree

/-! ## Rehearsals -/

namespace Rehearsal

variable {r : Rehearsal} {path : String} {cs : List Char}

/-- Creating a file changes nothing but the files. -/
theorem create_of_free (h : r.tree.Free path) :
    ∃ tree, r.create path = .ok { r with tree := tree } ∧ tree.Holds path [] := by
  obtain ⟨tree, hcreate, hholds⟩ := h.create
  exact ⟨tree, by rw [create, hcreate]; rfl, hholds⟩

/-- Neither does appending to a file. -/
theorem append_of_holds (h : r.tree.Holds path cs) (text : String) :
    ∃ tree, r.append path text = .ok { r with tree := tree } ∧ tree.Holds path (cs ++ text.toList) := by
  obtain ⟨place, hfind, hdevice, hholds⟩ := h.append text
  refine ⟨_, ?_, hholds⟩
  rw [append, bind_eq_ok_iff]
  exact ⟨place, hfind, by rw [hdevice]; rfl⟩

end Rehearsal

end CanBus.Console
