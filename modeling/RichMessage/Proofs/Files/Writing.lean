import RichMessage.Proofs.Files.Places

set_option autoImplicit false

namespace RichMessage.FileTree

@[simp] theorem view_nil (root : FileTree) : root.view [] = some root.bytes? := by
  cases root <;> rfl

@[simp] theorem view_folder_cons (entries : List (String × FileTree)) (name : String)
    (rest : List String) :
    (folder entries).view (name :: rest) =
      (Members.get? entries name).bind fun inner => inner.view rest := by
  rw [view, find?]
  cases Members.get? entries name <;> rfl

theorem view_below_folder {root : FileTree} {front : List String}
    {entries : List (String × FileTree)} (found : root.find? front = some (folder entries))
    (name : String) :
    root.view (front ++ [name]) = (Members.get? entries name).map bytes? := by
  rw [view, find?_append, found, Option.bind_some, find?]
  cases Members.get? entries name with
  | none => rfl
  | some inner => cases inner <;> rfl

@[simp] theorem view_file_cons (bytes : ByteArray) (name : String) (rest : List String) :
    (file bytes).view (name :: rest) = none := rfl

theorem put_folder_cons (entries : List (String × FileTree)) (name : String) (rest : List String)
    (new : FileTree) :
    (folder entries).put (name :: rest) new =
      folder (Members.insert entries name
        (((Members.get? entries name).getD empty).put rest new)) := by
  rw [put]

/-- A file may be put under a name in a folder that has no folder of that name. -/
structure Free (root : FileTree) (front : List String) (last : String) : Prop where
  folder : root.view front = some none
  noFolder : root.view (front ++ [last]) ≠ some none

theorem free_folder_cons_iff {entries : List (String × FileTree)} {name : String}
    {front : List String} {last : String} :
    (folder entries).Free (name :: front) last ↔
      ∃ inner, Members.get? entries name = some inner ∧ inner.Free front last := by
  constructor
  · intro free
    have above := free.folder
    have noFolder := free.noFolder
    rw [view_folder_cons] at above
    rw [List.cons_append, view_folder_cons] at noFolder
    obtain ⟨inner, held, below⟩ := Option.bind_eq_some_iff.mp above
    rw [held] at noFolder
    exact ⟨inner, held, below, noFolder⟩
  · rintro ⟨inner, held, free⟩
    constructor
    · rw [view_folder_cons, held]
      exact free.folder
    · rw [List.cons_append, view_folder_cons, held]
      exact free.noFolder

theorem Free.exists_entries {root : FileTree} {front : List String} {last : String}
    (free : root.Free front last) : ∃ entries, root = .folder entries := by
  have above := free.folder
  cases root with
  | folder entries => exact ⟨entries, rfl⟩
  | file bytes => cases front <;> cases above

/-- Below a name that has no folder nothing is seen. -/
theorem view_below_free {entries : List (String × FileTree)} {last : String}
    (free : (folder entries).Free [] last) (name : String) (rest : List String) :
    (folder entries).view (last :: name :: rest) = none := by
  have noFolder := free.noFolder
  rw [List.nil_append, view_folder_cons] at noFolder
  rw [view_folder_cons]
  cases held : Members.get? entries last with
  | none => rfl
  | some inner =>
      rw [held] at noFolder
      cases inner with
      | file bytes => rfl
      | folder below => exact absurd rfl noFolder

/-- After something with nothing below it has been put somewhere, it is seen there and everything
else as before. -/
theorem view_put_leaf {root new : FileTree} {front : List String} {last : String}
    (free : root.Free front last) (leaf : ∀ name rest, new.view (name :: rest) = none)
    (location : List String) :
    (root.put (front ++ [last]) new).view location =
      if location = front ++ [last] then some new.bytes? else root.view location := by
  induction front generalizing root location with
  | nil =>
      obtain ⟨entries, rfl⟩ := free.exists_entries
      have written (inner : FileTree) : inner.put [] new = new := by
        cases inner <;> rfl
      rw [List.nil_append, put_folder_cons, written]
      cases location with
      | nil => rfl
      | cons other rest =>
          rw [view_folder_cons, Members.get?_insert]
          by_cases here : other = last
          · subst here
            cases rest with
            | nil => simp
            | cons name rest => simp [view_below_free free name rest, leaf]
          · rw [if_neg here, if_neg (by simp [here]), view_folder_cons]
  | cons name front ih =>
      obtain ⟨entries, rfl⟩ := free.exists_entries
      obtain ⟨inner, held, below⟩ := free_folder_cons_iff.mp free
      rw [List.cons_append, put_folder_cons, held, Option.getD_some]
      cases location with
      | nil => rfl
      | cons other rest =>
          rw [view_folder_cons, Members.get?_insert]
          by_cases here : other = name
          · subst here
            rw [if_pos rfl, Option.bind_some, ih below rest, view_folder_cons, held,
              Option.bind_some]
            simp
          · rw [if_neg here, if_neg (by simp [here]), view_folder_cons]

theorem view_put_file {root : FileTree} {front : List String} {last : String}
    (free : root.Free front last) (bytes : ByteArray) (location : List String) :
    (root.put (front ++ [last]) (.file bytes)).view location =
      if location = front ++ [last] then some (some bytes) else root.view location :=
  view_put_leaf free (view_file_cons bytes) location

theorem fileAt_put_file {root : FileTree} {front : List String} {last : String}
    (free : root.Free front last) (bytes : ByteArray) (location : List String) :
    (root.put (front ++ [last]) (.file bytes)).fileAt location =
      if location = front ++ [last] then some bytes else root.fileAt location := by
  rw [fileAt_eq_join, view_put_file free, fileAt_eq_join]
  split <;> rfl

/-- Putting a file somewhere keeps all files and folders. -/
theorem keeps_put_file {root : FileTree} {front : List String} {last : String}
    (free : root.Free front last) (bytes : ByteArray) :
    Keeps root (root.put (front ++ [last]) (.file bytes)) := by
  intro location seen found
  rw [view_put_file free bytes location]
  by_cases here : location = front ++ [last]
  · rw [if_pos here]
    refine ⟨some bytes, rfl, ?_⟩
    cases seen with
    | some old => rfl
    | none => exact absurd (here ▸ found) free.noFolder
  · rw [if_neg here]
    exact ⟨seen, found, rfl⟩

/-- Where one file can be put, all that is there with any other is there with it. -/
theorem keeps_put_file_put_file {root : FileTree} {front : List String} {last : String}
    (free : root.Free front last) (first second : ByteArray) :
    Keeps (root.put (front ++ [last]) (.file first))
      (root.put (front ++ [last]) (.file second)) := by
  intro location seen found
  rw [view_put_file free first location] at found
  rw [view_put_file free second location]
  by_cases here : location = front ++ [last]
  · rw [if_pos here] at found ⊢
    cases found
    exact ⟨some second, rfl, rfl⟩
  · rw [if_neg here] at found ⊢
    exact ⟨seen, found, rfl⟩

/-- Where there is a file already, nothing new comes to be. -/
theorem keeps_of_put_file {root : FileTree} {front : List String} {last : String}
    (free : root.Free front last) {old : ByteArray}
    (there : root.view (front ++ [last]) = some (some old)) (bytes : ByteArray) :
    Keeps (root.put (front ++ [last]) (.file bytes)) root := by
  intro location seen found
  rw [view_put_file free bytes location] at found
  by_cases here : location = front ++ [last]
  · rw [if_pos here] at found
    cases found
    exact ⟨some old, here ▸ there, rfl⟩
  · rw [if_neg here] at found
    exact ⟨seen, found, rfl⟩

/-- A path that ends in a name of a folder without a folder of that name. -/
structure Ends (root : FileTree) (path : String) (front : List String) (last : String) : Prop where
  checked : checkPath (parts path) = .ok ()
  walked : ∃ parents place, parts path = parents ++ [last] ∧ root.walk parents = .ok place ∧
    place.location = front
  named : isName last = true
  short : last.utf8ByteSize ≤ nameLimit
  free : root.Free front last

theorem reverse_eq_of_dropWhile {given parents : List String} {last : String}
    (shape : given.reverse.dropWhile (fun part => part == "") = last :: parents)
    (named : isName last = true) (ending : given.getLast? = some last) :
    given = parents.reverse ++ [last] := by
  have visible : (last == "") = false := by
    cases empty : last == "" with
    | false => rfl
    | true => simp [isName, isHere, empty] at named
  rw [List.getLast?_eq_head?_reverse] at ending
  cases turned : given.reverse with
  | nil =>
      rw [turned] at ending
      cases ending
  | cons first rest =>
      rw [turned] at ending shape
      cases ending
      rw [List.dropWhile_cons, visible, if_neg Bool.false_ne_true] at shape
      cases shape
      rw [← List.reverse_reverse given, turned, List.reverse_cons]

/-- A text is only written where the path ends in a name of a folder without a folder of that name.
-/
theorem writeText_cases {root written : FileTree} {path text : String}
    (done : root.writeText path text = .ok written) :
    checkPath (parts path) = .ok () ∧ ∃ last parents trail entries,
      (parts path).reverse.dropWhile (fun part => part == "") = last :: parents ∧
      root.walk parents.reverse = .ok ⟨trail, .folder entries⟩ ∧
      isName last = true ∧ (parts path).getLast? = some last ∧ last.utf8ByteSize ≤ nameLimit ∧
      (∀ below, Members.get? entries last ≠ some (.folder below)) ∧
      written = root.put (trail.reverse ++ [last]) (.file text.toUTF8) := by
  obtain ⟨_, checked, done⟩ := bind_eq_ok_iff.mp done
  refine ⟨checked, ?_⟩
  split at done
  · cases done
  · rename_i last parents shape
    obtain ⟨⟨trail, node⟩, walked, done⟩ := bind_eq_ok_iff.mp done
    obtain ⟨entries, folder, done⟩ := bind_eq_ok_iff.mp done
    cases node with
    | file bytes => cases folder
    | folder inside =>
        cases folder
        split at done
        · rename_i ending
          obtain ⟨named, ending⟩ := Bool.and_eq_true_iff.mp ending
          obtain ⟨found, looked, done⟩ := bind_eq_ok_iff.mp done
          unfold lookUp at looked
          split at looked
          · cases looked
          · rename_i short
            cases looked
            refine ⟨last, parents, trail, entries, shape, walked, named, of_decide_eq_true ending,
              Nat.le_of_not_lt short, ?_, ?_⟩
            · intro below held
              rw [held] at done
              cases done
            · split at done
              · cases done
              · cases done
                rfl
        · cases done

/-- What has been written is a file at the end of its path. -/
theorem ends_of_writeText {root written : FileTree} {path text : String}
    (done : root.writeText path text = .ok written) :
    ∃ front last, root.Ends path front last ∧
      written = root.put (front ++ [last]) (.file text.toUTF8) := by
  obtain ⟨checked, last, parents, trail, entries, shape, walked, named, ending, short, noFolder,
    same⟩ := writeText_cases done
  have stands : root.find? trail.reverse = some (.folder entries) := stands_walk walked
  have whole : parts path = parents.reverse ++ [last] :=
    reverse_eq_of_dropWhile shape named ending
  have free : root.Free trail.reverse last := by
    constructor
    · exact view_of_find? stands
    · intro folder
      rw [view_below_folder stands last] at folder
      obtain ⟨inner, held, none⟩ := Option.map_eq_some_iff.mp folder
      obtain ⟨below, rfl⟩ := bytes?_eq_none_iff.mp none
      exact noFolder below held
  exact ⟨trail.reverse, last, ⟨checked, ⟨_, _, whole, walked, rfl⟩, named, short, free⟩, same⟩

/-- Any text can be written where a path ends in a folder without a folder of that name. -/
theorem writeText_of_ends {root : FileTree} {path : String} {front : List String} {last : String}
    (ends : root.Ends path front last) (text : String) :
    root.writeText path text = .ok (root.put (front ++ [last]) (.file text.toUTF8)) := by
  obtain ⟨parents, ⟨trail, node⟩, whole, walked, rfl⟩ := ends.walked
  have checked := ends.checked
  have above := ends.free.folder
  have noFolder := ends.free.noFolder
  have stands : root.find? trail.reverse = some node := stands_walk walked
  rw [Place.location, view_of_find? stands] at above
  obtain ⟨entries, rfl⟩ := bytes?_eq_none_iff.mp (Option.some.inj above)
  rw [Place.location, view_below_folder stands last] at noFolder
  have visible : (last == "") = false := by
    cases empty : last == "" with
    | false => rfl
    | true =>
        have named := ends.named
        simp [isName, isHere, empty] at named
  rw [whole] at checked
  unfold writeText
  simp only [checked, whole, bind, Except.bind, List.reverse_append, List.reverse_singleton,
    List.singleton_append, List.dropWhile_cons, visible, Bool.false_eq_true, if_false,
    List.reverse_reverse, walked, Place.entries, ends.named, List.getLast?_concat, decide_true,
    Bool.and_self, if_true, lookUp, if_neg (Nat.not_lt.mpr ends.short)]
  split
  · rename_i below held
    rw [held] at noFolder
    exact absurd rfl noFolder
  · rfl

/-- Where a path ends there is a file, in this tree or in one that keeps it, if there is a file at
its location. -/
theorem Ends.locate {root other : FileTree} {path : String} {front : List String} {last : String}
    (ends : root.Ends path front last) (keeps : Keeps root other) {bytes : ByteArray}
    (seen : other.view (front ++ [last]) = some (some bytes)) :
    other.locate path = .ok (front ++ [last]) := by
  obtain ⟨parents, place, split, walked, rfl⟩ := ends.walked
  obtain ⟨⟨trail, node⟩, follows, same⟩ := keeps.walk walked
  cases same
  obtain ⟨file, found, held⟩ := Option.map_eq_some_iff.mp seen
  obtain ⟨entries, above, inside⟩ := exists_folder_of_find? found
  have stands : other.find? place.location = some node := stands_walk follows
  cases Option.some.inj (stands.symm.trans above)
  have moves : isHere last = false ∧ last ≠ ".." := by
    have named := ends.named
    simpa [isName] using named
  refine locate_eq_ok_iff.mpr ⟨ends.checked, ⟨last :: place.trail, file⟩, ?_, List.reverse_cons⟩
  rw [split]
  exact walk_concat_eq_ok_iff.mpr ⟨_, follows, step_down moves.1 moves.2 ends.short inside⟩

/-- What has been written along a path is read along it. -/
theorem readText_of_writeText {root written : FileTree} {path text : String}
    (done : root.writeText path text = .ok written) : written.readText path = .ok text := by
  obtain ⟨front, last, ends, rfl⟩ := ends_of_writeText done
  have seen : (root.put (front ++ [last]) (.file text.toUTF8)).view (front ++ [last]) =
      some (some text.toUTF8) := by
    rw [view_put_file ends.free, if_pos rfl]
  have located := ends.locate (keeps_put_file ends.free text.toUTF8) seen
  exact readText_eq_ok_iff.mpr ⟨front ++ [last], located, seen⟩

/-- A path that ends in a name leads to what has that name. -/
theorem Ends.location_eq {root : FileTree} {path : String} {front location : List String}
    {last : String} (ends : root.Ends path front last)
    (located : root.locate path = .ok location) : location = front ++ [last] := by
  obtain ⟨parents, place, split, walked, rfl⟩ := ends.walked
  obtain ⟨_, there, whole, rfl⟩ := locate_eq_ok_iff.mp located
  have moves : isHere last = false ∧ last ≠ ".." := by
    have named := ends.named
    simpa [isName] using named
  rw [split] at whole
  obtain ⟨_, again, taken⟩ := walk_concat_eq_ok_iff.mp whole
  cases again.symm.trans walked
  obtain ⟨entries, _, ⟨here, _⟩ | ⟨_, up, _⟩ | ⟨_, _, _, inner, _, rfl⟩⟩ := step_cases taken
  · rw [moves.1] at here
    cases here
  · exact absurd up moves.2
  · exact List.reverse_cons

/-- The path of a file that can be read ends in its name. -/
theorem ends_of_readText {root : FileTree} {path text : String}
    (readable : root.readText path = .ok text) : ∃ front last, root.Ends path front last := by
  obtain ⟨checked, parents, part, trail, entries, whole, walked, moves, down, short, held⟩ :=
    last_part_of_readText readable
  have stands : root.find? trail.reverse = some (.folder entries) := stands_walk walked
  have free : root.Free trail.reverse part := by
    refine ⟨view_of_find? stands, ?_⟩
    rw [view_below_folder stands part, held]
    exact nofun
  exact ⟨trail.reverse, part, checked, ⟨_, _, whole, walked, rfl⟩, by simp [isName, moves, down],
    short, free⟩

/-- A file that can be read can be written. -/
theorem writeText_of_readText {root : FileTree} {path old : String}
    (readable : root.readText path = .ok old) (text : String) :
    ∃ written, root.writeText path text = .ok written := by
  obtain ⟨front, last, ends⟩ := ends_of_readText readable
  exact ⟨_, writeText_of_ends ends text⟩

/-- A text is written without any change to what other paths lead to, as far as nothing comes to be
at them: what is there before is read as before, and there is nothing else when there is nothing
else after another text has been written in the same place. -/
theorem read_elsewhere_of_put_file {root made : FileTree} {path other : String}
    {front : List String} {last : String} (grown : root.Extends made)
    (ends : made.Ends path front last) (first second : ByteArray)
    (elsewhere : (made.put (front ++ [last]) (.file first)).locate other ≠ .ok (front ++ [last]))
    (spared : (made.put (front ++ [last]) (.file first)).pathExists other = true →
      root.pathExists other = true) :
    let written := made.put (front ++ [last]) (.file second)
    written.pathExists other = root.pathExists other ∧
      (root.pathExists other = true → written.readText other = root.readText other) := by
  intro written
  rw [pathExists_eq, pathExists_eq] at spared
  rw [pathExists_eq, pathExists_eq]
  cases found : root.locate other with
  | error reason =>
      refine ⟨?_, fun exists_ => by cases exists_⟩
      cases now : written.locate other with
      | error reason => rfl
      | ok location =>
          -- it would be there with the first text too
          have too := (keeps_put_file_put_file ends.free second first).locate now
          rw [too, found] at spared
          exact absurd (spared rfl) Bool.false_ne_true
  | ok location =>
      have still := grown.keeps.locate found
      have apart : location ≠ front ++ [last] := by
        rintro rfl
        exact elsewhere ((keeps_put_file ends.free first).locate still)
      obtain ⟨seen, there⟩ := exists_view_of_locate found
      have same : written.view location = root.view location := by
        rw [view_put_file ends.free, if_neg apart, there, grown location seen there]
      have now : written.locate other = .ok location :=
        (keeps_put_file ends.free second).locate still
      rw [now]
      refine ⟨rfl, fun _ => ?_⟩
      simp only [readText_eq, now, found, same]

/-- Over a file that could be read, a text is written without any change to what other paths lead
to. -/
theorem read_elsewhere_of_writeText {root written : FileTree} {path other old text : String}
    (readable : root.readText path = .ok old) (done : root.writeText path text = .ok written)
    (elsewhere : root.locate other ≠ root.locate path) :
    written.pathExists other = root.pathExists other ∧
      (root.pathExists other = true → written.readText other = root.readText other) := by
  obtain ⟨front, last, ends, rfl⟩ := ends_of_writeText done
  obtain ⟨location, located, seen⟩ := readText_eq_ok_iff.mp readable
  have same := ends.location_eq located
  subst same
  have back := keeps_of_put_file ends.free seen text.toUTF8
  refine read_elsewhere_of_put_file (extends_refl root) ends text.toUTF8 text.toUTF8 ?_ ?_
  · intro now
    exact elsewhere ((back.locate now).trans located.symm)
  · rw [pathExists_eq, pathExists_eq]
    intro there
    cases now : (root.put (front ++ [last]) (.file text.toUTF8)).locate other with
    | error reason =>
        rw [now] at there
        cases there
    | ok place =>
        rw [back.locate now]
        rfl

end RichMessage.FileTree
