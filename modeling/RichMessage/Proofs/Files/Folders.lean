import RichMessage.Proofs.Files.Writing

set_option autoImplicit false

namespace RichMessage.FileTree

theorem le_foldl_size (given : List String) (size : Nat) :
    size ≤ given.foldl (fun size part => size + part.utf8ByteSize + 1) size := by
  induction given generalizing size with
  | nil => exact Nat.le_refl size
  | cons part rest ih =>
      have later := ih (size + part.utf8ByteSize + 1)
      rw [List.foldl_cons]
      omega

theorem pathSize_front_le (front rest : List String) :
    pathSize front ≤ pathSize (front ++ rest) := by
  have grown := le_foldl_size rest
    (front.foldl (fun size part => size + part.utf8ByteSize + 1) 0)
  rw [pathSize, pathSize, List.foldl_append]
  omega

/-- A path that is taken is taken up to any of its slashes. -/
theorem checkPath_front {front rest : List String} (checked : checkPath (front ++ rest) = .ok ()) :
    checkPath front = .ok () := by
  have shorter := pathSize_front_le front rest
  unfold checkPath at checked ⊢
  split at checked
  · cases checked
  · rename_i clean
    split at checked
    · cases checked
    · rename_i short
      rw [List.any_append, Bool.or_eq_true, not_or] at clean
      rw [if_neg clean.1, if_neg (by omega)]

theorem isFolder_iff {root : FileTree} {given : List String} :
    root.isFolder given = true ↔
      checkPath given = .ok () ∧
        ∃ trail entries, root.walk given = .ok ⟨trail, .folder entries⟩ := by
  unfold isFolder
  constructor
  · intro there
    split at there
    · rename_i trail entries checked walked
      exact ⟨checked, trail, entries, walked⟩
    · cases there
  · rintro ⟨checked, trail, entries, walked⟩
    rw [checked, walked]

theorem isFolder_concat {root : FileTree} {given : List String} {part : String}
    (there : root.isFolder (given ++ [part]) = true) :
    ∃ place, root.walk given = .ok place ∧
      ∃ trail entries, root.step place part = .ok ⟨trail, .folder entries⟩ := by
  obtain ⟨_, trail, entries, whole⟩ := isFolder_iff.mp there
  obtain ⟨place, walked, taken⟩ := walk_concat_eq_ok_iff.mp whole
  exact ⟨place, walked, trail, entries, taken⟩

/-- A way to a folder goes through folders. -/
theorem isFolder_front {root : FileTree} {given : List String} {part : String}
    (there : root.isFolder (given ++ [part]) = true) : root.isFolder given = true := by
  obtain ⟨checked, _⟩ := isFolder_iff.mp there
  obtain ⟨⟨trail, node⟩, walked, _, _, taken⟩ := isFolder_concat there
  obtain ⟨entries, folder, _⟩ := step_cases taken
  cases folder
  exact isFolder_iff.mpr ⟨checkPath_front checked, trail, entries, walked⟩

/-- A folder that is there is not made again. -/
theorem ensureFolder_of_isFolder {root : FileTree} {parents : List String} {last : String}
    (there : root.isFolder (parents ++ [last]) = true) :
    root.ensureFolder parents last = .ok root := by
  obtain ⟨checked, _⟩ := isFolder_iff.mp there
  obtain ⟨⟨trail, node⟩, walked, _, _, taken⟩ := isFolder_concat there
  unfold ensureFolder
  cases made : root.makeFolder parents last with
  | error reason =>
      dsimp only
      rw [if_pos there]
  | ok written =>
      obtain ⟨entries, folder, cases⟩ := step_cases taken
      cases folder
      unfold makeFolder at made
      simp only [checked, walked, bind, Except.bind, Place.entries] at made
      split at made
      · cases made
      · rename_i named
        have moves : isHere last = false ∧ last ≠ ".." := by simpa [isName] using named
        rcases cases with ⟨here, _⟩ | ⟨_, up, _⟩ | ⟨_, _, short, inner, held, _⟩
        · rw [moves.1] at here
          cases here
        · exact absurd up moves.2
        · rw [lookUp, if_neg (Nat.not_lt.mpr short), held] at made
          cases made

theorem makeFoldersReversed_of_isFolder {root : FileTree} {given : List String}
    (there : root.isFolder given.reverse = true) :
    root.makeFoldersReversed given = (.ok (), root) := by
  induction given with
  | nil => rfl
  | cons part outer ih =>
      rw [List.reverse_cons] at there
      rw [makeFoldersReversed]
      split
      · exact ih (isFolder_front there)
      · rw [ensureFolder_of_isFolder there]

/-- No folder is made for a file that can be read. -/
theorem makeFoldersFor_of_readText {root : FileTree} {path text : String}
    (readable : root.readText path = .ok text) : root.makeFoldersFor path = (.ok (), root) := by
  obtain ⟨checked, parents, part, trail, entries, whole, walked, moves, _⟩ :=
    last_part_of_readText readable
  rw [whole] at checked
  have above : foldersOf path = parents.reverse := by
    rw [foldersOf, whole, List.reverse_concat, List.dropWhile_cons, moves,
      if_neg Bool.false_ne_true, List.drop_one, List.tail_cons]
  have there : root.isFolder parents = true :=
    isFolder_iff.mpr ⟨checkPath_front checked, trail, entries, walked⟩
  rw [makeFoldersFor, above]
  exact makeFoldersReversed_of_isFolder (by rwa [List.reverse_reverse])

/-- An empty folder is made where there is nothing. -/
theorem gainsFolders_makeFolder {root made : FileTree} {parents : List String} {last : String}
    (done : root.makeFolder parents last = .ok made) : root.GainsFolders made := by
  obtain ⟨_, _, done⟩ := bind_eq_ok_iff.mp done
  obtain ⟨⟨trail, node⟩, walked, done⟩ := bind_eq_ok_iff.mp done
  obtain ⟨entries, folder, done⟩ := bind_eq_ok_iff.mp done
  cases node with
  | file bytes => cases folder
  | folder inside =>
      cases folder
      split at done
      · cases done
      · obtain ⟨found, looked, done⟩ := bind_eq_ok_iff.mp done
        unfold lookUp at looked
        split at looked
        · cases looked
        · split at done
          · cases done
          · cases done
            have held : Members.get? entries last = none := Except.ok.inj looked
            have stands : root.find? trail.reverse = some (.folder entries) := stands_walk walked
            have absent : root.view (trail.reverse ++ [last]) = none := by
              rw [view_below_folder stands last, held]
              rfl
            have free : root.Free trail.reverse last :=
              ⟨view_of_find? stands, by rw [absent]; exact nofun⟩
            intro location
            rw [Place.location, view_put_leaf free (fun _ _ => rfl)]
            by_cases here : location = trail.reverse ++ [last]
            · rw [if_pos here, here]
              exact Or.inr ⟨absent, rfl⟩
            · rw [if_neg here]
              exact Or.inl rfl

theorem gainsFolders_ensureFolder {root made : FileTree} {parents : List String} {last : String}
    (done : root.ensureFolder parents last = .ok made) : root.GainsFolders made := by
  unfold ensureFolder at done
  split at done
  · rename_i folder
    cases done
    exact gainsFolders_makeFolder folder
  · split at done
    · cases done
      exact gainsFolders_refl root
    · cases done

theorem gainsFolders_makeFoldersReversed (root : FileTree) (given : List String) :
    root.GainsFolders (root.makeFoldersReversed given).2 := by
  induction given with
  | nil => exact gainsFolders_refl root
  | cons part outer ih =>
      rw [makeFoldersReversed]
      split
      · exact ih
      · split
        · rename_i folder
          exact gainsFolders_ensureFolder folder
        · -- whatever comes of the folder, those above it stay
          cases above : root.makeFoldersReversed outer with
          | mk answer left =>
              rw [above] at ih
              cases answer with
              | error reason => exact ih
              | ok _ =>
                  dsimp only
                  split
                  · rename_i folder
                    exact ih.trans (gainsFolders_ensureFolder folder)
                  · exact ih
        · exact gainsFolders_refl root

/-- Making the folders for a path leaves all files and folders as they are, also when it fails. -/
theorem gainsFolders_makeFoldersFor (root : FileTree) (path : String) :
    root.GainsFolders (root.makeFoldersFor path).2 :=
  gainsFolders_makeFoldersReversed root (foldersOf path)

end RichMessage.FileTree
