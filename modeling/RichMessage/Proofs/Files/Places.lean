import RichMessage.FileTree
import RichMessage.Proofs.Fallible
import RichMessage.Proofs.Json.Members

set_option autoImplicit false

namespace RichMessage.FileTree

def bytes? : FileTree → Option ByteArray
  | .file bytes => some bytes
  | .folder _ => none

/-- What is seen at a location: nothing, a folder, or a file with its bytes. -/
def view (root : FileTree) (location : List String) : Option (Option ByteArray) :=
  (root.find? location).map bytes?

/-- The bytes of the file at a location, if there is one. -/
def fileAt (root : FileTree) (location : List String) : Option ByteArray :=
  (root.find? location).bind bytes?

theorem fileAt_eq_join (root : FileTree) (location : List String) :
    root.fileAt location = (root.view location).join := by
  rw [fileAt, view]
  cases root.find? location <;> rfl

theorem bytes?_eq_none_iff {node : FileTree} :
    node.bytes? = none ↔ ∃ entries, node = .folder entries := by
  cases node <;> simp [bytes?]

theorem bytes?_eq_some_iff {node : FileTree} {bytes : ByteArray} :
    node.bytes? = some bytes ↔ node = .file bytes := by
  cases node <;> simp [bytes?]

theorem view_of_find? {root node : FileTree} {location : List String}
    (found : root.find? location = some node) : root.view location = some node.bytes? := by
  rw [view, found, Option.map_some]

theorem find?_append (root : FileTree) (front rest : List String) :
    root.find? (front ++ rest) = (root.find? front).bind fun node => node.find? rest := by
  induction front generalizing root with
  | nil => cases root <;> rfl
  | cons name front ih =>
      cases root with
      | file bytes => rfl
      | folder entries =>
          rw [List.cons_append, find?, find?]
          cases Members.get? entries name with
          | none => rfl
          | some inner => exact ih inner

/-- What has something below it is a folder. -/
theorem exists_folder_of_find? {root node : FileTree} {front : List String} {name : String}
    (found : root.find? (front ++ [name]) = some node) :
    ∃ entries, root.find? front = some (.folder entries) ∧
      Members.get? entries name = some node := by
  rw [find?_append] at found
  obtain ⟨above, first, below⟩ := Option.bind_eq_some_iff.mp found
  cases above with
  | file bytes => cases below
  | folder entries =>
      rw [find?] at below
      obtain ⟨inner, held, same⟩ := Option.bind_eq_some_iff.mp below
      cases inner <;> cases same <;> exact ⟨entries, first, held⟩

/-- Whatever is in the first tree is in the second one too, files as files and folders as folders;
what the files hold may differ. -/
def Keeps (root other : FileTree) : Prop :=
  ∀ location seen, root.view location = some seen →
    ∃ now, other.view location = some now ∧ now.isSome = seen.isSome

theorem Keeps.folder {root other : FileTree} (keeps : Keeps root other) {location : List String}
    {entries : List (String × FileTree)} (found : root.find? location = some (.folder entries)) :
    ∃ now, other.find? location = some (.folder now) := by
  obtain ⟨kind, here, same⟩ := keeps location none (view_of_find? found)
  obtain ⟨node, there, rfl⟩ := Option.map_eq_some_iff.mp here
  have folder : node.bytes? = none := by simpa using same
  obtain ⟨now, rfl⟩ := bytes?_eq_none_iff.mp folder
  exact ⟨now, there⟩

theorem Keeps.found {root other : FileTree} (keeps : Keeps root other) {location : List String}
    {node : FileTree} (found : root.find? location = some node) :
    ∃ now, other.find? location = some now := by
  obtain ⟨kind, here, _⟩ := keeps location node.bytes? (view_of_find? found)
  obtain ⟨now, there, _⟩ := Option.map_eq_some_iff.mp here
  exact ⟨now, there⟩

/-- Whatever is seen in the first tree is seen in the second one too. -/
def Extends (root other : FileTree) : Prop :=
  ∀ location seen, root.view location = some seen → other.view location = some seen

theorem extends_refl (root : FileTree) : root.Extends root :=
  fun _ _ seen => seen

theorem Extends.trans {root other third : FileTree} (first : root.Extends other)
    (second : other.Extends third) : root.Extends third :=
  fun location seen found => second location seen (first location seen found)

theorem Extends.keeps {root other : FileTree} (grown : root.Extends other) : Keeps root other :=
  fun location seen found => ⟨seen, grown location seen found, rfl⟩

/-- Only folders have come to be, where there was nothing. -/
def GainsFolders (root other : FileTree) : Prop :=
  ∀ location, other.view location = root.view location ∨
    (root.view location = none ∧ other.view location = some none)

theorem gainsFolders_refl (root : FileTree) : root.GainsFolders root :=
  fun _ => Or.inl rfl

theorem GainsFolders.trans {root other third : FileTree} (first : root.GainsFolders other)
    (second : other.GainsFolders third) : root.GainsFolders third := by
  intro location
  rcases first location with same | ⟨absent, _⟩
  · rw [← same]
    exact second location
  · rcases second location with again | ⟨still, _⟩
    · rw [again]
      exact first location
    · rcases second location with again | ⟨_, folder⟩
      · exact Or.inl (by rw [again, still, absent])
      · exact Or.inr ⟨absent, folder⟩

theorem GainsFolders.extends {root other : FileTree} (gains : root.GainsFolders other) :
    root.Extends other := by
  intro location seen found
  rcases gains location with same | ⟨absent, _⟩
  · rw [same, found]
  · rw [absent] at found
    cases found

/-- New folders change no file. -/
theorem GainsFolders.fileAt_eq {root other : FileTree} (gains : root.GainsFolders other)
    (location : List String) : other.fileAt location = root.fileAt location := by
  rw [fileAt_eq_join, fileAt_eq_join]
  rcases gains location with same | ⟨absent, folder⟩
  · rw [same]
  · rw [absent, folder]
    rfl

/-- The place is where its trail leads. -/
def Stands (root : FileTree) (place : Place) : Prop :=
  root.find? place.location = some place.node

theorem placeAt_eq_ok_iff {root : FileTree} {trail : List String} {place : Place} :
    root.placeAt trail = .ok place ↔ root.Stands place ∧ place.trail = trail := by
  obtain ⟨other, node⟩ := place
  unfold placeAt Stands Place.location
  constructor
  · intro reached
    split at reached
    · rename_i found
      cases reached
      exact ⟨found, rfl⟩
    · cases reached
  · rintro ⟨found, rfl⟩
    dsimp only at found ⊢
    rw [found]

theorem step_folder (root : FileTree) (trail : List String) (entries : List (String × FileTree))
    (part : String) :
    root.step ⟨trail, .folder entries⟩ part =
      if isHere part then .ok ⟨trail, .folder entries⟩
      else if part = ".." then root.placeAt trail.tail
      else if nameLimit < part.utf8ByteSize then .error .nameTooLong
      else match Members.get? entries part with
        | some inner => .ok ⟨part :: trail, inner⟩
        | none => .error .notFound := by
  by_cases long : nameLimit < part.utf8ByteSize
  · simp only [step, lookUp, Place.entries, bind, Except.bind, pure, Except.pure, long, if_true]
  · cases found : Members.get? entries part <;>
      simp only [step, lookUp, Place.entries, bind, Except.bind, pure, Except.pure, long, if_false,
        found]

/-- What a step does: it stays, goes up, or goes into a folder. -/
theorem step_cases {root : FileTree} {place next : Place} {part : String}
    (taken : root.step place part = .ok next) :
    ∃ entries, place.node = .folder entries ∧
      ((isHere part = true ∧ next = place) ∨
        (isHere part = false ∧ part = ".." ∧ root.placeAt place.trail.tail = .ok next) ∨
        (isHere part = false ∧ part ≠ ".." ∧ part.utf8ByteSize ≤ nameLimit ∧
          ∃ inner, Members.get? entries part = some inner ∧
            next = ⟨part :: place.trail, inner⟩)) := by
  obtain ⟨trail, node⟩ := place
  cases node with
  | file bytes => cases taken
  | folder entries =>
      refine ⟨entries, rfl, ?_⟩
      rw [step_folder] at taken
      split at taken
      · rename_i here
        cases taken
        exact Or.inl ⟨here, rfl⟩
      · rename_i moves
        have moves : isHere part = false := by simpa using moves
        split at taken
        · rename_i up
          exact Or.inr (Or.inl ⟨moves, up, taken⟩)
        · rename_i down
          split at taken
          · cases taken
          · rename_i short
            split at taken
            · rename_i inner held
              cases taken
              exact Or.inr (Or.inr ⟨moves, down, Nat.le_of_not_lt short, inner, held, rfl⟩)
            · cases taken

theorem step_here {root : FileTree} {trail : List String} {entries : List (String × FileTree)}
    {part : String} (here : isHere part = true) :
    root.step ⟨trail, .folder entries⟩ part = .ok ⟨trail, .folder entries⟩ := by
  rw [step_folder, if_pos here]

theorem step_up {root : FileTree} {trail : List String} {entries : List (String × FileTree)}
    {part : String} (moves : isHere part = false) (up : part = "..") :
    root.step ⟨trail, .folder entries⟩ part = root.placeAt trail.tail := by
  rw [step_folder, if_neg (by simp [moves]), if_pos up]

theorem step_down {root inner : FileTree} {trail : List String}
    {entries : List (String × FileTree)} {part : String} (moves : isHere part = false)
    (down : part ≠ "..") (short : part.utf8ByteSize ≤ nameLimit)
    (held : Members.get? entries part = some inner) :
    root.step ⟨trail, .folder entries⟩ part = .ok ⟨part :: trail, inner⟩ := by
  rw [step_folder, if_neg (by simp [moves]), if_neg down, if_neg (Nat.not_lt.mpr short), held]

theorem stands_into {root inner : FileTree} {place : Place} {entries : List (String × FileTree)}
    {part : String} (stands : root.Stands place) (folder : place.node = .folder entries)
    (held : Members.get? entries part = some inner) :
    root.Stands ⟨part :: place.trail, inner⟩ := by
  have below : (FileTree.folder entries).find? [part] = some inner := by
    rw [find?, held]
    cases inner <;> rfl
  have above : root.find? place.trail.reverse = some place.node := stands
  change root.find? (part :: place.trail).reverse = some inner
  rw [List.reverse_cons, find?_append, above, folder]
  exact below

theorem stands_step {root : FileTree} {place next : Place} {part : String}
    (stands : root.Stands place) (taken : root.step place part = .ok next) : root.Stands next := by
  obtain ⟨entries, folder, ⟨_, rfl⟩ | ⟨_, _, reached⟩ | ⟨_, _, _, inner, held, rfl⟩⟩ :=
    step_cases taken
  · exact stands
  · exact (placeAt_eq_ok_iff.mp reached).1
  · exact stands_into stands folder held

/-- A step leads to the same location wherever the files and folders are kept. -/
theorem Keeps.step {root other : FileTree} (keeps : Keeps root other) {place next here : Place}
    {part : String} (stands : root.Stands place) (along : other.Stands here)
    (same : here.trail = place.trail) (taken : root.step place part = .ok next) :
    ∃ there, other.step here part = .ok there ∧ there.trail = next.trail := by
  obtain ⟨trail, node⟩ := here
  cases same
  obtain ⟨entries, folder, cases⟩ := step_cases taken
  obtain ⟨now, still⟩ := keeps.folder (stands.trans (congrArg some folder))
  have same : node = .folder now := Option.some.inj (along.symm.trans still)
  subst same
  obtain ⟨here, rfl⟩ | ⟨moves, up, reached⟩ | ⟨moves, down, short, inner, held, rfl⟩ := cases
  · exact ⟨_, step_here here, rfl⟩
  · obtain ⟨above, same⟩ := placeAt_eq_ok_iff.mp reached
    obtain ⟨node, found⟩ := keeps.found above
    refine ⟨⟨next.trail, node⟩, ?_, rfl⟩
    rw [step_up moves up]
    exact placeAt_eq_ok_iff.mpr ⟨found, same⟩
  · obtain ⟨node, found⟩ := keeps.found (stands_into stands folder held)
    change other.find? (part :: place.trail).reverse = some node at found
    rw [List.reverse_cons] at found
    obtain ⟨entries, above, held⟩ := exists_folder_of_find? found
    cases Option.some.inj (above.symm.trans along)
    exact ⟨_, step_down moves down short held, rfl⟩

theorem foldlM_step_cons_eq_ok_iff {root : FileTree} {place last : Place} {part : String}
    {rest : List String} :
    (part :: rest).foldlM root.step place = .ok last ↔
      ∃ next, root.step place part = .ok next ∧ rest.foldlM root.step next = .ok last := by
  rw [List.foldlM_cons]
  exact bind_eq_ok_iff

/-- A walk ends with the step of its last part. -/
theorem walk_concat_eq_ok_iff {root : FileTree} {parts : List String} {part : String}
    {last : Place} :
    root.walk (parts ++ [part]) = .ok last ↔
      ∃ place, root.walk parts = .ok place ∧ root.step place part = .ok last := by
  rw [walk, List.foldlM_append]
  simp only [List.foldlM_cons, List.foldlM_nil, bind_pure]
  exact bind_eq_ok_iff

theorem stands_root (root : FileTree) : root.Stands ⟨[], root⟩ := by
  cases root <;> rfl

theorem stands_foldlM {root : FileTree} {place last : Place} {parts : List String}
    (stands : root.Stands place) (walked : parts.foldlM root.step place = .ok last) :
    root.Stands last := by
  induction parts generalizing place with
  | nil =>
      cases walked
      exact stands
  | cons part rest ih =>
      obtain ⟨next, taken, later⟩ := foldlM_step_cons_eq_ok_iff.mp walked
      exact ih (stands_step stands taken) later

theorem stands_walk {root : FileTree} {parts : List String} {last : Place}
    (walked : root.walk parts = .ok last) : root.Stands last :=
  stands_foldlM (stands_root root) walked

theorem Keeps.foldlM {root other : FileTree} (keeps : Keeps root other) {place last here : Place}
    {parts : List String} (stands : root.Stands place) (along : other.Stands here)
    (same : here.trail = place.trail) (walked : parts.foldlM root.step place = .ok last) :
    ∃ there, parts.foldlM other.step here = .ok there ∧ there.trail = last.trail := by
  induction parts generalizing place here with
  | nil =>
      cases walked
      exact ⟨here, rfl, same⟩
  | cons part rest ih =>
      obtain ⟨next, taken, later⟩ := foldlM_step_cons_eq_ok_iff.mp walked
      obtain ⟨there, follows, along'⟩ := keeps.step stands along same taken
      obtain ⟨end_, goesOn, reached⟩ :=
        ih (stands_step stands taken) (stands_step along follows) along' later
      exact ⟨end_, foldlM_step_cons_eq_ok_iff.mpr ⟨there, follows, goesOn⟩, reached⟩

/-- A walk leads to the same location wherever the files and folders are kept. -/
theorem Keeps.walk {root other : FileTree} (keeps : Keeps root other) {parts : List String}
    {last : Place} (walked : root.walk parts = .ok last) :
    ∃ there, other.walk parts = .ok there ∧ there.trail = last.trail :=
  keeps.foldlM (stands_root root) (stands_root other) rfl walked

def locate (root : FileTree) (path : String) : Except FileError (List String) :=
  match checkPath (parts path), root.walk (parts path) with
  | .ok _, .ok place => .ok place.location
  | .error reason, _ => .error reason
  | _, .error reason => .error reason

theorem locate_eq_ok_iff {root : FileTree} {path : String} {location : List String} :
    root.locate path = .ok location ↔
      checkPath (parts path) = .ok () ∧
        ∃ place, root.walk (parts path) = .ok place ∧ place.location = location := by
  unfold locate
  cases checkPath (parts path) with
  | error reason => simp
  | ok _ =>
      cases root.walk (parts path) with
      | error reason => simp
      | ok place => simp

theorem follow_of_locate {root : FileTree} {path : String} {location : List String}
    (located : root.locate path = .ok location) :
    ∃ node, root.follow path = .ok node ∧ root.find? location = some node := by
  obtain ⟨checked, place, walked, rfl⟩ := locate_eq_ok_iff.mp located
  refine ⟨place.node, ?_, stands_walk walked⟩
  rw [follow, checked, walked]
  rfl

theorem follow_of_locate_error {root : FileTree} {path : String} {reason : FileError}
    (lost : root.locate path = .error reason) : root.follow path = .error reason := by
  unfold locate at lost
  unfold follow
  cases checked : checkPath (parts path) with
  | error first =>
      rw [checked] at lost
      cases lost
      rfl
  | ok _ =>
      rw [checked] at lost
      cases walked : root.walk (parts path) with
      | error first =>
          rw [walked] at lost
          cases lost
          rfl
      | ok place =>
          rw [walked] at lost
          cases lost

/-- Something is seen where a path leads. -/
theorem exists_view_of_locate {root : FileTree} {path : String} {location : List String}
    (located : root.locate path = .ok location) : ∃ seen, root.view location = some seen := by
  obtain ⟨node, _, found⟩ := follow_of_locate located
  exact ⟨node.bytes?, view_of_find? found⟩

theorem pathExists_eq (root : FileTree) (path : String) :
    root.pathExists path = (root.locate path).isOk := by
  unfold pathExists
  cases located : root.locate path with
  | error reason =>
      rw [follow_of_locate_error located]
      rfl
  | ok location =>
      obtain ⟨node, followed, _⟩ := follow_of_locate located
      rw [followed]
      rfl

theorem decode_eq_ok_iff {bytes : ByteArray} {text : String} :
    decode bytes = .ok text ↔ bytes = text.toUTF8 := by
  unfold decode String.fromUTF8?
  constructor
  · intro decoded
    split at decoded
    · rename_i found
      cases decoded
      split at found
      · cases found
        rfl
      · cases found
    · cases decoded
  · rintro rfl
    have valid : text.toUTF8.IsValidUTF8 := text.isValidUTF8
    rw [dif_pos valid]
    rfl

/-- What is read along a path is what is seen at its location. -/
theorem readText_eq (root : FileTree) (path : String) :
    root.readText path =
      match root.locate path with
      | .error reason => .error reason
      | .ok location =>
        match root.view location with
        | some (some bytes) => decode bytes
        | _ => .error .isDirectory := by
  unfold readText readBytes
  cases located : root.locate path with
  | error reason =>
      rw [follow_of_locate_error located]
      rfl
  | ok location =>
      obtain ⟨node, followed, found⟩ := follow_of_locate located
      have seen := view_of_find? found
      simp only [followed, seen]
      cases node <;> rfl

/-- A text that has been read is that of the file at the location of the path. -/
theorem readText_eq_ok_iff {root : FileTree} {path text : String} :
    root.readText path = .ok text ↔
      ∃ location, root.locate path = .ok location ∧
        root.view location = some (some text.toUTF8) := by
  rw [readText_eq]
  cases root.locate path with
  | error reason => simp
  | ok location =>
      cases seen : root.view location with
      | none => simp [seen]
      | some kind =>
          cases kind with
          | none => simp [seen]
          | some bytes =>
              have same : decode bytes = .ok text ↔ bytes = text.toUTF8 := decode_eq_ok_iff
              simp [seen, same]

theorem folder_of_up {root : FileTree} {place next : Place} (stands : root.Stands place)
    {entries : List (String × FileTree)} (folder : place.node = .folder entries)
    (reached : root.placeAt place.trail.tail = .ok next) : next.node.bytes? = none := by
  obtain ⟨trail, node⟩ := place
  cases folder
  obtain ⟨above, same⟩ := placeAt_eq_ok_iff.mp reached
  have found : root.find? trail.tail.reverse = some next.node := same ▸ above
  cases trail with
  | nil =>
      have here : next.node = .folder entries := Option.some.inj (Eq.trans (Eq.symm found) stands)
      rw [here]
      rfl
  | cons name trail =>
      have below : root.find? (trail.reverse ++ [name]) = some (.folder entries) := by
        rw [← List.reverse_cons]
        exact stands
      obtain ⟨entries, up, _⟩ := exists_folder_of_find? below
      have here : next.node = .folder entries := Option.some.inj (Eq.trans (Eq.symm found) up)
      rw [here]
      rfl

theorem parts_ne_nil (path : String) : parts path ≠ [] := by
  rw [parts, Ne, List.map_eq_nil_iff]
  exact List.splitOn_ne_nil _ _

/-- The path of a file that can be read ends in the name of that file in its folder. -/
theorem last_part_of_readText {root : FileTree} {path text : String}
    (readable : root.readText path = .ok text) :
    checkPath (parts path) = .ok () ∧ ∃ parents part trail entries,
      parts path = parents ++ [part] ∧ root.walk parents = .ok ⟨trail, .folder entries⟩ ∧
      isHere part = false ∧ part ≠ ".." ∧ part.utf8ByteSize ≤ nameLimit ∧
      Members.get? entries part = some (.file text.toUTF8) := by
  obtain ⟨location, located, seen⟩ := readText_eq_ok_iff.mp readable
  obtain ⟨checked, last, whole, rfl⟩ := locate_eq_ok_iff.mp located
  have file : last.node.bytes? = some text.toUTF8 :=
    Option.some.inj ((view_of_find? (stands_walk whole)).symm.trans seen)
  rcases List.eq_nil_or_concat (parts path) with none | ⟨parents, part, split⟩
  · exact absurd none (parts_ne_nil path)
  · rw [List.concat_eq_append] at split
    rw [split] at whole
    obtain ⟨⟨trail, node⟩, walked, taken⟩ := walk_concat_eq_ok_iff.mp whole
    obtain ⟨entries, folder, ⟨_, rfl⟩ | ⟨_, _, reached⟩ |
      ⟨moves, down, short, inner, held, rfl⟩⟩ := step_cases taken
    · rw [folder] at file
      cases file
    · rw [folder_of_up (stands_walk walked) folder reached] at file
      cases file
    · cases folder
      have same : inner = .file text.toUTF8 := bytes?_eq_some_iff.mp file
      exact ⟨checked, parents, part, trail, entries, split, walked, moves, down, short,
        same ▸ held⟩

theorem Keeps.locate {root other : FileTree} (keeps : Keeps root other) {path : String}
    {location : List String} (located : root.locate path = .ok location) :
    other.locate path = .ok location := by
  obtain ⟨checked, place, walked, rfl⟩ := locate_eq_ok_iff.mp located
  obtain ⟨there, follows, same⟩ := keeps.walk walked
  exact locate_eq_ok_iff.mpr ⟨checked, there, follows, congrArg List.reverse same⟩

end RichMessage.FileTree
