import PageTemplates.Proofs.RootConfinement

/-!
# Writing a file

A file is written where no directory stands.  So every walk that came to its end
before still comes to the same place (`FileTree.walk_put`), and that of the path
comes to the new file.

`FileTree.Writes` says what has changed: the path leads to a file with the text,
and at every other place stands what stood there before (`FileTree.writes_write`).
-/

namespace PageTemplates

namespace FileTree

/-- Two trees differ in what stands where a path leads, and that is a file with a text. -/
structure Writes (path text : Text) (files written : FileTree) : Prop where
  working : written.working = files.working
  read : written.read path = .ok text
  others : ∃ place, written.locate path = .ok place ∧
    ∀ other, other ≠ place → written.node? other = files.node? other

variable {files written : FileTree} {place start : List Text} {node : FileNode}

/-! ## Putting a node -/

theorem node?_put_self (node : FileNode) (below : place ≠ []) :
    (files.put place node).node? place = some node := by
  simp [node?, put, below]

theorem node?_put_of_ne {other : List Text} (node : FileNode) (apart : other ≠ place) :
    (files.put place node).node? other = files.node? other := by
  simp only [node?, put, List.find?_cons, decide_eq_false (Ne.symm apart), List.find?_filter]
  congr 3
  funext entry
  by_cases here : entry.1 = other
  · simp [here, apart]
  · simp [here]

/-- Where no directory stands, nothing is put in place of one. -/
theorem isDirectoryAt_put {other : List Text} (noDirectory : files.isDirectoryAt place = false)
    (directory : files.isDirectoryAt other = true) :
    (files.put place node).isDirectoryAt other = true := by
  have apart : other ≠ place := by
    rintro rfl
    cases noDirectory.symm.trans directory
  rwa [isDirectoryAt, node?_put_of_ne node apart]

/-- Putting a node removes none. -/
theorem isSome_node?_put {other : List Text} (stands : (files.node? other).isSome = true) :
    ((files.put place node).node? other).isSome = true := by
  by_cases here : other = place
  · subst here
    by_cases top : other = []
    · subst top
      rfl
    · rw [node?_put_self node top]
      rfl
  · rwa [node?_put_of_ne node here]

/-- A walk goes where it went before. -/
theorem walk_put {pieces : List Text} {last : List Text}
    (noDirectory : files.isDirectoryAt place = false)
    (walked : files.walk start pieces = .ok last) :
    (files.put place node).walk start pieces = .ok last := by
  induction pieces generalizing start with
  | nil => exact walked
  | cons piece rest ih =>
    rw [walk] at walked ⊢
    split at walked
    · cases walked
    next directory =>
    have still : (files.put place node).isDirectoryAt start = true :=
      isDirectoryAt_put noDirectory (by simpa using directory)
    rw [if_neg (by simp [still])]
    split at walked
    · next idle => rw [if_pos idle, ih walked]
    next telling =>
    rw [if_neg telling]
    split at walked
    · next up => rw [if_pos up, ih walked]
    next down =>
    rw [if_neg down]
    split at walked
    · cases walked
    next short =>
    rw [if_neg short]
    split at walked
    · cases walked
    next stands =>
    have stands' : ((files.put place node).node? (start ++ [piece])).isSome = true :=
      isSome_node?_put (by simpa [Option.isSome_iff_ne_none] using stands)
    rw [if_neg (by simpa [Option.isSome_iff_ne_none] using stands'), ih walked]

/-! ## Writing -/

/-- A piece of a path that can be the name of a file. -/
structure IsFileName (piece : Text) : Prop where
  telling : ¬ Path.isIdle piece = true
  down : piece ≠ ['.', '.']
  short : ¬ 255 < Text.utf8Length piece

theorem IsFileName.walk {name : Text} (isName : IsFileName name)
    (directory : files.isDirectoryAt place = true)
    (stands : (files.node? (place ++ [name])).isSome = true) :
    files.walk place [name] = .ok (place ++ [name]) := by
  rw [FileTree.walk, if_neg (by simp [directory]), if_neg isName.telling, if_neg isName.down,
    if_neg isName.short, if_neg (by simpa [Option.isSome_iff_ne_none] using stands), FileTree.walk]

/-- What is written stands at the last piece of the path, where no directory stood. -/
theorem write_cases {path : Text} {contents : Contents}
    (done : files.write path contents = .ok written) :
    pathFault? path = none ∧ ∃ front name directory, Text.pieces '/' path = front ++ [name] ∧
      IsFileName name ∧ files.walk (files.origin path) front = .ok directory ∧
      files.isDirectoryAt directory = true ∧ files.isDirectoryAt (directory ++ [name]) = false ∧
      written = files.put (directory ++ [name]) (.file contents) := by
  rw [write] at done
  split at done
  · cases done
  next sound =>
  refine ⟨sound, ?_⟩
  dsimp only at done
  split at done
  · cases done
  next directory walked =>
  split at done
  · cases done
  next isDirectory =>
  split at done
  · cases done
  next plain =>
  split at done
  · cases done
  next short =>
  split at done
  · cases done
  next free =>
  cases done
  have ends : (Text.pieces '/' path).reverse.dropWhile List.isEmpty <:+
      (Text.pieces '/' path).reverse :=
    List.dropWhile_suffix _
  have whole : ((Text.pieces '/' path).reverse.dropWhile List.isEmpty).reverse =
      Text.pieces '/' path := by
    refine List.IsPrefix.eq_of_length_le ?_ (Nat.not_lt.1 fun less => plain (.inl less))
    simpa using List.reverse_prefix.2 ends
  rw [whole] at walked plain short free ⊢
  rw [not_or, not_or] at plain
  obtain ⟨-, telling, down⟩ := plain
  obtain ⟨front, name, pieces⟩ : ∃ front name, Text.pieces '/' path = front ++ [name] :=
    ⟨_, _, (List.dropLast_append_getLast (Text.pieces_ne_nil path)).symm⟩
  rw [pieces, List.dropLast_concat] at walked
  rw [pieces, List.getLast?_concat, Option.getD_some] at telling down short free ⊢
  exact ⟨front, name, directory, rfl, ⟨telling, down, short⟩, walked, by simpa using isDirectory,
    by simpa using free, rfl⟩

theorem writes_write {path text : Text} (done : files.write path (.text text) = .ok written) :
    Writes path text files written := by
  obtain ⟨sound, front, name, directory, pieces, isName, walked, isDirectory, free, rfl⟩ :=
    write_cases done
  have stands := @node?_put_self files (directory ++ [name]) (.file (.text text)) (by simp)
  have located : (files.put (directory ++ [name]) (.file (.text text))).locate path =
      .ok (directory ++ [name]) := by
    rw [locate, sound]
    dsimp only
    rw [pieces]
    refine walk_append.2 ⟨directory, walk_put free walked, ?_⟩
    exact isName.walk (isDirectoryAt_put free isDirectory) (by rw [stands]; rfl)
  refine ⟨rfl, ?_, _, located, fun other apart => node?_put_of_ne _ apart⟩
  rw [read, find, located]
  dsimp only
  rw [stands]

end FileTree

end PageTemplates
