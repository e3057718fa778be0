import Remit.Settings.Files

/-!
What a disk has at a path. A file is read at its place and nowhere else, whether the path begins at
the root or in the working directory. This is for paths that do not lead back.
-/

namespace Remit.Settings.Disk

variable {disk : Disk} {place rest front : List String} {path other text : String}

/-- Steps that only lead on, in names that a directory can hold. -/
def Onward (steps : List String) : Prop :=
  ∀ step ∈ steps, step ≠ ".." ∧ step.utf8ByteSize ≤ longestName

/-- A path that the system looks up. -/
structure Admitted (path : String) : Prop where
  noZero : '\x00' ∉ path.toList
  short : path.utf8ByteSize ≤ longestPath

theorem Admitted.read_eq (admitted : Admitted path) :
    disk.read path = disk.follow (disk.start path) (Path.steps path) := by
  have noZero : ¬ path.toList.contains '\x00' := by
    rw [List.contains_iff_mem]
    exact admitted.noZero
  rw [read, if_neg noZero, if_neg (Nat.not_lt.mpr admitted.short)]

theorem follow_cons {step : String} (directory : disk.isDirectory place = true)
    (onward : step ≠ ".." ∧ step.utf8ByteSize ≤ longestName) :
    disk.follow place (step :: rest) = disk.follow (place ++ [step]) rest := by
  rw [follow, directory, if_neg onward.1, if_neg (Nat.not_lt.mpr onward.2)]
  rfl

/-- What holds a file, itself or in further directories, is a directory. -/
theorem isDirectory_of_textAt? {step : String}
    (found : disk.textAt? (place ++ step :: rest) = some text) : disk.isDirectory place = true := by
  obtain ⟨⟨name, _⟩, entry, rfl⟩ := Option.map_eq_some_iff.mp found
  have member := List.mem_of_find?_eq_some entry
  have there : disk.place name = place ++ step :: rest := by
    simpa using List.find?_some entry
  rw [isDirectory, Bool.or_eq_true, List.any_eq_true]
  refine .inr ⟨_, member, ?_⟩
  simp [there, List.isPrefixOf_iff_prefix]

theorem follow_of_textAt? (onward : Onward rest)
    (found : disk.textAt? (place ++ rest) = some text) :
    disk.follow place rest = .ok (some text) := by
  induction rest generalizing place with
  | nil =>
      rw [List.append_nil] at found
      rw [follow, found]
  | cons step rest induction =>
      obtain ⟨here, later⟩ := List.forall_mem_cons.mp onward
      rw [follow_cons (isDirectory_of_textAt? found) here]
      apply induction later
      rwa [List.append_assoc]

theorem textAt?_of_follow (onward : Onward rest)
    (followed : disk.follow place rest = .ok (some text)) :
    disk.textAt? (place ++ rest) = some text := by
  induction rest generalizing place with
  | nil =>
      rw [follow] at followed
      split at followed
      case h_1 found =>
        cases followed
        rw [List.append_nil, found]
      case h_2 =>
        split at followed <;> cases followed
  | cons step rest induction =>
      obtain ⟨here, later⟩ := List.forall_mem_cons.mp onward
      cases directory : disk.isDirectory place with
      | false =>
          rw [follow, directory] at followed
          cases followed
      | true =>
          rw [follow_cons directory here] at followed
          have found := induction later followed
          rwa [List.append_assoc] at found

theorem read_eq_some_iff (admitted : Admitted path) (onward : Onward (Path.steps path)) :
    disk.read path = .ok (some text) ↔ disk.textAt? (disk.place path) = some text := by
  rw [admitted.read_eq]
  exact ⟨textAt?_of_follow onward, follow_of_textAt? onward⟩

theorem follow_append (directories : ∀ taken, taken <+: front → disk.isDirectory (place ++ taken))
    (onward : Onward front) :
    disk.follow place (front ++ rest) = disk.follow (place ++ front) rest := by
  induction front generalizing place with
  | nil => rw [List.nil_append, List.append_nil]
  | cons step front induction =>
      obtain ⟨here, later⟩ := List.forall_mem_cons.mp onward
      have directory := directories [] List.nil_prefix
      rw [List.append_nil] at directory
      rw [List.cons_append, follow_cons directory here, induction _ later, List.append_assoc]
      · rfl
      · intro taken front
        rw [List.append_assoc]
        exact directories (step :: taken) (List.cons_prefix_cons.mpr ⟨rfl, front⟩)

/-- A relative path is the absolute one of the working directory with its steps put after. -/
theorem read_relative (relative : Path.isAbsolute path = false)
    (absolute : Path.isAbsolute other = true)
    (steps : Path.steps other = disk.workingDirectory ++ Path.steps path)
    (onward : Onward disk.workingDirectory) (admitted : Admitted path)
    (otherAdmitted : Admitted other) : disk.read path = disk.read other := by
  have within : ∀ taken, taken <+: disk.workingDirectory → disk.isDirectory ([] ++ taken) := by
    intro taken front
    rw [isDirectory, Bool.or_eq_true, List.nil_append, List.isPrefixOf_iff_prefix]
    exact .inl front
  -- From the root, the steps of the working directory come first, and end where it begins.
  rw [admitted.read_eq, otherAdmitted.read_eq, start, start, relative, absolute, steps]
  exact (follow_append within onward).symm

/-- One file, by its own name, from the root, and by way of the directory above. -/
example :
    let disk : Disk := ⟨["home", "user"], [("b.yaml", "log: 1"), ("/etc/a.yaml", "log: 2")]⟩
    disk.read "b.yaml" = .ok (some "log: 1") ∧ disk.read "/home/user/b.yaml" = .ok (some "log: 1") ∧
      disk.read "../../etc/a.yaml" = .ok (some "log: 2") ∧
      disk.read "/etc" = .error (.system .isDirectory) ∧ disk.read "/etc/b.yaml" = .ok none := by
  refine ⟨?_, ?_, ?_, ?_, ?_⟩ <;> rfl

end Remit.Settings.Disk
