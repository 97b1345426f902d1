import Mathlib.Tactic.Lemma
import Mathlib.Tactic.SplitIfs
import ProposalBoard.Disk

/-!
# Writing to a disk

A path leads to a place that has nothing but directories above it (`Disk.reached_of_locate?`). So no
directory comes or goes with a file that is written, and all paths lead where they led before. From
this follow the main statements: a file that is written is the only one whose content changes
(`Disk.read?_of_write?`), and it is read as it was written (`Disk.read?_of_write?_self`).
-/

namespace ProposalBoard.Disk

variable {d after : Disk} {place next other : List String} {path text printed : String}
  {content : ByteArray}

/-! ## Places on the way -/

/-- Directories are the places on the way to the running directory and to the open files, those that
every disk has at its root, those that were made, and those above a file. -/
lemma isDirectory_iff : d.isDirectory place = true ↔
    place <+: d.running ∨ place <+: Device.openFiles ∨ (∃ name ∈ rootDirectories, [name] = place) ∨
      place ∈ d.directories ∨ ∃ f ∈ d.files, place <+: f.1 ∧ place.length < f.1.length := by
  simp only [isDirectory, Bool.or_eq_true, List.isPrefixOf_iff_prefix, List.any_eq_true,
    decide_eq_true_eq, List.contains_iff_mem, Bool.and_eq_true, or_assoc]

/-- What is above a file is a directory. -/
lemma isDirectory_of_mem_files {f : List String × ByteArray} (hf : f ∈ d.files)
    (hbelow : place <+: f.1) (hlength : place.length < f.1.length) :
    d.isDirectory place = true :=
  isDirectory_iff.mpr (.inr (.inr (.inr (.inr ⟨f, hf, hbelow, hlength⟩))))

/-- All places above a place are directories. -/
def Reached (d : Disk) (place : List String) : Prop :=
  ∀ above, above <+: place → above.length < place.length → d.isDirectory above = true

/-- A path starts at a place with directories above it. -/
lemma reached_start (d : Disk) (path : String) : d.Reached (d.start path) := by
  unfold start
  split
  · intro above _ hlength
    cases hlength
  · exact fun above h _ => isDirectory_iff.mpr (.inl h)

/-- A place with directories above it is left upward for another such place. -/
lemma Reached.dropLast (h : d.Reached place) : d.Reached place.dropLast := by
  intro above habove hlength
  rw [List.length_dropLast] at hlength
  exact h above (habove.trans (List.dropLast_prefix place)) (by omega)

/-- A name in a directory that was reached is a place with directories above it. -/
lemma Reached.concat (h : d.Reached place) (hplace : d.isDirectory place = true) (name : String) :
    d.Reached (place ++ [name]) := by
  intro above habove hlength
  rcases List.prefix_concat_iff.mp habove with rfl | habove
  · exact absurd hlength (Nat.lt_irrefl _)
  · rcases Nat.lt_or_ge above.length place.length with hlt | hge
    · exact h above habove hlt
    · rwa [habove.eq_of_length_le hge]

/-- A link from a place with directories above it leads to another such place. -/
lemma Reached.followLink (h : d.Reached place) : d.Reached (Device.followLink place) := by
  unfold Device.followLink
  split
  · exact fun above habove _ => isDirectory_iff.mpr (.inr (.inl habove))
  · exact h

/-- What is reached from a place is reached. -/
lemma Reached.enter? {name : String} (h : d.Reached place)
    (hnext : d.enter? place name = some next) : d.Reached next := by
  unfold Disk.enter? at hnext
  split_ifs at hnext with hbar hstay hup
  · cases hnext
    exact h
  · cases hnext
    exact h.dropLast
  · cases hnext
    simp only [Bool.or_eq_true, Bool.not_eq_true', decide_eq_true_eq, not_or,
      Bool.not_eq_false] at hbar
    exact (h.concat hbar.1 name).followLink

/-- Name by name, what is reached from a place is reached. -/
lemma Reached.foldlM {names : List String} (h : d.Reached place)
    (hnext : names.foldlM d.enter? place = some next) : d.Reached next := by
  induction names generalizing place with
  | nil =>
    cases hnext
    exact h
  | cons name names ih =>
    obtain ⟨entered, hentered, hrest⟩ := Option.bind_eq_some_iff.mp hnext
    exact ih (h.enter? hentered) hrest

/-- A path leads nowhere but to places with directories above them. -/
lemma reached_of_locate? (h : d.locate? path = some place) : d.Reached place := by
  unfold locate? at h
  split at h
  · cases h
  · exact (d.reached_start path).foldlM h

/-! ## A disk with a further file -/

/-- A file that is put on a disk replaces the one at its place, and all others stay. -/
lemma mem_files_put {f : List String × ByteArray} :
    f ∈ (d.put place content).files ↔ (f ∈ d.files ∧ f.1 ≠ place) ∨ f = (place, content) := by
  simp only [put, List.mem_append, List.mem_filter, decide_eq_true_eq, List.mem_singleton]

/-- A directory stays one where the running directory and the directories that were made stay, and
the files below it leave it one. -/
lemma isDirectory_of_files (hrunning : after.running = d.running)
    (hdirectories : after.directories = d.directories)
    (hfiles : ∀ f ∈ d.files, place <+: f.1 → place.length < f.1.length →
      after.isDirectory place = true) (h : d.isDirectory place = true) :
    after.isDirectory place = true := by
  rcases isDirectory_iff.mp h with h | h | h | h | ⟨f, hf, hbelow, hlength⟩
  · exact isDirectory_iff.mpr (.inl (hrunning ▸ h))
  · exact isDirectory_iff.mpr (.inr (.inl h))
  · exact isDirectory_iff.mpr (.inr (.inr (.inl h)))
  · exact isDirectory_iff.mpr (.inr (.inr (.inr (.inl (hdirectories ▸ h)))))
  · exact hfiles f hf hbelow hlength

/-- No directory comes or goes with a file that has directories above it. -/
lemma isDirectory_put (h : d.Reached place) (content : ByteArray) (other : List String) :
    (d.put place content).isDirectory other = d.isDirectory other := by
  rw [Bool.eq_iff_iff]
  constructor
  · refine isDirectory_of_files rfl rfl fun f hf hbelow hlength => ?_
    rcases mem_files_put.mp hf with ⟨hf, -⟩ | rfl
    · exact isDirectory_of_mem_files hf hbelow hlength
    · exact h other hbelow hlength
  · refine isDirectory_of_files rfl rfl fun f hf hbelow hlength => ?_
    -- a file that was at the place is replaced by the one that is put there
    have hkept : ∃ g ∈ (d.put place content).files, g.1 = f.1 := by
      by_cases hplace : f.1 = place
      · exact ⟨_, mem_files_put.mpr (.inr rfl), hplace.symm⟩
      · exact ⟨f, mem_files_put.mpr (.inl ⟨hf, hplace⟩), rfl⟩
    obtain ⟨g, hg, hgf⟩ := hkept
    rw [← hgf] at hbelow hlength
    exact isDirectory_of_mem_files hg hbelow hlength

/-- With a further file, all paths lead where they led before. -/
lemma locate?_put (h : d.Reached place) (content : ByteArray) (other : String) :
    (d.put place content).locate? other = d.locate? other := by
  have henter : (d.put place content).enter? = d.enter? := by
    funext directory name
    unfold Disk.enter?
    rw [isDirectory_put h]
  unfold locate?
  rw [henter]
  rfl

/-- Leaving out what is at one place does not change what is found at another. -/
lemma lookup_filter_ne (h : next ≠ place) (files : List (List String × ByteArray)) :
    (files.filter (·.1 ≠ place)).lookup next = files.lookup next := by
  induction files with
  | nil => rfl
  | cons f files ih =>
    obtain ⟨found, content⟩ := f
    by_cases hfound : found = place
    · have hne : (next == found) = false := beq_false_of_ne (hfound ▸ h)
      rw [List.filter_cons_of_neg (by simpa using hfound), ih, List.lookup_cons, hne]
    · rw [List.filter_cons_of_pos (by simpa using hfound), List.lookup_cons, List.lookup_cons, ih]

/-- Putting a file at one place does not change what is found at another. -/
lemma lookup_put (h : next ≠ place) :
    (d.put place content).files.lookup next = d.files.lookup next := by
  have hne : (next == place) = false := beq_false_of_ne h
  unfold put
  rw [List.lookup_append, lookup_filter_ne h, List.lookup_cons, hne, List.lookup_nil,
    Option.or_none]

/-- A file that is put on a disk is found at its place. -/
lemma lookup_put_self : (d.put place content).files.lookup place = some content := by
  have hnone : (d.files.filter (·.1 ≠ place)).lookup place = none := by
    refine List.lookup_eq_none_iff.mpr fun f hf => bne_iff_ne.mpr fun heq => ?_
    exact of_decide_eq_true (List.mem_filter.mp hf).2 heq.symm
  unfold put
  rw [List.lookup_append, hnone, List.lookup_cons_self, Option.none_or]

/-- A file that is put on a disk is read by its path, if no device is there. -/
lemma read?_put_self (h : d.Reached place) (hpath : d.locate? path = some place)
    (hdevice : Device.at? place = none) : (d.put place content).read? path = some content := by
  unfold read?
  rw [locate?_put h, hpath]
  simp only [Option.bind_eq_bind, Option.bind_some, hdevice, lookup_put_self]

/-- What stands at another place is read as before. -/
lemma read?_put {other : String} (h : d.Reached place) (hother : d.locate? other ≠ some place) :
    (d.put place content).read? other = d.read? other := by
  unfold read?
  rw [locate?_put h]
  cases hplace : d.locate? other with
  | none => rfl
  | some next =>
    have hne : next ≠ place := by
      rintro rfl
      exact hother hplace
    simp only [Option.bind_eq_bind, Option.bind_some, lookup_put hne]

/-- A path leads to a file that is not kept. -/
def IsDevice (d : Disk) (path : String) : Prop :=
  ∃ place ∈ d.locate? path, (Device.at? place).isSome = true

/-- A text is written to a device, or to a place that is then a file with it. -/
lemma write?_inv (h : d.write? path text = some (printed, after)) :
    d.IsDevice path ∧ after = d ∨
      ∃ place, d.locate? path = some place ∧ Device.at? place = none ∧
        after = d.put place text.toUTF8 := by
  obtain ⟨place, hplace, h⟩ := Option.bind_eq_some_iff.mp h
  split at h
  · next device hdevice =>
    obtain ⟨_, -, h⟩ := Option.bind_eq_some_iff.mp h
    cases h
    exact .inl ⟨⟨place, hplace, by rw [hdevice]; rfl⟩, rfl⟩
  · next hdevice =>
    split at h
    · cases h
    · cases h
      exact .inr ⟨place, hplace, hdevice, rfl⟩

/-- A file that is written is read as it was written. -/
theorem read?_of_write?_self (h : d.write? path text = some (printed, after))
    (hdevice : ¬d.IsDevice path) : after.read? path = some text.toUTF8 := by
  rcases write?_inv h with ⟨hpath, -⟩ | ⟨place, hplace, hfile, rfl⟩
  · exact absurd hpath hdevice
  · exact read?_put_self (reached_of_locate? hplace) hplace hfile

/-- A file that is written is the only one whose content changes. -/
theorem read?_of_write? {other : String} (h : d.write? path text = some (printed, after))
    (hother : d.locate? other ≠ d.locate? path) : after.read? other = d.read? other := by
  rcases write?_inv h with ⟨-, rfl⟩ | ⟨place, hplace, -, rfl⟩
  · rfl
  · rw [hplace] at hother
    exact read?_put (reached_of_locate? hplace) hother

end ProposalBoard.Disk
