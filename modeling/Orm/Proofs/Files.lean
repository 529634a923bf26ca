import Orm.Files
import Orm.Proofs.Action

/-!
# What a written file changes

To write a text at a path changes what is at one location, where a file was or could be
(`write_eq_ok_iff`). All paths that led to a file or directory lead there afterwards (`place_put`),
so the text is read at the path at which it was written (`read_of_write`).
-/

namespace Orm.FileStore

variable {files after : FileStore} {location other : FileLocation} {path text : String}
  {start place : FilePlace}

/-- There is no directory and no symbolic link at a location, so a file is or can be there. -/
def FreeForFile (files : FileStore) (location : FileLocation) : Prop :=
  ∀ node, files.nodeAt location = some node → ∃ access content, node = .file access content

/-- The other locations stay as they are when a file is written. -/
theorem node_at_put_of_ne (h : other ≠ location) :
    (files.put location text).nodeAt other = files.nodeAt other := if_neg h

/-- The written file is at its location. -/
theorem node_at_put_self :
    (files.put location text).nodeAt location = some (.file .full (some text)) := if_pos rfl

/-! ## Where files are -/

/-- A name leads to a file where one is or can be. -/
theorem free_of_arrive {directory : FileLocation} {name : String}
    (h : files.arrive directory name = .reached (.file location)) :
    files.FreeForFile location := by
  unfold arrive at h
  split at h <;> cases h
  · next access content hnode =>
    intro node hother
    exact ⟨access, content, Option.some.inj (hother.symm.trans hnode)⟩
  · next hnone =>
    intro node hother
    cases hnone.symm.trans hother

/-- Only a slash can follow what is no directory. -/
theorem slashed_of_step {name : String} {reached : PathStep}
    (hstart : ∀ location, start ≠ .directory location)
    (h : files.step start name = .ok reached) :
    ∃ isThere, reached = .reached (.slashed isThere) := by
  cases start with
  | directory location => exact absurd rfl (hstart location)
  | file location | slashed isThere =>
      simp only [step] at h
      split at h <;> cases h
      exact ⟨_, rfl⟩

/-- A step from a directory leads to a directory, or to what has the name. -/
theorem step_cases {directory : FileLocation} {name : String} {reached : PathStep}
    (h : files.step (.directory directory) name = .ok reached) :
    (∃ other, reached = .reached (.directory other)) ∨ reached = files.arrive directory name := by
  simp only [step] at h
  split at h
  · exact .inl ⟨directory, (Except.ok.inj h).symm⟩
  split at h
  · cases h
  · -- Dots lead to directories, and every other name to what has it.
    split at h
    · exact .inl ⟨directory, (Except.ok.inj h).symm⟩
    split at h
    · exact .inl ⟨directory.tail, (Except.ok.inj h).symm⟩
    split at h
    · cases h
    · exact .inr (Except.ok.inj h).symm
  · cases h
  · cases h
  · cases h

/-- A step leads to a file where one is or can be. -/
theorem free_of_step {name : String}
    (h : files.step start name = .ok (.reached (.file location))) :
    files.FreeForFile location := by
  cases start with
  | directory directory =>
      obtain ⟨other, hother⟩ | harrived := step_cases h
      · cases hother
      · exact free_of_arrive harrived.symm
  | file other | slashed isThere =>
      obtain ⟨_, hslashed⟩ := slashed_of_step (by simp) h
      cases hslashed

variable {follow again : FileLocation → String → List String → Except FileError FilePlace}
  {names : List String}

/-- Steps from a directory lead to a file where one is or can be, if what follows symbolic links
does. -/
theorem free_of_walk
    (hfollow : ∀ directory target rest location,
      follow directory target rest = .ok (.file location) → files.FreeForFile location)
    (hstart : ∀ location, start = .file location → files.FreeForFile location)
    (h : files.walk follow start names = .ok (.file location)) : files.FreeForFile location := by
  induction names generalizing start with
  | nil => exact hstart location (Except.ok.inj h)
  | cons name rest ih =>
      rw [walk, Action.bind_eq_ok_iff] at h
      obtain ⟨reached, hstep, hrest⟩ := h
      cases reached with
      | link directory target => exact hfollow directory target rest location hrest
      | reached next =>
          refine ih (fun other hother => ?_) hrest
          subst hother
          exact free_of_step hstep

/-- A path that is followed leads to a file where one is or can be. -/
theorem free_of_follow {paths : Nat} {directory : FileLocation} {target : String}
    (h : files.follow paths directory target names = .ok (.file location)) :
    files.FreeForFile location := by
  induction paths generalizing directory target names location with
  | zero => cases h
  | succ paths ih =>
      rw [FileStore.follow] at h
      split at h
      · cases h
      · exact free_of_walk (fun _ _ _ _ hfollow => ih hfollow) (by simp [pathStart]) h

/-- A path leads to a file where one is or can be. -/
theorem free_of_place (h : files.place path = .ok (.file location)) :
    files.FreeForFile location := by
  unfold FileStore.place at h
  split at h
  · cases h
  split at h
  · cases h
  · exact free_of_follow h

/-! ## Paths after a file was written -/

/-- Names lead where they led before a file was written. -/
theorem arrive_put (hfree : files.FreeForFile location) (directory : FileLocation)
    (name : String) :
    (files.put location text).arrive directory name = files.arrive directory name := by
  unfold arrive
  by_cases hsame : name :: directory = location
  · subst hsame
    rw [node_at_put_self]
    cases hnode : files.nodeAt (name :: directory) with
    | none => rfl
    | some node =>
        obtain ⟨_, _, rfl⟩ := hfree node hnode
        rfl
  · rw [node_at_put_of_ne hsame]

/-- So do steps from a directory. -/
theorem step_put (hfree : files.FreeForFile location) {directory : FileLocation} {name : String}
    {reached : PathStep} (h : files.step (.directory directory) name = .ok reached) :
    (files.put location text).step (.directory directory) name = .ok reached := by
  by_cases hsame : directory = location
  · -- Where a file is, or nothing, no name leads on.
    subst hsame
    simp only [step] at h ⊢
    split at h
    · next hname => rwa [if_pos hname]
    · cases hnode : files.nodeAt directory with
      | none =>
          rw [hnode] at h
          cases h
      | some node =>
          obtain ⟨_, _, rfl⟩ := hfree node hnode
          rw [hnode] at h
          cases h
  · simp only [step] at h ⊢
    rwa [node_at_put_of_ne hsame, arrive_put hfree]

/-- Behind a slash that follows no directory there is nothing but slashes. -/
theorem slashed_of_walk {isThere : Bool}
    (h : files.walk follow (.slashed isThere) names = .ok place) :
    ∃ isThere, place = .slashed isThere := by
  induction names generalizing isThere with
  | nil => exact ⟨isThere, (Except.ok.inj h).symm⟩
  | cons name rest ih =>
      rw [walk, Action.bind_eq_ok_iff] at h
      obtain ⟨reached, hstep, hrest⟩ := h
      obtain ⟨next, rfl⟩ := slashed_of_step (by simp) hstep
      exact ih hrest

/-- Steps lead to the file or directory where they led before a file was written, if what follows
symbolic links does. -/
theorem walk_put (hfree : files.FreeForFile location)
    (hfollow : ∀ directory target rest, follow directory target rest = .ok place →
      again directory target rest = .ok place)
    (hplace : ∀ isThere, place ≠ .slashed isThere)
    (h : files.walk follow start names = .ok place) :
    (files.put location text).walk again start names = .ok place := by
  induction names generalizing start with
  | nil => exact h
  | cons name rest ih =>
      rw [walk, Action.bind_eq_ok_iff] at h ⊢
      obtain ⟨reached, hstep, hrest⟩ := h
      cases start with
      | directory directory =>
          refine ⟨reached, step_put hfree hstep, ?_⟩
          cases reached with
          | link directory target => exact hfollow directory target rest hrest
          | reached next => exact ih hrest
      | file other | slashed isThere =>
          obtain ⟨next, rfl⟩ := slashed_of_step (by simp) hstep
          obtain ⟨last, rfl⟩ := slashed_of_walk hrest
          exact absurd rfl (hplace last)

/-- A path that is followed leads to the file or directory where it led before. -/
theorem follow_put (hfree : files.FreeForFile location)
    (hplace : ∀ isThere, place ≠ .slashed isThere) {paths : Nat} {directory : FileLocation}
    {target : String} (h : files.follow paths directory target names = .ok place) :
    (files.put location text).follow paths directory target names = .ok place := by
  induction paths generalizing directory target names with
  | zero => cases h
  | succ paths ih =>
      rw [FileStore.follow] at h ⊢
      split at h
      · cases h
      · next hsome =>
        rw [if_neg hsome]
        exact walk_put hfree (fun _ _ _ hfollow => ih hfollow) hplace h

/-- Every path leads to the file or directory where it led before a file was written. -/
theorem place_put (hfree : files.FreeForFile location)
    (hplace : ∀ isThere, place ≠ .slashed isThere) (h : files.place path = .ok place) :
    (files.put location text).place path = .ok place := by
  unfold FileStore.place at h ⊢
  split at h
  · cases h
  next hnul =>
  split at h
  · cases h
  next hlong =>
  rw [if_neg hnul, if_neg hlong]
  exact follow_put hfree hplace h

/-! ## Reading and writing -/

/-- A text can be written at a path if and only if that leads to a file that may be written; it need
not exist. -/
theorem write_eq_ok_iff :
    files.write path text = .ok after ↔ ∃ location, files.place path = .ok (.file location) ∧
      files.admits location = true ∧ after = files.put location text := by
  rw [write, Action.bind_eq_ok_iff]
  constructor
  · rintro ⟨place, hplace, hwritten⟩
    cases place with
    | directory _ | slashed _ => cases hwritten
    | file location =>
        dsimp only at hwritten
        split at hwritten <;> cases hwritten
        exact ⟨location, hplace, ‹_›, rfl⟩
  · rintro ⟨location, hplace, hadmits, rfl⟩
    exact ⟨.file location, hplace, if_pos hadmits⟩

/-- A text that is in the file where a path leads is read there. -/
theorem read_eq_ok (hplace : files.place path = .ok (.file location))
    (hnode : files.nodeAt location = some (.file .full (some text))) :
    files.read path = .ok text := by
  rw [read, hplace]
  simp only [bind, Except.bind, hnode]
  rfl

/-- A text that was written at a path is read there. -/
theorem read_of_write (h : files.write path text = .ok after) : after.read path = .ok text := by
  obtain ⟨location, hplace, -, rfl⟩ := write_eq_ok_iff.1 h
  exact read_eq_ok (place_put (free_of_place hplace) (by simp) hplace) node_at_put_self

end Orm.FileStore
