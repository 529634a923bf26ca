import Orm.Proofs.Json.Nesting
import Orm.Proofs.Schema.CacheFile
import Orm.Proofs.Schema.Merge

/-!
# Caches that are merged in files

The procedures of a snapshot that was read from a file are not nested too deep for one
(`SchemaSnapshot.fits_of_read`), nor are those of two such snapshots together. So the union of two
saved caches is read back wherever it is written. A merge of files either writes that union, at the
target and nowhere else, or leaves all files as they are; its message says which
(`files_merged_or_kept`).
-/

namespace Orm

open Json (Bounded Within listLevel within_fields)

/-! ## Levels of what is read -/

/-- Parameters are read from no fewer levels than they need. -/
theorem ProcedureParameter.bounded : Bounded ofJson? fun _ => 1 := by
  intro depth document param hwithin hread
  unfold ofJson? at hread
  split at hread
  · next hfields => exact (within_fields hwithin hfields).1
  · cases hread

/-- So are names of procedures. -/
theorem ProcedureName.bounded : Bounded ofJson? fun _ => 1 := by
  intro depth document name hwithin hread
  unfold ofJson? at hread
  split at hread
  · next hfields => exact (within_fields hwithin hfields).1
  · cases hread

/-- So are procedure definitions. -/
theorem ProcedureDefinition.bounded : Bounded ofJson? level := by
  intro depth document definition hwithin hread
  unfold ofJson? at hread
  split at hread
  · next name params hfields =>
    simp only [Option.bind_eq_bind, Option.bind_eq_some_iff] at hread
    obtain ⟨readName, hname, readParams, hparams, hdefinition⟩ := hread
    obtain rfl := Option.some.inj hdefinition
    obtain ⟨hpos, hinside⟩ := within_fields hwithin hfields
    have hlevelName : 1 ≤ depth - 1 :=
      ProcedureName.bounded (hinside name (by simp)) hname
    have hlevelParams : listLevel (fun _ => 1) readParams ≤ depth - 1 :=
      ProcedureParameter.bounded.list (hinside params (by simp)) hparams
    simp only [level]
    omega
  · cases hread

/-- An alternative with a name and a content takes two levels. -/
theorem within_named_pair {depth : Nat} {key : String} {name content : Json}
    (h : Within depth (.object [(key, .array [name, content])])) :
    2 ≤ depth ∧ Within (depth - 2) content := by
  obtain ⟨hobject, hmember⟩ := Json.within_object_iff.1 h
  obtain ⟨harray, hitem⟩ := Json.within_array_iff.1 (hmember _ List.mem_cons_self)
  exact ⟨by omega, hitem content (by simp)⟩

/-- Discovered procedures are read from no fewer levels than they need, two for every root above
them. -/
theorem ProcedureNode.bounded : Bounded ofJson? level := by
  intro depth document node hwithin hread
  induction document using ofJson?.induct generalizing depth node with
  | case1 | case2 =>
      rw [ofJson?] at hread
      obtain rfl := Option.some.inj hread
      exact Nat.zero_le depth
  | case3 name inner ih =>
      rw [ofJson?] at hread
      obtain ⟨read, hinner, rfl⟩ := Option.map_eq_some_iff.1 hread
      obtain ⟨hpos, hinside⟩ := within_named_pair hwithin
      have hlevel := ih hinside hinner
      rw [level]
      omega
  | case4 name definitions =>
      rw [ofJson?] at hread
      obtain ⟨read, hdefinitions, rfl⟩ := Option.map_eq_some_iff.1 hread
      obtain ⟨hpos, hinside⟩ := within_named_pair hwithin
      have hlevel := ProcedureDefinition.bounded.list hinside hdefinitions
      rw [level]
      omega
  | case5 definition =>
      rw [ofJson?] at hread
      obtain ⟨read, hdefinition, rfl⟩ := Option.map_eq_some_iff.1 hread
      obtain ⟨hpos, hinside⟩ := Json.within_object_iff.1 hwithin
      have hlevel := ProcedureDefinition.bounded (hinside _ List.mem_cons_self) hdefinition
      rw [level]
      omega
  -- Every other document is read as none.
  | case6 document hempty hnull hroot hpackage hsingle =>
      rw [ofJson?] at hread
      · cases hread
      all_goals assumption

namespace SchemaSnapshot

/-- The procedures of a snapshot that was read are not nested too deep for a file. -/
theorem fits_of_read {text : String} {snapshot : SchemaSnapshot}
    (h : ofFileText? text = some snapshot) : snapshot.FitsFile := by
  rw [ofFileText?, Option.bind_eq_some_iff] at h
  obtain ⟨document, htext, hread⟩ := h
  have hwithin := Json.within_of_read htext
  unfold ofJson? at hread
  split at hread
  · next nodes _ _ _ _ hfields =>
    simp only [Option.bind_eq_bind, Option.bind_eq_some_iff] at hread
    obtain ⟨_, -, _, -, _, -, _, -, procedures, hprocedures, _, -, _, -, _, -, _, -, hsnapshot⟩ :=
      hread
    obtain rfl := Option.some.inj hsnapshot
    obtain ⟨-, hinside⟩ := within_fields hwithin hfields
    -- Only the procedures matter; a field that is missing stands for none of them.
    cases nodes with
    | none =>
        obtain rfl := Option.some.inj hprocedures
        exact List.forall_mem_nil _
    | some content =>
        have hlevel : listLevel ProcedureNode.level procedures ≤ 126 :=
          ProcedureNode.bounded.list (hinside content (by simp)) hprocedures
        exact Json.list_level_le_iff.1 hlevel
  · cases hread

/-- So are those of a snapshot that was read from a file. -/
theorem fits_of_read_file {files : FileStore} {path : String} {snapshot : SchemaSnapshot}
    (h : readFile files path = .ok snapshot) : snapshot.FitsFile := by
  rw [readFile] at h
  split at h
  · cases h
  · split at h
    · next htext =>
      cases h
      exact fits_of_read htext
    · cases h

/-- A snapshot that is in a file is found where a path leads to that file. -/
theorem read_saved {files : FileStore} {path : String} {location : FileLocation}
    {snapshot : SchemaSnapshot} (hplace : files.place path = .ok (.file location))
    (hsaved : files.nodeAt location = some (.file .full (some snapshot.fileText)))
    (hfits : snapshot.FitsFile) :
    files.pathExists path = true ∧ readFile files path = .ok snapshot := by
  constructor
  · rw [FileStore.pathExists, hplace]
    simp only [FileStore.hasFile, hsaved]
  · rw [readFile, FileStore.read_eq_ok hplace hsaved]
    dsimp only
    rw [of_file_text, if_pos hfits]

/-- Snapshots that fit a file fit one together. -/
theorem FitsFile.merge {first second : SchemaSnapshot} (hfirst : first.FitsFile)
    (hsecond : second.FitsFile) : (first.merge second).FitsFile := by
  intro node hnode
  rw [procedures_merge] at hnode
  rcases List.mem_append.1 hnode with hnode | hnode
  · exact hfirst node hnode
  · obtain ⟨before, after, hsplit, -⟩ := (mem_newcomers_iff _).1 hnode
    exact hsecond node (hsplit ▸ List.mem_append_right before List.mem_cons_self)

end SchemaSnapshot

/-! ## Merges -/

/-- Both files are there, each holds a snapshot, and the union of the two can be written. -/
structure MergesInto (files : FileStore) (first second target : String)
    (one two : SchemaSnapshot) (after : FileStore) : Prop where
  first_exists : files.pathExists first = true
  second_exists : files.pathExists second = true
  first_read : SchemaSnapshot.readFile files first = .ok one
  second_read : SchemaSnapshot.readFile files second = .ok two
  written : (one.merge two).writeFile files target = .ok after

/-- The message that reports the union of two caches. -/
def mergedMessage (first second target : String) (merged : SchemaSnapshot) : String :=
  s!"merged {first} and {second} into {target} ({merged.tables.size} tables)"

/-- A message that says that files were merged begins with that word. -/
def SaysMerged (message : String) : Prop := "merged ".toList <+: message.toList

variable {files after : FileStore} {first second target : String} {one two : SchemaSnapshot}

/-- The message of a union says so. -/
theorem says_merged_message (first second target : String) (merged : SchemaSnapshot) :
    SaysMerged (mergedMessage first second target merged) := by
  delta SaysMerged mergedMessage
  simp only [String.toList_append, List.append_assoc]
  exact List.prefix_append ..

namespace MergesInto

/-- A merge that is possible is made and reported. -/
theorem merge_eq (h : MergesInto files first second target one two after) :
    mergeCacheFiles files first second target
      = (mergedMessage first second target (one.merge two), after) := by
  have hthere : [first, second].find? (fun path => !files.pathExists path) = none := by
    simp [h.first_exists, h.second_exists]
  rw [mergeCacheFiles, hthere, h.first_read, h.second_read]
  dsimp only [bind, Except.bind]
  rw [h.written]
  rfl

/-- What was merged is read at the target, also where that is one of the two paths. -/
theorem read_target (h : MergesInto files first second target one two after) :
    SchemaSnapshot.readFile after target = .ok (one.merge two) := by
  have hfits : (one.merge two).FitsFile :=
    (SchemaSnapshot.fits_of_read_file h.first_read).merge
      (SchemaSnapshot.fits_of_read_file h.second_read)
  rw [SchemaSnapshot.read_of_write h.written, if_pos hfits]

/-- Only the file that the target leads to changes. -/
theorem others_kept (h : MergesInto files first second target one two after) :
    ∃ location, files.place target = .ok (.file location) ∧ after.working = files.working ∧
      ∀ other, other ≠ location → after.nodeAt other = files.nodeAt other := by
  obtain ⟨location, hplace, -, rfl⟩ :=
    FileStore.write_eq_ok_iff.1 (SchemaSnapshot.write_file_eq_ok_iff.1 h.written)
  exact ⟨location, hplace, rfl, fun _ hother => FileStore.node_at_put_of_ne hother⟩

end MergesInto

/-- A merge that is not possible leaves the files as they are, and its message does not say that
files were merged. -/
theorem merge_refused
    (h : ∀ one two after, ¬ MergesInto files first second target one two after) :
    ∃ message, ¬ SaysMerged message ∧
      mergeCacheFiles files first second target = (message, files) := by
  unfold mergeCacheFiles
  split
  · next missing hmissing =>
    refine ⟨"schema cache file not found: " ++ missing, ?_, rfl⟩
    simp [SaysMerged, String.toList_append]
  · next hthere =>
    obtain ⟨hfirst, hsecond⟩ :
        files.pathExists first = true ∧ files.pathExists second = true := by
      simpa using List.find?_eq_none.1 hthere
    dsimp only
    split
    · next merged after hmerged =>
      obtain ⟨one, hone, hmerged⟩ := Action.bind_eq_ok_iff.1 hmerged
      obtain ⟨two, htwo, hmerged⟩ := Action.bind_eq_ok_iff.1 hmerged
      obtain ⟨written, hwritten, -⟩ := Action.bind_eq_ok_iff.1 hmerged
      exact absurd ⟨hfirst, hsecond, hone, htwo, hwritten⟩ (h one two written)
    · exact ⟨_, by simp [SaysMerged, String.toList_append], rfl⟩

/-- Whatever the files are and whichever paths are given, also where the target is one of the two
others: if both files are there, each holds a snapshot and their union can be written, the target
holds that union afterwards, no other file changes and the message says so. In every other case the
files are as they were, and the message does not say that they were merged. -/
theorem files_merged_or_kept (files : FileStore) (first second target : String) :
    let outcome := mergeCacheFiles files first second target
    (SaysMerged outcome.1 ↔
      ∃ one two after, MergesInto files first second target one two after) ∧
    (∀ one two after, MergesInto files first second target one two after →
      outcome = (mergedMessage first second target (one.merge two), after) ∧
      SchemaSnapshot.readFile after target = .ok (one.merge two) ∧
      ∃ location, files.place target = .ok (.file location) ∧ after.working = files.working ∧
        ∀ other, other ≠ location → after.nodeAt other = files.nodeAt other) ∧
    ((¬ ∃ one two after, MergesInto files first second target one two after) →
      outcome.2 = files) := by
  intro outcome
  refine ⟨⟨fun hsays => ?_, ?_⟩, fun one two after h => ⟨h.merge_eq, h.read_target, h.others_kept⟩,
    fun hnone => ?_⟩
  · by_contra hnone
    obtain ⟨message, hmessage, houtcome⟩ := merge_refused (by simpa using hnone)
    have hsame : outcome.1 = message := congrArg Prod.fst houtcome
    exact hmessage (hsame ▸ hsays)
  · rintro ⟨one, two, after, h⟩
    exact congrArg Prod.fst h.merge_eq ▸ says_merged_message ..
  · obtain ⟨message, -, houtcome⟩ := merge_refused (by simpa using hnone)
    exact congrArg Prod.snd houtcome

/-- Of two saved caches the second is merged into the first, where a symbolic link leads. -/
theorem second_merged_into_first :
    let one := { SchemaSnapshot.empty with individuals := ["orders"] }
    let two := { SchemaSnapshot.empty with procedures := [.root "dbo" .empty] }
    let files : FileStore :=
      { nodeAt := fun
          | [] | ["start"] => some (.directory .full)
          | ["a.json", "start"] => some (.file .full (some one.fileText))
          | ["b.json", "start"] => some (.file .full (some two.fileText))
          | ["latest.json", "start"] => some (.link "./a.json")
          | _ => none
        working := ["start"] }
    let outcome := mergeCacheFiles files "a.json" "/start/b.json" "latest.json"
    outcome.1 = "merged a.json and /start/b.json into latest.json (0 tables)" ∧
    SchemaSnapshot.readFile outcome.2 "latest.json" = .ok (one.merge two) ∧
    outcome.2.nodeAt ["b.json", "start"] = some (.file .full (some two.fileText)) := by
  intro one two files outcome
  have hfirst : files.place "a.json" = .ok (.file ["a.json", "start"]) := by decide +kernel
  have hsecond : files.place "/start/b.json" = .ok (.file ["b.json", "start"]) := by
    decide +kernel
  have htarget : files.place "latest.json" = .ok (.file ["a.json", "start"]) := by
    decide +kernel
  obtain ⟨hfirstExists, hfirstRead⟩ := SchemaSnapshot.read_saved hfirst rfl (by decide)
  obtain ⟨hsecondExists, hsecondRead⟩ := SchemaSnapshot.read_saved hsecond rfl (by decide)
  have hmerges : MergesInto files "a.json" "/start/b.json" "latest.json" one two
      (files.put ["a.json", "start"] (one.merge two).fileText) :=
    ⟨hfirstExists, hsecondExists, hfirstRead, hsecondRead, SchemaSnapshot.write_file_eq_ok_iff.2
      (FileStore.write_eq_ok_iff.2 ⟨_, htarget, rfl, rfl⟩)⟩
  obtain ⟨-, hmerged, -⟩ := files_merged_or_kept files "a.json" "/start/b.json" "latest.json"
  obtain ⟨houtcome, hread, location, hlocation, -, hothers⟩ := hmerged one two _ hmerges
  obtain rfl : location = ["a.json", "start"] := by
    rw [htarget] at hlocation
    cases hlocation
    rfl
  rw [show outcome = _ from houtcome]
  exact ⟨by decide +kernel, hread, hothers ["b.json", "start"] (by decide)⟩

end Orm
