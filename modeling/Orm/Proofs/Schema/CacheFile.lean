import Orm.Proofs.Files
import Orm.Proofs.Schema.Document
import Orm.Schema.CacheFile

/-!
# Caches that are saved and loaded

What was written at a path is read there. So a cache that is saved is loaded again, offline, if its
procedures are not nested too deep for a file, and else cannot be loaded (`load_of_save`). A
snapshot is kept by its document, by the text of its file and by the cache that is made of it
(`snapshots_kept`).
-/

namespace Orm

namespace SchemaSnapshot

/-- The text of the file of a snapshot is read back if and only if the procedures are not nested too
deep. -/
theorem of_file_text (snapshot : SchemaSnapshot) :
    ofFileText? snapshot.fileText = if snapshot.FitsFile then some snapshot else none := by
  rw [ofFileText?, fileText, Json.read_pretty (faithful.plain snapshot), Option.bind_some,
    faithful.decode_cut]
  exact if_congr snapshot.level_le_iff rfl rfl

/-- A snapshot can be written where its text can. -/
theorem write_file_eq_ok_iff {snapshot : SchemaSnapshot} {files after : FileStore}
    {path : String} : snapshot.writeFile files path = .ok after ↔
      files.write path snapshot.fileText = .ok after := by
  rw [writeFile]
  cases files.write path snapshot.fileText <;> simp

/-- A snapshot that was written at a path is read there if its procedures are not nested too deep,
and else the file is malformed. -/
theorem read_of_write {snapshot : SchemaSnapshot} {files after : FileStore} {path : String}
    (h : snapshot.writeFile files path = .ok after) :
    readFile after path = if snapshot.FitsFile then .ok snapshot else .error (.malformed path) := by
  rw [readFile, FileStore.read_of_write (write_file_eq_ok_iff.1 h)]
  dsimp only
  rw [of_file_text]
  by_cases hfits : snapshot.FitsFile
  · rw [if_pos hfits, if_pos hfits]
  · rw [if_neg hfits, if_neg hfits]

end SchemaSnapshot

namespace SchemaCache

/-- A cache that was saved is loaded again, as one that is offline, if its procedures are not nested
too deep for a file, and else the file is malformed. -/
theorem load_of_save {cache : SchemaCache} {files after : FileStore} {path : String}
    (h : cache.save files path = .ok after) :
    load after path = if cache.snapshot.FitsFile then
        .ok (ofSnapshot { cache.snapshot with isOffline := true })
      else .error (.malformed path) := by
  rw [load, SchemaSnapshot.read_of_write h]
  by_cases hfits : cache.snapshot.FitsFile
  · rw [if_pos hfits, if_pos hfits]
    rfl
  · rw [if_neg hfits, if_neg hfits]
    rfl

/-- A cache can be saved at a path if and only if that leads to a file that may be written; it need
not exist. -/
theorem save_eq_ok_iff {cache : SchemaCache} {files after : FileStore} {path : String} :
    cache.save files path = .ok after ↔
      ∃ location, files.place path = .ok (.file location) ∧ files.admits location = true ∧
        after = files.put location cache.snapshot.fileText := by
  rw [save, SchemaSnapshot.write_file_eq_ok_iff, FileStore.write_eq_ok_iff]

/-- The cache of a snapshot has that snapshot. -/
theorem snapshot_of_snapshot (snapshot : SchemaSnapshot) :
    (ofSnapshot snapshot).snapshot = snapshot := by
  obtain ⟨_, ⟨tables, _⟩, _, _, procedures, _, _, _, _⟩ := snapshot
  cases tables <;> cases procedures <;> rfl

end SchemaCache

/-- A snapshot is read back from its document, from the text of its file unless its procedures are
nested too deep for one, and from the cache that is made of it. A cache can be saved at every path
that leads to a file that may be written, and the one that is then loaded has the same snapshot, but
is offline. -/
theorem snapshots_kept (snapshot : SchemaSnapshot) :
    SchemaSnapshot.ofJson? snapshot.toJson = some snapshot ∧
    SchemaSnapshot.ofFileText? snapshot.fileText
      = (if snapshot.FitsFile then some snapshot else none) ∧
    (SchemaCache.ofSnapshot snapshot).snapshot = snapshot ∧
    ∀ (cache : SchemaCache) (files : FileStore) (path : String),
      ((∃ after, cache.save files path = .ok after) ↔
        ∃ location, files.place path = .ok (.file location) ∧
          files.admits location = true) ∧
      ∀ after, cache.save files path = .ok after →
        (SchemaCache.load after path).map SchemaCache.snapshot
          = if cache.snapshot.FitsFile then .ok { cache.snapshot with isOffline := true }
            else .error (.malformed path) := by
  refine ⟨SchemaSnapshot.faithful.decode_encode snapshot, snapshot.of_file_text,
    SchemaCache.snapshot_of_snapshot snapshot, fun cache files path => ⟨?_, ?_⟩⟩
  · simp only [SchemaCache.save_eq_ok_iff]
    constructor
    · rintro ⟨after, location, hplace, hadmits, -⟩
      exact ⟨location, hplace, hadmits⟩
    · rintro ⟨location, hplace, hadmits⟩
      exact ⟨_, location, hplace, hadmits, rfl⟩
  · intro after hsaved
    rw [SchemaCache.load_of_save hsaved]
    split
    · exact congrArg Except.ok (SchemaCache.snapshot_of_snapshot _)
    · rfl

/-- A package below a root is kept in a file. -/
theorem payroll_kept :
    let run : ProcedureDefinition :=
      ⟨⟨"dbo", "payroll", "run"⟩, [⟨"@month", "int", .input, 1⟩]⟩
    let snapshot := { SchemaSnapshot.empty with
      procedures := [.root "dbo" (.package "payroll" [run])]
      packages := NameMap.empty.insert "payroll" [run] }
    SchemaSnapshot.ofFileText? snapshot.fileText = some snapshot ∧
    ∃ after loaded, (SchemaCache.ofSnapshot snapshot).save .empty "cache.json" = .ok after ∧
      SchemaCache.load after "cache.json" = .ok loaded ∧
      loaded.snapshot = { snapshot with isOffline := true } := by
  intro run snapshot
  have hfits : snapshot.FitsFile := by decide
  obtain ⟨-, htext, hcache, hsave⟩ := snapshots_kept snapshot
  obtain ⟨hsaves, hloads⟩ := hsave (.ofSnapshot snapshot) .empty "cache.json"
  obtain ⟨after, hsaved⟩ := hsaves.2 ⟨["cache.json", "start"], by decide +kernel, rfl⟩
  have hloaded := hloads after hsaved
  rw [hcache, if_pos hfits] at hloaded
  obtain ⟨loaded, hload, hsame⟩ := (Action.map_eq_ok_iff ..).1 hloaded
  exact ⟨htext.trans (if_pos hfits), after, loaded, hsaved, hload, hsame⟩

end Orm
