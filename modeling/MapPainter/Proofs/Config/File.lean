import MapPainter.Config.File
import MapPainter.Proofs.Config.Document
import MapPainter.Proofs.FileTree

/-!
# Configuration files are read back

A configuration that has been saved is loaded as it was, and as long as its file is not touched so
is it by every later load. A directory without a file gets one with the default values.
-/

namespace MapPainter.Config

open FileTree (Writes Holds)

theorem save_eq_ok {c : Config} {tree tree' : FileTree} {directory : String} :
    c.save tree directory = (.ok (), tree') ↔
      ∃ made, tree.makeDirectories directory = (made, .ok ()) ∧
        Writes made (path directory) c.write.toUTF8 tree' := by
  rw [save]
  constructor
  · intro h
    split at h
    · cases h
    · rename_i made hmade
      simp only [serialize] at h
      split at h
      · cases h
      · rename_i tree'' hwrite
        obtain rfl := (Prod.mk.inj h).2
        exact ⟨made, hmade, FileTree.write_eq_ok.mp hwrite⟩
  · rintro ⟨made, hmade, hwrites⟩
    rw [hmade]
    simp only [serialize, FileTree.write_eq_ok.mpr hwrites]

theorem fromUTF8?_toUTF8 (text : String) : String.fromUTF8? text.toUTF8 = some text := by
  rw [String.fromUTF8?, String.toUTF8_eq_toByteArray, dif_pos text.isValidUTF8]
  rfl

theorem ofFile_of_read? {c : Config} {tree : FileTree} {path : String}
    (h : tree.read? path = some c.write.toUTF8) : ofFile tree path = .ok c := by
  rw [ofFile, FileTree.readText, FileTree.read?_eq_some_iff.mp h, Outcome.ok_bind,
    fromUTF8?_toUTF8]
  simp only [Outcome.pure_eq_ok, read_write]
  rfl

theorem loadOrCreate_of_read? {c : Config} {tree : FileTree} {directory : String}
    (h : tree.read? (path directory) = some c.write.toUTF8) :
    loadOrCreate tree directory = (.ok c, tree) := by
  obtain ⟨place, hwalk, -⟩ := FileTree.read_eq_ok.mp (FileTree.read?_eq_some_iff.mp h)
  have hhas : tree.has (path directory) = true := by
    simp [FileTree.has, hwalk, Except.isOk, Except.toBool]
  rw [loadOrCreate, if_pos hhas, ofFile_of_read? h]

theorem slash_notMem_fileName : '/' ∉ fileName.toList := by decide

/-- Saving a configuration once more changes nothing. -/
theorem save_again {c : Config} {tree tree' : FileTree} {directory : String}
    (h : c.save tree directory = (.ok (), tree')) : c.save tree' directory = (.ok (), tree') := by
  obtain ⟨made, -, hwrites⟩ := save_eq_ok.mp h
  obtain ⟨place, hholds⟩ := hwrites.again.exists_holds slash_notMem_fileName
  exact save_eq_ok.mpr ⟨tree', hholds.makeDirectories, hwrites.again⟩

theorem read?_of_save {c : Config} {tree tree' : FileTree} {directory : String}
    (h : c.save tree directory = (.ok (), tree')) :
    tree'.read? (path directory) = some c.write.toUTF8 := by
  obtain ⟨made, -, hwrites⟩ := save_eq_ok.mp h
  exact hwrites.read?

/-- A directory in which the file can be made. -/
structure Writable (tree : FileTree) (directory : String) : Prop where
  holds : ∃ place, Holds tree directory place
  isPath : FileTree.isPath (path directory) = true

theorem Writable.exists_save {tree : FileTree} {directory : String} (h : Writable tree directory)
    (hnew : tree.has (path directory) = false) (c : Config) :
    ∃ tree', c.save tree directory = (.ok (), tree') := by
  obtain ⟨place, hholds⟩ := h.holds
  obtain ⟨tree', hwrites⟩ := hholds.exists_writes slash_notMem_fileName (by decide) h.isPath hnew
    c.write.toUTF8
  exact ⟨tree', save_eq_ok.mpr ⟨tree, hholds.makeDirectories, hwrites⟩⟩

/-- **Configurations are kept as they are.** Whatever sizes, words and texts a configuration holds,
once it is saved it is loaded as it was, by every load until the file has another content, and what
has been loaded is saved with the same text. In a directory where the file can be made and is not,
a load makes it and gives the default values, as does every later load until the file has another
content. -/
theorem configuration_kept :
    (∀ (c : Config) (tree tree' : FileTree) (directory : String),
      c.save tree directory = (.ok (), tree') →
        tree'.read? (path directory) = some c.write.toUTF8 ∧
        loadOrCreate tree' directory = (.ok c, tree') ∧
        c.save tree' directory = (.ok (), tree') ∧
        ∀ later : FileTree, later.read? (path directory) = tree'.read? (path directory) →
          loadOrCreate later directory = (.ok c, later)) ∧
    ∀ (tree : FileTree) (directory : String), Writable tree directory →
      tree.has (path directory) = false →
        ∃ tree', loadOrCreate tree directory = (.ok {}, tree') ∧
          loadOrCreate tree' directory = (.ok {}, tree') ∧
          ∀ later : FileTree, later.read? (path directory) = tree'.read? (path directory) →
            loadOrCreate later directory = (.ok {}, later) := by
  refine ⟨?_, ?_⟩
  · intro c tree tree' directory h
    have hread := read?_of_save h
    exact ⟨hread, loadOrCreate_of_read? hread, save_again h,
      fun later hlater => loadOrCreate_of_read? (hlater.trans hread)⟩
  · intro tree directory hwritable hnew
    obtain ⟨tree', hsave⟩ := hwritable.exists_save hnew {}
    have hread := read?_of_save hsave
    refine ⟨tree', ?_, loadOrCreate_of_read? hread,
      fun later hlater => loadOrCreate_of_read? (hlater.trans hread)⟩
    rw [loadOrCreate, if_neg (by simp [hnew]), hsave]
    rfl

/-- A configuration with quotes, backslashes, controls and combining characters is kept in a new
directory, and the working directory gets one with the default values. -/
theorem configuration_kept_with_escapes :
    ∃ (c : Config) (tree tree' made : FileTree),
      c.searchPaths = ["", "a\"b\\c\n", "e\u0301\u200b"] ∧
      c.save tree "new/conf/" = (.ok (), tree') ∧
      loadOrCreate tree' "new/conf/" = (.ok c, tree') ∧
      Writable tree "" ∧ tree.has (path "") = false ∧ loadOrCreate tree "" = (.ok {}, made) ∧
      loadOrCreate made "" = (.ok {}, made) := by
  let c : Config := {
    sizeX := 4294967295, climate := .toyland, rotation := .clockwise, seed := 18446744073709551615
    searchPaths := ["", "a\"b\\c\n", "e\u0301\u200b"], logLevel := "\x00" }
  let tree : FileTree := .bare ["home"]
  have hresult : (c.save tree "new/conf/").1 = .ok () := by decide +kernel
  have hsave : c.save tree "new/conf/" = (.ok (), (c.save tree "new/conf/").2) :=
    Prod.ext hresult rfl
  have hwritable : Writable tree "" :=
    ⟨⟨tree.here, .here (by decide)⟩, by decide +kernel⟩
  have hnew : tree.has (path "") = false := by decide +kernel
  obtain ⟨-, hload, -⟩ := configuration_kept.1 c tree _ "new/conf/" hsave
  obtain ⟨made, hmade, hagain, -⟩ := configuration_kept.2 tree "" hwritable hnew
  exact ⟨c, tree, _, made, rfl, hsave, hload, hwritable, hnew, hmade, hagain⟩

end MapPainter.Config
