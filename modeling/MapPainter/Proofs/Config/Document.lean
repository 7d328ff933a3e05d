import MapPainter.Config.Document
import MapPainter.Proofs.Ron.Layout
import Mathlib.Algebra.Group.Nat.Defs

/-!
# Configurations are read back

The text of a configuration stands for that configuration and no other
(`Config.read_write`), whatever texts it holds.
-/

namespace MapPainter.Config

open Ron

theorem readsBack_climate (climate : Climate) :
    ReadsBack climateWord climate.documentWord.toList climate := by
  have hw : IsName climate.documentWord.toList := by
    cases climate <;> decide
  have hitem : (Climate.all.map fun c => (c.documentWord, c)).find?
      (fun (word, _) => word.toList == climate.documentWord.toList) =
        some (climate.documentWord, climate) := by
    cases climate <;> rfl
  exact readsBack_word hw hitem

theorem readsBack_rotation (rotation : Rotation) :
    ReadsBack rotationWord rotation.documentWord.toList rotation := by
  have hw : IsName rotation.documentWord.toList := by
    cases rotation <;> decide
  have hitem : (Rotation.all.map fun r => (r.documentWord, r)).find?
      (fun (word, _) => word.toList == rotation.documentWord.toList) =
        some (rotation.documentWord, rotation) := by
    cases rotation <;> rfl
  exact readsBack_word hw hitem

/-! ## Sections -/

/-- The fields of the first section with what is written for them. -/
def worldText (c : Config) : List (FieldReader Config × List Char) :=
  worldFields.zip [writeNatural c.sizeX.toNat, writeNatural c.sizeY.toNat,
    c.climate.documentWord.toList, c.rotation.documentWord.toList, writeNatural c.seed.toNat]

def importText (c : Config) : List (FieldReader Config × List Char) :=
  importFields.zip [writeList 2 (c.searchPaths.map fun path => writeText path.toList)]

def debugText (c : Config) : List (FieldReader Config × List Char) :=
  debugFields.zip [writeText c.logLevel.toList]

theorem readsBack_unsigned {bits n : Nat} (h : n < 2 ^ bits) :
    ReadsBack (integer (.unsigned bits)) (writeNatural n) n :=
  readsBack_natural (by simpa [IntegerType.holds, IntegerType.unsigned, Nat.one_shiftLeft] using h)

theorem fills_worldText (c d : Config) : Fills d (worldText c)
    { d with
      sizeX := c.sizeX, sizeY := c.sizeY, climate := c.climate, rotation := c.rotation
      seed := c.seed } :=
  .cons (readsBack_of (readsBack_unsigned c.sizeX.toNat_lt) (by rw [UInt32.ofNat_toNat]))
    (.cons (readsBack_of (readsBack_unsigned c.sizeY.toNat_lt) (by rw [UInt32.ofNat_toNat]))
      (.cons (readsBack_of (readsBack_climate c.climate) rfl)
        (.cons (readsBack_of (readsBack_rotation c.rotation) rfl)
          (.cons (readsBack_of (readsBack_unsigned c.seed.toNat_lt) (by rw [UInt64.ofNat_toNat]))
            (.nil _)))))

theorem fills_importText (c d : Config) :
    Fills d (importText c) { d with searchPaths := c.searchPaths } :=
  .cons (readsBack_of (readsBack_texts 2 c.searchPaths) rfl) (.nil _)

theorem fills_debugText (c d : Config) :
    Fills d (debugText c) { d with logLevel := c.logLevel } :=
  .cons (readsBack_of (readsBack_text c.logLevel.toList) (by rw [String.ofList_toList])) (.nil _)

/-- A section is read as it was written, from its fields. -/
theorem readsBack_section (title : String) {names : List String} {s s' : Config}
    {fields : List (FieldReader Config)} {filled : List (FieldReader Config × List Char)}
    (h : Fills s filled s') (hfields : filled.map Prod.fst = fields)
    (hnames : filled.map (fun p => p.1.name) = names) (hnamed : Named names) :
    ReadsBack (readSection {} title fields s)
      (writeRecord 1 (filled.map fun p => (p.1.name, p.2))) s' := by
  subst hfields hnames
  exact readsBack_record rfl title h hnamed 1

/-! ## Documents -/

/-- The sections with what is written for them. -/
def sectionText (c : Config) : List (FieldReader Config × List Char) :=
  (sections {}).zip ([worldText c, importText c, debugText c].map fun fields =>
    writeRecord 1 (fields.map fun p => (p.1.name, p.2)))

theorem fills_sectionText (c : Config) : Fills {} (sectionText c) c := by
  have hworld : Named ["map_size_x", "map_size_y", "climate", "rotation", "seed"] :=
    ⟨by decide, by decide⟩
  have himport : Named ["search_paths"] := ⟨by decide, by decide⟩
  have hdebug : Named ["log_level"] := ⟨by decide, by decide⟩
  exact .cons (readsBack_section "WorldConfig" (fills_worldText c _) rfl rfl hworld)
    (.cons (readsBack_section "ImportConfig" (fills_importText c _) rfl rfl himport)
      (.cons (readsBack_section "DebugConfig" (fills_debugText c _) rfl rfl hdebug) (.nil _)))

theorem toList_write (c : Config) :
    c.write.toList = writeRecord 0 ((sectionText c).map fun p => (p.1.name, p.2)) := by
  rw [write, String.toList_ofList]
  rfl

theorem read_write (c : Config) : read c.write = .ok c := by
  have hsections : Named ["world", "import", "debug"] := ⟨by decide, by decide⟩
  have hrecord : record {} "Config" (sections {}) (maxDepth - 2) {} (c.write.toList ++ []) =
      some (c, []) := by
    rw [toList_write]
    exact record_writeRecord rfl "Config" (fills_sectionText c) hsections 0 []
  rw [List.append_nil] at hrecord
  obtain ⟨cs, hcs⟩ : ∃ cs, c.write.toList = '(' :: cs := by
    rw [toList_write]
    exact ⟨_, rfl⟩
  have hskip : skipBlank c.write.toList = some c.write.toList := by
    rw [hcs, skipBlank_cons (by decide) (by decide)]
  have hattributes : takeAttributes {} c.write.toList = some ({}, c.write.toList) := by
    rw [hcs, takeAttributes]
    simp
  rw [read, document, hskip]
  simp [hattributes, hrecord, skipBlank]

end MapPainter.Config
