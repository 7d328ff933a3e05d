import MapPainter.Layer.Assignment
import MapPainter.Proofs.Path
import MapPainter.Proofs.Text
import Mathlib.Data.List.Nodup

/-!
# The grammar of layer assignments

Which texts are assignments, and why every other text is none, in terms of what is written: the
word in front of the first equals sign names a layer up to ASCII case and blanks around it, and
the locator is all that follows, untouched. The format of a raster is the one asked for, or else
the one the extension of its locator names.
-/

namespace MapPainter

open Text

/-! ## Names -/

theorem findNamed_eq_none_iff {α : Type} {name : α → String} {items : List α} {word : String} :
    findNamed name items word = none ↔
      ∀ a ∈ items, ¬ SameWord word.toList (name a).toList := by
  rw [findNamed, List.find?_eq_none]
  refine forall₂_congr fun a _ => not_congr ?_
  rw [beq_iff_eq, ← toLower_eq_iff, eq_comm]

theorem findNamed_eq_some_iff {α : Type} {name : α → String} {items : List α} {word : String}
    {a : α} (hname : ∀ a b, (name a).toLower = (name b).toLower → a = b) :
    findNamed name items word = some a ↔ a ∈ items ∧ SameWord word.toList (name a).toList := by
  rw [← toLower_eq_iff]
  constructor
  · intro h
    have hlower := List.find?_some h
    exact ⟨List.mem_of_find?_eq_some h, (beq_iff_eq.mp hlower).symm⟩
  · rintro ⟨ha, hword⟩
    cases hfound : findNamed name items word with
    | none => exact absurd (toLower_eq_iff.mp hword) (findNamed_eq_none_iff.mp hfound a ha)
    | some b =>
      have hlower := List.find?_some hfound
      rw [hname b a ((beq_iff_eq.mp hlower).trans hword)]

theorem Layer.mem_all (layer : Layer) : layer ∈ all := by
  cases layer <;> decide

theorem Layer.eq_of_toLower_name (a b : Layer) (h : a.name.toLower = b.name.toLower) : a = b := by
  have hlower (c : Layer) : c.name.toLower = c.name := by
    cases c <;> decide +kernel
  rw [hlower, hlower] at h
  have hnodup : (all.map name).Nodup := by decide
  exact List.inj_on_of_nodup_map hnodup a.mem_all b.mem_all h

theorem Layer.parse_eq_ok_iff {word : String} {layer : Layer} :
    parse word = .ok layer ↔ SameWord word.toList layer.name.toList := by
  have hfound : findNamed name all word = some layer ↔
      layer ∈ all ∧ SameWord word.toList layer.name.toList :=
    findNamed_eq_some_iff eq_of_toLower_name
  rw [and_iff_right layer.mem_all] at hfound
  rw [← hfound, parse]
  cases findNamed name all word <;> simp

theorem Layer.parse_eq_error_iff {word : String} {e : UnknownWord} :
    parse word = .error e ↔ (∀ layer : Layer, ¬ SameWord word.toList layer.name.toList) ∧
      e = ⟨"raster layer", word, "terrain, fields, water, trees, snow, desert, tropics"⟩ := by
  have hnone : findNamed name all word = none ↔
      ∀ a ∈ all, ¬ SameWord word.toList a.name.toList := findNamed_eq_none_iff
  have hall : (∀ a ∈ all, ¬ SameWord word.toList a.name.toList) ↔
      ∀ layer : Layer, ¬ SameWord word.toList layer.name.toList :=
    ⟨fun h layer => h layer layer.mem_all, fun h layer _ => h layer⟩
  rw [← hall, ← hnone, parse]
  have hexpected : ", ".intercalate (all.map name) =
      "terrain, fields, water, trees, snow, desert, tropics" := by decide
  cases findNamed name all word <;> simp [hexpected, eq_comm]

theorem Raster.Format.parse_eq_ok_iff {word : String} {format : Format} :
    parse word = .ok format ↔ SameWord word.toList format.name.toList := by
  have hlower : format.name.toLower = format.name := by
    cases format <;> decide +kernel
  rw [← toLower_eq_iff, hlower, parse]
  split
  · rename_i h
    rw [h]
    cases format <;> simp [name]
  · rename_i h
    rw [h]
    cases format <;> simp [name]
  · rename_i hpng hbmp
    cases format <;> simp_all [name]

/-! ## Assignments -/

namespace Assignment

/-- A text in which an assignment is written: a word that names the layer, an equals sign and the
locator. -/
structure Written (text : String) (a : Assignment) : Prop where
  split : ∃ word core : List Char, text.toList = word ++ '=' :: a.locator.toList ∧ '=' ∉ word ∧
    Stripped word core ∧ SameWord core a.layer.name.toList
  locator : a.locator ≠ ""

/-- The first thing that is wrong with a text: no equals sign, nothing behind it, no layer in
front of it. -/
inductive Refused (text : String) : AssignmentError → Prop
  | noLocator (h : '=' ∉ text.toList) : Refused text (.noLocator text)
  | emptyLocator {word : String} (htext : text = word ++ "=") (hword : '=' ∉ word.toList) :
    Refused text (.emptyLocator word)
  | layer {word core locator : String} (htext : text = word ++ "=" ++ locator)
    (hword : '=' ∉ word.toList) (hlocator : locator ≠ "")
    (hcore : Stripped word.toList core.toList)
    (hlayer : ∀ layer : Layer, ¬ SameWord core.toList layer.name.toList) :
    Refused text (.layer
      ⟨"raster layer", core, "terrain, fields, water, trees, snow, desert, tropics"⟩)

theorem parse_of_notMem {text : String} (h : '=' ∉ text.toList) :
    parse text = .error (.noLocator text) := by
  rw [parse, cut?_eq_none_iff.mpr h]

theorem parse_append_nil {text : String} {word : List Char} (htext : text.toList = word ++ ['='])
    (hword : '=' ∉ word) : parse text = .error (.emptyLocator (String.ofList word)) := by
  rw [parse, cut?_eq_some_iff.mpr ⟨htext, hword⟩]

theorem parse_append {text : String} {word locator : List Char}
    (htext : text.toList = word ++ '=' :: locator) (hword : '=' ∉ word) (hlocator : locator ≠ []) :
    parse text = match Layer.parse (String.ofList (trim word)) with
      | .ok layer => .ok ⟨layer, String.ofList locator⟩
      | .error error => .error (.layer error) := by
  rw [parse, cut?_eq_some_iff.mpr ⟨htext, hword⟩]
  cases locator with
  | nil => exact absurd rfl hlocator
  | cons c locator => rfl

/-- A text has no equals sign, or falls into the word before the first one and the rest. -/
theorem notMem_or_split (text : List Char) :
    '=' ∉ text ∨ ∃ word rest, text = word ++ '=' :: rest ∧ '=' ∉ word := by
  cases hcut : cut? '=' text with
  | none => exact Or.inl (cut?_eq_none_iff.mp hcut)
  | some parts => exact Or.inr ⟨parts.1, parts.2, cut?_eq_some_iff.mp hcut⟩

theorem parse_eq_ok_iff {text : String} {a : Assignment} :
    parse text = .ok a ↔ Written text a := by
  constructor
  · intro h
    rcases notMem_or_split text.toList with hnone | ⟨word, _ | ⟨c, locator⟩, htext, hword⟩
    · rw [parse_of_notMem hnone] at h
      cases h
    · rw [parse_append_nil htext hword] at h
      cases h
    · rw [parse_append htext hword (by simp)] at h
      split at h
      · rename_i layer hlayer
        obtain rfl := Except.ok.inj h
        refine ⟨⟨word, trim word, by simpa using htext, hword, trim_eq_iff.mp rfl, ?_⟩, ?_⟩
        · simpa using Layer.parse_eq_ok_iff.mp hlayer
        · simp [String.ofList_eq_empty_iff]
      · cases h
  · rintro ⟨⟨word, core, htext, hword, hcore, hlayer⟩, hlocator⟩
    have hparse : Layer.parse (String.ofList (trim word)) = .ok a.layer :=
      Layer.parse_eq_ok_iff.mpr (by simpa [trim_eq_iff.mpr hcore] using hlayer)
    rw [parse_append htext hword (by simpa using hlocator), hparse]
    simp

theorem parse_eq_error_iff {text : String} {e : AssignmentError} :
    parse text = .error e ↔ Refused text e := by
  constructor
  · intro h
    rcases notMem_or_split text.toList with hnone | ⟨word, _ | ⟨c, locator⟩, htext, hword⟩
    · rw [parse_of_notMem hnone] at h
      obtain rfl := Except.error.inj h
      exact .noLocator hnone
    · rw [parse_append_nil htext hword] at h
      obtain rfl := Except.error.inj h
      exact .emptyLocator (String.toList_inj.mp (by simpa using htext)) (by simpa using hword)
    · rw [parse_append htext hword (by simp)] at h
      split at h
      · cases h
      · rename_i error herror
        obtain rfl := Except.error.inj h
        obtain ⟨hlayer, rfl⟩ := Layer.parse_eq_error_iff.mp herror
        have hsplit : text = String.ofList word ++ "=" ++ String.ofList (c :: locator) :=
          String.toList_inj.mp (by simpa using htext)
        exact .layer hsplit (by simpa using hword) (by simp [String.ofList_eq_empty_iff])
          (trim_eq_iff.mp (by simp)) hlayer
  · intro h
    cases h with
    | noLocator h => exact parse_of_notMem h
    | @emptyLocator word htext hword =>
      rw [parse_append_nil (by simp [htext]) hword, String.ofList_toList]
    | @layer word core locator htext hword hlocator hcore hlayer =>
      have hparse : Layer.parse (String.ofList (trim word.toList)) = .error
          ⟨"raster layer", core, "terrain, fields, water, trees, snow, desert, tropics"⟩ := by
        rw [trim_eq_iff.mpr hcore, String.ofList_toList]
        exact Layer.parse_eq_error_iff.mpr ⟨hlayer, rfl⟩
      have hsplit : text.toList = word.toList ++ '=' :: locator.toList := by simp [htext]
      rw [parse_append hsplit hword (by simpa using hlocator), hparse]

/-- The name of a layer, an equals sign and any locator are read back as they are. -/
theorem written_append (layer : Layer) {locator : String} (h : locator ≠ "") :
    Written (layer.name ++ "=" ++ locator) ⟨layer, locator⟩ := by
  refine ⟨⟨layer.name.toList, layer.name.toList, by simp, ?_, ?_, ?_⟩, h⟩
  · cases layer <;> decide
  · exact trim_eq_iff.mp (by cases layer <;> decide)
  · exact toLower_eq_iff.mp rfl

end Assignment

/-! ## Formats -/

namespace Raster

theorem Format.ofPath?_eq_some_iff {path : String} {format : Format} :
    ofPath? path = some format ↔
      ∃ ext, Path.Extends path ext ∧ SameWord ext format.name.toList := by
  rw [ofPath?, Option.bind_eq_bind, Option.bind_eq_some_iff]
  have hparse (ext : String) : (parse ext).toOption = some format ↔
      SameWord ext.toList format.name.toList := by
    rw [← Format.parse_eq_ok_iff]
    cases parse ext <;> simp [Except.toOption]
  constructor
  · rintro ⟨ext, hext, hformat⟩
    exact ⟨ext.toList, Path.extension?_eq_some_iff.mp hext, (hparse ext).mp hformat⟩
  · rintro ⟨ext, hext, hformat⟩
    refine ⟨String.ofList ext, Path.extension?_eq_some_iff.mpr ?_, (hparse _).mpr ?_⟩
    · rwa [String.toList_ofList]
    · rwa [String.toList_ofList]

theorem Format.choose_none_eq_ok_iff {locator : String} {format : Format} :
    choose none locator = .ok format ↔
      ∃ ext, Path.Extends locator ext ∧ SameWord ext format.name.toList := by
  rw [← Format.ofPath?_eq_some_iff, choose, Option.none_or]
  cases ofPath? locator <;> simp

end Raster

/-- Reading an assignment accepts exactly the texts that are written so and refuses every other
for the first thing wrong with it; it reads back any locator behind the name of a layer. The
format of a raster is the one asked for, whatever its locator, and without one it is known exactly
if the locator's last component has the extension of a format. -/
theorem assignment_grammar :
    (∀ (text : String) (a : Assignment), Assignment.parse text = .ok a ↔ a.Written text) ∧
    (∀ (text : String) (e : AssignmentError),
      Assignment.parse text = .error e ↔ Assignment.Refused text e) ∧
    (∀ (layer : Layer) (locator : String), locator ≠ "" →
      Assignment.parse (layer.name ++ "=" ++ locator) = .ok ⟨layer, locator⟩) ∧
    (∀ (locator : String) (format : Raster.Format),
      Raster.Format.choose none locator = .ok format ↔
        ∃ ext, Path.Extends locator ext ∧ SameWord ext format.name.toList) ∧
    ∀ (format : Raster.Format) (locator : String),
      Raster.Format.choose (some format) locator = .ok format :=
  ⟨fun _ _ => Assignment.parse_eq_ok_iff, fun _ _ => Assignment.parse_eq_error_iff,
    fun layer _ h => Assignment.parse_eq_ok_iff.mpr (Assignment.written_append layer h),
    fun _ _ => Raster.Format.choose_none_eq_ok_iff, fun _ _ => rfl⟩

/-- A locator with an equals sign of its own and an extension in capitals, behind a word in
another case and between blanks. -/
theorem water_assigned :
    Assignment.parse " Water\t=maps/a=b.PNG" = .ok ⟨.water, "maps/a=b.PNG"⟩ ∧
    "maps/a=b.PNG" ≠ "" ∧
    Assignment.parse (Layer.water.name ++ "=" ++ "maps/a=b.PNG") = .ok ⟨.water, "maps/a=b.PNG"⟩ ∧
    Raster.Format.choose none "maps/a=b.PNG" = .ok .png := by
  have hlocator : "maps/a=b.PNG" ≠ "" := by decide
  have hword : Stripped [' ', 'W', 'a', 't', 'e', 'r', '\t'] ['W', 'a', 't', 'e', 'r'] :=
    trim_eq_iff.mp rfl
  have hends : Path.EndsIn "maps/a=b.PNG" ['a', '=', 'b', '.', 'P', 'N', 'G'] :=
    ⟨⟨['m', 'a', 'p', 's', '/'], [], by decide +kernel, Or.inr ⟨['m', 'a', 'p', 's'], rfl⟩, .nil⟩,
      by decide, by decide, by decide⟩
  refine ⟨(assignment_grammar.1 _ _).mpr ⟨⟨_, _, ?_, ?_, hword, ?_⟩, hlocator⟩, hlocator,
    assignment_grammar.2.2.1 .water _ hlocator,
    (assignment_grammar.2.2.2.1 _ _).mpr ⟨['P', 'N', 'G'],
      ⟨['a', '=', 'b'], hends, by decide, by decide, by decide⟩, ?_⟩⟩
  · decide +kernel
  · decide
  · decide +kernel
  · decide +kernel

end MapPainter
