import MapPainter.Proofs.Outcome
import MapPainter.Proofs.Path
import MapPainter.Raster.Folder

/-!
# Looking rasters up

A locator that is not absolute is looked up below one search path after the other, each time in the
directory of the request, and last as a path of its own. The first regular file counts, and
directories or missing files before it do not matter (`Raster.Folder.resolve_eq_some_iff`). So
search paths that are added behind a find change nothing, and a request is answered with "not
found" exactly if there is no file at any of these places.
-/

namespace MapPainter.Raster

theorem Subdirectory.slash_notMem_name (subdirectory : Subdirectory) :
    '/' ∉ subdirectory.name.toList := by
  cases subdirectory <;> decide

theorem Subdirectory.name_ne_empty {subdirectory : Subdirectory} (h : subdirectory ≠ .base) :
    subdirectory.name ≠ "" := by
  cases subdirectory with
  | base => exact absurd rfl h
  | _ => decide

namespace Folder

variable {f : Folder} {disk : Disk} {locator path : String} {subdirectory : Subdirectory}

/-- Where a locator is below a search path: in the directory of the request, or at the search path
itself. -/
def pathBelow (root : String) (subdirectory : Subdirectory) (locator : String) : String :=
  if subdirectory = .base then Path.front root ++ locator
  else Path.front root ++ subdirectory.name ++ "/" ++ locator

theorem join_join_eq_pathBelow (h : Path.isAbsolute locator = false) (root : String)
    (subdirectory : Subdirectory) :
    Path.join (Path.join root subdirectory.name) locator = pathBelow root subdirectory locator := by
  have hname := subdirectory.slash_notMem_name
  rw [Path.join_of_relative h, Path.join_of_relative (Path.isAbsolute_eq_false hname)]
  by_cases hbase : subdirectory = .base
  · have hempty : subdirectory.name = "" := hbase ▸ rfl
    rw [pathBelow, if_pos hbase, hempty, String.append_empty, Path.front_front]
  · rw [pathBelow, if_neg hbase, Path.front_append (Subdirectory.name_ne_empty hbase) hname]

/-! ## The first file -/

/-- The search paths that a locator is looked up below: none of them if it is absolute. -/
def roots (f : Folder) (locator : String) : List String :=
  if Path.isAbsolute locator then [] else f.searchPaths

theorem roots_of_absolute (h : Path.isAbsolute locator = true) : f.roots locator = [] := if_pos h

theorem roots_of_relative (h : Path.isAbsolute locator = false) :
    f.roots locator = f.searchPaths := by
  rw [roots, h, if_neg Bool.false_ne_true]

/-- A locator is found at a path, which is a regular file: below the first search path where there
is one, or else at the locator itself. -/
inductive Finds (f : Folder) (disk : Disk) (locator : String) (subdirectory : Subdirectory) :
    String → Prop
  | below {before after : List String} {root : String}
    (hroots : f.roots locator = before ++ root :: after)
    (hfile : disk.isFile (pathBelow root subdirectory locator) = true)
    (hbefore : ∀ earlier ∈ before, disk.isFile (pathBelow earlier subdirectory locator) = false) :
    Finds f disk locator subdirectory (pathBelow root subdirectory locator)
  | itself
    (hnone : ∀ root ∈ f.roots locator, disk.isFile (pathBelow root subdirectory locator) = false)
    (hfile : disk.isFile locator = true) :
    Finds f disk locator subdirectory locator

/-- There is no file at any place where a locator is looked for. -/
structure Lacks (f : Folder) (disk : Disk) (locator : String) (subdirectory : Subdirectory) :
    Prop where
  below : ∀ root ∈ f.roots locator, disk.isFile (pathBelow root subdirectory locator) = false
  itself : disk.isFile locator = false

theorem candidates_eq (f : Folder) (locator : String) (subdirectory : Subdirectory) :
    f.candidates locator subdirectory =
      (f.roots locator).map (fun root => pathBelow root subdirectory locator) ++ [locator] := by
  cases h : Path.isAbsolute locator with
  | true => rw [candidates, if_pos h, roots_of_absolute h, List.map_nil, List.nil_append]
  | false =>
    rw [candidates, h, if_neg Bool.false_ne_true, roots_of_relative h]
    refine congrArg (· ++ [locator]) (List.map_congr_left fun root _ => ?_)
    exact join_join_eq_pathBelow h root subdirectory

theorem resolve_eq (f : Folder) (disk : Disk) (locator : String)
    (subdirectory : Subdirectory) :
    f.resolve disk locator subdirectory =
      (((f.roots locator).find? fun root => disk.isFile (pathBelow root subdirectory locator)).map
        fun root => pathBelow root subdirectory locator).or
          (if disk.isFile locator then some locator else none) := by
  rw [resolve, candidates_eq, List.find?_append, List.find?_map, List.find?_singleton]
  rfl

theorem resolve_of_absolute (h : Path.isAbsolute locator = true) :
    f.resolve disk locator subdirectory = if disk.isFile locator then some locator else none := by
  rw [resolve_eq, roots_of_absolute h, List.find?_nil, Option.map_none, Option.none_or]

theorem resolve_eq_some_iff :
    f.resolve disk locator subdirectory = some path ↔ f.Finds disk locator subdirectory path := by
  rw [resolve_eq, Option.or_eq_some_iff, Option.map_eq_some_iff, Option.map_eq_none_iff,
    List.find?_eq_none, Option.ite_none_right_eq_some]
  constructor
  · rintro (⟨root, hroot, rfl⟩ | ⟨hnone, hfile, hself⟩)
    · obtain ⟨hfile, before, after, hroots, hbefore⟩ := List.find?_eq_some_iff_append.mp hroot
      exact .below hroots hfile fun earlier hmem => by simpa using hbefore earlier hmem
    · obtain rfl := Option.some.inj hself
      exact .itself (fun root hroot => by simpa using hnone root hroot) hfile
  · intro h
    cases h with
    | @below before after root hroots hfile hbefore =>
      refine Or.inl ⟨root, List.find?_eq_some_iff_append.mpr ⟨hfile, before, after, hroots, ?_⟩,
        rfl⟩
      intro earlier hmem
      simp [hbefore earlier hmem]
    | itself hnone hfile =>
      refine Or.inr ⟨fun root hroot => ?_, hfile, rfl⟩
      simp [hnone root hroot]

theorem resolve_eq_none_iff :
    f.resolve disk locator subdirectory = none ↔ f.Lacks disk locator subdirectory := by
  rw [resolve_eq, Option.or_eq_none_iff, Option.map_eq_none_iff, List.find?_eq_none]
  constructor
  · rintro ⟨hnone, hself⟩
    exact ⟨fun root hroot => by simpa using hnone root hroot, by simpa using hself⟩
  · intro h
    exact ⟨fun root hroot => by simp [h.below root hroot], by simp [h.itself]⟩

/-- Search paths behind one below which there is a file do not matter. -/
theorem resolve_append (hlocator : Path.isAbsolute locator = false) {root : String}
    (hroot : root ∈ f.searchPaths)
    (hfile : disk.isFile (pathBelow root subdirectory locator) = true) (more : List String) :
    (Folder.mk (f.searchPaths ++ more)).resolve disk locator subdirectory =
      f.resolve disk locator subdirectory := by
  have hsome : (f.searchPaths.find? fun root =>
      disk.isFile (pathBelow root subdirectory locator)).isSome = true :=
    List.find?_isSome.mpr ⟨root, hroot, hfile⟩
  obtain ⟨first, hfirst⟩ := Option.isSome_iff_exists.mp hsome
  rw [resolve_eq, resolve_eq, roots_of_relative hlocator, roots_of_relative hlocator,
    List.find?_append, hfirst, Option.some_or]

/-! ## Answers -/

/-- The result is not that something is missing. -/
def Found {α : Type} (result : Except ReadError α) : Prop :=
  ∀ locator, result ≠ .error (.notFound locator)

theorem Found.ok {α : Type} (a : α) : Found (.ok a) := by
  rintro _ ⟨⟩

theorem Found.bind {α β : Type} {x : Except ReadError α} {g : α → Except ReadError β}
    (hx : Found x) (hg : ∀ a, Found (g a)) : Found (x >>= g) := by
  intro locator h
  rcases Outcome.bind_eq_error.mp h with herror | ⟨a, -, herror⟩
  · exact hx locator herror
  · exact hg a locator herror

theorem Found.mapError {ε α : Type} {x : Except ε α} {g : ε → ReadError}
    (hg : ∀ e locator, g e ≠ .notFound locator) : Found (x.mapError g) := by
  intro locator h
  obtain ⟨e, -, heq⟩ := Outcome.mapError_eq_error.mp h
  exact hg e locator heq

/-- A file that has been found is not missing, whatever is wrong with it. -/
theorem found_imageAt (d : Decoders) (disk : Disk) (format : Format) (path : String)
    (mode : Mode) : Found (imageAt d disk format path mode) := by
  have hopened (opening : Opening) : Found (disk.opened opening path) :=
    .mapError fun _ _ => ReadError.noConfusion
  have hsize : Found (sizeAt d disk format path) := by
    refine (hopened _).bind fun file => .bind (.mapError fun _ _ => ReadError.noConfusion) ?_
    rintro ⟨width, height⟩
    dsimp only
    split
    · exact .ok _
    · rintro _ ⟨⟩
  have hpixels : Found (pixelsAt d disk format path) :=
    (hopened _).bind fun file => .bind (.mapError fun _ _ => ReadError.noConfusion) fun picture =>
      .mapError fun _ _ => ReadError.noConfusion
  refine hsize.bind fun size => ?_
  cases mode with
  | sizeOnly => exact .ok _
  | full => exact hpixels.bind fun pixels => .ok _

theorem readWith_eq_notFound_iff {d : Decoders} {request : Request} {mode : Mode}
    {missing : String} :
    f.readWith d disk request mode = .error (.notFound missing) ↔
      f.Lacks disk request.locator request.subdirectory ∧ missing = request.locator := by
  rw [← resolve_eq_none_iff, readWith]
  cases f.resolve disk request.locator request.subdirectory with
  | none => simp [eq_comm]
  | some path =>
    have hfound := found_imageAt d disk request.format path mode missing
    simp [hfound]

/-- **The first file counts.** An absolute locator is found at itself exactly if it is a regular
file there, whatever the search paths are. Any other locator is found at the first regular file
below the search paths in their order, in the directory of the request, or else at itself, and it
is not found exactly if none of these is one. So search paths that are added change nothing where a
file is found below an earlier one, and a request is answered with "not found", for its own
locator, exactly if there is no file at any of the places. -/
theorem first_file_counts (f : Folder) (disk : Disk) (locator : String)
    (subdirectory : Subdirectory) :
    (Path.isAbsolute locator = true →
      (∀ path, f.resolve disk locator subdirectory = some path ↔
        path = locator ∧ disk.isFile locator = true) ∧
      ∀ g : Folder, g.resolve disk locator subdirectory = f.resolve disk locator subdirectory) ∧
    (Path.isAbsolute locator = false →
      f.roots locator = f.searchPaths ∧
      (∀ path, f.resolve disk locator subdirectory = some path ↔
        f.Finds disk locator subdirectory path) ∧
      (f.resolve disk locator subdirectory = none ↔
        (∀ root ∈ f.searchPaths, disk.isFile (pathBelow root subdirectory locator) = false) ∧
        disk.isFile locator = false) ∧
      ∀ more : List String,
        (∃ root ∈ f.searchPaths, disk.isFile (pathBelow root subdirectory locator) = true) →
        (Folder.mk (f.searchPaths ++ more)).resolve disk locator subdirectory =
          f.resolve disk locator subdirectory) ∧
    ∀ (d : Decoders) (format : Format) (mode : Mode) (missing : String),
      f.readWith d disk ⟨format, locator, subdirectory⟩ mode = .error (.notFound missing) ↔
        f.Lacks disk locator subdirectory ∧ missing = locator := by
  refine ⟨?_, ?_, fun _ _ _ _ => readWith_eq_notFound_iff⟩
  · intro hlocator
    refine ⟨fun path => ?_, fun g => ?_⟩
    · rw [resolve_of_absolute hlocator, Option.ite_none_right_eq_some, Option.some_inj, and_comm,
        eq_comm]
    · rw [resolve_of_absolute hlocator, resolve_of_absolute hlocator]
  · intro hlocator
    have hroots : f.roots locator = f.searchPaths := roots_of_relative hlocator
    refine ⟨hroots, fun _ => resolve_eq_some_iff, ?_, ?_⟩
    · rw [resolve_eq_none_iff, ← hroots]
      exact ⟨fun h => ⟨h.below, h.itself⟩, fun h => ⟨h.1, h.2⟩⟩
    · rintro more ⟨root, hroot, hfile⟩
      exact resolve_append hlocator hroot hfile more

/-- A directory is passed over, and of two files the one below the earlier search path counts, also
if a search path is added. That it cannot be opened is an error and does not lead on to the next
one. An absolute locator is found at itself, and for a file that is nowhere the answer is "not
found". -/
theorem lake_found_below_second_path :
    ∃ (f : Folder) (tree : FileTree), f.searchPaths = ["a", "b/", "c"] ∧
      f.resolve (.ofTree tree) "lake.png" .layers = some "b/geomap/lake.png" ∧
      (Folder.mk (f.searchPaths ++ ["d"])).resolve (.ofTree tree) "lake.png" .layers =
        f.resolve (.ofTree tree) "lake.png" .layers ∧
      f.read tree ⟨.png, "lake.png", .layers⟩ .full =
        .error (.unopened "b/geomap/lake.png" (.denied "no access")) ∧
      f.resolve (.ofTree tree) "/lake.png" .layers = some "/lake.png" ∧
      f.read tree ⟨.png, "sea.png", .layers⟩ .full = .error (.notFound "sea.png") := by
  let file : Node := .file ⟨#[]⟩
  let tree : FileTree := ⟨[(["a"], .directory), (["a", "geomap"], .directory),
    (["a", "geomap", "lake.png"], .directory), (["b"], .directory), (["b", "geomap"], .directory),
    (["b", "geomap", "lake.png"], .locked (.denied "no access")), (["c"], .directory),
    (["c", "geomap"], .directory), (["c", "geomap", "lake.png"], file), (["lake.png"], file)], []⟩
  let disk : Disk := .ofTree tree
  let f : Folder := ⟨["a", "b/", "c"]⟩
  have hsecond : disk.isFile (pathBelow "b/" .layers "lake.png") = true := by decide +kernel
  have hfirst : ∀ earlier ∈ ["a"], disk.isFile (pathBelow earlier .layers "lake.png") = false := by
    decide +kernel
  have hpath : pathBelow "b/" .layers "lake.png" = "b/geomap/lake.png" := by decide +kernel
  have hlacks : f.Lacks disk "sea.png" .layers := by
    constructor <;> decide +kernel
  obtain ⟨hroots, hfinds, -, happend⟩ :=
    (first_file_counts f disk "lake.png" .layers).2.1 (by decide +kernel)
  have hpaths : f.roots "lake.png" = ["a"] ++ "b/" :: ["c"] := hroots
  have hfound : f.resolve disk "lake.png" .layers = some "b/geomap/lake.png" :=
    (hfinds _).mpr (hpath ▸ .below hpaths hsecond hfirst)
  have hlocked : disk.opened .header "b/geomap/lake.png" =
      .error (.unopened "b/geomap/lake.png" (.denied "no access")) := by
    decide +kernel
  refine ⟨f, tree, rfl, hfound, ?_, ?_, ?_, ?_⟩
  · exact happend ["d"] ⟨"b/", by decide, hsecond⟩
  · rw [read, readWith, hfound]
    simp only [imageAt, sizeAt]
    rw [hlocked]
    rfl
  · exact ((first_file_counts f disk "/lake.png" .layers).1 (by decide +kernel)).1 _ |>.mpr
      ⟨rfl, by decide +kernel⟩
  · exact ((first_file_counts f disk "sea.png" .layers).2.2 .standard .png .full _).mpr
      ⟨hlacks, rfl⟩

end Folder

end MapPainter.Raster
