import MapPainter.FileTree
import MapPainter.Proofs.Outcome
import MapPainter.Proofs.Path

/-!
# Files that are written

A written file is read back, and writing it once more changes nothing. Where a path leads is not
changed by what is made in the meantime (`FileTree.Grows`), and a directory that is there is not
made again.
-/

namespace MapPainter.FileTree

variable {t t' : FileTree} {place : Place} {path : String}

/-! ## Nodes -/

theorem lookup_filter_ne {p : Place} (h : p ≠ place) (nodes : List (Place × Node)) :
    (nodes.filter (·.1 != place)).lookup p = nodes.lookup p := by
  induction nodes with
  | nil => rfl
  | cons first nodes ih =>
    obtain ⟨q, node⟩ := first
    by_cases hq : q = place
    · have hp : (p == q) = false := by simpa [hq] using h
      rw [List.filter_cons_of_neg (by simp [hq]), ih, List.lookup_cons, hp]
    · rw [List.filter_cons_of_pos (by simp [hq]), List.lookup_cons, List.lookup_cons, ih]

theorem node?_put (hplace : place ≠ []) (node : Node) (p : Place) :
    (t.put place node).node? p = if p = place then some node else t.node? p := by
  rw [node?, put, List.lookup_cons]
  by_cases hp : p = place
  · subst hp
    simp [hplace]
  · have hne : (p == place) = false := by simpa using hp
    rw [hne, lookup_filter_ne hp, if_neg hp, node?]

theorem put_put (node : Node) : (t.put place node).put place node = t.put place node := by
  simp [put]

theorem isDirectoryAt_iff : t.isDirectoryAt place = true ↔ t.node? place = some .directory := by
  rw [isDirectoryAt]
  split
  · rename_i h
    simp [h]
  · rename_i h
    simpa using h

theorem isDirectory_iff :
    t.isDirectory path = true ↔
      ∃ place, t.walk path = .ok place ∧ t.isDirectoryAt place = true := by
  simp only [isDirectory, get?, isDirectoryAt_iff]
  cases t.walk path with
  | error => simp [Except.toOption]
  | ok place =>
    rcases hnode : t.node? place with _ | (_ | bytes) <;> simp [Except.toOption, hnode]

theorem read_eq_ok {bytes : ByteArray} :
    t.read path = .ok bytes ↔
      ∃ place, t.walk path = .ok place ∧ t.node? place = some (.file bytes) := by
  rw [read, Outcome.bind_eq_ok]
  refine exists_congr fun place => and_congr_right fun _ => ?_
  rcases t.node? place with _ | (_ | content | error) <;> simp [Node.contents]

theorem read?_eq_some_iff {bytes : ByteArray} :
    t.read? path = some bytes ↔ t.read path = .ok bytes := by
  rw [read?]
  cases t.read path <;> simp [Except.toOption]

theorem follow_eq_ok {names : List String} {next : Place} :
    t.follow path names = .ok next ↔
      isPath path = true ∧ names.foldlM t.step (t.start path) = .ok next := by
  rw [follow, Outcome.ite_error_eq_ok]

theorem walk_eq_ok {next : Place} :
    t.walk path = .ok next ↔
      isPath path = true ∧ (Path.segments path).foldlM t.step (t.start path) = .ok next :=
  follow_eq_ok

/-! ## Ways -/

theorem isNameable_iff {name : String} :
    isNameable name = true ↔ stays name = false ∧ name ≠ ".." ∧ isShort name = true := by
  simp only [isNameable, Bool.and_eq_true, Bool.not_eq_true', bne_iff_ne, and_assoc]

theorem step_eq_ok {name : String} {next : Place} :
    t.step place name = .ok next ↔ t.isDirectoryAt place = true ∧
      ((stays name = true ∧ place = next) ∨
        (stays name = false ∧ name = ".." ∧ place.dropLast = next) ∨
        (isNameable name = true ∧ (t.node? (place ++ [name])).isSome = true ∧
          place ++ [name] = next)) := by
  rw [isNameable_iff, step]
  cases hdirectory : t.isDirectoryAt place with
  | false => simp
  | true =>
    cases hstays : stays name with
    | true => simp
    | false =>
      by_cases hparent : name = ".."
      · simp [hparent]
      · cases hshort : isShort name with
        | false => simp [hparent]
        | true =>
          by_cases hnode : (t.node? (place ++ [name])).isSome = true
          · simp [hparent, hnode]
          · simp [hparent, hnode]

theorem foldlM_concat_eq_ok {names : List String} {name : String} {next : Place} :
    (names ++ [name]).foldlM t.step place = .ok next ↔
      ∃ parent, names.foldlM t.step place = .ok parent ∧ t.step parent name = .ok next := by
  rw [List.foldlM_append, Outcome.bind_eq_ok]
  simp [Outcome.bind_eq_ok]

/-- Whatever is in `t` is in `t'` as well, and directories stay directories. -/
structure Grows (t t' : FileTree) : Prop where
  directory : ∀ place, t.isDirectoryAt place = true → t'.isDirectoryAt place = true
  node : ∀ place, (t.node? place).isSome → (t'.node? place).isSome

/-- A way that can be gone leads to the same place in what has grown. -/
theorem Grows.step (h : Grows t t') {next : Place} {name : String}
    (hstep : t.step place name = .ok next) : t'.step place name = .ok next := by
  obtain ⟨hdirectory, hcases⟩ := step_eq_ok.mp hstep
  refine step_eq_ok.mpr ⟨h.directory place hdirectory, ?_⟩
  rcases hcases with hstays | hparent | ⟨hname, hnode, hnext⟩
  · exact Or.inl hstays
  · exact Or.inr (Or.inl hparent)
  · exact Or.inr (Or.inr ⟨hname, h.node _ hnode, hnext⟩)

theorem Grows.follow (h : Grows t t') {names : List String} {next : Place}
    (hfollow : names.foldlM t.step place = .ok next) :
    names.foldlM t'.step place = .ok next := by
  induction names generalizing place with
  | nil => exact hfollow
  | cons name names ih =>
    obtain ⟨place', hstep, hrest⟩ := Outcome.foldlM_cons_eq_ok.mp hfollow
    exact Outcome.foldlM_cons_eq_ok.mpr ⟨place', h.step hstep, ih hrest⟩

/-- Where there is nothing, or a file that can be opened, a file can be put. -/
theorem grows_put_file (hplace : place ≠ [])
    (hfree : ∀ node ∈ t.node? place, ∃ old, node = .file old) (bytes : ByteArray) :
    Grows t (t.put place (.file bytes)) := by
  refine ⟨fun p hp => ?_, fun p hp => ?_⟩
  · have hne : p ≠ place := by
      rintro rfl
      obtain ⟨old, heq⟩ := hfree _ (isDirectoryAt_iff.mp hp)
      cases heq
    rw [isDirectoryAt_iff, node?_put hplace, if_neg hne]
    exact isDirectoryAt_iff.mp hp
  · rw [node?_put hplace]
    split
    · rfl
    · exact hp

/-! ## Writing -/

/-- What has to be there for a file to be written, and what is made of it. -/
structure Writes (t : FileTree) (path : String) (bytes : ByteArray) (t' : FileTree) : Prop where
  isPath : isPath path = true
  split : ∃ names name parent, Path.segments path = names ++ [name] ∧
    names.foldlM t.step (t.start path) = .ok parent ∧ t.isDirectoryAt parent = true ∧
    isNameable name = true ∧ (∀ node ∈ t.node? (parent ++ [name]), ∃ old, node = .file old) ∧
    t' = t.put (parent ++ [name]) (.file bytes)

/-- A name of its own has a place in a directory, whatever is there. Any other name stands for a
directory that is there. -/
theorem placeIn_eq_ok {parent : Place} {name : String} {there : Option Node} :
    t.placeIn parent name = .ok (place, there) ↔ t.isDirectoryAt parent = true ∧
      ((stays name || name == "..") = true ∧ parent = place ∧ some .directory = there ∨
        isNameable name = true ∧ parent ++ [name] = place ∧ t.node? place = there) := by
  have hnameable : isNameable name = true ↔
      (stays name || name == "..") = false ∧ isShort name = true := by
    simp [isNameable]
  rw [hnameable, placeIn]
  cases hdirectory : t.isDirectoryAt parent with
  | false => simp
  | true =>
    cases hother : stays name || name == ".." with
    | true => simp
    | false =>
      cases hshort : isShort name with
      | false => simp
      | true =>
        simp only [Bool.not_true, Bool.false_eq_true, if_false, Except.ok.injEq, Prod.mk.injEq,
          false_and, true_and, false_or]
        exact and_congr_right fun hplace => by rw [hplace]

theorem target_eq_ok {names : List String} {name : String} {found : Place × Option Node} :
    t.target path (names ++ [name]) = .ok found ↔
      isPath path = true ∧ ∃ parent, names.foldlM t.step (t.start path) = .ok parent ∧
        t.placeIn parent name = .ok found := by
  rw [target, List.dropLast_concat, List.getLastD_concat, Outcome.bind_eq_ok]
  simp only [follow_eq_ok, and_assoc, exists_and_left]

theorem segments_ne_nil (path : String) : Path.segments path ≠ [] := by
  simp [Path.segments]

theorem write_eq_ok {bytes : ByteArray} :
    t.write path bytes = .ok t' ↔ Writes t path bytes t' := by
  obtain ⟨names, name, hsegments⟩ : ∃ names name, Path.segments path = names ++ [name] :=
    ⟨_, _, (List.dropLast_concat_getLast (segments_ne_nil path)).symm⟩
  rw [write, hsegments, Outcome.bind_eq_ok]
  constructor
  · rintro ⟨⟨place, there⟩, htarget, h⟩
    obtain ⟨hpath, parent, hfollow, hplace⟩ := target_eq_ok.mp htarget
    obtain ⟨hdirectory, hcases⟩ := placeIn_eq_ok.mp hplace
    rcases hcases with ⟨-, rfl, rfl⟩ | ⟨hname, rfl, hnode⟩
    · cases h
    · refine ⟨hpath, names, name, parent, hsegments, hfollow, hdirectory, hname, ?_, ?_⟩
      · rintro node hmem
        obtain rfl := hnode.symm.trans hmem
        cases node with
        | directory => cases h
        | file old => exact ⟨old, rfl⟩
        | locked error => cases h
      · rcases there with _ | (_ | old | error)
        · exact (Except.ok.inj h).symm
        · cases h
        · exact (Except.ok.inj h).symm
        · cases h
  · rintro ⟨hpath, names', name', parent, hsegments', hfollow, hdirectory, hname, hfree, rfl⟩
    obtain ⟨rfl, hsame⟩ := List.append_inj' (hsegments.symm.trans hsegments') rfl
    obtain rfl := List.singleton_inj.mp hsame
    refine ⟨(parent ++ [name], t.node? (parent ++ [name])), target_eq_ok.mpr
      ⟨hpath, parent, hfollow, placeIn_eq_ok.mpr ⟨hdirectory, Or.inr ⟨hname, rfl, rfl⟩⟩⟩, ?_⟩
    cases hnode : t.node? (parent ++ [name]) with
    | none => rfl
    | some node =>
      obtain ⟨old, rfl⟩ := hfree node hnode
      rfl

/-- What is written is read back. -/
theorem Writes.read? {bytes : ByteArray} (h : Writes t path bytes t') :
    t'.read? path = some bytes := by
  obtain ⟨hpath, names, name, parent, hsegments, hfollow, hdirectory, hname, hfree, rfl⟩ := h
  have hplace : parent ++ [name] ≠ [] := by simp
  have hgrows := grows_put_file hplace hfree bytes
  have hnode : (t.put (parent ++ [name]) (.file bytes)).node? (parent ++ [name]) =
      some (.file bytes) := by
    rw [node?_put hplace, if_pos rfl]
  refine read?_eq_some_iff.mpr (read_eq_ok.mpr
    ⟨parent ++ [name], walk_eq_ok.mpr ⟨hpath, ?_⟩, hnode⟩)
  rw [hsegments, foldlM_concat_eq_ok]
  exact ⟨parent, hgrows.follow hfollow, step_eq_ok.mpr ⟨hgrows.directory parent hdirectory,
    Or.inr (Or.inr ⟨hname, by rw [hnode]; rfl, rfl⟩)⟩⟩

/-- Writing the same once more changes nothing. -/
theorem Writes.again {bytes : ByteArray} (h : Writes t path bytes t') :
    Writes t' path bytes t' := by
  obtain ⟨hpath, names, name, parent, hsegments, hfollow, hdirectory, hname, hfree, rfl⟩ := h
  have hplace : parent ++ [name] ≠ [] := by simp
  have hgrows := grows_put_file hplace hfree bytes
  refine ⟨hpath, names, name, parent, hsegments, hgrows.follow hfollow,
    hgrows.directory parent hdirectory, hname, ?_, (put_put _).symm⟩
  rw [node?_put hplace, if_pos rfl]
  rintro _ ⟨⟩
  exact ⟨bytes, rfl⟩

/-! ## Directories -/

/-- The names of a path without what stands behind its last slashes lead somewhere, if the path
does. -/
theorem follow_of_walk {next : Place} (h : t.walk path = .ok next) :
    ∃ next', (((Path.segments path).reverse.dropWhile String.isEmpty).reverse).foldlM t.step
      (t.start path) = .ok next' := by
  obtain ⟨-, hfollow⟩ := walk_eq_ok.mp h
  have hsplit := List.takeWhile_append_dropWhile (p := String.isEmpty)
    (l := (Path.segments path).reverse)
  rw [← List.reverse_inj, List.reverse_append, List.reverse_reverse] at hsplit
  rw [← hsplit, List.foldlM_append, Outcome.bind_eq_ok] at hfollow
  obtain ⟨next', hnext, -⟩ := hfollow
  exact ⟨next', hnext⟩

/-- A name that leads somewhere has a place where something is. -/
theorem placeIn_of_step {parent next : Place} {name : String} (h : t.step parent name = .ok next) :
    ∃ place node, t.placeIn parent name = .ok (place, some node) := by
  obtain ⟨hdirectory, hcases⟩ := step_eq_ok.mp h
  rcases hcases with ⟨hstays, -⟩ | ⟨-, rfl, -⟩ | ⟨hname, hsome, -⟩
  · exact ⟨parent, .directory, placeIn_eq_ok.mpr
      ⟨hdirectory, Or.inl ⟨by rw [hstays, Bool.true_or], rfl, rfl⟩⟩⟩
  · exact ⟨parent, .directory, placeIn_eq_ok.mpr ⟨hdirectory, Or.inl ⟨by decide, rfl, rfl⟩⟩⟩
  · obtain ⟨node, hnode⟩ := Option.isSome_iff_exists.mp hsome
    exact ⟨parent ++ [name], node, placeIn_eq_ok.mpr ⟨hdirectory, Or.inr ⟨hname, rfl, hnode⟩⟩⟩

/-- What a path leads to is not made anew. -/
theorem makeDirectory_of_walk {next : Place} (h : t.walk path = .ok next) :
    t.makeDirectory path = .error .taken := by
  obtain ⟨next', hfollow⟩ := follow_of_walk h
  obtain ⟨hpath, hwalk⟩ := walk_eq_ok.mp h
  have htarget : ∃ place node,
      t.target path ((Path.segments path).reverse.dropWhile String.isEmpty).reverse =
        .ok (place, some node) := by
    rcases List.eq_nil_or_concat ((Path.segments path).reverse.dropWhile String.isEmpty).reverse
      with hnil | ⟨names, name, hnames⟩
    · -- a path without any name leads where it begins, which is a directory
      obtain ⟨first, rest, hsegments⟩ := List.exists_cons_of_ne_nil (segments_ne_nil path)
      rw [hsegments] at hwalk
      obtain ⟨_, hstep, -⟩ := Outcome.foldlM_cons_eq_ok.mp hwalk
      have hstart : t.placeIn (t.start path) "" = .ok (t.start path, some .directory) :=
        placeIn_eq_ok.mpr ⟨(step_eq_ok.mp hstep).1, Or.inl ⟨by decide, rfl, rfl⟩⟩
      rw [hnil, target, List.dropLast_nil, follow_eq_ok.mpr ⟨hpath, rfl⟩]
      exact ⟨_, _, hstart⟩
    · rw [hnames, List.concat_eq_append] at hfollow ⊢
      obtain ⟨parent, hparent, hstep⟩ := foldlM_concat_eq_ok.mp hfollow
      obtain ⟨place, node, hplace⟩ := placeIn_of_step hstep
      exact ⟨place, node, target_eq_ok.mpr ⟨hpath, parent, hparent, hplace⟩⟩
  obtain ⟨place, node, htarget⟩ := htarget
  rw [makeDirectory, htarget]
  rfl

theorem makeDirectories_of_isDirectory (h : t.isDirectory path = true) :
    t.makeDirectories path = (t, .ok ()) := by
  obtain ⟨next, hwalk, -⟩ := isDirectory_iff.mp h
  have hfirst (paths : List String) : t.makeFirst (path :: paths) = (t, .ok ()) := by
    simp only [makeFirst, makeDirectory_of_walk hwalk, if_pos h]
  rw [makeDirectories]
  rcases Path.ancestors_eq path with hnone | ⟨parents, hparents⟩
  · rw [hnone]
    rfl
  · rw [hparents, hfirst]

/-! ## Files in a directory -/

theorem isPath_append {base more : String} (hbase : base ≠ "") (h : isPath (base ++ more) = true) :
    isPath base = true := by
  simp only [isPath, Bool.and_eq_true, Bool.not_eq_true', List.contains_eq_mem,
    decide_eq_false_iff_not, decide_eq_true_eq, String.toList_append, List.mem_append, not_or,
    String.utf8ByteSize_append] at h ⊢
  refine ⟨⟨by simpa using hbase, h.1.2.1⟩, by omega⟩

/-- The way to what has been joined to a path goes through where the path leads. -/
theorem exists_follow_join {base name : String} (hbase : base ≠ "") (hname : '/' ∉ name.toList) :
    ∃ names, Path.segments (Path.join base name) = names ++ [name] ∧
      ∀ place, t.isDirectoryAt place = true →
        (names.foldlM t.step (t.start (Path.join base name)) = .ok place ↔
          (Path.segments base).foldlM t.step (t.start base) = .ok place) := by
  have hstart : Path.isAbsolute (Path.join base name) = Path.isAbsolute base →
      t.start (Path.join base name) = t.start base := by
    intro h
    rw [start, start, h]
  rcases Path.segments_join hbase hname with ⟨hsegments, habsolute⟩ |
    ⟨front, hfront, hsegments, habsolute⟩
  · exact ⟨_, hsegments, fun place _ => by rw [hstart habsolute]⟩
  · refine ⟨front, hsegments, fun place hplace => ?_⟩
    rw [hstart habsolute, hfront, foldlM_concat_eq_ok]
    constructor
    · intro h
      exact ⟨place, h, step_eq_ok.mpr ⟨hplace, Or.inl ⟨by decide, rfl⟩⟩⟩
    · rintro ⟨parent, hparent, hstep⟩
      rcases (step_eq_ok.mp hstep).2 with ⟨-, rfl⟩ | ⟨-, hdots, -⟩ | ⟨hempty, -⟩
      · exact hparent
      · exact absurd hdots (by decide)
      · exact absurd hempty (by decide)

/-- The directory that holds the files below a path. Below the empty path that is the working
directory. -/
inductive Holds (t : FileTree) : String → Place → Prop
  | here (h : t.isDirectoryAt t.here = true) : Holds t "" t.here
  | path {path : String} {place : Place} (hwalk : t.walk path = .ok place)
    (h : t.isDirectoryAt place = true) : Holds t path place

theorem Holds.isDirectoryAt {base : String} (h : Holds t base place) :
    t.isDirectoryAt place = true := by
  cases h with
  | here h => exact h
  | path _ h => exact h

theorem Holds.exists_follow {base name : String} (h : Holds t base place)
    (hname : '/' ∉ name.toList) :
    ∃ names, Path.segments (Path.join base name) = names ++ [name] ∧
      names.foldlM t.step (t.start (Path.join base name)) = .ok place := by
  cases h with
  | here h =>
    rw [Path.join_empty]
    refine ⟨[], Path.segments_of_slash_notMem hname, ?_⟩
    rw [start, Path.isAbsolute_eq_false hname]
    rfl
  | path hwalk h =>
    obtain ⟨hpath, hfollow⟩ := walk_eq_ok.mp hwalk
    have hbase : base ≠ "" := by
      rintro rfl
      exact absurd hpath (by decide)
    obtain ⟨names, hsegments, hiff⟩ := exists_follow_join hbase hname
    exact ⟨names, hsegments, (hiff place h).mpr hfollow⟩

/-- Below a path where a file can be written there is a directory. -/
theorem Writes.exists_holds {base name : String} {bytes : ByteArray} (hname : '/' ∉ name.toList)
    (h : Writes t (Path.join base name) bytes t') : ∃ place, Holds t base place := by
  obtain ⟨hpath, names, name', parent, hsegments, hfollow, hdirectory, -⟩ := h
  by_cases hbase : base = ""
  · subst hbase
    rw [Path.join_empty, Path.segments_of_slash_notMem hname] at hsegments
    rw [← List.nil_append [name]] at hsegments
    obtain ⟨rfl, -⟩ := List.append_inj' hsegments rfl
    rw [Path.join_empty, start, Path.isAbsolute_eq_false hname] at hfollow
    obtain rfl := Except.ok.inj hfollow
    exact ⟨_, .here hdirectory⟩
  · obtain ⟨names₁, hsegments₁, hiff⟩ := exists_follow_join hbase hname
    obtain ⟨rfl, -⟩ := List.append_inj' (hsegments.symm.trans hsegments₁) rfl
    obtain ⟨more, hmore⟩ := Path.join_eq_append hname base
    have hpath' : FileTree.isPath base = true := isPath_append hbase (hmore ▸ hpath)
    exact ⟨parent, .path (walk_eq_ok.mpr ⟨hpath', (hiff parent hdirectory).mp hfollow⟩) hdirectory⟩

/-- A file that is not there can be made in a directory. -/
theorem Holds.exists_writes {base name : String} (h : Holds t base place)
    (hname : '/' ∉ name.toList) (hnameable : isNameable name = true)
    (hpath : isPath (Path.join base name) = true) (hnew : t.has (Path.join base name) = false)
    (bytes : ByteArray) : ∃ t', Writes t (Path.join base name) bytes t' := by
  obtain ⟨names, hsegments, hfollow⟩ := h.exists_follow hname
  refine ⟨_, hpath, names, name, place, hsegments, hfollow, h.isDirectoryAt, hnameable, ?_, rfl⟩
  intro node hthere
  have hstep : t.step place name = .ok (place ++ [name]) :=
    step_eq_ok.mpr ⟨h.isDirectoryAt, Or.inr (Or.inr ⟨hnameable, by rw [hthere]; rfl, rfl⟩)⟩
  have hwalk : t.walk (Path.join base name) = .ok (place ++ [name]) := by
    refine walk_eq_ok.mpr ⟨hpath, ?_⟩
    rw [hsegments]
    exact foldlM_concat_eq_ok.mpr ⟨place, hfollow, hstep⟩
  simp [has, hwalk, Except.isOk, Except.toBool] at hnew

/-- A directory that holds files is not made again. -/
theorem Holds.makeDirectories {base : String} (h : Holds t base place) :
    t.makeDirectories base = (t, .ok ()) := by
  cases h with
  | here => rfl
  | path hwalk h => exact makeDirectories_of_isDirectory (isDirectory_iff.mpr ⟨place, hwalk, h⟩)

end MapPainter.FileTree
