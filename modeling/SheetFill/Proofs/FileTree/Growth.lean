import SheetFill.Proofs.FileTree.Names
import SheetFill.Proofs.FileTree.Writing

/-!
# Making directories

Making a directory with all that lead to it adds directories to a tree and changes nothing else,
whether it succeeds or fails. The directories that are added lie on the way to the path, and what
could be read before is read as before.
-/
namespace SheetFill.FileTree

/-- The places that the way along a path leads through. -/
def way (path : String) : List (List String) :=
  (parts path).inits.map (·.foldl enter (origin path))

theorem mem_way {path : String} {place : List String} : place ∈ way path ↔
    ∃ names, names <+: parts path ∧ names.foldl enter (origin path) = place := by
  simp [way]

theorem origin_mem_way (path : String) : origin path ∈ way path :=
  mem_way.mpr ⟨[], List.nil_prefix, rfl⟩

theorem foldl_enter_of_empty {names : List String} (h : ∀ name ∈ names, name = "")
    (place : List String) : names.foldl enter place = place := by
  induction names with
  | nil => rfl
  | cons name names ih =>
    obtain ⟨rfl, hrest⟩ := List.forall_mem_cons.mp h
    simpa [enter] using ih hrest

theorem way_directory (path : String) {place : List String}
    (h : place ∈ way (Path.directory path)) : place ∈ way path := by
  obtain ⟨names, hnames, rfl⟩ := mem_way.mp h
  rcases Path.directory_cases path with ⟨hslash, hhead⟩ | ⟨hne, rest, hpath⟩
  · have horigin : origin (Path.directory path) = origin path := by
      simp only [origin, beq_iff_eq, hhead]
    rw [foldl_enter_of_empty, horigin]
    · exact origin_mem_way path
    · intro name hname
      obtain ⟨cs, hcs, rfl⟩ := List.mem_map.mp (hnames.subset hname)
      rw [Path.eq_nil_of_mem_names hslash cs hcs]
  · obtain ⟨c, cs, hdir⟩ := List.exists_cons_of_ne_nil hne
    have horigin : origin (Path.directory path) = origin path := by
      simp [origin, hpath, hdir]
    rw [horigin]
    refine mem_way.mpr ⟨names, ?_, rfl⟩
    rw [parts, hpath, Path.names_append, List.map_append]
    exact hnames.trans (List.prefix_append _ _)

variable {α : Type} {t t' t'' : FileTree α} {place : List String} {path : String} {content : α}
  {new new' : List String → Prop}

theorem foldl_of_follow {reached : Reached} (hr : reached = .present ∨ reached = .absent)
    (names : List String) : ∀ {start : List String},
    t.follow start names = (place, reached) → names.foldl enter start = place := by
  induction names with
  | nil =>
    intro start h
    exact (Prod.mk.inj h).1
  | cons name rest ih =>
    intro start h
    simp only [follow] at h
    cases hn : t.node? start with
    | none =>
      rw [hn] at h
      obtain ⟨rfl, hall⟩ := Prod.mk.inj h
      split_ifs at hall with hempty
      · exact foldl_enter_of_empty (by simpa using hempty) _
      · rcases hr with rfl | rfl <;> cases hall
    | some node =>
      rw [hn] at h
      cases node with
      | file c =>
        obtain ⟨-, rfl⟩ := Prod.mk.inj h
        rcases hr with h | h <;> cases h
      | directory =>
        simp only at h
        split_ifs at h
        · obtain ⟨-, rfl⟩ := Prod.mk.inj h
          rcases hr with h | h <;> cases h
        · exact ih h

/-- The last name of a path is that of the place it leads to, unless it is no name of a place. -/
theorem eq_append_baseName (hl : t.locate path = (place, .present))
    (hname : Path.baseName path ∉ ["", ".", ".."]) :
    ∃ above, place = above ++ [Path.baseName path] := by
  obtain ⟨hfollow, -⟩ := locate_eq_follow hl (.inl rfl)
  rw [hfollow] at hl
  have hlast : (parts path).getLast? = some (Path.baseName path) := by
    rw [parts, List.getLast?_map, Path.getLast?_names_eq]
    simp
  obtain ⟨front, hparts⟩ := List.getLast?_eq_some_iff.mp hlast
  have hplace := foldl_of_follow (.inl rfl) _ hl
  rw [hparts, List.foldl_concat] at hplace
  obtain ⟨hempty, hdot, hdots⟩ : Path.baseName path ≠ "" ∧ Path.baseName path ≠ "." ∧
    Path.baseName path ≠ ".." := by simpa using hname
  refine ⟨front.foldl enter (origin path), ?_⟩
  rw [← hplace, enter, if_neg (by simp [hdot, hempty]), if_neg (by simp [hdots])]

/-- A tree with all that is in `t`, and beyond that with nothing but directories at places of the
kind `new`. -/
structure Grows (new : List String → Prop) (t t' : FileTree α) : Prop where
  kept : ∀ place node, t.node? place = some node → t'.node? place = some node
  made : ∀ place, t.node? place = none →
    t'.node? place = none ∨ t'.node? place = some .directory ∧ new place

namespace Grows

theorem refl (t : FileTree α) : Grows new t t := ⟨fun _ _ h => h, fun _ h => .inl h⟩

theorem trans (h : Grows new t t') (h' : Grows new t' t'') : Grows new t t'' := by
  refine ⟨fun place node hn => h'.kept place node (h.kept place node hn), fun place hn => ?_⟩
  rcases h.made place hn with hnone | ⟨hdir, hnew⟩
  · exact h'.made place hnone
  · exact .inr ⟨h'.kept place _ hdir, hnew⟩

theorem mono (h : Grows new t t') (hnew : ∀ place, new place → new' place) : Grows new' t t' :=
  ⟨h.kept, fun place hn => (h.made place hn).imp_right (And.imp_right (hnew place))⟩

theorem locate (h : Grows new t t') (hl : t.locate path = (place, .present)) :
    t'.locate path = (place, .present) := by
  refine locate_present (fun p hp => h.kept p _ hp) (fun p hp => ?_) hl
  obtain ⟨node, hn⟩ := Option.isSome_iff_exists.mp hp
  simp [h.kept p node hn]

end Grows

theorem read_eq_ok : t.read path = .ok content ↔
    ∃ place, t.locate path = (place, .present) ∧ t.node? place = some (.file content) := by
  unfold read
  rcases t.locate path with ⟨place, reached⟩
  cases reached <;> simp only [Prod.mk.injEq, reduceCtorEq, and_false, false_and, exists_false]
  rcases ht : t.node? place with _ | ⟨_ | c⟩ <;> simp [ht]

theorem contains_of_read (h : t.read path = .ok content) : t.contains path = true := by
  obtain ⟨place, hl, hn⟩ := read_eq_ok.mp h
  simp [contains, lookup?, hl, hn]

theorem Grows.read (h : Grows new t t') (hr : t.read path = .ok content) :
    t'.read path = .ok content := by
  obtain ⟨place, hl, hn⟩ := read_eq_ok.mp hr
  exact read_eq_ok.mpr ⟨place, h.locate hl, h.kept _ _ hn⟩

/-! ## Directories -/

theorem grows_put (h : t.node? place = none) (hnew : new place) :
    Grows new t (t.put place .directory) := by
  have hput (other : List String) : (t.put place .directory).node? other =
      if other = place then some .directory else t.node? other :=
    node?_put (by simp [h]) other
  constructor
  · intro other node hn
    rw [hput, if_neg, hn]
    rintro rfl
    simp [h] at hn
  · intro other hn
    rw [hput]
    split_ifs with ho
    · exact .inr ⟨rfl, ho ▸ hnew⟩
    · exact .inl hn

theorem makeDirectory_eq_ok (h : t.makeDirectory path = .ok t') :
    Grows (· ∈ way path) t t' := by
  unfold makeDirectory at h
  split at h
  · simp at h
  · rename_i place hl
    obtain ⟨hfollow, -⟩ := locate_eq_follow hl (.inr rfl)
    rw [hfollow] at hl
    rw [← Except.ok.inj h]
    exact grows_put (node?_of_follow _ hl)
      (mem_way.mpr ⟨_, List.prefix_rfl, foldl_of_follow (.inr rfl) _ hl⟩)
  · simp at h

theorem grows_finish (t : FileTree α) (path tail head : String) :
    Grows (· ∈ way path) t (makeDirectories.finish t path tail head).1 := by
  unfold makeDirectories.finish
  split
  · exact .refl t
  · cases h : t.makeDirectory path with
    | ok t' => exact makeDirectory_eq_ok h
    | error e =>
      dsimp only
      split <;> exact .refl t

theorem headAndTail_fst (path : String) : (headAndTail path).1 = Path.directory path ∨
    (headAndTail path).1 = Path.directory (Path.directory path) := by
  -- the directory and its own directory are not to be computed when the two are compared
  unfold headAndTail
  generalize Path.directory path = head
  dsimp only
  generalize Path.directory head = above
  split_ifs
  · exact .inr rfl
  · exact .inl rfl

theorem way_headAndTail (path : String) {place : List String}
    (h : place ∈ way (headAndTail path).1) : place ∈ way path := by
  rcases headAndTail_fst path with heq | heq
  · rw [heq] at h
    exact way_directory path h
  · rw [heq] at h
    exact way_directory path (way_directory (Path.directory path) h)

/-- Making directories, whether it succeeds or fails, adds some on the way and does nothing else. -/
theorem grows_makeDirectories (fuel : Nat) : ∀ (t : FileTree α) (path : String),
    Grows (· ∈ way path) t (t.makeDirectories fuel path).1 := by
  induction fuel with
  | zero => exact fun t path => .refl t
  | succ fuel ih =>
    intro t path
    have hhead := (ih t (headAndTail path).1).mono fun place => way_headAndTail path
    have hfinish (t₁ : FileTree α) (h₁ : Grows (· ∈ way path) t t₁) := h₁.trans
      (grows_finish t₁ path (headAndTail path).2 (headAndTail path).1)
    rw [makeDirectories.eq_def]
    dsimp only
    split_ifs with habove
    · split
      · split
        · exact hfinish _ hhead
        · exact hhead
      · exact hfinish _ hhead
    · exact hfinish t (.refl t)

end SheetFill.FileTree
