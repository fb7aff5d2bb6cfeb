import SheetFill.FileTree.Basic
import Mathlib.Tactic

/-!
# Reading what was written

A file that was written is there under its path and holds what was written. The way to a file leads
through directories, and none of them is touched by putting the file at its end.
-/
namespace SheetFill

theorem Path.getLast?_names {cs : List Char} (h : (names cs).getLast? = some []) :
    cs = [] ∨ cs.getLast? = some '/' := by
  induction cs with
  | nil => exact .inl rfl
  | cons c cs ih =>
    right
    cases hn : names cs with
    | nil => simp [names, hn] at h
    | cons first more =>
      rw [hn] at ih
      by_cases hc : c = '/'
      · subst hc
        have hlast : (first :: more).getLast? = some [] := by
          simpa [names, hn, List.getLast?_cons_cons] using h
        rcases ih hlast with rfl | hcs
        · rfl
        · rw [List.getLast?_cons, hcs]
          rfl
      · cases more with
        | nil => simp [names, hn, hc] at h
        | cons second more =>
          have hlast : (first :: second :: more).getLast? = some [] := by
            simpa [names, hn, hc, List.getLast?_cons_cons] using h
          rcases ih hlast with rfl | hcs
          · simp [names] at hn
          · rw [List.getLast?_cons, hcs]
            rfl

namespace FileTree

variable {α : Type} {t t' : FileTree α} {place : List String} {node : FileNode α} {path : String}
  {content : α}

theorem map_find?_replaced (nodes : List (List String × FileNode α)) (place other : List String)
    (node : FileNode α) :
    ((nodes.map fun (p, n) => if p == place then (p, node) else (p, n)).find?
        fun (p, _) => p == other).map (·.2) =
      (nodes.find? fun (p, _) => p == other).map fun (_, n) =>
        if other = place then node else n := by
  induction nodes with
  | nil => rfl
  | cons entry nodes ih =>
    obtain ⟨p, n⟩ := entry
    by_cases hp : p = place
    · subst hp
      by_cases ho : p = other
      · simp [ho]
      · simpa [ho, List.find?_cons] using ih
    · by_cases ho : p = other
      · subst ho
        simp [hp]
      · simpa [hp, ho, List.find?_cons] using ih

/-- A place that is no directory can be given any node, and nothing else changes. -/
theorem node?_put (h : t.node? place ≠ some .directory) (other : List String) :
    (t.put place node).node? other = if other = place then some node else t.node? other := by
  unfold node? at h ⊢
  by_cases hother : (other.all (· == "..") || other == ["/"]) = true
  · have hne : other ≠ place := by
      rintro rfl
      simp [hother] at h
    simp [hother, hne]
  · rw [if_neg hother, if_neg hother]
    unfold put
    cases hfind : t.nodes.find? fun (p, _) => p == place with
    | none =>
      have hany : (t.nodes.any fun (p, _) => p == place) = false :=
        List.any_eq_false.mpr (List.find?_eq_none.mp hfind)
      rw [if_neg (by rw [hany]; simp)]
      split_ifs with ho
      · subst ho
        simp [List.find?_append, hfind]
      · simp [List.find?_append, Ne.symm ho]
    | some entry =>
      have hentry := List.find?_some hfind
      have hany : (t.nodes.any fun (p, _) => p == place) = true :=
        List.any_eq_true.mpr ⟨entry, List.mem_of_find?_eq_some hfind, hentry⟩
      rw [if_pos hany, map_find?_replaced]
      split_ifs with ho
      · subst ho
        rw [hfind]
        rfl
      · rfl

/-- The way to a place leads to it once a file was put there. -/
theorem follow_put (h : t.node? place ≠ some .directory) (names : List String) :
    ∀ {start : List String} {reached : Reached}, t.follow start names = (place, reached) →
    reached = .present ∨ reached = .absent ∧ names.getLast? ≠ some "" →
    (t.put place (.file content)).follow start names = (place, .present) := by
  induction names with
  | nil =>
    intro start reached hf _
    obtain ⟨rfl, -⟩ := Prod.mk.inj hf
    simp [follow, node?_put h]
  | cons name rest ih =>
    intro start reached hf hr
    simp only [follow] at hf ⊢
    cases hn : t.node? start with
    | none =>
      rw [hn] at hf
      obtain ⟨-, rfl⟩ := Prod.mk.inj hf
      split_ifs at hr with hall
      · -- where the way ends before its last name only slashes are left
        have hlast := (hr.resolve_left (by simp)).2
        rw [List.getLast?_eq_some_getLast (List.cons_ne_nil name rest)] at hlast
        have hmem := List.all_eq_true.mp hall _ (List.getLast_mem (List.cons_ne_nil name rest))
        exact absurd (congrArg some (by simpa using hmem)) hlast
      · simp at hr
    | some found =>
      cases found with
      | file c =>
        rw [hn] at hf
        obtain ⟨-, rfl⟩ := Prod.mk.inj hf
        simp at hr
      | directory =>
        have hne : start ≠ place := by
          rintro rfl
          exact h hn
        rw [node?_put h, if_neg hne, hn]
        simp only [hn] at hf ⊢
        split_ifs at hf ⊢
        · obtain ⟨-, rfl⟩ := Prod.mk.inj hf
          simp at hr
        · refine ih hf (hr.imp id (And.imp_right ?_))
          cases rest with
          | nil => simp
          | cons next rest =>
            rw [List.getLast?_cons_cons]
            exact id

def origin (path : String) : List String :=
  if path.toList.head? == some '/' then ["/"] else []

def parts (path : String) : List String :=
  (Path.names path.toList).map String.ofList

theorem locate_eq_follow {reached : Reached} (hl : t.locate path = (place, reached))
    (hr : reached = .present ∨ reached = .absent) :
    (∀ tree : FileTree α, tree.locate path = tree.follow (origin path) (parts path)) ∧
      (endsInSlash path = false → (parts path).getLast? ≠ some "") := by
  have hfails {r : Reached} (hr' : r ≠ .present ∧ r ≠ .absent) : t.locate path ≠ ([], r) := by
    intro hloc
    obtain ⟨-, rfl⟩ := Prod.mk.inj (hl.symm.trans hloc)
    exact hr.elim hr'.1 hr'.2
  have hnull : ¬ path.toList.contains '\x00' = true := fun h =>
    hfails (r := .noPath) (by simp) (by rw [locate, if_pos h])
  have hempty : ¬ path.toList.isEmpty = true := fun h =>
    hfails (r := .cutOff) (by simp) (by rw [locate, if_neg hnull, if_pos h])
  have hlong : ¬ maxPath < path.utf8ByteSize := fun h =>
    hfails (r := .tooLong) (by simp) (by rw [locate, if_neg hnull, if_neg hempty, if_pos h])
  refine ⟨fun tree => ?_, fun hslash hlast => ?_⟩
  · rw [locate, if_neg hnull, if_neg hempty, if_neg hlong]
    rfl
  · rw [parts, List.getLast?_map] at hlast
    obtain ⟨name, hname, hof⟩ := Option.map_eq_some_iff.mp hlast
    obtain rfl : name = [] := by simpa using hof
    rcases Path.getLast?_names hname with hnil | hcs
    · simp [hnil] at hempty
    · simp [endsInSlash, hcs] at hslash

/-- Where a way leads to something it leads there still if directories stay and nothing goes. -/
theorem follow_present (hdir : ∀ p, t.node? p = some .directory → t'.node? p = some .directory)
    (hstay : ∀ p, (t.node? p).isSome → (t'.node? p).isSome) (names : List String) :
    ∀ {start : List String}, t.follow start names = (place, .present) →
      t'.follow start names = (place, .present) := by
  induction names with
  | nil =>
    intro start hf
    obtain ⟨rfl, hp⟩ := Prod.mk.inj hf
    split_ifs at hp with hsome
    simp [follow, hstay _ hsome]
  | cons name rest ih =>
    intro start hf
    simp only [follow] at hf ⊢
    cases hn : t.node? start with
    | none =>
      rw [hn] at hf
      split_ifs at hf <;> simp at hf
    | some found =>
      rw [hn] at hf
      cases found with
      | file c => simp at hf
      | directory =>
        rw [hdir _ hn]
        simp only at hf ⊢
        split_ifs at hf ⊢
        · simp at hf
        · exact ih hf

theorem locate_present (hdir : ∀ p, t.node? p = some .directory → t'.node? p = some .directory)
    (hstay : ∀ p, (t.node? p).isSome → (t'.node? p).isSome)
    (hl : t.locate path = (place, .present)) : t'.locate path = (place, .present) := by
  obtain ⟨hfollow, -⟩ := locate_eq_follow hl (.inl rfl)
  rw [hfollow] at hl ⊢
  exact follow_present hdir hstay _ hl

theorem node?_of_follow {start : List String} (names : List String)
    (h : t.follow start names = (place, .absent)) : t.node? place = none := by
  induction names generalizing start with
  | nil =>
    obtain ⟨rfl, hn⟩ := Prod.mk.inj h
    split_ifs at hn with hsome
    simpa using hsome
  | cons name rest ih =>
    simp only [follow] at h
    cases hn : t.node? start with
    | none =>
      rw [hn] at h
      rw [← (Prod.mk.inj h).1, hn]
    | some found =>
      rw [hn] at h
      cases found with
      | file c => simp at h
      | directory =>
        simp only at h
        split_ifs at h
        · simp at h
        · exact ih h

theorem locate_put (h : t.node? place ≠ some .directory) {reached : Reached}
    (hl : t.locate path = (place, reached))
    (hr : reached = .present ∨ reached = .absent ∧ endsInSlash path = false) :
    (t.put place (.file content)).locate path = (place, .present) := by
  obtain ⟨hfollow, hlast⟩ := locate_eq_follow hl (hr.imp id And.left)
  rw [hfollow] at hl ⊢
  exact follow_put h _ hl (hr.imp id (And.imp_right hlast))

theorem write_eq_ok (h : t.write path content = .ok t') :
    ∃ place reached, t.locate path = (place, reached) ∧ t.node? place ≠ some .directory ∧
      (reached = .present ∨ reached = .absent ∧ endsInSlash path = false) ∧
      t' = t.put place (.file content) := by
  unfold write at h
  split at h
  · rename_i place hl
    split at h
    · rename_i old hn
      exact ⟨place, .present, hl, by simp [hn], .inl rfl, (Except.ok.inj h).symm⟩
    · simp at h
  · rename_i place hl
    split_ifs at h with hslash
    obtain ⟨hfollow, -⟩ := locate_eq_follow hl (.inr rfl)
    rw [hfollow] at hl
    exact ⟨place, .absent, (hfollow t).trans hl, by simp [node?_of_follow _ hl],
      .inr ⟨rfl, by simpa using hslash⟩, (Except.ok.inj h).symm⟩
  · simp at h

/-- A tree in which a path leads to a file, and which is like `t` everywhere else. -/
structure Wrote (path : String) (content : α) (place : List String) (t t' : FileTree α) : Prop where
  leads : t'.locate path = (place, .present)
  node : ∀ other, t'.node? other = if other = place then some (.file content) else t.node? other
  noDirectory : t.node? place ≠ some .directory

theorem wrote_of_write (h : t.write path content = .ok t') :
    ∃ place, Wrote path content place t t' := by
  obtain ⟨place, reached, hl, hn, hr, rfl⟩ := write_eq_ok h
  exact ⟨place, locate_put hn hl hr, node?_put hn, hn⟩

namespace Wrote

theorem node_self (h : Wrote path content place t t') :
    t'.node? place = some (.file content) := by
  rw [h.node, if_pos rfl]

theorem node_of_ne (h : Wrote path content place t t') {other : List String} (ho : other ≠ place) :
    t'.node? other = t.node? other := by
  rw [h.node, if_neg ho]

theorem read (h : Wrote path content place t t') : t'.read path = .ok content := by
  rw [FileTree.read, h.leads]
  simp only [h.node_self]

theorem directory (h : Wrote path content place t t') {other : List String}
    (hd : t.node? other = some .directory) : t'.node? other = some .directory := by
  rw [h.node_of_ne, hd]
  rintro rfl
  exact h.noDirectory hd

theorem locate (h : Wrote path content place t t') {path' : String} {other : List String}
    (hl : t.locate path' = (other, .present)) : t'.locate path' = (other, .present) := by
  refine locate_present (fun p => h.directory) (fun p hp => ?_) hl
  rw [h.node]
  split_ifs
  · rfl
  · exact hp

end Wrote

theorem read_of_write (h : t.write path content = .ok t') : t'.read path = .ok content := by
  obtain ⟨place, hwrote⟩ := wrote_of_write h
  exact hwrote.read

end FileTree

end SheetFill
