import SheetFill.FileTree.Path
import Mathlib.Data.List.TakeWhile
import Mathlib.Tactic

/-!
# The parts of a path

A path is what stands up to its last slash and the name behind it. Taking it apart at a slash takes
its names apart, and what is put behind a slash is the name that is taken off again.
-/
namespace SheetFill.Path

theorem names_ne_nil (cs : List Char) : names cs ≠ [] := by
  cases cs with
  | nil => simp [names]
  | cons c cs =>
    cases h : names cs with
    | nil => simp [names, h]
    | cons first more =>
      simp only [names, h]
      split_ifs <;> simp

theorem names_append (before behind : List Char) :
    names (before ++ '/' :: behind) = names before ++ names behind := by
  induction before with
  | nil =>
    obtain ⟨first, more, hb⟩ := List.exists_cons_of_ne_nil (names_ne_nil behind)
    simp [names, hb]
  | cons c before ih =>
    obtain ⟨first, more, hb⟩ := List.exists_cons_of_ne_nil (names_ne_nil before)
    rw [hb, List.cons_append] at ih
    simp only [List.cons_append, names, ih, hb]
    split_ifs <;> rfl

theorem eq_nil_of_mem_names {cs : List Char} (h : ∀ c ∈ cs, c = '/') :
    ∀ name ∈ names cs, name = [] := by
  induction cs with
  | nil => simp [names]
  | cons c cs ih =>
    obtain ⟨first, more, hcs⟩ := List.exists_cons_of_ne_nil (names_ne_nil cs)
    rw [hcs] at ih
    obtain ⟨rfl, hrest⟩ := List.forall_mem_cons.mp h
    simpa [names, hcs] using ih hrest

theorem takeWhile_reverse_name {name : List Char} (h : '/' ∉ name) (rest : List Char) :
    (name.reverse ++ rest).takeWhile (· != '/') = name.reverse ++ rest.takeWhile (· != '/') := by
  apply List.takeWhile_append_of_pos
  intro c hc
  have hne : c ≠ '/' := by
    rintro rfl
    exact h (List.mem_reverse.mp hc)
  simpa using hne

theorem splitLast_of_notMem {name : List Char} (h : '/' ∉ name) : splitLast name = ([], name) := by
  have hback : name.reverse.takeWhile (· != '/') = name.reverse := by
    simpa using takeWhile_reverse_name h []
  simp [splitLast, hback]

/-- What stands behind the last slash is the name. -/
theorem splitLast_append {name : List Char} (h : '/' ∉ name) (head : List Char) :
    splitLast (head ++ '/' :: name) = (head ++ ['/'], name) := by
  have hback : (head ++ '/' :: name).reverse.takeWhile (· != '/') = name.reverse := by
    rw [List.reverse_append, List.reverse_cons, List.append_assoc, takeWhile_reverse_name h]
    simp
  have hlen : (head ++ '/' :: name).length - name.reverse.length = (head ++ ['/']).length := by
    simp only [List.length_append, List.length_cons, List.length_reverse, List.length_nil]
    omega
  have hcut : head ++ '/' :: name = (head ++ ['/']) ++ name := by simp
  rw [splitLast, hback, hlen, List.reverse_reverse, hcut, List.take_left]

/-- A path is a name, or a name behind a last slash. -/
theorem eq_name_or (cs : List Char) :
    '/' ∉ cs ∨ ∃ head name, '/' ∉ name ∧ cs = head ++ '/' :: name := by
  by_cases h : '/' ∈ cs
  · obtain ⟨back, front, hcs, hback⟩ := List.eq_append_cons_of_mem (List.mem_reverse.mpr h)
    refine .inr ⟨front.reverse, back.reverse, by simpa using hback, ?_⟩
    rw [← List.reverse_reverse cs, hcs]
    simp
  · exact .inl h

/-- The directory of a path is made of slashes alone or of none, or a slash stands behind it. -/
theorem directory_cases (path : String) :
    ((∀ c ∈ (directory path).toList, c = '/') ∧
      ((directory path).toList.head? = some '/' ↔ path.toList.head? = some '/')) ∨
    (directory path).toList ≠ [] ∧
      ∃ rest, path.toList = (directory path).toList ++ '/' :: rest := by
  rcases eq_name_or path.toList with h | ⟨head, name, hname, hpath⟩
  · have hdir : (directory path).toList = [] := by
      simp [directory, splitLast_of_notMem h]
    refine .inl ⟨by simp [hdir], ?_⟩
    rw [hdir]
    refine ⟨fun hnil => by simp at hnil, fun hcs => absurd (List.mem_of_head? hcs) h⟩
  · have hsplit : (splitLast path.toList).1 = head ++ ['/'] := by
      rw [hpath, splitLast_append hname]
    by_cases hall : ∀ c ∈ head ++ ['/'], c = '/'
    · have hdir : (directory path).toList = head ++ ['/'] := by
        rw [directory, hsplit, if_pos (by simpa [or_imp, forall_and] using hall),
          String.toList_ofList]
      refine .inl ⟨hdir ▸ hall, ?_⟩
      rw [hdir, hpath]
      cases head <;> simp
    · right
      have hdir : (directory path).toList = (head.reverse.dropWhile (· == '/')).reverse := by
        rw [directory, hsplit, if_neg (by simpa [or_imp, forall_and] using hall),
          String.toList_ofList]
        simp
      have hne : head.reverse.dropWhile (· == '/') ≠ [] := by
        rw [ne_eq, List.dropWhile_eq_nil_iff]
        intro hnil
        exact hall (by simpa [or_imp, forall_and] using hnil)
      have hhead : head = (head.reverse.dropWhile (· == '/')).reverse ++
          (head.reverse.takeWhile (· == '/')).reverse := by
        rw [← List.reverse_append, List.takeWhile_append_dropWhile, List.reverse_reverse]
      refine ⟨by rw [hdir]; simpa using hne, ?_⟩
      rw [hpath, hdir]
      nth_rewrite 1 [hhead]
      cases hback : (head.reverse.takeWhile (· == '/')).reverse with
      | nil => exact ⟨name, by simp⟩
      | cons c more =>
        have hc : c ∈ head.reverse.takeWhile (· == '/') := by
          rw [← List.mem_reverse, hback]
          exact List.mem_cons_self
        obtain rfl : c = '/' := by simpa using List.mem_takeWhile_imp hc
        exact ⟨more ++ '/' :: name, by simp⟩

/-! ## Names and extensions -/

variable {path dir name : String}

theorem notMem_baseName (path : String) : '/' ∉ (baseName path).toList := by
  rcases eq_name_or path.toList with h | ⟨head, name, hname, hpath⟩
  · simpa [baseName, splitLast_of_notMem h] using h
  · simpa [baseName, hpath, splitLast_append hname] using hname

theorem baseName_of_notMem (h : '/' ∉ name.toList) : baseName name = name := by
  simp [baseName, splitLast_of_notMem h]

theorem baseName_append (h : '/' ∉ name.toList) (head : List Char)
    (hpath : path.toList = head ++ '/' :: name.toList) : baseName path = name := by
  simp [baseName, hpath, splitLast_append h]

theorem baseName_join (h : '/' ∉ name.toList) : baseName (join dir name) = name := by
  unfold join
  split_ifs with hroot hend
  · exact baseName_of_notMem h
  · rcases Bool.or_eq_true_iff.mp hend with hempty | hslash
    · obtain rfl : dir = "" := by simpa using hempty
      rw [String.empty_append]
      exact baseName_of_notMem h
    · obtain ⟨head, hhead⟩ := List.getLast?_eq_some_iff.mp (beq_iff_eq.mp hslash)
      exact baseName_append h head (by simp [hhead])
  · exact baseName_append h dir.toList (by simp)

theorem names_of_notMem {name : List Char} (h : '/' ∉ name) : names name = [name] := by
  induction name with
  | nil => rfl
  | cons c cs ih =>
    have hc : c ≠ '/' := by
      rintro rfl
      exact h List.mem_cons_self
    have hcs : '/' ∉ cs := fun hcs => h (List.mem_cons_of_mem c hcs)
    simp [names, ih hcs, hc]

theorem getLast?_names_eq (path : String) :
    (names path.toList).getLast? = some (baseName path).toList := by
  rcases eq_name_or path.toList with h | ⟨head, name, hname, hpath⟩
  · rw [names_of_notMem h]
    simp [baseName, splitLast_of_notMem h]
  · rw [hpath, names_append, names_of_notMem hname]
    simp [baseName, hpath, splitLast_append hname]

theorem extension_cases (path : String) :
    extension path = "" ∨ ∃ rest, (extension path).toList = '.' :: rest := by
  unfold extension splitExtension
  dsimp only
  split_ifs
  · exact .inl rfl
  · exact .inr ⟨_, String.toList_ofList⟩

theorem extension_baseName (path : String) : extension (baseName path) = extension path := by
  have hsplit : (splitLast (baseName path).toList).2 = (splitLast path.toList).2 := by
    rw [splitLast_of_notMem (notMem_baseName path), baseName, String.toList_ofList]
  unfold extension splitExtension
  dsimp only
  rw [hsplit]
  split_ifs <;> rfl

theorem extension_eq_empty (h : baseName path ∈ ["", ".", ".."]) : extension path = "" := by
  rw [← extension_baseName]
  simp only [List.mem_cons, List.not_mem_nil, or_false] at h
  rcases h with h | h | h <;> rw [h] <;> decide

/-- A name with a dot is what stands before its last one, the dot and what stands behind it. -/
theorem take_append_last_dot {name back : List Char}
    (hback : name.reverse.takeWhile (· != '.') = back) (h : back.length ≠ name.length) :
    name.take (name.length - back.length - 1) ++ '.' :: back.reverse = name := by
  have hcut := List.takeWhile_append_dropWhile (p := (· != '.')) (l := name.reverse)
  rw [hback] at hcut
  cases hfront : name.reverse.dropWhile (· != '.') with
  | nil =>
    rw [hfront, List.append_nil] at hcut
    exact absurd (by rw [hcut, List.length_reverse]) h
  | cons c front =>
    have hc : c = '.' := by
      have hhead := List.head?_dropWhile_not (· != '.') name.reverse
      simpa [hfront] using hhead
    have hname : name = front.reverse ++ '.' :: back.reverse := by
      rw [← List.reverse_reverse name, ← hcut, hfront, hc]
      simp
    have hlen : name.length - back.length - 1 = front.reverse.length := by
      rw [hname]
      simp only [List.length_append, List.length_cons, List.length_reverse]
      omega
    rw [hlen]
    nth_rewrite 1 [hname]
    rw [List.take_left, ← hname]

theorem stem_append_extension (path : String) : stem path ++ extension path = baseName path := by
  rw [← extension_baseName]
  unfold stem extension splitExtension
  rw [splitLast_of_notMem (notMem_baseName path)]
  dsimp only
  split_ifs with h
  · simp
  · have hback := (not_or.mp (mt Bool.or_eq_true_iff.mpr h)).1
    apply String.toList_injective
    simpa using take_append_last_dot rfl (by simpa using hback)

theorem notMem_stem (path : String) : '/' ∉ (stem path).toList := by
  have h := notMem_baseName path
  rw [← stem_append_extension, String.toList_append, List.mem_append, not_or] at h
  exact h.1

/-- What stands behind the last dot of a name is its extension, unless only dots stand before it. -/
theorem extension_of_append {body behind : List Char} (hpath : path.toList = body ++ '.' :: behind)
    (hslash : '/' ∉ path.toList) (hbody : ∃ c ∈ body, c ≠ '.') (hbehind : '.' ∉ behind) :
    extension path = String.ofList ('.' :: behind) := by
  have hback : path.toList.reverse.takeWhile (· != '.') = behind.reverse := by
    rw [hpath, List.reverse_append, List.reverse_cons, List.append_assoc,
      List.takeWhile_append_of_pos]
    · simp
    · intro c hc
      have hne : c ≠ '.' := by
        rintro rfl
        exact hbehind (List.mem_reverse.mp hc)
      simpa using hne
  have htake : path.toList.take (path.toList.length - behind.reverse.length - 1) = body := by
    have hlen : path.toList.length - behind.reverse.length - 1 = body.length := by
      rw [hpath]
      simp only [List.length_append, List.length_cons, List.length_reverse]
      omega
    rw [hlen, hpath, List.take_left]
  have hdots : ¬ (behind.reverse.length == path.toList.length || body.all (· == '.')) = true := by
    obtain ⟨c, hc, hdot⟩ := hbody
    have hall : ¬ body.all (· == '.') = true := fun hall =>
      hdot (by simpa using List.all_eq_true.mp hall c hc)
    have hlen : behind.length ≠ path.toList.length := by
      rw [hpath]
      simp only [List.length_append, List.length_cons]
      omega
    simp [hall, hlen]
  unfold extension splitExtension
  rw [splitLast_of_notMem hslash]
  dsimp only
  rw [hback, htake, if_neg hdots, List.reverse_reverse]

end SheetFill.Path
