import SheetFill.Marker
import Mathlib.Order.Bounds.Basic
import Mathlib.Data.List.TakeWhile
import Mathlib.Tactic

/-!
# The grammar of markers

Where a marker stands in a text, told by the positions of its opening and of its closing brace. The
marker that counts begins at the least of these positions and ends at the greatest one from there,
and a text without any is plain. What surrounds a marker does not hide it, but its name takes in all
closing braces that come before the next blank.
-/
namespace SheetFill.Marker

/-- The opening at position `i` and the closing brace at position `j` enclose a name. -/
structure Encloses (opening cs : List Point) (i j : Nat) : Prop where
  opens : opening <+: cs.drop i
  named : i + opening.length < j
  closes : cs[j]? = some closing
  unbroken : ∀ c ∈ cs.extract (i + opening.length) j, c.isBlank = false

/-- The name that counts: the first one to be enclosed, as far as it can reach. -/
def Names (opening cs name : List Point) : Prop :=
  ∃ i j, IsLeast {i | ∃ j, Encloses opening cs i j} i ∧ IsGreatest {j | Encloses opening cs i j} j ∧
    name = cs.extract (i + opening.length) j

inductive Denotes : Value → Marker → Prop
  | field {s name} (h : Names fieldOpening s.points name) :
      Denotes (.text s) (.field ⟨name⟩)
  | each {s name} (hfield : ∀ i j, ¬ Encloses fieldOpening s.points i j)
      (h : Names eachOpening s.points name) : Denotes (.text s) (.each ⟨name⟩ [])
  | plain {s} (hfield : ∀ i j, ¬ Encloses fieldOpening s.points i j)
      (heach : ∀ i j, ¬ Encloses eachOpening s.points i j) : Denotes (.text s) .plain
  | noText {v} (h : ∀ s, v ≠ .text s) : Denotes v .plain

/-! ## Names -/

section Name

variable {cs name rest : List Point}

theorem beforeLastBrace_eq_none_iff : beforeLastBrace cs = none ↔ closing ∉ cs := by
  induction cs with
  | nil => simp [beforeLastBrace]
  | cons c cs ih =>
    rcases h : beforeLastBrace cs with _ | name
    · have hcs : closing ∉ cs := ih.mp h
      simp only [beforeLastBrace, h, List.mem_cons, hcs, or_false]
      split_ifs with hc
      · simpa using (beq_iff_eq.mp hc).symm
      · simpa using fun hf : closing = c => hc (beq_iff_eq.mpr hf.symm)
    · have hcs : closing ∈ cs := by
        by_contra hcs
        rw [ih.mpr hcs] at h
        cases h
      simp [beforeLastBrace, h, hcs]

theorem beforeLastBrace_append (h : closing ∉ rest) :
    beforeLastBrace (name ++ closing :: rest) = some name := by
  induction name with
  | nil => simp [beforeLastBrace, beforeLastBrace_eq_none_iff.mpr h]
  | cons c name ih => simp [beforeLastBrace, ih]

theorem beforeLastBrace_eq_some (h : beforeLastBrace cs = some name) :
    ∃ rest, cs = name ++ closing :: rest ∧ closing ∉ rest := by
  have hcs : closing ∈ cs := by
    by_contra hcs
    rw [beforeLastBrace_eq_none_iff.mpr hcs] at h
    cases h
  obtain ⟨back, front, hback, hlast⟩ := List.eq_append_cons_of_mem (List.mem_reverse.mpr hcs)
  have hsplit : cs = front.reverse ++ closing :: back.reverse := by
    rw [← List.reverse_reverse cs, hback]
    simp
  have hrest : closing ∉ back.reverse := by simpa using hlast
  rw [hsplit, beforeLastBrace_append hrest] at h
  obtain rfl := Option.some.inj h
  exact ⟨back.reverse, hsplit, hrest⟩

theorem length_le_of_last {name' rest' : List Point}
    (h : name' ++ closing :: rest' = name ++ closing :: rest) (hrest : closing ∉ rest) :
    name'.length ≤ name.length := by
  rcases List.append_eq_append_iff.mp h with ⟨more, rfl, -⟩ | ⟨more, rfl, hmore⟩
  · simp
  · cases more with
    | nil => simp
    | cons c more =>
      obtain ⟨-, rfl⟩ := List.cons.inj hmore
      simp at hrest

theorem takeWhile_name (h : ∀ c ∈ name, c.isBlank = false) :
    (name ++ closing :: rest).takeWhile (fun c => !c.isBlank) =
      name ++ closing :: rest.takeWhile (fun c => !c.isBlank) := by
  rw [List.takeWhile_append_of_pos (by simpa using h), List.takeWhile_cons_of_pos (by decide)]

theorem split_of_beforeLastBrace
    (h : beforeLastBrace (cs.takeWhile fun c => !c.isBlank) = some name) :
    (∀ c ∈ name, c.isBlank = false) ∧
      ∃ rest, cs = name ++ closing :: rest ∧ closing ∉ rest.takeWhile (fun c => !c.isBlank) := by
  obtain ⟨front, hrun, hfront⟩ := beforeLastBrace_eq_some h
  have hunbroken : ∀ c ∈ name, c.isBlank = false := by
    intro c hc
    have hc' : c ∈ cs.takeWhile (fun c => !c.isBlank) := by
      rw [hrun]
      exact List.mem_append_left _ hc
    simpa using List.mem_takeWhile_imp hc'
  obtain ⟨behind, rfl⟩ : ∃ behind, cs = name ++ closing :: (front ++ behind) := by
    refine ⟨cs.dropWhile (fun c => !c.isBlank), ?_⟩
    rw [← List.cons_append, ← List.append_assoc, ← hrun, List.takeWhile_append_dropWhile]
  refine ⟨hunbroken, _, rfl, ?_⟩
  rw [takeWhile_name hunbroken] at hrun
  rwa [(List.cons.inj (List.append_cancel_left hrun)).2]

theorem name?_eq_some (h : name? cs = some name) :
    name ≠ [] ∧ (∀ c ∈ name, c.isBlank = false) ∧
      ∃ rest, cs = name ++ closing :: rest ∧ closing ∉ rest.takeWhile (fun c => !c.isBlank) := by
  unfold name? at h
  split at h
  · rename_i c more hlast
    obtain rfl := Option.some.inj h
    exact ⟨by simp, split_of_beforeLastBrace hlast⟩
  · cases h

theorem name?_ne_none (hname : name ≠ []) (h : ∀ c ∈ name, c.isBlank = false) :
    name? (name ++ closing :: rest) ≠ none := by
  unfold name?
  rw [takeWhile_name h]
  rcases hlast : beforeLastBrace (name ++ closing :: rest.takeWhile fun c => !c.isBlank) with
    _ | _ | ⟨c, more⟩
  · simp [beforeLastBrace_eq_none_iff] at hlast
  · -- a brace stands behind the first character, so that the last one does not come first
    obtain ⟨rest', hrest', hlast'⟩ := beforeLastBrace_eq_some hlast
    have hle := length_le_of_last hrest' hlast'
    exact absurd (List.length_eq_zero_iff.mp (Nat.le_zero.mp hle)) hname
  · simp

end Name

/-! ## Positions -/

section Positions

variable {opening cs name rest : List Point} {i j : Nat}

theorem encloses_iff : Encloses opening cs i j ↔
    ∃ name rest, cs.drop i = opening ++ (name ++ closing :: rest) ∧ name ≠ [] ∧
      (∀ c ∈ name, c.isBlank = false) ∧ j = i + opening.length + name.length := by
  constructor
  · rintro ⟨⟨tail, htail⟩, hnamed, hcloses, hunbroken⟩
    obtain ⟨hj, hbrace⟩ := List.getElem?_eq_some_iff.mp hcloses
    have hdrop : tail = cs.drop (i + opening.length) := by
      rw [← List.drop_drop, ← htail, List.drop_left]
    have hlen : (cs.extract (i + opening.length) j).length = j - (i + opening.length) := by
      simp only [List.extract_eq_take_drop, List.length_take, List.length_drop]
      omega
    refine ⟨cs.extract (i + opening.length) j, cs.drop (j + 1), ?_, ?_, hunbroken, by omega⟩
    · have hbehind : closing :: cs.drop (j + 1) =
          (cs.drop (i + opening.length)).drop (j - (i + opening.length)) := by
        rw [List.drop_drop, Nat.add_sub_cancel' hnamed.le, List.drop_eq_getElem_cons hj, hbrace]
      rw [← htail, hdrop, hbehind, List.extract_eq_take_drop, List.take_append_drop]
    · rw [← List.length_pos_iff]
      omega
  · rintro ⟨name, rest, hdrop, hname, hunbroken, rfl⟩
    have hpos := List.length_pos_iff.mpr hname
    refine ⟨⟨_, hdrop.symm⟩, by omega, ?_, ?_⟩
    · rw [Nat.add_assoc, ← List.getElem?_drop, hdrop]
      simp
    · rw [List.extract_eq_take_drop, ← List.drop_drop, hdrop]
      simpa using hunbroken

theorem not_encloses_nil : ¬ Encloses opening [] i j := by
  rintro ⟨-, -, hcloses, -⟩
  simp at hcloses

theorem encloses_succ_iff {c : Point} :
    Encloses opening (c :: cs) (i + 1) j ↔ ∃ k, j = k + 1 ∧ Encloses opening cs i k := by
  simp only [encloses_iff, List.drop_succ_cons]
  constructor
  · rintro ⟨name, rest, hdrop, hname, hunbroken, rfl⟩
    exact ⟨i + opening.length + name.length, by omega, name, rest, hdrop, hname, hunbroken, rfl⟩
  · rintro ⟨k, rfl, name, rest, hdrop, hname, hunbroken, rfl⟩
    exact ⟨name, rest, hdrop, hname, hunbroken, by omega⟩

theorem not_encloses_zero (h : ∀ tail, cs = opening ++ tail → name? tail = none) :
    ¬ Encloses opening cs 0 j := by
  rw [encloses_iff]
  rintro ⟨name, rest, hdrop, hname, hunbroken, -⟩
  exact name?_ne_none hname hunbroken (h _ hdrop)

/-- A name behind an opening counts where no marker begins before. -/
theorem names_of_split {before behind : List Point}
    (hcs : cs = before ++ (opening ++ (name ++ closing :: behind))) (hname : name ≠ [])
    (hunbroken : ∀ c ∈ name, c.isBlank = false)
    (hbehind : closing ∉ behind.takeWhile (fun c => !c.isBlank))
    (hfirst : ∀ i j, Encloses opening cs i j → before.length ≤ i) : Names opening cs name := by
  have hdrop : cs.drop before.length = opening ++ (name ++ closing :: behind) := by
    rw [hcs, List.drop_left]
  have hencloses : Encloses opening cs before.length
      (before.length + opening.length + name.length) :=
    encloses_iff.mpr ⟨name, behind, hdrop, hname, hunbroken, rfl⟩
  refine ⟨_, _, ⟨⟨_, hencloses⟩, fun i ⟨j, h⟩ => hfirst i j h⟩, ⟨hencloses, ?_⟩, ?_⟩
  · intro j h
    obtain ⟨name', rest', hdrop', -, hunbroken', rfl⟩ := encloses_iff.mp h
    have hsame := List.append_cancel_left (hdrop'.symm.trans hdrop)
    have hrun := congrArg (List.takeWhile fun c => !c.isBlank) hsame
    rw [takeWhile_name hunbroken', takeWhile_name hunbroken] at hrun
    exact Nat.add_le_add_left (length_le_of_last hrun hbehind) _
  · rw [List.extract_eq_take_drop, ← List.drop_drop, hdrop, List.drop_left]
    simp

theorem Names.cons {c : Point} (h : Names opening cs name)
    (hzero : ∀ j, ¬ Encloses opening (c :: cs) 0 j) : Names opening (c :: cs) name := by
  obtain ⟨i, j, ⟨⟨k, hk⟩, hleast⟩, ⟨hencloses, hgreatest⟩, rfl⟩ := h
  refine ⟨i + 1, j + 1, ⟨⟨k + 1, encloses_succ_iff.mpr ⟨k, rfl, hk⟩⟩, ?_⟩,
    ⟨encloses_succ_iff.mpr ⟨j, rfl, hencloses⟩, ?_⟩, ?_⟩
  · rintro (_ | i') ⟨j', h'⟩
    · exact absurd h' (hzero j')
    · obtain ⟨k', -, h'⟩ := encloses_succ_iff.mp h'
      exact Nat.succ_le_succ (hleast ⟨k', h'⟩)
  · intro j' h'
    obtain ⟨k', rfl, hk'⟩ := encloses_succ_iff.mp h'
    exact Nat.succ_le_succ (hgreatest hk')
  · have hstart : i + 1 + opening.length = (i + opening.length) + 1 := by omega
    rw [List.extract_eq_take_drop, List.extract_eq_take_drop, hstart, List.drop_succ_cons]
    congr 1
    omega

theorem Names.unique {name' : List Point} (h : Names opening cs name)
    (h' : Names opening cs name') : name = name' := by
  obtain ⟨i, j, hi, hj, rfl⟩ := h
  obtain ⟨i', j', hi', hj', rfl⟩ := h'
  obtain rfl := hi.unique hi'
  obtain rfl := hj.unique hj'
  rfl

end Positions

/-! ## The marker that counts -/

/-- The search finds the name that counts, or there is none. -/
theorem names_find? (opening cs : List Point) :
    match find? opening cs with
    | some name => Names opening cs name
    | none => ∀ i j, ¬ Encloses opening cs i j := by
  induction cs with
  | nil => exact fun i j => not_encloses_nil
  | cons c cs ih =>
    have hgoesOn (hzero : ∀ tail, c :: cs = opening ++ tail → name? tail = none)
        (hfind : find? opening (c :: cs) = find? opening cs) :
        match find? opening (c :: cs) with
        | some name => Names opening (c :: cs) name
        | none => ∀ i j, ¬ Encloses opening (c :: cs) i j := by
      rw [hfind]
      cases hrest : find? opening cs with
      | some name =>
        rw [hrest] at ih
        exact ih.cons fun j => not_encloses_zero hzero
      | none =>
        rw [hrest] at ih
        rintro (_ | i) j h
        · exact not_encloses_zero hzero h
        · obtain ⟨k, -, h⟩ := encloses_succ_iff.mp h
          exact ih i k h
    by_cases hopens : opening.isPrefixOf (c :: cs)
    · obtain ⟨tail, htail⟩ := List.isPrefixOf_iff_prefix.mp hopens
      have hdrop : (c :: cs).drop opening.length = tail := by
        rw [← htail, List.drop_left]
      cases hname : name? tail with
      | some name =>
        obtain ⟨hne, hunbroken, rest, rfl, hrest⟩ := name?_eq_some hname
        have hfind : find? opening (c :: cs) = some name := by
          rw [find?, if_pos hopens, hdrop, hname]
        have hcs : c :: cs = [] ++ (opening ++ (name ++ closing :: rest)) := htail.symm
        rw [hfind]
        exact names_of_split hcs hne hunbroken hrest fun _ _ _ => Nat.zero_le _
      | none =>
        refine hgoesOn (fun tail' h => ?_) (by rw [find?, if_pos hopens, hdrop, hname])
        rw [← hname, List.append_cancel_left (htail.trans h)]
    · refine hgoesOn (fun tail h => ?_) (by rw [find?, if_neg hopens])
      exact absurd (List.isPrefixOf_iff_prefix.mpr ⟨tail, h.symm⟩) hopens

theorem find?_eq_some_iff {opening cs name : List Point} :
    find? opening cs = some name ↔ Names opening cs name := by
  have h := names_find? opening cs
  cases hfind : find? opening cs with
  | some name' =>
    rw [hfind] at h
    exact ⟨fun hsome => Option.some.inj hsome ▸ h, fun h' => congrArg some (h.unique h')⟩
  | none =>
    rw [hfind] at h
    refine ⟨fun hsome => (nomatch hsome), fun h' => ?_⟩
    obtain ⟨i, j, ⟨⟨k, hk⟩, -⟩, -⟩ := h'
    exact absurd hk (h i k)

theorem find?_eq_none_iff {opening cs : List Point} :
    find? opening cs = none ↔ ∀ i j, ¬ Encloses opening cs i j := by
  have h := names_find? opening cs
  cases hfind : find? opening cs with
  | some name =>
    rw [hfind] at h
    obtain ⟨i, j, -, ⟨hencloses, -⟩, -⟩ := h
    exact ⟨fun hnone => (nomatch hnone), fun hnone => absurd hencloses (hnone i j)⟩
  | none =>
    rw [hfind] at h
    exact ⟨fun _ => h, fun _ => rfl⟩

theorem ofText_of_field {s : Text} {name : List Point} (h : Names fieldOpening s.points name) :
    ofText s = .field ⟨name⟩ := by
  simp only [ofText, find?_eq_some_iff.mpr h]

theorem ofText_of_each {s : Text} {name : List Point}
    (hfield : ∀ i j, ¬ Encloses fieldOpening s.points i j) (h : Names eachOpening s.points name) :
    ofText s = .each ⟨name⟩ [] := by
  simp only [ofText, find?_eq_none_iff.mpr hfield, find?_eq_some_iff.mpr h]

theorem ofText_of_none {s : Text} (hfield : ∀ i j, ¬ Encloses fieldOpening s.points i j)
    (heach : ∀ i j, ¬ Encloses eachOpening s.points i j) : ofText s = .plain := by
  simp only [ofText, find?_eq_none_iff.mpr hfield, find?_eq_none_iff.mpr heach]

theorem denotes_ofText (s : Text) : Denotes (.text s) (ofText s) := by
  cases hfield : find? fieldOpening s.points with
  | some name =>
    have h := find?_eq_some_iff.mp hfield
    rw [ofText_of_field h]
    exact .field h
  | none =>
    have hnone := find?_eq_none_iff.mp hfield
    cases heach : find? eachOpening s.points with
    | some name =>
      have h := find?_eq_some_iff.mp heach
      rw [ofText_of_each hnone h]
      exact .each hnone h
    | none =>
      have hnone' := find?_eq_none_iff.mp heach
      rw [ofText_of_none hnone hnone']
      exact .plain hnone hnone'

/-- Every value is classified as the grammar says, and in no other way. -/
theorem ofValue_eq_iff (v : Value) (m : Marker) : ofValue v = m ↔ Denotes v m := by
  constructor
  · rintro rfl
    cases v with
    | text s => exact denotes_ofText s
    | _ => exact .noText (by simp)
  · intro h
    cases h with
    | field h => exact ofText_of_field h
    | each hfield h => exact ofText_of_each hfield h
    | plain hfield heach => exact ofText_of_none hfield heach
    | noText h =>
      cases v with
      | text s => exact absurd rfl (h s)
      | _ => rfl

/-! ## Markers amid other text -/

/-- What a name takes in of the text behind its closing brace: the brace and all up to the last one
before the next blank, or nothing where there is no other. -/
inductive TakesIn : List Point → List Point → Prop
  | nothing {behind} (h : closing ∉ behind.takeWhile (fun c => !c.isBlank)) : TakesIn behind []
  | upTo {more rest} (hmore : ∀ c ∈ more, c.isBlank = false)
      (h : closing ∉ rest.takeWhile (fun c => !c.isBlank)) :
      TakesIn (more ++ closing :: rest) (closing :: more)

def amid (opening : List Point) (before name behind : Text) : Value :=
  .text ⟨before.points ++ (opening ++ (name.points ++ closing :: behind.points))⟩

section Amid

variable {opening before name behind taken : List Point} {i j : Nat}

theorem exists_takesIn (behind : List Point) : ∃ taken, TakesIn behind taken := by
  cases h : beforeLastBrace (behind.takeWhile fun c => !c.isBlank) with
  | none => exact ⟨[], .nothing (beforeLastBrace_eq_none_iff.mp h)⟩
  | some more =>
    obtain ⟨hmore, rest, rfl, hrest⟩ := split_of_beforeLastBrace h
    exact ⟨_, .upTo hmore hrest⟩

theorem TakesIn.split (h : TakesIn behind taken) :
    (∀ c ∈ taken, c.isBlank = false) ∧
      ∃ rest, closing :: behind = taken ++ closing :: rest ∧
        closing ∉ rest.takeWhile (fun c => !c.isBlank) := by
  cases h with
  | nothing h => exact ⟨by simp, behind, rfl, h⟩
  | @upTo more rest hmore h =>
    refine ⟨?_, rest, rfl, h⟩
    rintro c (_ | ⟨_, hc⟩)
    · decide
    · exact hmore c hc

/-- No opening begins in a text without one and ends behind it, where another begins. -/
theorem le_of_encloses {o : Point} {os rest : List Point} (ho : o ∉ os)
    (hbefore : ¬ o :: os <:+: before) (h : Encloses (o :: os) (before ++ o :: rest) i j) :
    before.length ≤ i := by
  by_contra hlt
  obtain ⟨tail, htail⟩ := h.opens
  rw [List.drop_append_of_le_length (by omega)] at htail
  have hinfix : ¬ o :: os <:+: before.drop i := fun hin =>
    hbefore (hin.trans (List.drop_suffix i before).isInfix)
  rcases List.append_eq_append_iff.mp htail with ⟨more, hmore, -⟩ | ⟨more, hmore, hrest⟩
  · exact hinfix ⟨[], more, by rw [hmore, List.nil_append]⟩
  · cases more with
    | nil => exact hinfix (by rw [hmore, List.append_nil])
    | cons c more =>
      obtain ⟨rfl, -⟩ := List.cons.inj hrest
      have hne : before.drop i ≠ [] := by
        rw [ne_eq, List.drop_eq_nil_iff]
        omega
      obtain ⟨d, ds, hds⟩ := List.exists_cons_of_ne_nil hne
      rw [hds, List.cons_append] at hmore
      exact ho ((List.cons.inj hmore).2 ▸ by simp)

theorem infix_append_cons {l a b : List Point} {c : Point} (hc : c ∉ l) (h : l <:+: a ++ c :: b) :
    l <:+: a ∨ l <:+: b := by
  rcases List.infix_append_iff.mp h with h | h | ⟨l₁, l₂, rfl, h₁, h₂⟩
  · exact .inl h
  · rcases List.infix_cons_iff.mp h with h | h
    · cases l with
      | nil => exact .inl (List.nil_infix)
      | cons d l => simp [(List.cons_prefix_cons.mp h).1] at hc
    · exact .inr h
  · cases l₂ with
    | nil => exact .inl (by simpa using h₁.isInfix)
    | cons d l₂ => simp [(List.cons_prefix_cons.mp h₂).1] at hc

/-- A block marker holds no opening of a field, nor does what stands behind its name. -/
theorem not_infix_each (hname : .char '{' ∉ name) (hbehind : ¬ fieldOpening <:+: behind) :
    ¬ fieldOpening <:+: eachOpening ++ (name ++ closing :: behind) := by
  intro h
  have hrest : fieldOpening <:+: name ++ closing :: behind := by
    simpa [eachOpening, fieldOpening, List.infix_cons_iff] using h
  rcases infix_append_cons (by decide) hrest with h | h
  · exact hname (h.subset (by decide))
  · exact hbehind h

theorem names_amid (hname : name ≠ []) (hunbroken : ∀ c ∈ name, c.isBlank = false)
    (h : TakesIn behind taken)
    (hfirst : ∀ i j, Encloses opening (before ++ (opening ++ (name ++ closing :: behind))) i j →
      before.length ≤ i) :
    Names opening (before ++ (opening ++ (name ++ closing :: behind))) (name ++ taken) := by
  obtain ⟨htaken, rest, hrest, hlast⟩ := h.split
  have hcs : before ++ (opening ++ (name ++ closing :: behind)) =
      before ++ (opening ++ ((name ++ taken) ++ closing :: rest)) := by
    rw [hrest, List.append_assoc name]
  refine names_of_split hcs (by simp [hname]) ?_ hlast hfirst
  intro c hc
  exact (List.mem_append.mp hc).elim (hunbroken c) (htaken c)

end Amid

/-- A marker is found amid any text in which no other one begins before it. Its name is what stands
up to its closing brace, and beyond that what it takes in of the text behind. -/
theorem ofValue_amid {before name behind : Text} (hname : name ≠ "")
    (hclean : ∀ c ∈ name.points, c.isBlank = false ∧ c ≠ '{' ∧ c ≠ closing)
    (hbefore : ¬ fieldOpening <:+: before.points) :
    (∃ taken, TakesIn behind.points taken) ∧
      ∀ taken, TakesIn behind.points taken →
        ofValue (amid fieldOpening before name behind) = .field ⟨name.points ++ taken⟩ ∧
        (¬ fieldOpening <:+: behind.points → ¬ eachOpening <:+: before.points →
          ofValue (amid eachOpening before name behind) = .each ⟨name.points ++ taken⟩ []) := by
  have hne : name.points ≠ [] := fun h => hname (congrArg Text.mk h)
  have hunbroken : ∀ c ∈ name.points, c.isBlank = false := fun c hc => (hclean c hc).1
  refine ⟨exists_takesIn _, fun taken htaken => ⟨?_, fun hbehind heach => ?_⟩⟩
  · refine ofText_of_field ?_
    exact names_amid hne hunbroken htaken fun i j => le_of_encloses (by decide) hbefore
  · refine ofText_of_each ?_ ?_
    · intro i j h
      have hle := le_of_encloses (by decide) hbefore h
      have hin := not_infix_each (fun hc => (hclean _ hc).2.1 rfl) hbehind
      refine hin (h.opens.isInfix.trans ?_)
      rw [List.drop_append, List.drop_eq_nil_of_le hle, List.nil_append]
      exact (List.drop_suffix _ _).isInfix
    · exact names_amid hne hunbroken htaken fun i j => le_of_encloses (by decide) heach

theorem ofValue_amid_items : (("items" : Text) ≠ "" ∧
      (∀ c ∈ ("items" : Text).points, c.isBlank = false ∧ c ≠ '{' ∧ c ≠ closing) ∧
      ¬ fieldOpening <:+: ("All " : Text).points) ∧
    ofValue (.text "All $F{items}/{price} each") = .field "items\x7d/\x7bprice" ∧
      ofValue (.text "All $Each{items}/{price} each") = .each "items\x7d/\x7bprice" [] := by
  have hname : ("items" : Text) ≠ "" := by decide
  have hclean : ∀ c ∈ ("items" : Text).points, c.isBlank = false ∧ c ≠ '{' ∧ c ≠ closing := by
    decide +kernel
  have hmore : ∀ c ∈ ("/\x7bprice" : Text).points, c.isBlank = false := by
    decide +kernel
  have hbefore : ¬ fieldOpening <:+: ("All " : Text).points := by
    decide +kernel
  have htaken : TakesIn ("/{price} each" : Text).points ("\x7d/\x7bprice" : Text).points :=
    @TakesIn.upTo ("/\x7bprice" : Text).points (" each" : Text).points hmore (by decide +kernel)
  obtain ⟨-, hresult⟩ := @ofValue_amid "All " "items" "/{price} each" hname hclean hbefore
  obtain ⟨hfield, heach⟩ := hresult _ htaken
  exact ⟨⟨hname, hclean, hbefore⟩, hfield, heach (by decide +kernel) (by decide +kernel)⟩

/-- The name of a marker is not always what stands up to its own closing brace: of two fields beside
each other the first one takes in the second. -/
theorem ofValue_adjacent : ¬ ∀ before name behind : Text, name ≠ "" →
    (∀ c ∈ name.points, c.isBlank = false ∧ c ≠ '{' ∧ c ≠ closing) →
    ¬ fieldOpening <:+: before.points →
    ofValue (amid fieldOpening before name behind) = .field name := by
  intro h
  have hadjacent : ofValue (amid fieldOpening "" "first" "$F{last}") =
      .field "first\x7d$F\x7blast" := by
    decide +kernel
  have hfirst := h "" "first" "$F{last}" (by decide) (by decide +kernel) (by decide +kernel)
  exact absurd (hadjacent.symm.trans hfirst) (by decide +kernel)

end SheetFill.Marker
