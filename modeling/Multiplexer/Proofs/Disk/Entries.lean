import Multiplexer.Disk.Basic

/-!
# What the operations on files do to the entries of a disk

Once the directories on the way to a path are there, what is found at the path is
its entry. Making directories, writing and renaming change the entries they are
about and no others.
-/

namespace Multiplexer

namespace Disk

/-- Whether every directory above a path is there. -/
def Reaches (d : Disk) (p : Path) : Prop :=
  ∀ i, i < List.length p → d.entry? (List.take i p) = some .folder

/-- Whether nothing stands at a path without the directories above it. -/
def Rooted (d : Disk) (p : Path) : Prop := d.entry? p ≠ none → d.Reaches p

variable {d d' : Disk} {p q : Path} {e : Entry}

@[simp] theorem entry?_nil (d : Disk) : d.entry? [] = some .folder := rfl

theorem entry?_of_ne_nil (d : Disk) (hp : p ≠ []) : d.entry? p = d.entries.lookup p := by
  cases p with
  | nil => exact absurd rfl hp
  | cons name rest => rfl

theorem lookup_filter_ne (entries : List (Path × Entry)) (p q : Path) :
    (entries.filter fun x => x.1 ≠ p).lookup q = if q = p then none else entries.lookup q := by
  induction entries with
  | nil => simp
  | cons x entries ih =>
    obtain ⟨at', e⟩ := x
    by_cases hx : at' = p
    · subst hx
      simp only [ne_eq, not_true_eq_false, decide_false, Bool.false_eq_true, not_false_eq_true,
        List.filter_cons_of_neg, ih, List.lookup_cons]
      by_cases hq : q = at'
      · simp [hq]
      · simp [hq, beq_eq_false_iff_ne.2 hq]
    · simp only [ne_eq, hx, not_false_eq_true, decide_true, List.filter_cons_of_pos,
        List.lookup_cons, ih]
      by_cases hq : q = at'
      · simp [hq, hx]
      · simp [beq_eq_false_iff_ne.2 hq]

/-- A new entry stands at its path, and at no other. -/
theorem entry?_put (d : Disk) (hp : p ≠ []) (e : Entry) :
    Disk.entry? (d.put p e) q = if q = p then some e else d.entry? q := by
  by_cases hq : q = []
  · subst hq
    simp [hp.symm]
  · rw [entry?_of_ne_nil _ hq, entry?_of_ne_nil _ hq, put, List.lookup_append, lookup_filter_ne]
    by_cases hsame : q = p
    · simp [hsame]
    · simp [hsame, List.lookup_cons, beq_eq_false_iff_ne.2 hsame]

/-- An entry that is dropped is gone, and no other is. -/
theorem entry?_drop (d : Disk) (hp : p ≠ []) :
    Disk.entry? (d.drop p) q = if q = p then none else d.entry? q := by
  by_cases hq : q = []
  · subst hq
    simp [hp.symm]
  · rw [entry?_of_ne_nil _ hq, entry?_of_ne_nil _ hq, drop, lookup_filter_ne]

/-- Where the directories are there, the entry of a path is found. -/
theorem find_of_reaches (h : d.Reaches p) : d.find p = .ok (d.entry? p) := by
  have hwalk (at' rest : Path)
      (h : ∀ i, i < List.length rest → d.entry? (at' ++ List.take i rest) = some .folder) :
      find.walk d at' rest = .ok (d.entry? (at' ++ rest)) := by
    induction rest generalizing at' with
    | nil => simp [find.walk]
    | cons name rest ih =>
      have hhere := h 0 (by simp)
      rw [List.take_zero, List.append_nil] at hhere
      rw [find.walk, hhere]
      simp only
      rw [ih (at' ++ [name]) fun i hi => by simpa using h (i + 1) (by simpa using hi)]
      simp
  exact hwalk [] p h

/-- What is found at a path is its entry. -/
theorem entry?_of_find {found : Option Entry} (h : d.find p = .ok found) : d.entry? p = found := by
  have hwalk (at' rest : Path) (h : find.walk d at' rest = .ok found) :
      d.entry? (at' ++ rest) = found := by
    induction rest generalizing at' with
    | nil => simpa [find.walk] using h
    | cons name rest ih =>
      rw [find.walk] at h
      split at h
      · simpa using ih _ h
      · cases h
      · cases h
  exact hwalk [] p h

/-- What is found has its directories above it. -/
theorem reaches_of_find {found : Option Entry} (h : d.find p = .ok found) : d.Reaches p := by
  have hwalk (at' rest : Path) (h : find.walk d at' rest = .ok found) :
      ∀ i, i < List.length rest → d.entry? (at' ++ List.take i rest) = some .folder := by
    induction rest generalizing at' with
    | nil => simp
    | cons name rest ih =>
      rw [find.walk] at h
      split at h
      · rename_i hfolder
        intro i hi
        cases i with
        | zero => simpa using hfolder
        | succ i => simpa using ih _ h i (by simpa using hi)
      · cases h
      · cases h
  exact hwalk [] p h

theorem readText_of_find_none (h : d.find p = .ok none) : d.readText p = .error .notFound := by
  simp [readText, read, h, bind, Except.bind, throw, throwThe, MonadExceptOf.throw]

/-- Where nothing stands, nothing can be read. -/
theorem readText_of_none (h : d.entry? p = none) : ∃ e, d.readText p = .error e := by
  cases hfind : d.find p with
  | error e => exact ⟨e, by simp [readText, read, hfind, bind, Except.bind]⟩
  | ok found =>
    obtain rfl := (entry?_of_find hfind).symm.trans h
    exact ⟨_, readText_of_find_none hfind⟩

/-- What is read at a path depends on what is found there alone. -/
theorem readText_congr (h : d'.find p = d.find p) : d'.readText p = d.readText p := by
  simp only [readText, read, h]

/-- What making directories changes: a path of theirs where nothing stood is a directory. -/
theorem createFolders_spec (h : d.createFolders p = .ok d') :
    (∀ i, i ≤ List.length p → d'.entry? (List.take i p) = some .folder) ∧
      ∀ q, d'.entry? q = d.entry? q ∨
        d.entry? q = none ∧ d'.entry? q = some .folder ∧ ∃ i, i ≤ List.length p ∧ q = List.take i p := by
  have hwalk (at' rest : Path) (d : Disk) (h : createFolders.walk d at' rest = .ok d')
      (hhere : d.entry? at' = some .folder) :
      (∀ i, i ≤ List.length rest → d'.entry? (at' ++ List.take i rest) = some .folder) ∧
        ∀ q, d'.entry? q = d.entry? q ∨ d.entry? q = none ∧ d'.entry? q = some .folder ∧
          ∃ i, i ≤ List.length rest ∧ q = at' ++ List.take i rest := by
    induction rest generalizing at' d with
    | nil =>
      cases h
      exact ⟨fun i _ => by simpa using hhere, fun q => .inl rfl⟩
    | cons name rest ih =>
      obtain ⟨d₁, hrest, hname, hold⟩ : ∃ d₁, createFolders.walk d₁ (at' ++ [name]) rest = .ok d' ∧
          d₁.entry? (at' ++ [name]) = some .folder ∧ ∀ q, d₁.entry? q = d.entry? q ∨
            d.entry? q = none ∧ d₁.entry? q = some .folder ∧ q = at' ++ [name] := by
        rw [createFolders.walk] at h
        cases hentry : d.entry? (at' ++ [name]) with
        | none =>
          simp only [hentry] at h
          refine ⟨_, h, by simp [entry?_put], fun q => ?_⟩
          by_cases hq : q = at' ++ [name]
          · exact .inr ⟨hq ▸ hentry, by simp [entry?_put, hq], hq⟩
          · exact .inl (by simp [entry?_put, hq])
        | some e =>
          cases e with
          | folder =>
            simp only [hentry] at h
            exact ⟨d, h, hentry, fun q => .inl rfl⟩
          | file bytes =>
            simp only [hentry] at h
            cases h
      obtain ⟨hfolders, hchange⟩ := ih (at' ++ [name]) d₁ hrest hname
      have hnext (i : Nat) : at' ++ List.take (i + 1) (name :: rest) =
          (at' ++ [name]) ++ List.take i rest := by simp
      refine ⟨fun i hi => ?_, fun q => ?_⟩
      · cases i with
        | zero =>
          rcases hchange at' with hsame | ⟨-, hfolder, -⟩
          · rcases hold at' with hsame' | ⟨hnone, -, -⟩
            · simp [hsame, hsame', hhere]
            · simp [hhere] at hnone
          · simpa using hfolder
        | succ i => rw [hnext, hfolders i (by simpa using hi)]
      · rcases hchange q with hsame | ⟨hnone, hfolder, i, hi, hq⟩
        · rcases hold q with hsame' | ⟨hnone, hfolder, hq⟩
          · exact .inl (hsame.trans hsame')
          · exact .inr ⟨hnone, hsame.trans hfolder, 1, by simp, by simpa using hq⟩
        · rcases hold q with hsame' | ⟨hnone', hfolder', -⟩
          · exact .inr ⟨hsame' ▸ hnone, hfolder, i + 1, by simpa using hi, by rw [hq, hnext]⟩
          · simp [hfolder'] at hnone
  exact hwalk [] p d h rfl

/-- To write a file changes one entry. -/
theorem write_eq_ok {bytes : ByteArray} (h : d.write p bytes = .ok d') :
    d' = d.put p (.file bytes) := by
  unfold write at h
  cases hfind : d.find p with
  | error e => simp [hfind, bind, Except.bind] at h
  | ok found =>
    simp only [hfind, bind, Except.bind] at h
    split at h
    · cases h
    · cases h
      rfl

/-- To move a file takes its bytes to the other path. -/
theorem rename_eq_ok {source target : Path} (h : d.rename source target = .ok d') :
    ∃ bytes, d.read source = .ok bytes ∧ d' = (d.drop source).put target (.file bytes) := by
  unfold rename at h
  cases hread : d.read source with
  | error e => simp [hread, bind, Except.bind] at h
  | ok bytes =>
    cases hfind : d.find target with
    | error e => simp [hread, hfind, bind, Except.bind] at h
    | ok found =>
      simp only [hread, hfind, bind, Except.bind] at h
      split at h
      · cases h
      · cases h
        exact ⟨bytes, rfl, rfl⟩

theorem read_of_reaches {bytes : ByteArray} (h : d.Reaches p)
    (hfile : d.entry? p = some (.file bytes)) : d.read p = .ok bytes := by
  simp [read, find_of_reaches h, hfile, bind, Except.bind, pure, Except.pure]

theorem fromUTF8?_toUTF8 (text : String) : String.fromUTF8? text.toUTF8 = some text := by
  unfold String.fromUTF8?
  exact dif_pos text.isValidUTF8

/-- A text that was written is read as it was. -/
theorem readText_of_reaches {text : String} (h : d.Reaches p)
    (hfile : d.entry? p = some (.file text.toUTF8)) : d.readText p = .ok text := by
  have hutf8 := fromUTF8?_toUTF8 text
  rw [readText, read_of_reaches h hfile]
  simp only [bind, Except.bind, hutf8]
  rfl

/-- Whether a path is none of the directories above another. -/
def Beside (p q : Path) : Prop := ∀ i, i < List.length q → List.take i q ≠ p

/-- A new entry beside the way to a path leaves the path within reach. -/
theorem Reaches.put (h : d.Reaches q) (hp : p ≠ []) (hbeside : Beside p q) (e : Entry) :
    (d.put p e).Reaches q := by
  intro i hi
  rw [entry?_put d hp, if_neg (hbeside i hi)]
  exact h i hi

theorem Reaches.drop (h : d.Reaches q) (hp : p ≠ []) (hbeside : Beside p q) :
    (d.drop p).Reaches q := by
  intro i hi
  rw [entry?_drop d hp, if_neg (hbeside i hi)]
  exact h i hi

/-- Paths of the same length are none above the other. -/
theorem beside_of_length (h : List.length q ≤ List.length p) : Beside p q := by
  rintro i hi rfl
  simp only [List.length_take] at h
  omega

/-- Once the directories above it are made, a path is within reach. -/
theorem reaches_of_createFolders (h : d.createFolders (List.dropLast p) = .ok d') : d'.Reaches p := by
  intro i hi
  have hfolders := (createFolders_spec h).1 i (by simp; omega)
  rwa [List.dropLast_eq_take, List.take_take, Nat.min_eq_left (by omega)] at hfolders

/-- Making the directories above a path leaves its own entry alone. -/
theorem entry?_of_createFolders (hp : p ≠ []) (h : d.createFolders (List.dropLast p) = .ok d')
    (hq : List.length q = List.length p) : d'.entry? q = d.entry? q := by
  rcases (createFolders_spec h).2 q with hsame | ⟨-, -, i, -, rfl⟩
  · exact hsame
  · have hpos := List.length_pos_iff.2 hp
    simp only [List.length_take, List.length_dropLast] at hq
    omega

section Extension

/-- A name without its extension is another one with an extension that has a dot in it. -/
theorem ne_extended (cs : List Char) {extension : List Char} (hdot : '.' ∈ extension) :
    cs ≠ extension ++ '.' ::
      (if ((cs.dropWhile (· ≠ '.')).drop 1).isEmpty then cs
        else (cs.dropWhile (· ≠ '.')).drop 1) := by
  intro h
  obtain ⟨stem, hstem⟩ : ∃ stem, stem = if ((cs.dropWhile (· ≠ '.')).drop 1).isEmpty then cs
      else (cs.dropWhile (· ≠ '.')).drop 1 := ⟨_, rfl⟩
  rw [← hstem] at h
  obtain ⟨c, rest, hrest⟩ : ∃ c rest, extension.dropWhile (· ≠ '.') = c :: rest := by
    rw [← List.ne_nil_iff_exists_cons]
    intro hnil
    have htake := List.takeWhile_append_dropWhile (p := fun c => decide (c ≠ '.')) (l := extension)
    rw [hnil, List.append_nil] at htake
    have hall : extension.all (· ≠ '.') = true := by rw [← htake, List.all_takeWhile]
    simpa using List.all_eq_true.mp hall '.' hdot
  have hdrop : (cs.dropWhile (· ≠ '.')).drop 1 = rest ++ '.' :: stem := by
    rw [h, List.dropWhile_append, hrest]
    rfl
  rw [hdrop, if_neg (by simp)] at hstem
  have hlength := congrArg List.length hstem
  simp only [List.length_append, List.length_cons] at hlength
  omega

/-- With an extension that has a dot in it, a path leads to another name in the same directory. -/
theorem withExtension_spec (hp : p ≠ []) {extension : String} (hdot : '.' ∈ extension.toList) :
    withExtension p extension ≠ [] ∧ withExtension p extension ≠ p ∧
      List.length (withExtension p extension) = List.length p ∧
      List.dropLast (withExtension p extension) = List.dropLast p := by
  obtain ⟨name, hname⟩ : ∃ name, p.getLast? = some name :=
    Option.isSome_iff_exists.1 (by simpa using hp)
  have hlast : List.dropLast p ++ [name] = p := by
    rw [List.getLast?_eq_some_getLast hp] at hname
    cases hname
    exact List.dropLast_concat_getLast hp
  obtain ⟨name', hname', hextended⟩ : ∃ name', name' ≠ name ∧
      withExtension p extension = List.dropLast p ++ [name'] := by
    refine ⟨_, ?_, by rw [withExtension, hname]⟩
    intro hsame
    have hchars := congrArg (fun s : String => s.toList.reverse) hsame
    simp at hchars
    exact ne_extended name.toList.reverse (List.mem_reverse.mpr hdot) (by simpa using hchars.symm)
  rw [hextended]
  refine ⟨by simp, ?_, ?_, by simp⟩
  · intro hsame
    rw [← hlast] at hsame
    simp only [List.dropLast_concat, List.append_cancel_left_eq, List.cons.injEq, and_true] at hsame
    exact hname' hsame
  · rw [← hlast]
    simp

/-- What was written beside a file and then moved over it is in the file. -/
theorem replaced {extension : String} (hdot : '.' ∈ extension.toList) {bytes : ByteArray}
    {d₁ d₂ d₃ : Disk} (hfolders : d.createFolders (List.dropLast p) = .ok d₁)
    (hwrite : d₁.write (withExtension p extension) bytes = .ok d₂)
    (hrename : d₂.rename (withExtension p extension) p = .ok d₃) :
    d₃.Reaches p ∧ d₃.entry? p = some (.file bytes) := by
  obtain ⟨moved, hread, hmoved⟩ := rename_eq_ok hrename
  have hp : p ≠ [] := by
    rintro rfl
    cases hread
  obtain ⟨hne, -, hlength, hdir⟩ := withExtension_spec hp hdot
  have hwritten := write_eq_ok hwrite
  have hbeside : Beside (withExtension p extension) p :=
    beside_of_length (Nat.le_of_eq hlength.symm)
  have hreaches : d₂.Reaches p :=
    hwritten ▸ (reaches_of_createFolders hfolders).put hne hbeside _
  have hbytes : moved = bytes := by
    have hsource : d₂.Reaches (withExtension p extension) :=
      hwritten ▸ (reaches_of_createFolders (hdir ▸ hfolders)).put hne
        (beside_of_length (Nat.le_refl _)) _
    have hfound := read_of_reaches hsource (by rw [hwritten, entry?_put _ hne, if_pos rfl])
    exact Except.ok.inj (hread.symm.trans hfound)
  rw [hmoved, hbytes]
  exact ⟨(hreaches.drop hne hbeside).put hp (beside_of_length (Nat.le_refl _)) _,
    by rw [entry?_put _ hp, if_pos rfl]⟩

end Extension

end Disk

end Multiplexer
