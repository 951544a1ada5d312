import Mathlib.Tactic.SplitIfs
import Multiplexer.Json.Reader
import Multiplexer.Json.Writer

/-!
# Reading what was written

A value that names a text and one number only is read back from its text, item a
line, as the very value. Each lemma is about one function of the reader and any
text behind the part it reads; fuel is at least the length of that part.
-/

namespace Multiplexer

/-- Digits where the grammar has some, and no zero in front. -/
structure Numeral.WellFormed (n : Numeral) : Prop where
  whole : n.whole ≠ []
  noZero : 1 < n.whole.length → n.whole.head?.map Fin.val ≠ some 0
  fraction : n.fraction ≠ some []
  exponent : ∀ e, n.exponent = some e → e.2 ≠ []

namespace Numeral

def fractionChars (n : Numeral) : List Char :=
  match n.fraction with
  | some ds => '.' :: ds.chars
  | none => []

def exponentChars (n : Numeral) : List Char :=
  match n.exponent with
  | some (down, ds) => 'e' :: ((if down then ['-'] else []) ++ ds.chars)
  | none => []

/-- A numeral is its sign, its whole digits, its fraction and its exponent. -/
theorem chars_eq (n : Numeral) :
    n.chars = (if n.negative then ['-'] else []) ++ n.whole.chars ++ n.fractionChars ++
      n.exponentChars := rfl

end Numeral

/-- A value that its text says all of. -/
inductive Json.Writable : Json → Prop where
  | null : Writable .null
  | bool (b : Bool) : Writable (.bool b)
  | number {n : Numeral} (h : n.WellFormed) : Writable (.number n)
  | string (s : String) : Writable (.string (some s))
  | array {items : List Json} (h : ∀ j ∈ items, Writable j) : Writable (.array items)
  | object {fields : List (Option String × Json)} (hkeys : ∀ f ∈ fields, f.1.isSome)
      (h : ∀ f ∈ fields, Writable f.2) : Writable (.object fields)

namespace Json.Reader

section Strings

def itemOf (c : Char) : Item :=
  if c.toNat < 0x20 ∧ c ∉ ['\x08', '\x0c', '\n', '\r', '\t'] then .unit c.toNat else .char c

theorem toList_quote (s : String) :
    (quote s).toList = '"' :: s.toList.flatMap escape ++ ['"'] := by
  have hfold (cs : List Char) (out : String) :
      (cs.foldl (fun out c => out ++ String.ofList (escape c)) out).toList =
        out.toList ++ cs.flatMap escape := by
    induction cs generalizing out with
    | nil => simp
    | cons c cs ih => simp [ih]
  have happend (t : String) : ("\"".append t).toList = '"' :: t.toList := String.toList_append
  simp [quote, happend, String.foldl_eq_foldl_toList, hfold]

theorem length_le_flatMap_escape (cs : List Char) : cs.length ≤ (cs.flatMap escape).length := by
  induction cs with
  | nil => simp
  | cons c cs ih =>
    have hone : 0 < (escape c).length := by
      unfold escape
      split_ifs <;> simp
    simp only [List.flatMap_cons, List.length_cons, List.length_append]
    omega

theorem hexDigit?_digitChar {n : Nat} (h : n < 16) : hexDigit? (Nat.digitChar n) = some n := by
  have hall : ∀ n : Fin 16, hexDigit? (Nat.digitChar n) = some n.val := by decide
  exact hall ⟨n, h⟩

/-- An escaped character is read as one item. -/
theorem items?_escape (fuel : Nat) (read : List Item) (c : Char) (rest : Rest) :
    items? (fuel + 1) read (escape c ++ rest) = items? fuel (itemOf c :: read) rest := by
  unfold escape
  split_ifs with hquote hslash hb hf hn hr ht hcontrol
  · obtain rfl : c = '"' := by simpa using hquote
    simp [items?, escape?, itemOf]
  · obtain rfl : c = '\\' := by simpa using hslash
    simp [items?, escape?, itemOf]
  · obtain rfl : c = '\x08' := by simpa using hb
    simp [items?, escape?, itemOf]
  · obtain rfl : c = '\x0c' := by simpa using hf
    simp [items?, escape?, itemOf]
  · obtain rfl : c = '\n' := by simpa using hn
    simp [items?, escape?, itemOf]
  · obtain rfl : c = '\r' := by simpa using hr
    simp [items?, escape?, itemOf]
  · obtain rfl : c = '\t' := by simpa using ht
    simp [items?, escape?, itemOf]
  · have hhigh : hexDigit? (Nat.digitChar (c.toNat / 16)) = some (c.toNat / 16) :=
      hexDigit?_digitChar (by omega)
    have hlow : hexDigit? (Nat.digitChar (c.toNat % 16)) = some (c.toNat % 16) :=
      hexDigit?_digitChar (by omega)
    have hzero : hexDigit? '0' = some 0 := by decide
    have hitem : itemOf c = .unit c.toNat := by simp_all [itemOf]
    have hread : hex4? ('0' :: '0' :: (hexChars c.toNat ++ rest)) = some (c.toNat, rest) := by
      have hvalue : c.toNat / 16 * 16 + c.toNat % 16 = c.toNat := by omega
      simp [hex4?, hexChars, hzero, hhigh, hlow, hvalue]
    rw [hitem]
    simp [items?, hread]
  · have hitem : itemOf c = .char c := by simp [itemOf, hcontrol]
    simp only [hitem, List.singleton_append, items?, hquote, hslash, hcontrol, if_false,
      Bool.false_eq_true]

/-- A quoted text is read to its closing quote. -/
theorem items?_flatMap_escape (cs : List Char) (fuel : Nat) (read : List Item) (rest : Rest)
    (hfuel : cs.length < fuel) :
    items? fuel read (cs.flatMap escape ++ '"' :: rest) =
      some (read.reverse ++ cs.map itemOf, rest) := by
  induction cs generalizing fuel read with
  | nil =>
    obtain ⟨fuel, rfl⟩ := Nat.exists_eq_add_one.2 hfuel
    simp [items?]
  | cons c cs ih =>
    obtain ⟨fuel, rfl⟩ := Nat.exists_eq_add_one.2 (Nat.zero_lt_of_lt hfuel)
    rw [List.flatMap_cons, List.append_assoc, items?_escape, ih fuel _ (by simpa using hfuel)]
    simp

theorem text?_unit {n : Nat} (h : n < 0x20) (items : List Item) :
    text? (.unit n :: items) = (text? items).map (Char.ofNat n :: ·) := by
  have hleading : isLeading n = false := by simp only [isLeading]; simp; omega
  have htrailing : isTrailing n = false := by simp only [isTrailing]; simp; omega
  cases items with
  | nil => simp [text?, hleading, htrailing]
  | cons item items => cases item <;> simp [text?, hleading, htrailing]

/-- The items of a text give the text. -/
theorem text?_map_itemOf (cs : List Char) : text? (cs.map itemOf) = some cs := by
  induction cs with
  | nil => rfl
  | cons c cs ih =>
    rw [List.map_cons]
    by_cases hcontrol : c.toNat < 0x20 ∧ c ∉ ['\x08', '\x0c', '\n', '\r', '\t']
    · rw [itemOf, if_pos hcontrol, text?_unit hcontrol.1, ih]
      simp
    · rw [itemOf, if_neg hcontrol, text?, ih]
      rfl

/-- A quoted string, read after its first quote. -/
theorem string?_quote (s : String) (fuel : Nat) (rest : Rest)
    (hfuel : s.toList.length < fuel) :
    string? fuel (s.toList.flatMap escape ++ '"' :: rest) = some (some s, rest) := by
  simp [string?, items?_flatMap_escape _ _ _ _ hfuel, text?_map_itemOf]

end Strings

section Numerals

/-- Whether a text goes on with nothing that could belong to a number before it. -/
def Stops (rest : Rest) : Prop :=
  ∀ c, rest.head? = some c → digit? c = none ∧ c ≠ '.' ∧ c ≠ 'e' ∧ c ≠ 'E'

def NoDigit (rest : Rest) : Prop := ∀ c, rest.head? = some c → digit? c = none

theorem digit?_digitChar (d : Fin 10) : digit? (Nat.digitChar d.val) = some d := by
  revert d
  decide

theorem digitChar_ne {c : Char} (hc : digit? c = none) (d : Fin 10) : Nat.digitChar d.val ≠ c := by
  rintro rfl
  rw [digit?_digitChar] at hc
  cases hc

/-- Digits are read up to what is none. -/
theorem digits_chars (ds : Digits) {rest : Rest} (h : NoDigit rest) :
    digits (ds.chars ++ rest) = (ds, rest) := by
  induction ds with
  | nil =>
    cases rest with
    | nil => rfl
    | cons c rest => simp [Digits.chars, digits, h c rfl]
  | cons d ds ih =>
    have hchars : Digits.chars (d :: ds) ++ rest = Nat.digitChar d.val :: (Digits.chars ds ++ rest) :=
      rfl
    rw [hchars, digits, digit?_digitChar, ih]

theorem digits?_chars {ds : Digits} (hds : ds ≠ []) {rest : Rest} (h : NoDigit rest) :
    digits? (ds.chars ++ rest) = some (ds, rest) := by
  unfold digits?
  rw [digits_chars ds h]
  cases ds with
  | nil => exact absurd rfl hds
  | cons d ds => rfl

variable {n : Numeral} (h : n.WellFormed) {rest : Rest}
include h

theorem whole?_chars (hrest : NoDigit rest) :
    whole? (n.whole.chars ++ rest) = some (n.whole, rest) := by
  unfold whole?
  rw [digits?_chars h.whole hrest]
  simp only [Option.bind_eq_bind, Option.bind_some]
  split
  · rename_i hzero
    simp only [Bool.and_eq_true, decide_eq_true_eq, beq_iff_eq] at hzero
    exact absurd hzero.2 (h.noZero hzero.1)
  · rfl

/-- A fraction is read back, and so is that there is none. -/
theorem fraction?_chars (hrest : NoDigit rest) (hpoint : rest.head? ≠ some '.') :
    fraction? (n.fractionChars ++ rest) = some (n.fraction, rest) := by
  unfold Numeral.fractionChars
  cases hfraction : n.fraction with
  | none =>
    cases rest with
    | nil => rfl
    | cons c rest =>
      simp only [List.nil_append]
      unfold fraction?
      split <;> simp_all
  | some ds =>
    have hds : ds ≠ [] := fun hnil => h.fraction (hnil ▸ hfraction)
    simp [fraction?, digits?_chars hds hrest]

/-- An exponent is read back, and so is that there is none. -/
theorem exponent?_chars (hrest : Stops rest) :
    exponent? (n.exponentChars ++ rest) = some (n.exponent, rest) := by
  unfold Numeral.exponentChars
  cases hexponent : n.exponent with
  | none =>
    cases rest with
    | nil => rfl
    | cons c rest =>
      obtain ⟨-, -, he, hE⟩ := hrest c rfl
      simp only [List.nil_append]
      unfold exponent?
      split <;> simp_all
  | some e =>
    obtain ⟨down, ds⟩ := e
    have hds : ds ≠ [] := h.exponent _ hexponent
    have hread : digits? (ds.chars ++ rest) = some (ds, rest) :=
      digits?_chars hds fun c hc => (hrest c hc).1
    have hpower : power? ((if down then ['-'] else []) ++ ds.chars ++ rest) =
        some ((down, ds), rest) := by
      cases down with
      | true => simp [power?, hread]
      | false =>
        cases ds with
        | nil => exact absurd rfl hds
        | cons d ds =>
          have hplus := digitChar_ne (c := '+') (by decide) d
          have hminus := digitChar_ne (c := '-') (by decide) d
          unfold power?
          split <;> simp_all [Digits.chars]
    simp only [List.cons_append, exponent?, hpower, Option.map_some]

omit h in
theorem head?_exponentChars (hrest : Stops rest) :
    NoDigit (n.exponentChars ++ rest) ∧ (n.exponentChars ++ rest).head? ≠ some '.' := by
  unfold Numeral.exponentChars
  cases n.exponent with
  | none =>
    refine ⟨fun c hc => (hrest c hc).1, fun hpoint => ?_⟩
    exact (hrest _ hpoint).2.1 rfl
  | some e => exact ⟨fun c hc => by simp at hc; subst hc; decide, by simp⟩

omit h in
theorem head?_fractionChars (hrest : NoDigit rest) : NoDigit (n.fractionChars ++ rest) := by
  unfold Numeral.fractionChars
  cases n.fraction with
  | none => exact hrest
  | some ds => exact fun c hc => by simp at hc; subst hc; decide

/-- A numeral with nothing behind it that could belong to it. -/
theorem numeral?_chars (hrest : Stops rest) : numeral? (n.chars ++ rest) = some (n, rest) := by
  obtain ⟨hdigit, hpoint⟩ := head?_exponentChars (n := n) hrest
  have hsign (cs : Rest) :
      numeral? ((if n.negative then ['-'] else []) ++ (n.whole.chars ++ cs)) =
        (whole? (n.whole.chars ++ cs)).bind fun whole => (fraction? whole.2).bind fun fraction =>
          (exponent? fraction.2).bind fun exponent =>
            some (⟨n.negative, whole.1, fraction.1, exponent.1⟩, exponent.2) := by
    cases hnegative : n.negative with
    | true => rfl
    | false =>
      cases hwhole : n.whole with
      | nil => exact absurd hwhole h.whole
      | cons d ds =>
        have hminus := digitChar_ne (c := '-') (by decide) d
        simp only [Bool.false_eq_true, if_false, List.nil_append]
        unfold numeral?
        simp [Digits.chars, hminus]
  rw [n.chars_eq, List.append_assoc, List.append_assoc, List.append_assoc, hsign,
    whole?_chars h (head?_fractionChars hdigit)]
  simp only [Option.bind_some]
  rw [fraction?_chars h hdigit hpoint]
  simp only [Option.bind_some]
  rewrite [exponent?_chars h hrest]
  rfl

end Numerals

section Blanks

variable {blanks cs : Rest} (h : ∀ c ∈ blanks, isBlank c = true)
include h

/-- Blanks before a text are skipped. -/
theorem skip_append : skip (blanks ++ cs) = skip cs := List.dropWhile_append_of_pos h

/-- Blanks before a value make no difference to it. -/
theorem value?_append (fuel : Nat) : value? fuel (blanks ++ cs) = value? fuel cs := by
  cases fuel with
  | zero => simp only [value?]
  | succ fuel => simp only [value?, skip_append h]

theorem elements?_append (fuel : Nat) (read : List Json) :
    elements? fuel read (blanks ++ cs) = elements? fuel read cs := by
  cases fuel with
  | zero => simp only [elements?]
  | succ fuel => simp only [elements?, value?_append h]

theorem members?_append (fuel : Nat) (read : List (Option String × Json)) :
    members? fuel read (blanks ++ cs) = members? fuel read cs := by
  cases fuel with
  | zero => simp only [members?]
  | succ fuel => simp only [members?, skip_append h]

omit h

theorem takeWhile_skip (cs : Rest) : cs.takeWhile isBlank ++ skip cs = cs :=
  List.takeWhile_append_dropWhile

theorem elements?_skip (fuel : Nat) (read : List Json) (cs : Rest) :
    elements? fuel read (skip cs) = elements? fuel read cs := by
  have happend : elements? fuel read (cs.takeWhile isBlank ++ skip cs) = _ :=
    elements?_append (List.all_eq_true.1 List.all_takeWhile) fuel read
  rw [takeWhile_skip] at happend
  exact happend.symm

theorem members?_skip (fuel : Nat) (read : List (Option String × Json)) (cs : Rest) :
    members? fuel read (skip cs) = members? fuel read cs := by
  have happend : members? fuel read (cs.takeWhile isBlank ++ skip cs) = _ :=
    members?_append (List.all_eq_true.1 List.all_takeWhile) fuel read
  rw [takeWhile_skip] at happend
  exact happend.symm

end Blanks

section Values

/-- Whether a value is read back from its text inside any number of levels. -/
def ReadsBack (j : Json) : Prop :=
  ∀ level fuel rest, (j.pretty level).toList.length < fuel → Stops rest →
    value? fuel ((j.pretty level).toList ++ rest) = some (j, rest)

theorem skip_cons {c : Char} (h : isBlank c = false) (cs : Rest) : skip (c :: cs) = c :: cs := by
  simp [skip, h]

/-- An indent is blank. -/
theorem blank_indent (level : Nat) : ∀ c ∈ (indent level).toList, isBlank c = true := by
  intro c hc
  simp only [indent, String.toList_ofList, List.mem_cons, List.mem_replicate] at hc
  rcases hc with rfl | ⟨-, rfl⟩ <;> decide

/-- Nothing of an indent could belong to a number before it. -/
theorem stops_indent (level : Nat) (rest : Rest) : Stops ((indent level).toList ++ rest) := by
  intro c hc
  simp only [indent, String.toList_ofList, List.cons_append, List.head?_cons, Option.some.injEq] at hc
  subst hc
  decide

theorem stops_comma (rest : Rest) : Stops (',' :: rest) := by
  rintro c ⟨⟩
  decide

theorem length_indent (level : Nat) : 0 < (indent level).toList.length := by simp [indent]

/-- The items of an array, read to the closing bracket. -/
theorem elements?_prettyItems {items : List Json} (hitems : ∀ j ∈ items, ReadsBack j)
    (hne : items ≠ []) (level inner fuel : Nat) (read : List Json) (rest : Rest)
    (hfuel : (pretty.prettyItems inner items).toList.length < fuel) :
    elements? fuel read
      ((pretty.prettyItems inner items).toList ++ ((indent level).toList ++ ']' :: rest)) =
      some (.array (read.reverse ++ items), rest) := by
  induction items generalizing fuel read with
  | nil => exact absurd rfl hne
  | cons j js ih =>
    obtain ⟨fuel, rfl⟩ := Nat.exists_eq_add_one.2 (Nat.zero_lt_of_lt hfuel)
    have hindent := length_indent inner
    cases js with
    | nil =>
      have htext : (pretty.prettyItems inner [j]).toList =
          (indent inner).toList ++ (j.pretty inner).toList := by
        simp [pretty.prettyItems]
      rw [htext, List.length_append] at hfuel
      have hj := hitems j List.mem_cons_self inner fuel ((indent level).toList ++ ']' :: rest)
        (by omega) (stops_indent _ _)
      rw [htext, List.append_assoc, elements?_append (blank_indent inner), elements?, hj]
      simp only [skip_append (blank_indent level), skip_cons (c := ']') (by decide), List.reverse_cons]
    | cons j' js =>
      have htext : (pretty.prettyItems inner (j :: j' :: js)).toList =
          (indent inner).toList ++ ((j.pretty inner).toList ++
            ',' :: (pretty.prettyItems inner (j' :: js)).toList) := by
        simp [pretty.prettyItems]
      rw [htext] at hfuel
      simp only [List.length_append, List.length_cons] at hfuel
      have hj := hitems j List.mem_cons_self inner fuel
        (',' :: ((pretty.prettyItems inner (j' :: js)).toList ++
          ((indent level).toList ++ ']' :: rest))) (by omega) (stops_comma _)
      have hjs := ih (fun x hx => hitems x (List.mem_cons_of_mem _ hx)) (by simp) fuel (j :: read)
        (by omega)
      rw [htext, List.append_assoc, List.append_assoc, List.cons_append,
        elements?_append (blank_indent inner), elements?, hj]
      simp only [skip_cons (c := ',') (by decide), hjs, List.reverse_cons, List.append_assoc,
        List.singleton_append]

/-- One field of an object, read up to what stands behind its value. -/
theorem members?_field {k : String} {j : Json} (hj : ReadsBack j) (inner fuel : Nat)
    (read : List (Option String × Json)) {tail : Rest} (hstops : Stops tail)
    (hfuel : k.toList.length < fuel ∧ (j.pretty inner).toList.length < fuel) :
    members? (fuel + 1) read
      ((indent inner).toList ++ ((quote k).toList ++ ':' :: ' ' :: ((j.pretty inner).toList ++ tail))) =
      match skip tail with
      | ',' :: cs => members? fuel ((some k, j) :: read) cs
      | '\x7d' :: cs => some (.object ((some k, j) :: read).reverse, cs)
      | _ => none := by
  have hblank : value? fuel ([' '] ++ ((j.pretty inner).toList ++ tail)) = _ :=
    value?_append (List.forall_mem_singleton.2 (by decide)) fuel
  have hvalue : value? fuel (' ' :: ((j.pretty inner).toList ++ tail)) = some (j, tail) :=
    hblank.trans (hj inner fuel tail hfuel.2 hstops)
  have hstring := string?_quote k fuel (':' :: ' ' :: ((j.pretty inner).toList ++ tail)) hfuel.1
  rw [members?_append (blank_indent inner), toList_quote]
  simp only [List.cons_append, List.append_assoc, List.nil_append, members?,
    skip_cons (c := '"') (by decide), hstring, skip_cons (c := ':') (by decide)]
  rewrite [hvalue]
  rfl

/-- The fields of an object, read to the closing brace. -/
theorem members?_prettyFields {fields : List (Option String × Json)}
    (hkeys : ∀ f ∈ fields, f.1.isSome) (hfields : ∀ f ∈ fields, ReadsBack f.2)
    (hne : fields ≠ []) (level inner fuel : Nat) (read : List (Option String × Json)) (rest : Rest)
    (hfuel : (pretty.prettyFields inner fields).toList.length < fuel) :
    members? fuel read
      ((pretty.prettyFields inner fields).toList ++ ((indent level).toList ++ '\x7d' :: rest)) =
      some (.object (read.reverse ++ fields), rest) := by
  induction fields generalizing fuel read with
  | nil => exact absurd rfl hne
  | cons f fs ih =>
    obtain ⟨fuel, rfl⟩ := Nat.exists_eq_add_one.2 (Nat.zero_lt_of_lt hfuel)
    obtain ⟨k, j⟩ := f
    obtain ⟨k, rfl⟩ := Option.isSome_iff_exists.1 (hkeys (k, j) List.mem_cons_self)
    have hj : ReadsBack j := hfields _ List.mem_cons_self
    have hquote : k.toList.length + 2 ≤ (quote k).toList.length := by
      have := length_le_flatMap_escape k.toList
      simp only [toList_quote, List.length_append, List.length_cons, List.length_nil]
      omega
    cases fs with
    | nil =>
      have htext : (pretty.prettyFields inner [(some k, j)]).toList =
          (indent inner).toList ++ ((quote k).toList ++ ':' :: ' ' :: (j.pretty inner).toList) := by
        simp [pretty.prettyFields]
      rw [htext] at hfuel
      simp only [List.length_append, List.length_cons] at hfuel
      have hfield := members?_field hj inner fuel read
        (stops_indent level ('\x7d' :: rest)) (k := k) (by omega)
      rw [skip_append (blank_indent level), skip_cons (c := '\x7d') (by decide)] at hfield
      simpa [htext] using hfield
    | cons f' fs =>
      have htext : (pretty.prettyFields inner ((some k, j) :: f' :: fs)).toList =
          (indent inner).toList ++ ((quote k).toList ++ ':' :: ' ' :: ((j.pretty inner).toList ++
            ',' :: (pretty.prettyFields inner (f' :: fs)).toList)) := by
        simp [pretty.prettyFields]
      rw [htext] at hfuel
      simp only [List.length_append, List.length_cons] at hfuel
      have hfield := members?_field hj inner fuel read
        (stops_comma ((pretty.prettyFields inner (f' :: fs)).toList ++
          ((indent level).toList ++ '\x7d' :: rest))) (k := k) (by omega)
      have hfs := ih (fun x hx => hkeys x (List.mem_cons_of_mem _ hx))
        (fun x hx => hfields x (List.mem_cons_of_mem _ hx)) (by simp) fuel ((some k, j) :: read)
        (by omega)
      rw [skip_cons (c := ',') (by decide)] at hfield
      simp only [hfs] at hfield
      simpa [htext] using hfield

/-- A numeral starts like no other value. -/
theorem numeral_starts {n : Numeral} (h : n.WellFormed) :
    ∃ c cs, n.chars = c :: cs ∧ isBlank c = false ∧
      c ∉ ['"', '[', ']', '\x7b', 't', 'f', 'n'] := by
  cases hnegative : n.negative with
  | true => exact ⟨'-', _, by simp [n.chars_eq, hnegative]; rfl, by decide, by decide⟩
  | false =>
    cases hwhole : n.whole with
    | nil => exact absurd hwhole h.whole
    | cons d ds =>
      have hdigit : ∀ d : Fin 10, isBlank (Nat.digitChar d.val) = false ∧
          Nat.digitChar d.val ∉ ['"', '[', ']', '\x7b', 't', 'f', 'n'] := by decide
      exact ⟨Nat.digitChar d.val, _, by simp [n.chars_eq, hnegative, hwhole, Digits.chars]; rfl,
        hdigit d⟩

/-- The text of a value starts with no blank and no closing bracket. -/
theorem pretty_starts {j : Json} (h : j.Writable) (level : Nat) :
    ∃ c cs, (j.pretty level).toList = c :: cs ∧ isBlank c = false ∧ c ≠ ']' := by
  cases h with
  | null => exact ⟨'n', ['u', 'l', 'l'], by simp [pretty, scalar], by decide, by decide⟩
  | bool b =>
    cases b with
    | true => exact ⟨'t', ['r', 'u', 'e'], by simp [pretty, scalar], by decide, by decide⟩
    | false => exact ⟨'f', ['a', 'l', 's', 'e'], by simp [pretty, scalar], by decide, by decide⟩
  | number hn =>
    obtain ⟨c, cs, hchars, hblank, hc⟩ := numeral_starts hn
    exact ⟨c, cs, by simp [pretty, scalar, hchars], hblank, by simp_all⟩
  | string s => exact ⟨'"', _, by simp only [pretty, scalar, toList_quote]; rfl, by decide, by decide⟩
  | @array items _ =>
    cases items <;> exact ⟨'[', _, by simp [pretty]; rfl, by decide, by decide⟩
  | @object fields _ _ =>
    cases fields <;> exact ⟨'\x7b', _, by simp [pretty]; rfl, by decide, by decide⟩

/-- The items of an array do not start with its closing bracket. -/
theorem prettyItems_starts {j : Json} (h : j.Writable) (js : List Json) (inner : Nat) (tail : Rest) :
    ∃ c cs, skip ((pretty.prettyItems inner (j :: js)).toList ++ tail) = c :: cs ∧ c ≠ ']' := by
  obtain ⟨c, cs, hj, hblank, hc⟩ := pretty_starts h inner
  have htext : ∃ more, (pretty.prettyItems inner (j :: js)).toList =
      (indent inner).toList ++ c :: (cs ++ more) := by
    cases js with
    | nil => exact ⟨[], by simp [pretty.prettyItems, hj]⟩
    | cons j' js => exact ⟨_, by simp [pretty.prettyItems, hj]; rfl⟩
  obtain ⟨more, htext⟩ := htext
  exact ⟨c, _, by rw [htext, List.append_assoc, skip_append (blank_indent inner), List.cons_append,
    skip_cons hblank], hc⟩

/-- The fields of an object start with a quoted name. -/
theorem prettyFields_starts (f : Option String × Json) (fs : List (Option String × Json))
    (inner : Nat) (tail : Rest) :
    ∃ cs, skip ((pretty.prettyFields inner (f :: fs)).toList ++ tail) = '"' :: cs := by
  have htext : ∃ more, (pretty.prettyFields inner (f :: fs)).toList =
      (indent inner).toList ++ '"' :: more := by
    cases fs <;> exact ⟨_, by simp [pretty.prettyFields, toList_quote]; rfl⟩
  obtain ⟨more, htext⟩ := htext
  exact ⟨_, by rw [htext, List.append_assoc, skip_append (blank_indent inner), List.cons_append,
    skip_cons (c := '"') (by decide)]⟩

/-- An array is read back if its items are. -/
theorem readsBack_array {items : List Json} (hwritable : ∀ j ∈ items, j.Writable)
    (hitems : ∀ j ∈ items, ReadsBack j) : ReadsBack (.array items) := by
  intro level fuel rest hfuel hrest
  obtain ⟨fuel, rfl⟩ := Nat.exists_eq_add_one.2 (Nat.zero_lt_of_lt hfuel)
  cases items with
  | nil => simp [pretty, value?, skip_cons (c := '[') (by decide), skip_cons (c := ']') (by decide)]
  | cons j js =>
    have htext : (Json.pretty level (.array (j :: js))).toList =
        '[' :: ((pretty.prettyItems (level + 1) (j :: js)).toList ++
          ((indent level).toList ++ [']'])) := by
      simp [pretty]
    rw [htext] at hfuel ⊢
    simp only [List.length_cons, List.length_append] at hfuel
    have helements := elements?_prettyItems hitems (by simp) level (level + 1) fuel [] rest (by omega)
    obtain ⟨c, cs, hskip, hc⟩ := prettyItems_starts (hwritable j List.mem_cons_self) js (level + 1)
      ((indent level).toList ++ ']' :: rest)
    rw [← elements?_skip, hskip] at helements
    simp only [List.cons_append, List.append_assoc, List.nil_append, value?,
      skip_cons (c := '[') (by decide), hskip]
    split <;> simp_all

/-- An object is read back if the values of its fields are. -/
theorem readsBack_object {fields : List (Option String × Json)} (hkeys : ∀ f ∈ fields, f.1.isSome)
    (hfields : ∀ f ∈ fields, ReadsBack f.2) : ReadsBack (.object fields) := by
  intro level fuel rest hfuel hrest
  obtain ⟨fuel, rfl⟩ := Nat.exists_eq_add_one.2 (Nat.zero_lt_of_lt hfuel)
  cases fields with
  | nil =>
    simp [pretty, value?, skip_cons (c := '\x7b') (by decide), skip_cons (c := '\x7d') (by decide)]
  | cons f fs =>
    have htext : (Json.pretty level (.object (f :: fs))).toList =
        '\x7b' :: ((pretty.prettyFields (level + 1) (f :: fs)).toList ++
          ((indent level).toList ++ ['\x7d'])) := by
      simp [pretty]
    rw [htext] at hfuel ⊢
    simp only [List.length_cons, List.length_append] at hfuel
    have hmembers := members?_prettyFields hkeys hfields (by simp) level (level + 1) fuel [] rest
      (by omega)
    obtain ⟨cs, hskip⟩ := prettyFields_starts f fs (level + 1) ((indent level).toList ++ '\x7d' :: rest)
    rw [← members?_skip, hskip] at hmembers
    simp only [List.cons_append, List.append_assoc, List.nil_append, value?,
      skip_cons (c := '\x7b') (by decide), hskip]
    split <;> simp_all

/-- Every value is read back that its text says all of. -/
theorem readsBack {j : Json} (h : j.Writable) : ReadsBack j := by
  induction h with
  | null =>
    intro level fuel rest hfuel hrest
    obtain ⟨fuel, rfl⟩ := Nat.exists_eq_add_one.2 (Nat.zero_lt_of_lt hfuel)
    simp [pretty, scalar, value?, skip_cons (c := 'n') (by decide), word?, List.isPrefixOf]
  | bool b =>
    intro level fuel rest hfuel hrest
    obtain ⟨fuel, rfl⟩ := Nat.exists_eq_add_one.2 (Nat.zero_lt_of_lt hfuel)
    cases b with
    | true => simp [pretty, scalar, value?, skip_cons (c := 't') (by decide), word?, List.isPrefixOf]
    | false => simp [pretty, scalar, value?, skip_cons (c := 'f') (by decide), word?, List.isPrefixOf]
  | @number n hn =>
    intro level fuel rest hfuel hrest
    obtain ⟨fuel, rfl⟩ := Nat.exists_eq_add_one.2 (Nat.zero_lt_of_lt hfuel)
    obtain ⟨c, cs, hchars, hblank, hc⟩ := numeral_starts hn
    have hread := numeral?_chars hn hrest
    rw [hchars] at hread
    simp only [pretty, scalar, String.toList_ofList, hchars, List.cons_append] at hread ⊢
    rw [value?, skip_cons hblank]
    split <;> simp_all
  | string s =>
    intro level fuel rest hfuel hrest
    obtain ⟨fuel, rfl⟩ := Nat.exists_eq_add_one.2 (Nat.zero_lt_of_lt hfuel)
    have hlength := length_le_flatMap_escape s.toList
    simp only [pretty, scalar, Option.getD_some, toList_quote, List.length_append,
      List.length_cons, List.length_nil] at hfuel ⊢
    have hread := string?_quote s fuel rest (by omega)
    simp [value?, skip_cons (c := '"') (by decide), hread]
  | array hitems ih => exact readsBack_array hitems ih
  | object hkeys hfields ih => exact readsBack_object hkeys ih

end Values

/-- A value that its text says all of is read back from its text. -/
theorem ofText?_pretty {j : Json} (h : j.Writable) : Json.ofText? (j.pretty 0) = some j := by
  have hread := readsBack h 0 ((j.pretty 0).toList.length + 1) [] (Nat.lt_succ_self _)
    (fun c hc => by cases hc)
  rw [List.append_nil] at hread
  simp only [Json.ofText?, hread]
  rfl

end Json.Reader

end Multiplexer
