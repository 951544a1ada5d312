import Mathlib.Data.List.DropRight
import Mathlib.Data.List.TakeDrop
import Multiplexer.Session.History

/-!
# How much a history keeps

A log has room for a number of entries, and an entry for a number of characters of an
error. The oldest entry goes when there are exactly as many as there is room for, which
is enough since there are never more. A text is cut at a byte. A character takes from
one to four bytes and cannot be cut in two, but the byte at which a text is cut is always
one at which a character begins.
-/

namespace Multiplexer

def placed (offset : Nat) : List Char → List (Nat × Char)
  | [] => []
  | c :: cs => (offset, c) :: placed (offset + c.utf8Size) cs

/-- The text before a byte. There is none if the byte is inside a character or behind the end. -/
def before? (s : String) (offset : Nat) : Option String :=
  if h : (String.Pos.Raw.mk offset).IsValid s then some (s.sliceTo ⟨⟨offset⟩, h⟩).copy else none

/-- The text before the character with a number, and all of it if there is no such character. -/
def cut? (s : String) (limit : Nat) : Option String :=
  match (placed 0 s.toList)[limit]? with
  | some (offset, _) => before? s offset
  | none => some s

/-- A character begins behind the bytes of all characters before it. -/
theorem getElem?_placed (offset n : Nat) (cs : List Char) : (placed offset cs)[n]? =
    cs[n]?.map fun c => (offset + (String.ofList (cs.take n)).utf8ByteSize, c) := by
  induction cs generalizing offset n with
  | nil => rfl
  | cons c cs ih =>
    cases n with
    | zero => simp [placed]
    | succ n => simp [placed, ih, Nat.add_assoc]

theorem isValid_append (s t : String) : (String.Pos.Raw.mk s.utf8ByteSize).IsValid (s ++ t) :=
  String.Pos.Raw.isValid_iff_exists_append.2 ⟨s, t, rfl, rfl⟩

/-- A text can be parted where its first part ends. -/
theorem before?_append (s t : String) : before? (s ++ t) s.utf8ByteSize = some s := by
  rw [before?, dif_pos (isValid_append s t), Option.some_inj,
    String.copy_sliceTo_eq_iff_exists_splits]
  exact ⟨t, rfl, rfl⟩

/-- What is kept of a text and what is left out make up the text. -/
theorem truncate_append_drop (s : String) (limit : Nat) :
    truncate s limit ++ String.ofList (s.toList.drop limit) = s := by
  rw [truncate, ← String.ofList_append, List.take_append_drop, String.ofList_toList]

/-- A text stays whole exactly when it has no more characters than allowed. -/
theorem truncate_eq_self_iff (s : String) (limit : Nat) :
    truncate s limit = s ↔ s.length ≤ limit := by
  rw [truncate, ← String.toList_inj, String.toList_ofList, List.take_eq_self_iff,
    String.length_toList]

/-- To cut a text at a byte never fails and gives its first characters. -/
theorem cut?_eq (s : String) (limit : Nat) : cut? s limit = some (truncate s limit) := by
  rw [cut?, getElem?_placed]
  cases h : s.toList[limit]? with
  | none =>
    have hall : s.length ≤ limit := by
      rwa [List.getElem?_eq_none_iff, String.length_toList] at h
    rw [(truncate_eq_self_iff s limit).2 hall]
    rfl
  | some c =>
    have hbefore := before?_append (truncate s limit) (String.ofList (s.toList.drop limit))
    rw [truncate_append_drop] at hbefore
    simpa [truncate] using hbefore

structure Cut (s : String) (limit : Nat) (t : String) : Prop where
  /-- The first characters, as many as are allowed or as there are. -/
  characters : t.toList = s.toList.take (min limit s.length)
  length : t.length = min limit s.length
  rest : ∃ rest, s = t ++ rest
  /-- It ends where a character of the text begins, or where the text ends. -/
  boundary : (String.Pos.Raw.mk t.utf8ByteSize).IsValid s
  again : cut? t limit = some t
  whole : t = s ↔ s.length ≤ limit

theorem cut_truncate (s : String) (limit : Nat) : Cut s limit (truncate s limit) where
  characters := by
    rw [truncate, String.toList_ofList, List.take_eq_take_iff, String.length_toList]
    omega
  length := by rw [truncate, String.length_ofList, List.length_take, String.length_toList]
  rest := ⟨_, (truncate_append_drop s limit).symm⟩
  boundary := by
    have hvalid := isValid_append (truncate s limit) (String.ofList (s.toList.drop limit))
    rwa [truncate_append_drop] at hvalid
  again := by rw [cut?_eq, truncate_truncate]
  whole := truncate_eq_self_iff s limit

/-- Each of these characters takes three bytes, and there is no cut behind the fourth. -/
example : cut? "日本語" 2 = some "日本" ∧ before? "日本語" 4 = none := by
  decide +kernel

namespace History

def recordAll (h : History) (es : List HistoryEntry) : History := es.foldl record h

structure Keeps (n : Nat) (es : List HistoryEntry) (h : History) : Prop where
  capacity : h.capacity = n
  entries : h.entries = es.rtake n

variable {n : Nat} {es : List HistoryEntry} {h : History}

/-- A log is full when it has been given as many entries as it has room for. -/
theorem Keeps.full_iff (hkeeps : Keeps n es h) : h.entries.length = h.capacity ↔ n ≤ es.length := by
  rw [hkeeps.capacity, hkeeps.entries, List.rtake, List.length_drop]
  omega

/-- One more entry takes the place of the oldest if there is no room. -/
theorem Keeps.record (hkeeps : Keeps (n + 1) es h) (e : HistoryEntry) :
    Keeps (n + 1) (es ++ [e]) (h.record e) where
  capacity := hkeeps.capacity
  entries := by
    rw [List.rtake_concat_succ]
    by_cases hfull : n + 1 ≤ es.length
    · -- the one that goes is the first of those kept
      have holdest : (es.rtake (n + 1)).drop 1 = es.rtake n := by
        rw [List.rtake, List.rtake, List.drop_drop, show es.length - (n + 1) + 1 = es.length - n by
          omega]
      simp only [History.record, if_pos (hkeeps.full_iff.2 hfull)]
      rw [hkeeps.entries, holdest]
    · -- with room left both are all of `es`
      have hall : es.rtake (n + 1) = es.rtake n := by
        rw [List.rtake, List.rtake, show es.length - (n + 1) = es.length - n by omega]
      simp only [History.record, if_neg (mt hkeeps.full_iff.1 hfull)]
      rw [hkeeps.entries, hall]

theorem Keeps.recordAll (hkeeps : Keeps (n + 1) es h) (later : List HistoryEntry) :
    Keeps (n + 1) (es ++ later) (h.recordAll later) := by
  induction later generalizing es h with
  | nil => simpa [History.recordAll] using hkeeps
  | cons e later ih => simpa [History.recordAll] using ih (hkeeps.record e)

/-- An empty log keeps everything that it was given, which is nothing. -/
theorem keeps_ofCapacity (capacity : Nat) : Keeps (max capacity 1) [] (ofCapacity capacity) where
  capacity := rfl
  entries := by simp [ofCapacity]

/-- A log keeps the latest entries, as many as it has room for, and what it keeps of a host are
the latest entries of that host. To cut a text never fails, since it is never cut inside a
character, and leaves the first characters. -/
theorem bounded_after_records (capacity : Nat) (es : List HistoryEntry) (s : String)
    (limit : Nat) :
    let h := (ofCapacity capacity).recordAll es
    let kept := es.rtake (max capacity 1)
    h.entries = kept ∧
    (∀ hostId, h.forHost hostId = kept.filter fun e => e.hostId = hostId) ∧
    (∀ hostId, h.forHost hostId <:+ es.filter fun e => e.hostId = hostId) ∧
    cut? s limit = some (truncate s limit) ∧ Cut s limit (truncate s limit) := by
  intro h kept
  obtain ⟨room, hroom⟩ : ∃ room, max capacity 1 = room + 1 := ⟨max capacity 1 - 1, by omega⟩
  have hkeeps : Keeps (max capacity 1) es h := by
    have hempty := keeps_ofCapacity capacity
    rw [hroom] at hempty ⊢
    exact hempty.recordAll es
  have hhost (hostId : String) :
      h.forHost hostId = kept.filter fun e => e.hostId = hostId := by
    simp [forHost, hkeeps.entries, kept, beq_eq_decide]
  refine ⟨hkeeps.entries, hhost, fun hostId => ?_, cut?_eq s limit, cut_truncate s limit⟩
  rw [hhost]
  exact (List.drop_suffix _ es).filter _

end History

end Multiplexer
