import Mathlib.Data.List.Induction
import Mathlib.Logic.Function.Basic
import Multiplexer.Proofs.Trust.Saving

/-!
# What a store answers

A store has an answer for each host and algorithm. A file gives the last record that
it holds for the two. A call that is complete puts its record in the place of one
answer or has one answer seen now, so what it leaves is answered until a later call
is about the same record, and nothing comes back that was replaced.
-/

namespace Multiplexer

/-- The record for each host and algorithm, if there is one. -/
abbrev Answers := String × String → Option KeyRecord

def TrustStore.answers (s : TrustStore) : Answers := fun p => s.get? p.1 p.2

def KeyRecord.unseen (r : KeyRecord) : KeyRecord := { r with lastSeen := r.firstSeen }

namespace Answers

/-- The last of the records for each host and algorithm. -/
def last (rs : List KeyRecord) : Answers := fun p => rs.reverse.find? fun r => r.pair = p

/-- The last record takes the place of one before it for the same host and algorithm. -/
theorem last_concat (rs : List KeyRecord) (r : KeyRecord) :
    last (rs ++ [r]) = Function.update (last rs) r.pair (some r) := by
  funext p
  by_cases hpair : p = r.pair
  · subst hpair
    simp [last]
  · have hother : ¬ r.pair = p := fun h => hpair h.symm
    simp [last, hpair, hother]

end Answers

namespace TrustStore

variable {s s' : TrustStore}

/-- A record that is put in changes one answer. -/
theorem answers_upsert (h : s.Keyed) (r : KeyRecord) :
    (s.upsert r).answers = Function.update s.answers r.pair (some r) := by
  funext p
  rw [answers, h.get?_upsert, Function.update_apply]
  exact if_congr eq_comm rfl rfl

/-- A record that is seen changes one answer, by the time. -/
theorem answers_touch? {id : String} {now : Instant} (h : s.Keyed)
    (htouch : s.touch? id now = some s') :
    ∃ r, r.id = id ∧ s.answers r.pair = some r ∧
      s'.answers = Function.update s.answers r.pair (some { r with lastSeen := now }) := by
  obtain ⟨r, hid, hr, hnow⟩ := h.get?_touch? htouch
  refine ⟨r, hid, hr, funext fun p => ?_⟩
  rw [answers, hnow, Function.update_apply]
  exact if_congr eq_comm rfl rfl

/-- A store that is made of records answers with the last one. -/
theorem answers_ofRecords (rs : List KeyRecord) : (ofRecords rs).answers = .last rs := by
  induction rs using List.reverseRecOn with
  | nil => rfl
  | append_singleton rs r ih =>
    have hconcat : ofRecords (rs ++ [r]) = (ofRecords rs).upsert r := by simp [ofRecords]
    rw [hconcat, answers_upsert (keyed_ofRecords rs), ih, Answers.last_concat]

end TrustStore

namespace TrustFile

inductive Holds (path : Path) (disk : Disk) : List KeyRecord → Prop
  | missing (h : disk.readText path = .error .notFound) : Holds path disk []
  | read {text : String} {rs : List KeyRecord} (h : disk.readText path = .ok text)
      (hrecords : records? text = some rs) : Holds path disk rs

/-- A file that was opened gives the last record it holds for each host and algorithm. -/
theorem holds_of_load {path : Path} {disk : Disk} {f : TrustFile} (h : load path disk = .ok f) :
    ∃ rs, Holds path disk rs ∧ f.store.answers = .last rs := by
  unfold load at h
  split at h
  · rename_i hmissing
    cases h
    exact ⟨[], .missing hmissing, rfl⟩
  · cases h
  · rename_i hread
    split at h
    · rename_i rs hrecords
      cases h
      exact ⟨rs, .read hread hrecords, TrustStore.answers_ofRecords rs⟩
    · cases h

end TrustFile

namespace KeyringCall

/-- What a call returns that does not fail for the disk, and what it makes of the answers. -/
inductive Changes : KeyringCall → Except TrustError Unit → Answers → Answers → Prop
  /-- The record is the answer from now on. -/
  | upserted (r : KeyRecord) (h : r.Timed) (a : Answers) :
      Changes (.upsert r h) (.ok ()) a (Function.update a r.pair (some r))
  /-- One answer has the id, and has been seen now. -/
  | touched {id : String} {a : Answers} {r : KeyRecord} (hid : r.id = id) (hr : a r.pair = some r)
      (now : Instant) (h : now.Valid) :
      Changes (.touch id now h) (.ok ()) a
        (Function.update a r.pair (some { r with lastSeen := now }))
  /-- No answer has the id. -/
  | missing {id : String} {a : Answers} (hnone : ∀ p r, a p = some r → r.id ≠ id) (now : Instant)
      (h : now.Valid) : Changes (.touch id now h) (.error (.recordNotFound id)) a a

def record? : KeyringCall → Option KeyRecord
  | .upsert r _ => some r
  | .touch _ _ _ => none

/-- Whether a record can be what a call has left. -/
def Leaves : KeyringCall → KeyRecord → Prop
  | .upsert r _, r' => r' = r
  | .touch id now _, r => r.id = id ∧ r.lastSeen = now

/-- Whether a call may replace a record or see it. -/
def Concerns : KeyringCall → KeyRecord → Prop
  | .upsert r' _, r => r'.pair = r.pair
  | .touch id _ _, r => r.id = id

variable {c : KeyringCall} {result : Except TrustError Unit} {a b : Answers} {r : KeyRecord}

/-- A call on a file does to its answers what it should. -/
theorem changes_carryOut {f : TrustFile} (hkeyed : f.store.Keyed)
    (hresult : ∀ reason, (c.carryOut f).1 ≠ .error (.disk reason)) :
    c.Changes (c.carryOut f).1 f.store.answers (c.carryOut f).2.store.answers := by
  rcases TrustFile.saved_cases hresult with ⟨hchange, hcall⟩ | ⟨s, f', hchange, hcall, hstore, -⟩
  · rw [hcall]
    cases c with
    | upsert => cases hchange
    | touch id now h =>
      have hnone := TrustStore.touch?_eq_none_iff.1 hchange
      exact .missing (fun p r hr => hnone r (TrustStore.of_get? hr).1) now h
  · rw [hcall, hstore]
    cases c with
    | upsert r h =>
      cases hchange
      rw [TrustStore.answers_upsert hkeyed]
      exact .upserted r h _
    | touch id now h =>
      obtain ⟨r, hid, hr, hanswers⟩ := TrustStore.answers_touch? hkeyed hchange
      rw [hanswers]
      exact .touched hid hr now h

/-- What a call leaves that succeeds is an answer. -/
theorem Changes.leaves (h : c.Changes result a b) (hresult : result = .ok ()) :
    ∃ r, c.Leaves r ∧ b r.pair = some r := by
  cases h with
  | upserted r => exact ⟨r, rfl, Function.update_self ..⟩
  | @touched _ _ r hid _ now =>
    exact ⟨{ r with lastSeen := now }, ⟨hid, rfl⟩, Function.update_self ..⟩
  | missing => cases hresult

/-- An answer stays that a call is not about. -/
theorem Changes.keeps (h : c.Changes result a b) (hr : a r.pair = some r)
    (hother : ¬ c.Concerns r) : b r.pair = some r := by
  cases h with
  | upserted r' =>
    have hpair : r.pair ≠ r'.pair := fun hsame => hother hsame.symm
    rwa [Function.update_of_ne hpair]
  | @touched _ _ r' hid hr' =>
    have hpair : r.pair ≠ r'.pair := by
      intro hsame
      rw [hsame, hr', Option.some_inj] at hr
      exact hother (hr ▸ hid)
    rwa [Function.update_of_ne hpair]
  | missing => exact hr

/-- But for when they were last seen, the answers change by the record that a call brings. -/
theorem Changes.unseen {rs : List KeyRecord} (h : c.Changes result a b)
    (ha : ∀ p, (a p).map KeyRecord.unseen = (Answers.last rs p).map KeyRecord.unseen)
    (p : String × String) :
    (b p).map KeyRecord.unseen =
      (Answers.last (rs ++ c.record?.toList) p).map KeyRecord.unseen := by
  cases h with
  | upserted r =>
    rw [record?, Option.toList_some, Answers.last_concat, Function.update_apply,
      Function.update_apply]
    split
    · rfl
    · exact ha p
  | @touched _ _ r _ hr now =>
    rw [record?, Option.toList_none, List.append_nil, ← ha p, Function.update_apply]
    split
    · rename_i hpair
      rw [hpair, hr]
      rfl
    · rfl
  | missing => simpa [record?] using ha p

end KeyringCall

structure Completed where
  number : Nat
  call : KeyringCall
  result : Except TrustError Unit

namespace Answers

/-- What completed calls make of answers, one after the other. -/
inductive Become : Answers → List Completed → Answers → Prop
  | same (a : Answers) : Become a [] a
  | next {a b c : Answers} {x : Completed} {xs : List Completed} (hx : x.call.Changes x.result a b)
      (hxs : Become b xs c) : Become a (x :: xs) c

/-- Answers in which every completed call counts, and nothing that one of them has replaced. -/
structure Keep (rs : List KeyRecord) (xs : List Completed) (a : Answers) : Prop where
  /-- From the records of the file each call has led on in its turn. -/
  become : Become (last rs) xs a
  /-- What a call has left is an answer as long as no later one is about it. -/
  served : ∀ before x after, xs = before ++ x :: after → x.result = .ok () →
    ∃ r, x.call.Leaves r ∧ ((∀ y ∈ after, ¬ y.call.Concerns r) → a r.pair = some r)
  /-- But for when it was last seen, an answer is the last record that was written. -/
  written : ∀ p, (a p).map KeyRecord.unseen =
    (last (rs ++ xs.filterMap fun x => x.call.record?) p).map KeyRecord.unseen

namespace Become

variable {a c : Answers} {x : Completed} {xs ys : List Completed} {r : KeyRecord}

/-- Calls do what the first of them do and then the others. -/
theorem split (h : Become a (xs ++ ys) c) : ∃ b, Become a xs b ∧ Become b ys c := by
  induction xs generalizing a with
  | nil => exact ⟨a, .same a, h⟩
  | cons x xs ih =>
    cases h with
    | next hx hxs =>
      obtain ⟨b, hbefore, hafter⟩ := ih hxs
      exact ⟨b, .next hx hbefore, hafter⟩

/-- An answer stays through calls that are not about it. -/
theorem keeps (h : Become a xs c) (hr : a r.pair = some r)
    (hothers : ∀ x ∈ xs, ¬ x.call.Concerns r) : c r.pair = some r := by
  induction h with
  | same => exact hr
  | next hx _ ih =>
    obtain ⟨hother, hothers⟩ := List.forall_mem_cons.1 hothers
    exact ih (hx.keeps hr hother) hothers

/-- What a call has left is an answer as long as no later one is about it. -/
theorem served {before after : List Completed} (h : Become a (before ++ x :: after) c)
    (hresult : x.result = .ok ()) :
    ∃ r, x.call.Leaves r ∧ ((∀ y ∈ after, ¬ y.call.Concerns r) → c r.pair = some r) := by
  obtain ⟨b, -, hafter⟩ := h.split
  cases hafter with
  | next hx hafter =>
    obtain ⟨r, hleaves, hr⟩ := hx.leaves hresult
    exact ⟨r, hleaves, hafter.keeps hr⟩

/-- But for when it was last seen, an answer is the last record that was written. -/
theorem written {rs : List KeyRecord} (h : Become a xs c)
    (ha : ∀ p, (a p).map KeyRecord.unseen = (last rs p).map KeyRecord.unseen)
    (p : String × String) :
    (c p).map KeyRecord.unseen =
      (last (rs ++ xs.filterMap fun x => x.call.record?) p).map KeyRecord.unseen := by
  induction h generalizing rs with
  | same => simpa using ha p
  | @next a b c x xs hx _ ih =>
    have hrecords : rs ++ (x :: xs).filterMap (fun x => x.call.record?) =
        (rs ++ x.call.record?.toList) ++ xs.filterMap fun x => x.call.record? := by
      cases hrecord : x.call.record? <;> simp [hrecord]
    rw [hrecords]
    exact ih (hx.unseen ha)

theorem keep {rs : List KeyRecord} (h : Become (last rs) xs c) : Keep rs xs c where
  become := h
  served := by
    rintro before x after rfl hresult
    exact h.served hresult
  written := h.written fun _ => rfl

end Become

end Answers

end Multiplexer
